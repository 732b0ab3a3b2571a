import Mathlib.Data.List.Basic
import PackToMod.Proofs.BinaryText
import PackToMod.Proofs.Spelling
import PackToMod.Text.BlankLines
import PackToMod.Text.Literal
import PackToMod.Text.Respell
import PackToMod.Text.Uppercase
import PackToMod.Uuid

/-!
# Nesting of brackets

A text takes the brackets that are open before it to those that are open after it. A text put together from
literals and balanced pieces nests as its literals do, with the pieces left out: `Shaped` says so, and what
the literals do is computed. A text that has no brackets is balanced, and so is every respelling of it that
brings none in.
-/

namespace PackToMod

open Text

def isBracket (c : Char) : Bool :=
  c = '(' || c = ')' || c = '{' || c = '}'

/-- The open brackets after a further character, the innermost first. Each is held as the bracket that
closes it. -/
def nestStep (opened : List Char) (c : Char) : Option (List Char) :=
  if c = '(' then some (')' :: opened)
  else if c = '{' then some ('}' :: opened)
  else if c = ')' ∨ c = '}' then
    match opened with
    | [] => none
    | closing :: opened => if closing = c then some opened else none
  else some opened

/-- The open brackets after a text, if every bracket that it closes is the innermost one. -/
def nest (opened s : List Char) : Option (List Char) :=
  s.foldlM nestStep opened

/-- The text takes the open brackets `σ` to `τ`. -/
def Nests (σ τ : List Char) (s : String) : Prop :=
  nest σ s.toList = some τ

/-- All brackets that are opened in the text are closed in it, in the opposite order. -/
class Balanced (s : String) : Prop where
  nests_nil : Nests [] [] s

instance (s : String) : Decidable (Balanced s) :=
  @decidable_of_iff _ (nest [] s.toList = some []) ⟨.mk, fun h => h.nests_nil⟩ inferInstance

variable {σ τ ρ l m : List Char} {s t : String} {c : Char}

lemma nest_append (σ l m : List Char) : nest σ (l ++ m) = (nest σ l).bind (nest · m) :=
  List.foldlM_append

lemma nest_cons (σ l : List Char) (c : Char) : nest σ (c :: l) = (nestStep σ c).bind (nest · l) :=
  List.foldlM_cons

/-! ## Open brackets further out -/

lemma nestStep_append (h : nestStep σ c = some τ) (ρ : List Char) :
    nestStep (σ ++ ρ) c = some (τ ++ ρ) := by
  unfold nestStep at h ⊢
  split_ifs at h ⊢
  · rw [← Option.some.inj h, List.cons_append]
  · rw [← Option.some.inj h, List.cons_append]
  · cases σ with
    | nil => cases h
    | cons closing σ =>
      rw [List.cons_append]
      dsimp only at h ⊢
      split_ifs at h ⊢
      rw [Option.some.inj h]
  · rw [Option.some.inj h]

lemma nest_frame (h : nest σ l = some τ) (ρ : List Char) : nest (σ ++ ρ) l = some (τ ++ ρ) := by
  induction l generalizing σ with
  | nil =>
    obtain rfl : σ = τ := Option.some.inj h
    rfl
  | cons c l ih =>
    rw [nest_cons] at h ⊢
    obtain ⟨σ', hstep, hrest⟩ := Option.bind_eq_some_iff.mp h
    rw [nestStep_append hstep, Option.bind_some]
    exact ih hrest

lemma Nests.append (hs : Nests σ τ s) (ht : Nests τ ρ t) : Nests σ ρ (s ++ t) := by
  unfold Nests
  rw [String.toList_append, nest_append, hs, Option.bind_some]
  exact ht

lemma Balanced.nests (h : Balanced s) (σ : List Char) : Nests σ σ s :=
  nest_frame h.nests_nil σ

lemma Balanced.append (hs : Balanced s) (ht : Balanced t) : Balanced (s ++ t) :=
  ⟨hs.nests_nil.append ht.nests_nil⟩

lemma balanced_empty : Balanced "" := by
  decide

lemma Balanced.join {texts : List String} (h : ∀ text ∈ texts, Balanced text) : Balanced (String.join texts) := by
  induction texts with
  | nil => exact balanced_empty
  | cons text texts ih =>
    obtain ⟨htext, hrest⟩ := List.forall_mem_cons.mp h
    rw [String.join_cons]
    exact htext.append (ih hrest)

lemma Balanced.sepBy {sep : String} (hsep : Balanced sep) {texts : List String}
    (h : ∀ text ∈ texts, Balanced text) : Balanced (sepBy sep texts) := by
  fun_induction Text.sepBy sep texts with
  | case1 => exact balanced_empty
  | case2 text => exact h text List.mem_cons_self
  | case3 text texts _ ih =>
    obtain ⟨htext, hrest⟩ := List.forall_mem_cons.mp h
    exact (htext.append hsep).append (ih hrest)

/-! ## Texts with balanced pieces -/

/-- The text nests as the characters do, which are those of its literals in order. -/
class Shaped (s : String) (l : outParam (List Char)) : Prop where
  nests_of_nest : ∀ σ τ, nest σ l = some τ → Nests σ τ s

-- A literal is no application of `String.ofList` to the instance index, only to the unifier.
instance : Shaped (no_index (String.ofList l)) l where
  nests_of_nest σ τ hl := by rwa [Nests, String.toList_ofList]

instance [Balanced s] : Shaped s [] where
  nests_of_nest σ τ hl := by
    obtain rfl : σ = τ := Option.some.inj hl
    exact Balanced.nests ‹_› σ

instance [hs : Shaped s l] [ht : Shaped t m] : Shaped (s ++ t) (l ++ m) where
  nests_of_nest σ τ hl := by
    rw [nest_append] at hl
    obtain ⟨ρ, hρ, hτ⟩ := Option.bind_eq_some_iff.mp hl
    exact (hs.nests_of_nest σ ρ hρ).append (ht.nests_of_nest ρ τ hτ)

/-- A text is taken apart into literals and pieces that are known to be balanced, and what the literals do is
computed. -/
lemma Shaped.balanced [h : Shaped s l] (hl : nest [] l = some []) : Balanced s :=
  ⟨h.nests_of_nest [] [] hl⟩

/-- A text that closes brackets and opens others. -/
lemma Shaped.nests [h : Shaped s l] (hl : nest σ l = some τ) (ρ : List Char) : Nests (σ ++ ρ) (τ ++ ρ) s :=
  h.nests_of_nest _ _ (nest_frame hl ρ)

/-! ## Texts without brackets -/

def Bracketless (l : List Char) : Prop :=
  ∀ c ∈ l, isBracket c = false

instance (l : List Char) : Decidable (Bracketless l) :=
  List.decidableBAll (fun c => isBracket c = false) l

lemma Bracketless.notMem {l : List Char} (h : Bracketless l) {c : Char} (hc : isBracket c = true) : c ∉ l := by
  intro hmem
  rw [h c hmem] at hc
  cases hc

lemma nestStep_of_not_isBracket (hc : isBracket c = false) (σ : List Char) : nestStep σ c = some σ := by
  simp only [isBracket, Bool.or_eq_false_iff, decide_eq_false_iff_not] at hc
  simp [nestStep, hc]

/-- Only the brackets count. -/
lemma nest_filter (σ l : List Char) : nest σ (l.filter isBracket) = nest σ l := by
  induction l generalizing σ with
  | nil => rfl
  | cons c l ih =>
    rw [nest_cons]
    cases hc : isBracket c with
    | false =>
      rw [List.filter_cons_of_neg (by rw [hc]; exact Bool.false_ne_true), ih,
        nestStep_of_not_isBracket hc, Option.bind_some]
    | true =>
      rw [List.filter_cons_of_pos hc, nest_cons]
      congr 1
      funext σ'
      exact ih σ'

lemma Bracketless.filter_eq_nil (h : Bracketless l) : l.filter isBracket = [] := by
  rw [List.filter_eq_nil_iff]
  intro c hc
  rw [h c hc]
  exact Bool.false_ne_true

lemma Bracketless.balanced (h : Bracketless s.toList) : Balanced s := by
  refine ⟨?_⟩
  rw [Nests, ← nest_filter, h.filter_eq_nil]
  rfl

lemma Bracketless.append (hl : Bracketless l) (hm : Bracketless m) : Bracketless (l ++ m) := by
  intro c hc
  rcases List.mem_append.mp hc with h | h
  · exact hl c h
  · exact hm c h

lemma Bracketless.cons (hc : isBracket c = false) (hl : Bracketless l) : Bracketless (c :: l) :=
  List.forall_mem_cons.mpr ⟨hc, hl⟩

lemma Bracketless.flatMap {f : Char → List Char} (hl : Bracketless l)
    (hf : ∀ c, isBracket c = false → Bracketless (f c)) : Bracketless (l.flatMap f) := by
  intro d hd
  obtain ⟨c, hc, hdc⟩ := List.mem_flatMap.mp hd
  exact hf c (hl c hc) d hdc

lemma Bracketless.of_subset (hm : Bracketless m) (h : l ⊆ m) : Bracketless l :=
  fun c hc => hm c (h hc)

/-! ## Numbers and identifiers -/

lemma bracketless_of_areParts (h : Decimal.AreParts l) : Bracketless l := by
  intro c hc
  have hpart := h c hc
  by_contra hbracket
  simp only [isBracket, Bool.not_eq_false, Bool.or_eq_true, decide_eq_true_eq] at hbracket
  rcases hbracket with ((rfl | rfl) | rfl) | rfl <;> exact absurd hpart (by decide)

lemma bracketless_number (n : Number) : Bracketless n.text.toList :=
  bracketless_of_areParts n.text_areParts

lemma bracketless_integer (n : Int) : Bracketless (toString n).toList :=
  bracketless_of_areParts (areParts_integer n)

lemma bracketless_nat (n : Nat) : Bracketless (toString n).toList :=
  bracketless_integer n

lemma exists_of_mem_hexDigits {n : Nat} (h : c ∈ Nat.toDigits 16 n) : ∃ d, c = Nat.digitChar d := by
  induction n using Nat.strongRecOn with
  | ind n ih =>
    rw [Nat.toDigits_eq_if (by omega)] at h
    split_ifs at h with hn
    · exact ⟨n, List.mem_singleton.mp h⟩
    · rcases List.mem_append.mp h with hfirst | hlast
      · exact ih (n / 16) (by omega) hfirst
      · exact ⟨n % 16, List.mem_singleton.mp hlast⟩

lemma exists_of_mem_hex {width n : Nat} (h : c ∈ Quoted.hex width n) : ∃ d, c = Nat.digitChar d := by
  rcases List.mem_append.mp h with hzero | hdigit
  · exact ⟨0, List.eq_of_mem_replicate hzero⟩
  · exact exists_of_mem_hexDigits hdigit

/-- An identifier is written with digits and dashes. -/
lemma exists_of_mem_uuid {u : Uuid} (h : c ∈ u.text.toList) : c = '-' ∨ ∃ d, c = Nat.digitChar d := by
  have hgroup {start count : Nat} (hc : c ∈ ((Quoted.hex 32 u.value).drop start).take count) :
      ∃ d, c = Nat.digitChar d :=
    exists_of_mem_hex (List.mem_of_mem_drop (List.mem_of_mem_take hc))
  unfold Uuid.text at h
  rw [String.toList_ofList] at h
  simp only [List.mem_append, List.mem_cons] at h
  rcases h with (((h | h | h) | h | h) | h | h) | h | h
  all_goals first | exact .inl h | exact .inr (hgroup h)

lemma isBracket_digitChar (d : Nat) : isBracket d.digitChar = false := by
  have hne (c : Char) := @Nat.digitChar_ne d c
  simp [isBracket, hne '(' rfl, hne ')' rfl, hne '{' rfl, hne '}' rfl]

lemma bracketless_hex (width n : Nat) : Bracketless (Quoted.hex width n) := by
  intro c hc
  obtain ⟨d, rfl⟩ := exists_of_mem_hex hc
  exact isBracket_digitChar d

lemma bracketless_uuid (u : Uuid) : Bracketless u.text.toList := by
  intro c hc
  obtain rfl | ⟨d, rfl⟩ := exists_of_mem_uuid hc
  · rfl
  · exact isBracket_digitChar d

/-! ## Respelled texts -/

lemma bracketless_escape (visible : Char → Bool) (quote : Char) (hc : isBracket c = false) :
    Bracketless (Quoted.escape visible quote c) := by
  unfold Quoted.escape Quoted.numericEscape
  split_ifs
  · exact .cons rfl (.cons hc (List.forall_mem_nil _))
  · decide
  · decide
  · decide
  · exact .cons hc (List.forall_mem_nil _)
  · exact .cons rfl (.cons rfl (bracketless_hex 2 _))
  · exact .cons rfl (.cons rfl (bracketless_hex 4 _))
  · exact .cons rfl (.cons rfl (bracketless_hex 8 _))

lemma bracketless_quoted (h : Bracketless s.toList) : Bracketless (Quoted.encode s).toList := by
  have hquote : isBracket (Quoted.quoteFor s.toList) = false := by
    unfold Quoted.quoteFor
    split_ifs <;> rfl
  unfold Quoted.encode Quoted.encodeWith
  rw [String.toList_ofList]
  exact .cons hquote ((h.flatMap fun c hc => bracketless_escape _ _ hc).append
    (.cons hquote (List.forall_mem_nil _)))

lemma bracketless_literal (h : Bracketless l) : Bracketless (Literal.encode l) := by
  fun_induction Literal.encode l with
  | case1 => exact h
  | case2 c cs hc ih =>
    obtain ⟨hfirst, hrest⟩ := List.forall_mem_cons.mp h
    exact .cons rfl (.cons hfirst (ih hrest))
  | case3 c cs hc ih =>
    obtain ⟨hfirst, hrest⟩ := List.forall_mem_cons.mp h
    exact .cons hfirst (ih hrest)

lemma bracketless_respell {spelling : Char → String} (h : Bracketless s.toList)
    (hspelling : ∀ c, isBracket c = false → Bracketless (spelling c).toList) :
    Bracketless (respell spelling s).toList := by
  unfold respell
  rw [String.toList_ofList]
  exact h.flatMap hspelling

lemma isBracket_ofNat {n : Nat} (h : n ∉ [0x28, 0x29, 0x7B, 0x7D]) : isBracket (Char.ofNat n) = false := by
  -- The character of a number that is no code point has code zero, which is no bracket's.
  have hcode : (Char.ofNat n).toNat = n ∨ (Char.ofNat n).toNat = 0 := by
    unfold Char.ofNat
    by_cases hvalid : n.isValidChar
    · rw [dif_pos hvalid]
      exact .inl rfl
    · rw [dif_neg hvalid]
      exact .inr rfl
  by_contra hbracket
  simp only [isBracket, Bool.not_eq_false, Bool.or_eq_true, decide_eq_true_eq] at hbracket
  rcases hbracket with ((heq | heq) | heq) | heq <;> rw [heq] at hcode <;> simp at h hcode <;> omega

set_option maxRecDepth 2000 in
lemma bracketless_upperChar (hc : isBracket c = false) : Bracketless (upperChar c) := by
  have hexpansions : ∀ e ∈ caseExpansions, ∀ n ∈ e.2, n ∉ [0x28, 0x29, 0x7B, 0x7D] := by
    decide
  have hruns : ∀ r ∈ caseRuns, 0x7D < r.upper ∨ 0x29 < r.upper ∧ r.upper + (r.last - r.first) < 0x7B := by
    decide
  unfold upperChar
  split
  · next e he =>
    intro d hd
    obtain ⟨n, hn, rfl⟩ := List.mem_map.mp hd
    exact isBracket_ofNat (hexpansions e (List.mem_of_find?_eq_some he) n hn)
  · split
    · next r hr =>
      have hmem := hruns r (List.mem_of_find?_eq_some hr)
      have hrange := List.find?_some hr
      simp only [Bool.and_eq_true, decide_eq_true_eq] at hrange
      refine .cons (isBracket_ofNat ?_) (List.forall_mem_nil _)
      simp only [List.mem_cons, List.not_mem_nil, or_false, not_or]
      omega
    · exact .cons hc (List.forall_mem_nil _)

lemma bracketless_upper (h : Bracketless s.toList) : Bracketless (upper s).toList := by
  unfold upper
  rw [String.toList_ofList]
  exact h.flatMap fun c hc => bracketless_upperChar hc

/-! ## Thinned texts -/

lemma not_isBracket_of_isBlank (h : isBlank c = true) : isBracket c = false := by
  by_contra hbracket
  simp only [isBracket, Bool.not_eq_false, Bool.or_eq_true, decide_eq_true_eq] at hbracket
  rcases hbracket with ((rfl | rfl) | rfl) | rfl <;> exact absurd h (by decide)

lemma filter_join (pieces : List (List Char)) :
    (join ['\n'] pieces).filter isBracket = (pieces.map (List.filter isBracket)).flatten := by
  have hbreak : ['\n'].filter isBracket = [] := rfl
  fun_induction join ['\n'] pieces with
  | case1 => rfl
  | case2 piece => simp
  | case3 piece pieces _ ih =>
    rw [List.filter_append, List.filter_append, hbreak, ih, List.append_nil]
    rfl

lemma filter_thinLines (lines : List (List Char)) :
    ((thinLines lines).map (List.filter isBracket)).flatten = (lines.map (List.filter isBracket)).flatten := by
  fun_induction thinLines lines with
  | case1 line next rest hblank ih =>
    have hline : line.filter isBracket = [] := by
      refine Bracketless.filter_eq_nil fun c hc => not_isBracket_of_isBlank ?_
      exact List.all_eq_true.mp hblank c hc
    simp only [List.map_cons, List.flatten_cons, hline, List.nil_append, ih]
  | case2 line next rest hblank ih =>
    simp only [List.map_cons, List.flatten_cons] at ih ⊢
    rw [ih]
  | case3 => rfl

/-- Only blank lines are taken out, so the brackets stay. -/
lemma nest_thinBlankLines (σ l : List Char) : nest σ (thinBlankLines l) = nest σ l := by
  rw [← nest_filter σ (thinBlankLines l), ← nest_filter σ l]
  conv_rhs => rw [← join_split '\n' l]
  unfold thinBlankLines
  cases hsplit : split '\n' l with
  | nil => rfl
  | cons first rest =>
    dsimp only
    rw [filter_join, filter_join, List.map_cons, List.map_cons, List.flatten_cons, List.flatten_cons,
      filter_thinLines]

end PackToMod
