import Mathlib.Data.List.Basic
import PackToMod.Proofs.Spelling
import PackToMod.Template.Braces

/-!
# Templates with stray braces

Text from a command is put into a brace template before the template is filled, so at the end of that text
the scanner may be in any mode: a field, its brackets or its alignment may be open. `fails_append` reduces
the question whether such a template can be filled at all to the part after the text: if that part has a
fault from every mode, then so has the template, whatever the text.
-/

namespace PackToMod.Braces

variable {expand : Expansion} {arguments : List Value} {mode mode' : Mode} {c : Char} {s rest : List Char}

/-- The scanner finds a fault in the text, however the fields before it have named their arguments. -/
def Fails (expand : Expansion) (arguments : List Value) (mode : Mode) (s : List Char) : Prop :=
  ∀ numbering, ∃ e, scan expand arguments mode numbering s = .error e

lemma Fails.of_spells {t : String} (ht : Text.Spells t s) (h : Fails expand arguments mode s) :
    Fails expand arguments mode t.toList := by
  rw [ht]
  exact h

/-! ## One character -/

lemma scan_cons (mode : Mode) (numbering : Numbering) (c : Char) (cs : List Char) :
    scan expand arguments mode numbering (c :: cs) = (do
      match ← read c mode with
      | .stay mode => scan expand arguments mode numbering cs
      | .emit c =>
        let (text, numbering) ← scan expand arguments .text numbering cs
        return (c :: text, numbering)
      | .field f =>
        let (value, numbering) ← fillField expand arguments numbering f
        let (text, numbering) ← scan expand arguments .text numbering cs
        return (value ++ text, numbering)) := by
  cases mode <;> rfl

lemma fails_of_error {e : Error} (h : read c mode = .error e) (cs : List Char) :
    Fails expand arguments mode (c :: cs) := by
  intro numbering
  refine ⟨e, ?_⟩
  rw [scan_cons, h]
  rfl

lemma fails_of_stay (h : read c mode = .ok (.stay mode')) (hrest : Fails expand arguments mode' rest) :
    Fails expand arguments mode (c :: rest) := by
  intro numbering
  obtain ⟨e, he⟩ := hrest numbering
  refine ⟨e, ?_⟩
  rw [scan_cons, h]
  exact he

lemma fails_of_emit {c' : Char} (h : read c mode = .ok (.emit c'))
    (hrest : Fails expand arguments .text rest) : Fails expand arguments mode (c :: rest) := by
  intro numbering
  obtain ⟨e, he⟩ := hrest numbering
  refine ⟨e, ?_⟩
  rw [scan_cons, h]
  change (do
    let (text, numbering) ← scan expand arguments .text numbering rest
    return (c' :: text, numbering)) = _
  rw [he]
  rfl

/-- A complete field may be filled or not; the fault after it remains. -/
lemma fails_of_field {f : Field} (h : read c mode = .ok (.field f))
    (hrest : Fails expand arguments .text rest) : Fails expand arguments mode (c :: rest) := by
  intro numbering
  rw [scan_cons, h]
  change ∃ e, (do
    let (value, numbering) ← fillField expand arguments numbering f
    let (text, numbering) ← scan expand arguments .text numbering rest
    return (value ++ text, numbering)) = .error e
  cases hfield : fillField expand arguments numbering f with
  | error e => exact ⟨e, rfl⟩
  | ok filled =>
    obtain ⟨e, he⟩ := hrest filled.2
    refine ⟨e, ?_⟩
    change (do
      let (text, numbering) ← scan expand arguments .text filled.2 rest
      return (filled.1 ++ text, numbering)) = _
    rw [he]
    rfl

/-! ## Any text before a fault -/

/-- Inside an alignment, the brace of its field at least is open. -/
def Mode.IsSound : Mode → Prop
  | alignment _ _ depth _ => 1 ≤ depth
  | _ => True

lemma isSound_of_readName {name : List Char} (h : readName name c = .ok (.stay mode')) : mode'.IsSound := by
  unfold readName at h
  split_ifs at h
  · cases h
    trivial
  · cases h
  · cases h
    exact Nat.le_refl 1
  · cases h
    trivial
  · cases h
    trivial

lemma isSound_of_read (hmode : mode.IsSound) (h : read c mode = .ok (.stay mode')) : mode'.IsSound := by
  cases mode with
  | text =>
    rw [read] at h
    split_ifs at h
    · cases h
      trivial
    · cases h
      trivial
    · cases h
  | opened =>
    rw [read] at h
    split_ifs at h
    · cases h
    · exact isSound_of_readName h
  | closed =>
    rw [read] at h
    split_ifs at h
    cases h
  | name name => exact isSound_of_readName h
  | bracket name =>
    cases h
    split_ifs <;> trivial
  | exclaimed name =>
    cases h
    trivial
  | converted name conversion =>
    rw [read] at h
    split_ifs at h
    · cases h
    · cases h
      exact Nat.le_refl 1
  | alignment name conversion depth text =>
    change 1 ≤ depth at hmode
    rw [read] at h
    split_ifs at h with hopen hclose hdepth
    · cases h
      exact Nat.le_add_left 1 depth
    · cases h
    · cases h
      change 1 ≤ depth - 1
      omega
    · cases h
      exact hmode

/-- A fault that is found from every mode is found behind any text. -/
theorem fails_append (hrest : ∀ mode, mode.IsSound → Fails expand arguments mode rest) (s : List Char)
    (hmode : mode.IsSound) : Fails expand arguments mode (s ++ rest) := by
  induction s generalizing mode with
  | nil => exact hrest mode hmode
  | cons c s ih =>
    rw [List.cons_append]
    cases hread : read c mode with
    | error e => exact fails_of_error hread _
    | ok move =>
      cases move with
      | stay mode' => exact fails_of_stay hread (ih (isSound_of_read hmode hread))
      | emit c' => exact fails_of_emit hread (ih trivial)
      | field f => exact fails_of_field hread (ih trivial)

/-! ## Fields that are never closed -/

/-- The number of open braces after a text inside an alignment, if the alignment does not end in it. -/
def depthAfter : Nat → List Char → Option Nat
  | depth, [] => some depth
  | depth, c :: cs =>
    if c = '{' then depthAfter (depth + 1) cs
    else if c = '}' then if depth ≤ 1 then none else depthAfter (depth - 1) cs
    else depthAfter depth cs

lemma depthAfter_add {depth n : Nat} (h : depthAfter depth s = some n) (more : Nat) :
    depthAfter (depth + more) s = some (n + more) := by
  induction s generalizing depth with
  | nil =>
    rw [depthAfter] at h ⊢
    rw [Option.some.inj h]
  | cons c s ih =>
    rw [depthAfter] at h ⊢
    split_ifs at h ⊢ with hopen hclose hdepth hmore
    · have hdepth : depth + more + 1 = depth + 1 + more := by omega
      rw [hdepth]
      exact ih h
    · omega
    · have hdepth : depth + more - 1 = depth - 1 + more := by omega
      rw [hdepth]
      exact ih h
    · exact ih h

lemma fails_alignment {depth n : Nat} (h : depthAfter depth s = some n) (name text : List Char)
    (conversion : Option Char) : Fails expand arguments (.alignment name conversion depth text) s := by
  induction s generalizing depth text with
  | nil => exact fun numbering => ⟨.malformed, rfl⟩
  | cons c s ih =>
    rw [depthAfter] at h
    split_ifs at h with hopen hclose hdepth
    · exact fails_of_stay (by rw [read, if_pos hopen]) (ih h _)
    · exact fails_of_stay (by rw [read, if_neg hopen, if_pos hclose, if_neg hdepth]) (ih h _)
    · exact fails_of_stay (by rw [read, if_neg hopen, if_neg hclose]) (ih h _)

/-- An alignment that ends before a fault. -/
lemma fails_alignment_closed {depth : Nat} (h : depthAfter depth s = some 1)
    (hrest : Fails expand arguments .text rest) (name text : List Char) (conversion : Option Char) :
    Fails expand arguments (.alignment name conversion depth text) (s ++ '}' :: rest) := by
  induction s generalizing depth text with
  | nil =>
    obtain rfl : depth = 1 := Option.some.inj h
    exact fails_of_field rfl hrest
  | cons c s ih =>
    rw [depthAfter] at h
    rw [List.cons_append]
    split_ifs at h with hopen hclose hdepth
    · exact fails_of_stay (by rw [read, if_pos hopen]) (ih h _)
    · exact fails_of_stay (by rw [read, if_neg hopen, if_pos hclose, if_neg hdepth]) (ih h _)
    · exact fails_of_stay (by rw [read, if_neg hopen, if_neg hclose]) (ih h _)

/-- A character that a field's name goes on with. -/
def isNamePart (c : Char) : Bool :=
  c ≠ '{' && c ≠ '[' && c ≠ '}' && c ≠ ':' && c ≠ '!'

lemma fails_name_closed (h : s.all isNamePart = true) (hrest : Fails expand arguments .text rest)
    (name : List Char) : Fails expand arguments (.name name) (s ++ '}' :: rest) := by
  induction s generalizing name with
  | nil => exact fails_of_field rfl hrest
  | cons c s ih =>
    rw [List.all_cons, Bool.and_eq_true] at h
    obtain ⟨hc, hs⟩ := h
    have hread : read c (.name name) = .ok (.stay (.name (c :: name))) := by
      simp only [isNamePart, Bool.and_eq_true, decide_eq_true_eq] at hc
      simp [read, readName, hc]
    exact fails_of_stay hread (ih hs _)

lemma fails_bracket (h : ']' ∉ s) (name : List Char) : Fails expand arguments (.bracket name) s := by
  induction s generalizing name with
  | nil => exact fun numbering => ⟨.malformed, rfl⟩
  | cons c s ih =>
    rw [List.mem_cons, not_or] at h
    exact fails_of_stay (by rw [read, if_neg (Ne.symm h.1)]) (ih h.2 _)

/-! ## Texts that are no templates -/

/-- The text is no template, whatever fields came before it. -/
def IsMalformed (expand : Expansion) (arguments : List Value) (s : List Char) : Prop :=
  ∀ numbering, scan expand arguments .text numbering s = .error .malformed

lemma IsMalformed.emit (hread : read c mode = .ok (.emit c))
    (h : IsMalformed expand arguments rest) (numbering : Numbering) :
    scan expand arguments mode numbering (c :: rest) = .error .malformed := by
  rw [scan_cons, hread]
  change scan expand arguments .text numbering rest >>= _ = _
  rw [h numbering]
  rfl

lemma IsMalformed.of_spells {t : String} (ht : Text.Spells t s) (h : IsMalformed expand arguments s) :
    IsMalformed expand arguments t.toList := by
  rw [ht]
  exact h

/-- Text without braces is copied. -/
lemma IsMalformed.append (hopen : '{' ∉ s) (hclose : '}' ∉ s) (h : IsMalformed expand arguments rest) :
    IsMalformed expand arguments (s ++ rest) := by
  induction s with
  | nil => exact h
  | cons c s ih =>
    rw [List.mem_cons, not_or] at hopen hclose
    refine IsMalformed.emit ?_ (ih hopen.2 hclose.2)
    rw [read, if_neg (Ne.symm hopen.1), if_neg (Ne.symm hclose.1)]

lemma IsMalformed.doubled (h : IsMalformed expand arguments rest) :
    IsMalformed expand arguments ('{' :: '{' :: rest) := by
  intro numbering
  have hread : read '{' .opened = .ok (.emit '{') := rfl
  change scan expand arguments .opened numbering ('{' :: rest) = _
  exact IsMalformed.emit hread h numbering

/-- A field for the only argument. -/
lemma IsMalformed.field {v : Value} (h : IsMalformed expand [v] rest) :
    IsMalformed expand [v] ('{' :: '0' :: '}' :: rest) := by
  have hfilled (next : List Char × Numbering → Except Error (List Char × Numbering)) :
      scan expand [v] .text .explicit rest >>= next = .error .malformed := by
    rw [h .explicit]
    rfl
  intro numbering
  cases numbering with
  | undecided => exact hfilled _
  | explicit => exact hfilled _
  | counted n => rfl

/-- A brace that closes nothing. -/
lemma IsMalformed.closing (hc : c ≠ '}') : IsMalformed expand arguments ('}' :: c :: rest) := by
  intro numbering
  have hread : read c .closed = .error .malformed := by
    rw [read, if_neg hc]
  change scan expand arguments .closed numbering (c :: rest) = _
  rw [scan_cons, hread]
  rfl

end PackToMod.Braces
