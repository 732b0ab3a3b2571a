import Mathlib.Data.List.Basic
import PackToMod.Text.Literal

/-!
# String literals in code

A literal goes from a quote to the next one that is not escaped, and ends on the line that it starts on. `read?` reads
the rest of a literal whose opening quote has been read, `literals` gives the values of all literals in a piece of code
without comments. A text that stands between quotes as it is reads back as itself only if nothing in it is escaped.
-/

namespace PackToMod.Text.Literal

def isLineBreak (c : Char) : Bool :=
  c == '\n' || c == '\r'

/-- Text that stays on its line. -/
def IsOneLine (s : List Char) : Prop :=
  ∀ c ∈ s, isLineBreak c = false

/-- Text that means the same between quotes. -/
def IsPlain (s : List Char) : Prop :=
  '"' ∉ s ∧ '\\' ∉ s

instance (s : List Char) : Decidable (IsOneLine s) :=
  List.decidableBAll (fun c => isLineBreak c = false) s

instance (s : List Char) : Decidable (IsPlain s) :=
  inferInstanceAs (Decidable (_ ∧ _))

lemma IsOneLine.newline_notMem {s : List Char} (h : IsOneLine s) : '\n' ∉ s :=
  fun hmem => absurd (h _ hmem) (by decide)

/-- The value of a literal and what follows its closing quote. -/
def read? : List Char → Option (List Char × List Char)
  | [] => none
  | ['\\'] => none
  | '\\' :: c :: cs => if c = '\\' ∨ c = '"' then (read? cs).map (Prod.map (c :: ·) id) else none
  | c :: cs =>
    if c = '"' then some ([], cs)
    else if isLineBreak c then none
    else (read? cs).map (Prod.map (c :: ·) id)

variable {s t raw value rest : List Char}

/-! ## Decoding -/

lemma decode_cons {c : Char} (hquote : c ≠ '"') (hbackslash : c ≠ '\\') (cs : List Char) :
    decode (c :: cs) = (decode cs).map (c :: ·) := by
  rw [decode]
  · rw [if_neg hquote]
  · exact fun h _ => hbackslash h
  · exact fun _ _ h _ => hbackslash h

lemma decode_escape {c : Char} (hc : c = '\\' ∨ c = '"') (cs : List Char) :
    decode ('\\' :: c :: cs) = (decode cs).map (c :: ·) := by
  rw [decode, if_pos hc]

/-- A character that starts no escape, neither a whole one nor one that is cut off. -/
lemma ne_backslash {c : Char} {cs : List Char} (hlast : c = '\\' → cs = [] → False)
    (hescape : ∀ e ds, c = '\\' → cs = e :: ds → False) : c ≠ '\\' := by
  intro hc
  cases cs with
  | nil => exact hlast hc rfl
  | cons e ds => exact hescape e ds hc rfl

lemma decode_of_isPlain (h : IsPlain s) : decode s = some s := by
  induction s with
  | nil => rfl
  | cons c cs ih =>
    obtain ⟨hquote, hbackslash⟩ := h
    rw [List.mem_cons, not_or] at hquote hbackslash
    rw [decode_cons (Ne.symm hquote.1) (Ne.symm hbackslash.1), ih ⟨hquote.2, hbackslash.2⟩, Option.map_some]

/-- A literal is not shorter than its value, and as long only if nothing is escaped. -/
lemma length_le_of_decode (h : decode raw = some value) :
    value.length ≤ raw.length ∧ (raw.length ≤ value.length → IsPlain raw) := by
  fun_induction decode raw generalizing value with
  | case1 =>
    cases h
    exact ⟨Nat.le_refl _, fun _ => ⟨List.not_mem_nil, List.not_mem_nil⟩⟩
  | case2 => cases h
  | case3 c cs hc ih =>
    obtain ⟨v, hv, rfl⟩ := Option.map_eq_some_iff.mp h
    obtain ⟨hle, -⟩ := ih hv
    simp only [List.length_cons]
    exact ⟨by omega, fun hlong => by omega⟩
  | case4 => cases h
  | case5 => cases h
  | case6 c cs hlast hescape hquote ih =>
    obtain ⟨v, hv, rfl⟩ := Option.map_eq_some_iff.mp h
    obtain ⟨hle, hplain⟩ := ih hv
    simp only [List.length_cons]
    refine ⟨by omega, fun hlong => ?_⟩
    obtain ⟨hquotes, hbackslashes⟩ := hplain (by omega)
    have hbackslash := ne_backslash hlast hescape
    exact ⟨by simp [Ne.symm hquote, hquotes], by simp [Ne.symm hbackslash, hbackslashes]⟩

/-! ## Reading a literal -/

/-- Reading stops at the first quote that closes a literal. -/
lemma read?_append (hdecode : decode raw = some value) (hline : IsOneLine raw) (rest : List Char) :
    read? (raw ++ '"' :: rest) = some (value, rest) := by
  fun_induction decode raw generalizing value with
  | case1 =>
    cases hdecode
    rfl
  | case2 => cases hdecode
  | case3 c cs hc ih =>
    obtain ⟨v, hv, rfl⟩ := Option.map_eq_some_iff.mp hdecode
    have hcs : IsOneLine cs := fun d hd => hline d (by simp [hd])
    rw [List.cons_append, List.cons_append, read?, if_pos hc, ih hv hcs]
    rfl
  | case4 => cases hdecode
  | case5 => cases hdecode
  | case6 c cs hlast hescape hquote ih =>
    obtain ⟨v, hv, rfl⟩ := Option.map_eq_some_iff.mp hdecode
    have hcs : IsOneLine cs := fun d hd => hline d (List.mem_cons_of_mem c hd)
    have hc : isLineBreak c = false := hline c List.mem_cons_self
    have hbackslash := ne_backslash hlast hescape
    rw [List.cons_append, read?, if_neg hquote, hc, ih hv hcs]
    · rfl
    · exact fun h _ => hbackslash h
    · exact fun _ _ h _ => hbackslash h

/-- What is read is a literal that ends in a quote. -/
lemma eq_append_of_read? (h : read? s = some (value, rest)) :
    ∃ raw, s = raw ++ '"' :: rest ∧ decode raw = some value ∧ IsOneLine raw := by
  fun_induction read? s generalizing value with
  | case1 => cases h
  | case2 => cases h
  | case3 c cs hc ih =>
    obtain ⟨⟨v, t⟩, hread, hvalue⟩ := Option.map_eq_some_iff.mp h
    cases hvalue
    obtain ⟨raw, hcs, hdecode, hline⟩ := ih hread
    refine ⟨'\\' :: c :: raw, by rw [hcs]; rfl, by rw [decode_escape hc, hdecode, Option.map_some], ?_⟩
    refine List.forall_mem_cons.mpr ⟨by decide, List.forall_mem_cons.mpr ⟨?_, hline⟩⟩
    rcases hc with rfl | rfl <;> decide
  | case4 => cases h
  | case5 cs =>
    cases h
    exact ⟨[], rfl, rfl, fun _ hc => absurd hc List.not_mem_nil⟩
  | case6 => cases h
  | case7 c cs hlast hescape hquote hbreak ih =>
    obtain ⟨⟨v, t⟩, hread, hvalue⟩ := Option.map_eq_some_iff.mp h
    cases hvalue
    obtain ⟨raw, hcs, hdecode, hline⟩ := ih hread
    have hbackslash := ne_backslash hlast hescape
    refine ⟨c :: raw, by rw [hcs]; rfl, by rw [decode_cons hquote hbackslash, hdecode, Option.map_some], ?_⟩
    exact List.forall_mem_cons.mpr ⟨Bool.eq_false_iff.mpr hbreak, hline⟩

lemma length_lt_of_read? (h : read? s = some (value, rest)) : rest.length < s.length := by
  obtain ⟨raw, rfl, -, -⟩ := eq_append_of_read? h
  simp only [List.length_append, List.length_cons]
  omega

/-- A plain text between quotes is read as itself. -/
lemma read?_plain (hplain : IsPlain s) (hline : IsOneLine s) (rest : List Char) :
    read? (s ++ '"' :: rest) = some (s, rest) :=
  read?_append (decode_of_isPlain hplain) hline rest

/-! ## The literals of a piece of code -/

/-- The values of the literals in code without comments. A quote that opens no literal is passed over. -/
def literals (s : List Char) : List (List Char) :=
  match s with
  | [] => []
  | c :: cs =>
    if c = '"' then
      match _h : read? cs with
      | some (value, rest) => value :: literals rest
      | none => literals cs
    else literals cs
termination_by s.length
decreasing_by
  · have := length_lt_of_read? ‹_›
    simp only [List.length_cons]
    omega
  · simp
  · simp

lemma literals_nil : literals [] = [] := by
  rw [literals]

lemma literals_cons_of_ne {c : Char} (hc : c ≠ '"') (s : List Char) : literals (c :: s) = literals s := by
  rw [literals, if_neg hc]

lemma literals_quote (hread : read? s = some (value, rest)) : literals ('"' :: s) = value :: literals rest := by
  rw [literals, if_pos rfl]
  split
  · next h =>
    rw [hread] at h
    cases h
    rfl
  · next h => exact absurd (hread.symm.trans h) (by simp)

lemma literals_append (hs : '"' ∉ s) (t : List Char) : literals (s ++ t) = literals t := by
  induction s with
  | nil => rfl
  | cons c cs ih =>
    rw [List.mem_cons, not_or] at hs
    rw [List.cons_append, literals_cons_of_ne (Ne.symm hs.1), ih hs.2]

/-- Every literal stands between two quotes on one line. -/
lemma exists_of_mem_literals (h : value ∈ literals s) :
    ∃ before raw after, s = before ++ '"' :: (raw ++ '"' :: after) ∧ decode raw = some value ∧ IsOneLine raw := by
  fun_induction literals s with
  | case1 => exact absurd h List.not_mem_nil
  | case2 cs v rest hread ih =>
    rcases List.mem_cons.mp h with rfl | h
    · obtain ⟨raw, rfl, hdecode, hline⟩ := eq_append_of_read? hread
      exact ⟨[], raw, rest, rfl, hdecode, hline⟩
    · obtain ⟨before, raw, after, rfl, hdecode, hline⟩ := ih h
      obtain ⟨raw', rfl, -, -⟩ := eq_append_of_read? hread
      exact ⟨'"' :: (raw' ++ '"' :: before), raw, after, by simp, hdecode, hline⟩
  | case3 cs hread ih =>
    obtain ⟨before, raw, after, rfl, hdecode, hline⟩ := ih h
    exact ⟨'"' :: before, raw, after, rfl, hdecode, hline⟩
  | case4 c cs hc ih =>
    obtain ⟨before, raw, after, rfl, hdecode, hline⟩ := ih h
    exact ⟨c :: before, raw, after, rfl, hdecode, hline⟩

end PackToMod.Text.Literal
