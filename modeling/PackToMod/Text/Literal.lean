/-!
# String literals

Text inside a double-quoted literal: a backslash and a double quote are written with a backslash
before them. Reading accepts exactly what writing produces.
-/

namespace PackToMod.Text.Literal

def encode : List Char → List Char
  | [] => []
  | c :: cs => if c = '\\' ∨ c = '"' then '\\' :: c :: encode cs else c :: encode cs

/-- Refuses a bare double quote, a dangling backslash and any other escape. -/
def decode : List Char → Option (List Char)
  | [] => some []
  | ['\\'] => none
  | '\\' :: c :: cs => if c = '\\' ∨ c = '"' then (decode cs).map (c :: ·) else none
  | c :: cs => if c = '"' then none else (decode cs).map (c :: ·)

theorem decode_encode (s : List Char) : decode (encode s) = some s := by
  induction s with
  | nil => rfl
  | cons c cs ih =>
    by_cases hb : c = '\\'
    · subst hb; simp [encode, decode, ih]
    · by_cases hq : c = '"'
      · subst hq; simp [encode, decode, ih]
      · have h : ¬ (c = '\\' ∨ c = '"') := by simp [hb, hq]
        rw [encode, if_neg h]
        rw [decode]
        · simp [hq, ih]
        · intro h _; exact hb h
        · intro _ _ h _; exact hb h

end PackToMod.Text.Literal
