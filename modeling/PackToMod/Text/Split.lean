/-!
# Splitting and joining text

`split sep s` cuts `s` at every `sep`; the pieces are the longest runs without it, so there is
always at least one. `join sep` puts the pieces back together.
-/

namespace PackToMod.Text

/-- The pieces of a text between the occurrences of a character. -/
def split (sep : Char) : List Char → List (List Char)
  | [] => [[]]
  | c :: cs =>
    if c = sep then [] :: split sep cs
    else match split sep cs with
      | [] => [[c]]
      | piece :: pieces => (c :: piece) :: pieces

/-- The pieces with `sep` between neighbours. -/
def join (sep : List Char) : List (List Char) → List Char
  | [] => []
  | [piece] => piece
  | piece :: pieces => piece ++ sep ++ join sep pieces

theorem split_ne_nil (sep : Char) (s : List Char) : split sep s ≠ [] := by
  cases s with
  | nil => simp [split]
  | cons c cs =>
    simp only [split]
    split
    · simp
    · split <;> simp

theorem join_split (sep : Char) (s : List Char) : join [sep] (split sep s) = s := by
  induction s with
  | nil => rfl
  | cons c cs ih =>
    simp only [split]
    split
    · next h =>
      cases hs : split sep cs with
      | nil => exact absurd hs (split_ne_nil sep cs)
      | cons piece pieces => rw [hs] at ih; simp [join, ih, h]
    · cases hs : split sep cs with
      | nil => exact absurd hs (split_ne_nil sep cs)
      | cons piece pieces =>
        rw [hs] at ih
        cases pieces with
        | nil => simpa [join] using ih
        | cons next rest => simpa [join] using ih

/-- The parts of a text between colons. -/
def splitColons (s : String) : List String :=
  (split ':' s.toList).map String.ofList

/-- Lines put together with a line break after all but the last. -/
def unlines : List String → String
  | [] => ""
  | [line] => line
  | line :: lines => line ++ "\n" ++ unlines lines

/-- Texts put together with a separator between neighbours. -/
def sepBy (sep : String) : List String → String
  | [] => ""
  | [text] => text
  | text :: texts => text ++ sep ++ sepBy sep texts

end PackToMod.Text
