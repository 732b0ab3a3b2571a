import Mathlib.Data.List.Basic
import PackToMod.Text.Split

/-!
# How texts are spelled

Most of the code that is put out is put together from literals. Taking a literal apart costs a step for
every two of its characters, so where the characters of such a text matter they are given as a list beside
it, and all computation is on the list.
-/

namespace PackToMod.Text

variable {s t : String} {l m : List Char}

/-- The characters of the text. -/
def Spells (s : String) (l : List Char) : Prop :=
  s.toList = l

lemma Spells.literal (h : s = String.ofList l) : Spells s l := by
  rw [Spells, h, String.toList_ofList]

lemma Spells.append (hs : Spells s l) (ht : Spells t m) : Spells (s ++ t) (l ++ m) := by
  rw [Spells, String.toList_append, hs, ht]

lemma sepBy_eq_intercalate (sep : String) (texts : List String) :
    sepBy sep texts = sep.intercalate texts := by
  induction texts with
  | nil => rfl
  | cons text texts ih =>
    cases texts with
    | nil => rw [String.intercalate_singleton, sepBy]
    | cons text' texts =>
      rw [String.intercalate_cons_of_ne_nil (List.cons_ne_nil _ _), ← ih]
      rfl

end PackToMod.Text
