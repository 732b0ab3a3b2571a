import PackToMod.Text.Blank
import PackToMod.Text.Split

/-!
# Thinning out blank lines

The body of a method is built from fragments that each bring their own line breaks. Before it is
wrapped, a blank line that follows a line break and precedes another is taken out. The line after a
line that was taken out always stays, so a run of blank lines is halved.
-/

namespace PackToMod.Text

def isBlankLine (line : List Char) : Bool :=
  line.all isBlank

/-- Drops a blank line that has a successor, and keeps that successor whatever it holds. -/
def thinLines : List (List Char) → List (List Char)
  | line :: next :: rest =>
    if isBlankLine line then next :: thinLines rest else line :: thinLines (next :: rest)
  | lines => lines

/-- A text with its inner blank lines thinned out. The first line is never dropped. -/
def thinBlankLines (s : List Char) : List Char :=
  match split '\n' s with
  | [] => []
  | first :: rest => join ['\n'] (first :: thinLines rest)

end PackToMod.Text
