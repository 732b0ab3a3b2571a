/-!
# Respelling characters

Characters that an identifier may not hold are spelled out, one character at a time; and a first
occurrence is replaced.
-/

namespace PackToMod.Text

/-- Replaces every character by its spelling. -/
def respell (spelling : Char → String) (s : String) : String :=
  String.ofList (s.toList.flatMap fun c => (spelling c).toList)

/-- Replaces the first occurrence of `old`, if there is one. -/
def replaceFirst (old new : List Char) : List Char → List Char
  | [] => if old.isEmpty then new else []
  | c :: cs =>
    if old.isPrefixOf (c :: cs) then new ++ (c :: cs).drop old.length
    else c :: replaceFirst old new cs

end PackToMod.Text
