import PackToMod.Text.Printable

/-!
# Quoted text

A key is shown between single quotes, or between double quotes when it holds a single quote and no
double quote. Backslashes, the enclosing quote and characters without a visible form are escaped.
-/

namespace PackToMod.Text.Quoted

/-- The lower-case hexadecimal digits of `n`, at least `width` of them. -/
def hex (width n : Nat) : List Char :=
  let digits := Nat.toDigits 16 n
  List.replicate (width - digits.length) '0' ++ digits

/-- The shortest numeric escape of a character. -/
def numericEscape (c : Char) : List Char :=
  if c.toNat < 0x100 then '\\' :: 'x' :: hex 2 c.toNat
  else if c.toNat < 0x10000 then '\\' :: 'u' :: hex 4 c.toNat
  else '\\' :: 'U' :: hex 8 c.toNat

/-- The written form of a character between quotes `quote`; `visible` tells which characters may
stand for themselves. -/
def escape (visible : Char → Bool) (quote c : Char) : List Char :=
  if c = quote ∨ c = '\\' then ['\\', c]
  else if c = '\n' then ['\\', 'n']
  else if c = '\t' then ['\\', 't']
  else if c = '\r' then ['\\', 'r']
  else if visible c then [c]
  else numericEscape c

def quoteFor (s : List Char) : Char :=
  if s.contains '\'' && !s.contains '"' then '"' else '\''

def encodeWith (visible : Char → Bool) (s : List Char) : List Char :=
  let quote := quoteFor s
  quote :: s.flatMap (escape visible quote) ++ [quote]

/-- A text between quotes. -/
def encode (s : String) : String :=
  String.ofList (encodeWith isPrintable s.toList)

end PackToMod.Text.Quoted
