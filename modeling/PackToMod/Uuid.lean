import PackToMod.Text.Quoted

/-!
# Entity identifiers

A 128-bit entity identifier, written as 32 hexadecimal digits in five groups.
-/

namespace PackToMod

structure Uuid where
  value : Nat
  deriving DecidableEq, Repr

namespace Uuid

def hexDigit? (c : Char) : Option Nat :=
  if '0' ≤ c ∧ c ≤ '9' then some (c.toNat - '0'.toNat)
  else if 'a' ≤ c ∧ c ≤ 'f' then some (c.toNat - 'a'.toNat + 10)
  else if 'A' ≤ c ∧ c ≤ 'F' then some (c.toNat - 'A'.toNat + 10)
  else none

def isBrace (c : Char) : Bool :=
  c = '\x7b' || c = '\x7d'

/-- The digits and dashes of an identifier, which may be marked as one and put in braces. -/
def body (s : String) : List Char :=
  let cs := ((s.replace "urn:" "").replace "uuid:" "").toList
  ((cs.dropWhile isBrace).reverse.dropWhile isBrace).reverse

/-- Reads 32 hexadecimal digits in either case; dashes may stand anywhere. -/
def ofText? (s : String) : Option Uuid := do
  let digits ← ((body s).filter (· ≠ '-')).mapM hexDigit?
  if digits.length = 32 then some ⟨digits.foldl (fun n d => 16 * n + d) 0⟩ else none

/-- The digits in lower case, in groups of 8, 4, 4, 4 and 12. -/
def text (u : Uuid) : String :=
  let digits := Text.Quoted.hex 32 u.value
  let group := fun start count => (digits.drop start).take count
  String.ofList (group 0 8 ++ '-' :: group 8 4 ++ '-' :: group 12 4 ++ '-' :: group 16 4
    ++ '-' :: group 20 12)

end Uuid

end PackToMod
