import PackToMod.Decimal.Shortest

/-!
# Decimal layout

How the digits of a decimal are laid out as text: positional between two bounds on the exponent,
scientific outside of them.
-/

namespace PackToMod.Decimal

/-- Where positional text ends, and how few digits an exponent has. The leading digit of a number
written positionally has an exponent from `lowest` up to, not including, `limit`. -/
structure Layout where
  lowest : Int
  limit : Int
  exponentWidth : Nat

/-- The digits of a decimal without the zeros at their end, and the place of the point: the number
of digits that stand before it. -/
def digitsAndPoint (d : Decimal) : List Char × Int :=
  let all := Nat.toDigits 10 d.digits
  ((all.reverse.dropWhile (· == '0')).reverse, all.length + d.exponent)

/-- Digits around a point, with zeros filled in and at least one digit on either side. -/
def positional (digits : List Char) (point : Int) : List Char :=
  if point ≤ 0 then
    '0' :: '.' :: (List.replicate (-point).toNat '0' ++ digits)
  else if digits.length ≤ point.toNat then
    digits ++ List.replicate (point.toNat - digits.length) '0' ++ ['.', '0']
  else digits.take point.toNat ++ '.' :: digits.drop point.toNat

def exponentText (width : Nat) (exponent : Int) : List Char :=
  let digits := Nat.toDigits 10 exponent.natAbs
  (if exponent < 0 then '-' else '+') :: (List.replicate (width - digits.length) '0' ++ digits)

/-- One digit before the point, and the exponent of ten. -/
def scientific (width : Nat) (digits : List Char) (exponent : Int) : List Char :=
  let mantissa := match digits with
    | [] => []
    | [d] => [d]
    | d :: ds => d :: '.' :: ds
  mantissa ++ 'e' :: exponentText width exponent

def Layout.text (l : Layout) (d : Decimal) : List Char :=
  let (digits, point) := d.digitsAndPoint
  if l.lowest ≤ point - 1 && point - 1 < l.limit then positional digits point
  else scientific l.exponentWidth digits (point - 1)

end PackToMod.Decimal
