/-!
# Shortest decimals

A positive binary number `mantissa * 2 ^ exponent` stands for all reals that round to it. `shortest`
finds the decimal with the fewest digits among those reals, and of several the nearest to the number
itself; an exact tie goes to the even digit. All arithmetic is exact.
-/

namespace PackToMod

/-- The number `digits * 10 ^ exponent`. -/
structure Decimal where
  digits : Nat
  exponent : Int
  deriving DecidableEq, Repr

namespace Decimal

/-- The number `mantissa * 2 ^ exponent`. `narrow` is set when the next smaller number is only half
a step away, as it is below a power of two. -/
structure Binary where
  mantissa : Nat
  exponent : Int
  narrow : Bool
  deriving DecidableEq, Repr

/-- The factor of `base ^ exponent` that belongs in a numerator. -/
def numeratorPower (base : Nat) (exponent : Int) : Nat := Nat.pow base exponent.toNat

/-- The factor of `base ^ exponent` that belongs in a denominator. -/
def denominatorPower (base : Nat) (exponent : Int) : Nat := Nat.pow base (-exponent).toNat

def digitCount (n : Nat) : Nat :=
  if n = 0 then 0 else (Nat.toDigits 10 n).length

/-- The exponent `p` with `10 ^ p ≤ num / den < 10 ^ (p + 1)`, for positive `num` and `den`. -/
def leadingExponent (num den : Nat) : Int :=
  if den ≤ num then (digitCount (num / den) : Int) - 1
  else -(digitCount ((den - 1) / num) : Int)

/-- Four times a binary number and four times the ends of its rounding interval, over one
denominator, on the decimal grid `10 ^ grid`. -/
structure Scaled where
  low : Nat
  value : Nat
  high : Nat
  unit : Nat

def Binary.scale (b : Binary) (grid : Int) : Scaled :=
  let num := numeratorPower 2 b.exponent * denominatorPower 10 grid
  { low := (4 * b.mantissa - (if b.narrow then 1 else 2)) * num
    value := 4 * b.mantissa * num
    high := (4 * b.mantissa + 2) * num
    unit := 4 * denominatorPower 2 b.exponent * numeratorPower 10 grid }

/-- Whether the grid point `d` rounds to the number. The ends of the interval belong to it when the
mantissa is even. -/
def Binary.rounds (b : Binary) (s : Scaled) (d : Nat) : Bool :=
  if b.mantissa % 2 = 0 then s.low ≤ d * s.unit && d * s.unit ≤ s.high
  else s.low < d * s.unit && d * s.unit < s.high

/-- The grid point nearest to the number that rounds to it, if any does. -/
def Binary.onGrid? (b : Binary) (grid : Int) : Option Decimal :=
  let s := b.scale grid
  let below := s.value / s.unit
  let rest := s.value % s.unit
  let preferBelow := 2 * rest < s.unit || (2 * rest == s.unit && below % 2 == 0)
  match b.rounds s below, b.rounds s (below + 1) with
  | true, true => some ⟨if preferBelow then below else below + 1, grid⟩
  | true, false => some ⟨below, grid⟩
  | false, true => some ⟨below + 1, grid⟩
  | false, false => none

/-- The first hit on the grids of `used + 1`, `used + 2`, … digits. -/
def Binary.search (b : Binary) (leading : Int) : Nat → Nat → Option Decimal
  | _, 0 => none
  | used, fuel + 1 =>
    match b.onGrid? (leading - used) with
    | some d => some d
    | none => b.search leading (used + 1) fuel

/-- The shortest decimal that rounds to the number. Seventeen digits tell all binary64 numbers
apart. -/
def Binary.shortest (b : Binary) : Decimal :=
  let leading := leadingExponent (b.mantissa * numeratorPower 2 b.exponent)
    (denominatorPower 2 b.exponent)
  (b.search leading 0 17).getD ⟨b.mantissa, 0⟩

end Decimal

end PackToMod
