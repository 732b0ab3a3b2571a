import PackToMod.Decimal.Layout

/-!
# Numbers

A number in a command is an exact integer or a binary64 value, and it is written out again as what
it is: an integer by its digits, a binary64 value by its shortest decimal.
-/

namespace PackToMod

inductive Number where
  | integer (n : Int)
  | real (x : Float)

/-- Why an operation on a number has no result. -/
inductive NumberError where
  /-- An infinite value has no integer part. -/
  | infinite
  /-- Not-a-number has no integer part. -/
  | notANumber
  /-- The square of a finite value is out of range. -/
  | squareOverflow
  /-- An integer has too many digits to be written. -/
  | tooManyDigits
  deriving DecidableEq, Repr

/-- What a binary64 value stands for. -/
inductive Binary64 where
  | nan
  | infinite (negative : Bool)
  | finite (negative : Bool) (mantissa : Nat) (exponent : Int)
  deriving DecidableEq, Repr

/-- Reads sign, exponent and fraction off the bits of a value. -/
def Binary64.ofBits (bits : UInt64) : Binary64 :=
  let negative := bits >>> 63 == 1
  let biased := ((bits >>> 52) &&& 0x7FF).toNat
  let fraction := (bits &&& 0xFFFFFFFFFFFFF).toNat
  if biased = 0x7FF then if fraction = 0 then .infinite negative else .nan
  else if biased = 0 then .finite negative fraction (-1074)
  else .finite negative (fraction + Nat.pow 2 52) (biased - 1075)

def Binary64.ofFloat (x : Float) : Binary64 :=
  ofBits x.toBits

/-- Numbers are positional from `0.0001` up to sixteen digits before the point. -/
def Number.layout : Decimal.Layout := ⟨-4, 16, 2⟩

/-- The text of a positive binary64 value. A value at the foot of its binade, other than the
smallest one, has its lower neighbour half a step away. -/
def Binary64.magnitudeText (mantissa : Nat) (exponent : Int) : List Char :=
  if mantissa = 0 then ['0', '.', '0']
  else
    let narrow := mantissa = Nat.pow 2 52 && -1074 < exponent
    Number.layout.text (Decimal.Binary.shortest ⟨mantissa, exponent, narrow⟩)

def Binary64.text : Binary64 → List Char
  | nan => ['n', 'a', 'n']
  | infinite negative => if negative then ['-', 'i', 'n', 'f'] else ['i', 'n', 'f']
  | finite negative mantissa exponent =>
    if negative then '-' :: magnitudeText mantissa exponent else magnitudeText mantissa exponent

/-- The integer part of `mantissa * 2 ^ exponent`, toward zero. -/
def Binary64.truncate : Binary64 → Except NumberError Int
  | nan => .error .notANumber
  | infinite _ => .error .infinite
  | finite negative mantissa exponent =>
    let whole := mantissa * Decimal.numeratorPower 2 exponent / Decimal.denominatorPower 2 exponent
    .ok (if negative then -(whole : Int) else whole)

namespace Number

def text : Number → String
  | integer n => toString n
  | real x => String.ofList (Binary64.ofFloat x).text

def truncate : Number → Except NumberError Int
  | integer n => .ok n
  | real x => (Binary64.ofFloat x).truncate

/-- Whether a number is a binary64 value or rounds to a finite one. -/
def isBinary64 : Number → Bool
  | integer n => n.natAbs < Nat.pow 2 1024 - Nat.pow 2 970
  | real _ => true

/-- The digits that an integer can be written with. -/
def digitLimit : Nat := 4300

/-- An integer that is to be written. -/
def ofComputed (n : Int) : Except NumberError Number :=
  if n.natAbs < Nat.pow 10 digitLimit then .ok (integer n) else .error .tooManyDigits

/-- The square of a number. A finite value whose square is infinite has none. -/
def square : Number → Except NumberError Number
  | integer n => ofComputed (n * n)
  | real x =>
    if x.isNaN || x.isInf then .ok (real x.abs)
    else
      let y := Float.pow x.abs 2
      if y.isInf then .error .squareOverflow else .ok (real y)

def succ : Number → Except NumberError Number
  | integer n => ofComputed (n + 1)
  | real x => .ok (real (x + 1))

end Number

end PackToMod
