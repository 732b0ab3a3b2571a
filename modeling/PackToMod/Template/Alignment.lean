import PackToMod.Text.Digit

/-!
# Alignment of a field

The part of a template field after its colon says how the value stands in the field: a fill
character and an alignment, a width, the greatest number of characters, and the letter `s`, all
optional.
-/

namespace PackToMod

inductive Side where
  | left
  | right
  | center
  deriving DecidableEq, Repr

structure Alignment where
  fill : Char
  side : Side
  width : Nat
  limit : Option Nat
  deriving DecidableEq, Repr

namespace Alignment

/-- The alignment that a sign stands for. The fourth sign, for padding between the sign and the
digits of a number, is none for text. -/
def side? (c : Char) : Option Side :=
  if c = '<' then some .left
  else if c = '>' then some .right
  else if c = '^' then some .center
  else none

def isSign (c : Char) : Bool :=
  c = '=' || (side? c).isSome

def isDigit (c : Char) : Bool :=
  (Text.digitValue? c).isSome

/-- The digits at the front of a text as a number, if there are any, and the rest. Digits that are
too large a number make the whole unreadable. -/
def leadingNumber? (s : List Char) : Option (Option Nat × List Char) :=
  match Text.Numeral.ofText (s.takeWhile isDigit) with
  | .number n => some (some n, s.dropWhile isDigit)
  | .other => some (none, s)
  | .tooLarge => none

/-- Fill character and alignment sign at the front of a field, and the rest. -/
def leadingSign : List Char → Option Char × Option Char × List Char
  | fill :: sign :: rest =>
    if isSign sign then (some fill, some sign, rest)
    else if isSign fill then (none, some fill, sign :: rest)
    else (none, none, fill :: sign :: rest)
  | [sign] => if isSign sign then (none, some sign, []) else (none, none, [sign])
  | [] => (none, none, [])

/-- The greatest number of characters, after a point. -/
def trailingLimit : List Char → Option (Option Nat × List Char)
  | '.' :: rest =>
    match leadingNumber? rest with
    | some (some limit, rest) => some (some limit, rest)
    | _ => none
  | rest => some (none, rest)

/-- Reads an alignment. Signs, groupings and letters that belong to numbers are refused. -/
def ofText? (s : List Char) : Option Alignment := do
  let (fill, sign, rest) := leadingSign s
  let side ← match sign with
    | none => some .left
    | some c => side? c
  let (fill, rest) := match fill, rest with
    | none, '0' :: rest => ('0', rest)
    | _, _ => (fill.getD ' ', rest)
  let (width, rest) ← leadingNumber? rest
  let (limit, rest) ← trailingLimit rest
  if rest = [] ∨ rest = ['s'] then some ⟨fill, side, width.getD 0, limit⟩ else none

/-- One of some characters at the front of a text, if it is there, and the rest. -/
def leadingOf (choices : List Char) : List Char → Option Char × List Char
  | [] => (none, [])
  | c :: cs => if c ∈ choices then (some c, cs) else (none, c :: cs)

/-- Reads an alignment of an integer, of which only the width is kept. After fill and alignment may
stand a sign, two marks, the width, a grouping, a number of places and a letter. Places and the
first mark ask for a letter of fractions; the letter `c`, for a character, takes no sign and no
mark. -/
def integerWidth? (s : List Char) : Option Nat := do
  let (_, _, rest) := leadingSign s
  let (sign, rest) := leadingOf ['+', '-', ' '] rest
  let (zero, rest) := leadingOf ['z'] rest
  let (mark, rest) := leadingOf ['#'] rest
  let (width, rest) ← leadingNumber? rest
  let (grouping, rest) := leadingOf [',', '_'] rest
  let (places, rest) ← trailingLimit rest
  let fractional := zero.isSome || places.isSome
  let accepted := match rest with
    | [] | ['d'] => !fractional
    | [c] =>
      if c ∈ ['b', 'o', 'x', 'X'] then !fractional && grouping ≠ some ','
      else if c = 'n' then !fractional && grouping.isNone
      else if c = 'c' then !fractional && grouping.isNone && sign.isNone && mark.isNone
      else c ∈ ['e', 'E', 'f', 'F', 'g', 'G', '%']
    | _ => false
  if accepted then some (width.getD 0) else none

/-- Text cut to the limit and padded to the width. -/
def apply (a : Alignment) (s : List Char) : List Char :=
  let s := match a.limit with
    | none => s
    | some n => s.take n
  let gap := a.width - s.length
  let before := match a.side with
    | .left => 0
    | .right => gap
    | .center => gap / 2
  List.replicate before a.fill ++ s ++ List.replicate (gap - before) a.fill

end Alignment

end PackToMod
