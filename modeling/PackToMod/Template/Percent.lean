import PackToMod.Number
import PackToMod.Text.Quoted
import PackToMod.Uuid

/-!
# Percent templates

A percent template holds one directive, a percent sign with a conversion letter, for its one
argument; a doubled percent sign stands for itself. Templates are made by joining fixed text with
text from commands, so a percent sign in the latter counts as well: it may take the argument away
from the directive that was meant to have it, or start a directive that does not exist.

The scanner is a machine over the characters. A directive is a run of flags, a width, a precision,
a length letter and the conversion, each but the last optional. Every template of this library
brings its own directive, so a second one always ends in an error; for that reason widths and
precisions are read and checked, and have no effect on the text.
-/

namespace PackToMod

namespace Percent

/-- What a template is filled with. -/
inductive Argument where
  | text (s : String)
  | number (n : Number)
  | uuid (u : Uuid)
  | missing

inductive Error where
  /-- A directive finds the argument already used. -/
  | noArgumentLeft
  /-- No directive has used the argument. -/
  | unusedArgument
  /-- A directive asks for a part of the argument by name. -/
  | namedPart
  /-- The argument does not fit the conversion. -/
  | wrongType
  /-- The text ends inside a directive. -/
  | incomplete
  /-- The conversion letter does not exist. -/
  | unknownConversion
  /-- A width or precision has too many digits. -/
  | tooManyDigits
  /-- A directive is too wide to be filled. -/
  | tooWide
  /-- A number does not fit where it is used. -/
  | outOfRange
  | number (e : NumberError)
  deriving DecidableEq, Repr

/-- The width and the precision that a directive gives in digits; zero if it gives none. -/
structure Measure where
  width : Nat := 0
  precision : Nat := 0
  deriving DecidableEq, Repr

/-- How far a directive has been read. -/
inductive Stage where
  | text
  | opened
  | flags
  | width (n : Nat)
  | point (m : Measure)
  | precisionStart (m : Measure)
  | precision (m : Measure)
  | length (m : Measure)
  | conversion (m : Measure)
  deriving DecidableEq, Repr

def widthLimit : Nat := Nat.pow 2 63 - 1

def precisionLimit : Nat := Nat.pow 2 31 - 1

/-- Directives up to this width can be filled. -/
def fillLimit : Nat := Nat.pow 2 32

/-- The largest precision with which integers can be written. -/
def integerPrecisionLimit : Nat := Nat.pow 2 31 - 4

def isFlag (c : Char) : Bool :=
  c = '-' || c = '+' || c = ' ' || c = '#' || c = '0'

def digit? (c : Char) : Option Nat :=
  if '0' ≤ c ∧ c ≤ '9' then some (c.toNat - '0'.toNat) else none

/-- A further digit of a width or precision. -/
def extend (limit n d : Nat) : Except Error Nat :=
  if 10 * n + d ≤ limit then .ok (10 * n + d) else .error .tooManyDigits

/-- Takes a width or precision, of either sign, from the argument. -/
def starred (limit : Nat) : Option Argument → Except Error Unit
  | none => .error .noArgumentLeft
  | some (.number (.integer n)) =>
    if -(limit + 1 : Int) ≤ n ∧ n ≤ limit then .ok () else .error .outOfRange
  | some _ => .error .wrongType

/-- The digits of an integer in another base, the sign first. -/
def inBase (base : Nat) (n : Int) : List Char :=
  let digits := Nat.toDigits base n.natAbs
  if n < 0 then '-' :: digits else digits

/-- What the conversion letter `c` makes of the argument. -/
def convert (c : Char) (argument : Argument) : Except Error (List Char) :=
  if c = 's' ∨ c = 'r' ∨ c = 'a' then
    match argument with
    | .text s =>
      if c = 's' then .ok s.toList
      else if c = 'r' then .ok (Text.Quoted.encode s).toList
      else .ok (Text.Quoted.encodeWith (fun c => 0x20 ≤ c.toNat && c.toNat < 0x7F) s.toList)
    | .number n => .ok n.text.toList
    | .uuid u => .ok u.text.toList
    | .missing => .ok "None".toList
  else if c = 'd' ∨ c = 'i' ∨ c = 'u' then
    match argument with
    | .number n => match n.truncate with
      | .ok k => .ok (toString k).toList
      | .error e => .error (.number e)
    | .uuid u => .ok (toString u.value).toList
    | _ => .error .wrongType
  else if c = 'o' ∨ c = 'x' ∨ c = 'X' then
    match argument with
    | .number (.integer n) =>
      let digits := inBase (if c = 'o' then 8 else 16) n
      .ok (if c = 'X' then digits.map Char.toUpper else digits)
    | _ => .error .wrongType
  else if c ∈ ['e', 'E', 'f', 'F', 'g', 'G'] then
    match argument with
    | .number n => if n.isBinary64 then .ok n.text.toList else .error .outOfRange
    | _ => .error .wrongType
  else if c = 'c' then
    match argument with
    | .text s => if s.length = 1 then .ok s.toList else .error .wrongType
    | .number (.integer n) =>
      if 0 ≤ n ∧ n < 0x110000 then .ok [Char.ofNat n.toNat] else .error .outOfRange
    | _ => .error .wrongType
  else .error .unknownConversion

def isIntegerConversion (c : Char) : Bool :=
  c ∈ ['d', 'i', 'u', 'o', 'x', 'X']

/-- The text of a whole directive, whose measure is checked after the argument. -/
def directive (m : Measure) (c : Char) (argument : Argument) : Except Error (List Char) := do
  let text ← convert c argument
  if isIntegerConversion c && integerPrecisionLimit < m.precision then .error .outOfRange
  else if fillLimit < m.width then .error .tooWide
  else return text

/-- The effect of one character inside a directive: a further stage, with the argument that is left,
or the text of the finished directive. -/
inductive Move where
  | stay (stage : Stage) (argument : Option Argument)
  | finish (text : List Char) (argument : Option Argument)

def readConversion (m : Measure) (argument : Option Argument) (c : Char) : Except Error Move :=
  match argument with
  | none => .error .noArgumentLeft
  | some a => do return .finish (← directive m c a) none

def readLength (m : Measure) (argument : Option Argument) (c : Char) : Except Error Move :=
  if c = 'h' ∨ c = 'l' ∨ c = 'L' then .ok (.stay (.conversion m) argument)
  else readConversion m argument c

def readPoint (m : Measure) (argument : Option Argument) (c : Char) : Except Error Move :=
  if c = '.' then .ok (.stay (.precisionStart m) argument) else readLength m argument c

def readWidth (argument : Option Argument) (c : Char) : Except Error Move :=
  if c = '*' then do starred widthLimit argument; return .stay (.point {}) none
  else match digit? c with
    | some d => .ok (.stay (.width d) argument)
    | none => readPoint {} argument c

def readFlags (argument : Option Argument) (c : Char) : Except Error Move :=
  if isFlag c then .ok (.stay .flags argument) else readWidth argument c

/-- One character in a given stage. -/
def read (argument : Option Argument) (c : Char) : Stage → Except Error Move
  | .text => .ok (if c = '%' then .stay .opened argument else .finish [c] argument)
  | .opened =>
    if c = '%' then .ok (.finish ['%'] argument)
    else if c = '(' then .error .namedPart
    else readFlags argument c
  | .flags => readFlags argument c
  | .width n => match digit? c with
    | some d => do return .stay (.width (← extend widthLimit n d)) argument
    | none => readPoint { width := n } argument c
  | .point m => readPoint m argument c
  | .precisionStart m =>
    if c = '*' then do starred precisionLimit argument; return .stay (.length m) none
    else match digit? c with
      | some d => .ok (.stay (.precision { m with precision := d }) argument)
      | none => readLength m argument c
  | .precision m => match digit? c with
    | some d => do
      return .stay (.precision { m with precision := ← extend precisionLimit m.precision d })
        argument
    | none => readLength m argument c
  | .length m => readLength m argument c
  | .conversion m => readConversion m argument c

/-- Reads the rest of a template from a stage on. -/
def scan : Stage → Option Argument → List Char → Except Error (List Char)
  | .text, none, [] => .ok []
  | .text, some _, [] => .error .unusedArgument
  | _, _, [] => .error .incomplete
  | stage, argument, c :: cs => do
    match ← read argument c stage with
    | .stay stage argument => scan stage argument cs
    | .finish text argument => return text ++ (← scan .text argument cs)

/-- A template filled with its argument. -/
def fill (template : String) (argument : Argument) : Except Error String := do
  return String.ofList (← scan .text (some argument) template.toList)

end Percent

end PackToMod
