import PackToMod.Template.Alignment
import PackToMod.Template.Value

/-!
# Brace templates

A brace template holds fields between curly braces; a doubled brace stands for itself. A field names
an argument by its place, may go on to parts of it, and may end in a conversion letter after an
exclamation mark and an alignment after a colon. As with percent templates, braces that come in with
text from commands count.

The scanner is a machine over the characters, with the unfinished field in its mode.
-/

namespace PackToMod

namespace Braces

/-- How the fields seen so far have named their arguments. The two ways do not mix. -/
inductive Numbering where
  | undecided
  | counted (next : Nat)
  | explicit
  deriving DecidableEq, Repr

/-- Where the scanner is. Collected text is held in reverse. -/
inductive Mode where
  | text
  | opened
  | closed
  | name (name : List Char)
  | bracket (name : List Char)
  | exclaimed (name : List Char)
  | converted (name : List Char) (conversion : Char)
  | alignment (name : List Char) (conversion : Option Char) (depth : Nat) (text : List Char)
  deriving DecidableEq, Repr

/-- The conversion and the alignment of a complete field. -/
structure Field where
  name : List Char
  conversion : Option Char
  alignment : List Char
  deriving DecidableEq, Repr

/-- The place that the front of a field's name stands for. -/
def place (front : List Char) (numbering : Numbering) : Except Error (Nat × Numbering) :=
  if front.isEmpty then
    match numbering with
    | .undecided => .ok (0, .counted 1)
    | .counted next => .ok (next, .counted (next + 1))
    | .explicit => .error .malformed
  else match Text.Numeral.ofText front with
    | .other => .error (.unknownName (String.ofList front))
    | .tooLarge => .error .malformed
    | .number n => match numbering with
      | .counted _ => .error .malformed
      | _ => .ok (n, .explicit)

/-- Goes on from a value to its parts and items, as the rest of a field's name says. -/
def follow (v : Value) : Nat → List Char → Except Error Value
  | _, [] => .ok v
  | 0, _ => .error .malformed
  | fuel + 1, c :: cs =>
    if c = '.' then
      let isName := fun c : Char => c ≠ '.' && c ≠ '['
      let name := cs.takeWhile isName
      if name.isEmpty then .error .malformed
      else match v.part? (String.ofList name) with
        | none => .error .noSuchPart
        | some v => follow v fuel (cs.dropWhile isName)
    else if c = '[' then
      let key := cs.takeWhile (· ≠ ']')
      match cs.dropWhile (· ≠ ']'), Text.Numeral.ofText key with
      | [], _ | _, .tooLarge => .error .malformed
      | _ :: rest, .number n => do follow (← v.item (some n) key) fuel rest
      | _ :: rest, .other =>
        if key.isEmpty then .error .malformed else do follow (← v.item none key) fuel rest
    else .error .malformed

def isAscii (c : Char) : Bool :=
  0x20 ≤ c.toNat && c.toNat < 0x7F

/-- A value after its conversion: as it is, or a text, in which a text may be quoted. -/
def convert : Option Char → Value → Except Error Value
  | none, v => .ok v
  | some c, v =>
    if c = 's' then .ok (.text v.describe)
    else if c = 'r' ∨ c = 'a' then
      .ok <| .text <| match v with
        | .text s => Text.Quoted.encodeWith (if c = 'r' then Text.isPrintable else isAscii) s
        | v => v.describe
    else .error .malformed

/-- Fields up to this width can be filled. -/
def widthLimit : Nat := Nat.pow 2 32

/-- A value in a field. Texts can be aligned, and so can integers; other values stand as they are. -/
def align (alignment : List Char) (v : Value) : Except Error (List Char) :=
  if alignment.isEmpty then .ok v.describe
  else match v with
    | .text s => match Alignment.ofText? alignment with
      | none => .error .malformed
      | some a => if widthLimit < a.width then .error .tooWide else .ok (a.apply s)
    | .integer => match Alignment.integerWidth? alignment with
      | none => .error .malformed
      | some width => if widthLimit < width then .error .tooWide else .ok v.describe
    | _ => .error .wrongType

/-- Fills the fields inside an alignment. -/
abbrev Expansion := Numbering → List Char → Except Error (List Char × Numbering)

/-- The text of a complete field. -/
def fillField (expand : Expansion) (arguments : List Value) (numbering : Numbering) (f : Field) :
    Except Error (List Char × Numbering) := do
  let isFront := fun c : Char => c ≠ '.' && c ≠ '['
  let (n, numbering) ← place (f.name.takeWhile isFront) numbering
  let rest := f.name.dropWhile isFront
  match arguments[n]? with
  | none => .error .noSuchPlace
  | some v => do
    let v ← convert f.conversion (← follow v rest.length rest)
    if f.alignment.contains '{' then
      let (alignment, numbering) ← expand numbering f.alignment
      return (← align alignment v, numbering)
    else return (← align f.alignment v, numbering)

/-- The effect of one character: a further mode, with or without a character of text, or a complete
field. -/
inductive Move where
  | stay (mode : Mode)
  | emit (c : Char)
  | field (f : Field)

def readName (name : List Char) (c : Char) : Except Error Move :=
  if c = '{' then .error .malformed
  else if c = '[' then .ok (.stay (.bracket (c :: name)))
  else if c = '}' then .ok (.field ⟨name.reverse, none, []⟩)
  else if c = ':' then .ok (.stay (.alignment name none 1 []))
  else if c = '!' then .ok (.stay (.exclaimed name))
  else .ok (.stay (.name (c :: name)))

/-- One character in a given mode. -/
def read (c : Char) : Mode → Except Error Move
  | .text =>
    .ok (if c = '{' then .stay .opened else if c = '}' then .stay .closed else .emit c)
  | .opened => if c = '{' then .ok (.emit c) else readName [] c
  | .closed => if c = '}' then .ok (.emit c) else .error .malformed
  | .name name => readName name c
  | .bracket name => .ok (.stay (if c = ']' then .name (c :: name) else .bracket (c :: name)))
  | .exclaimed name => .ok (.stay (.converted name c))
  | .converted name conversion =>
    if c = '}' then .ok (.field ⟨name.reverse, some conversion, []⟩)
    else if c = ':' then .ok (.stay (.alignment name (some conversion) 1 []))
    else .error .malformed
  | .alignment name conversion depth text =>
    if c = '{' then .ok (.stay (.alignment name conversion (depth + 1) (c :: text)))
    else if c = '}' then
      if depth ≤ 1 then .ok (.field ⟨name.reverse, conversion, text.reverse⟩)
      else .ok (.stay (.alignment name conversion (depth - 1) (c :: text)))
    else .ok (.stay (.alignment name conversion depth (c :: text)))

/-- Reads the rest of a template from a mode on. -/
def scan (expand : Expansion) (arguments : List Value) :
    Mode → Numbering → List Char → Except Error (List Char × Numbering)
  | .text, numbering, [] => .ok ([], numbering)
  | _, _, [] => .error .malformed
  | mode, numbering, c :: cs => do
    match ← read c mode with
    | .stay mode => scan expand arguments mode numbering cs
    | .emit c =>
      let (text, numbering) ← scan expand arguments .text numbering cs
      return (c :: text, numbering)
    | .field f =>
      let (value, numbering) ← fillField expand arguments numbering f
      let (text, numbering) ← scan expand arguments .text numbering cs
      return (value ++ text, numbering)

/-- Fields may stand inside the alignment of a field, and no deeper. -/
def expansion (arguments : List Value) : Expansion :=
  scan (fun _ _ => .error .malformed) arguments .text

/-- A template filled with its arguments. -/
def fill (template : String) (arguments : List Value) : Except Error String := do
  let (text, _) ← scan (expansion arguments) arguments .text .undecided template.toList
  return String.ofList text

end Braces

end PackToMod
