import PackToMod.Number
import PackToMod.Uuid

/-!
# Syntax trees of commands

A command of a data pack arrives parsed. Every node carries the text it was written as: constants
are shared by that text, and comments in the emitted code quote it. The text is not derived from
the rest of the node. A tree may have gaps: at any place of a node nothing may stand.
-/

namespace PackToMod

structure ResourceLocation where
  text : String
  isTag : Bool
  domain : Option String
  path : String

/-- An interval of numbers; a missing bound is open. -/
structure Range where
  text : String
  min : Option Number
  max : Option Number

/-- What a coordinate is measured from. -/
inductive Origin where
  | absolute
  | relative
  | facing
  | unknown
  deriving DecidableEq, Repr

structure Coordinate where
  origin : Origin
  value : Number

/-- A single value of a tag. `unknown` is a text of a type that tags of commands do not have. -/
inductive TagScalar where
  | byte (n : Int)
  | short (n : Int)
  | int (n : Int)
  | long (n : Int)
  | float (x : Float)
  | double (x : Float)
  | string (s : String)
  | unknown (s : String)

/-- What kind of word a leaf of the tree is. -/
inductive WordKind where
  | string
  | objective
  | playerName
  | swizzle
  | sortOrder
  | gamemode
  | word
  | entityAnchor
  | advancementPredicate
  | messageText
  | heightmap
  | lineText
  | lineVariable
  | pathKey
  | literal
  deriving DecidableEq, Repr

/-- What an advancement is asked for: that it is done or not, or single criteria of it. -/
inductive AdvancementTest where
  | done (expected : Bool)
  | criteria (expected : List (String × Bool))

structure SelectorArgument (ν : Type) where
  key : String
  inverted : Bool
  value : ν

inductive Node where
  /-- Nothing stands at this place. -/
  | absent
  | word (text : String) (kind : WordKind) (value : String)
  | team (text : String) (value : Option String)
  | flag (text : String) (value : Bool)
  | number (text : String) (value : Number)
  | uuid (text : String) (value : Uuid)
  | coordinate (text : String) (value : Coordinate)
  | vector2 (text : String) (x y : Node)
  | vector3 (text : String) (x y z : Node)
  | range (value : Range)
  | location (value : ResourceLocation)
  | tagFlag (text : String) (value : Bool ⊕ Int)
  | tagScalar (text : String) (value : TagScalar)
  | tagList (text : String) (elements : List Node)
  | tagArray (text : String) (elements : List Node)
  | tagCompound (text : String) (entries : List (String × Node))
  | block (text : String) (identifier : Node) (states : List (String × String)) (data : Node)
  | itemStack (text : String) (identifier : Node) (components : List Node)
  | itemComponent (text : String) (key value : Node)
  | selector (text : String) (target : String) (arguments : List (SelectorArgument Node))
  | scores (text : String) (entries : List (String × Node))
  | advancements (text : String) (entries : List (Node × AdvancementTest))
  | message (text : String) (fragments : List Node)
  | tagPath (text : String) (components : List Node)
  | subscript (text : String) (index : Node)
  | command (text : String) (identifier : String) (arguments : List Node) (dump : String)
  | other (text : String)

/-- The value at a leaf. `nested` stands for a value that is a node itself. -/
inductive Scalar where
  | text (s : String)
  | flag (b : Bool)
  | number (n : Number)
  | uuid (u : Uuid)
  | tag (t : TagScalar)
  | missing
  | nested

/-- The number in a tag's value. -/
def TagScalar.number? : TagScalar → Option Number
  | byte n | short n | int n | long n => some (.integer n)
  | float x | double x => some (.real x)
  | string _ | unknown _ => none

/-- A value in text: a number is marked with its type. -/
def TagScalar.render : TagScalar → String
  | byte n => "Byte(" ++ toString n ++ ")"
  | short n => "Short(" ++ toString n ++ ")"
  | int n => "Int(" ++ toString n ++ ")"
  | long n => "Long(" ++ toString n ++ ")"
  | float x => "Float(" ++ (Number.real x).text ++ ")"
  | double x => "Double(" ++ (Number.real x).text ++ ")"
  | string s | unknown s => s

def TagScalar.text? : TagScalar → Option String
  | string s | unknown s => some s
  | _ => none

namespace Scalar

/-- The text that stands for a value in emitted code. -/
def render : Scalar → String
  | text s => s
  | flag b => if b then "True" else "False"
  | number n => n.text
  | uuid u => u.text
  | tag t => t.render
  | missing => "None"
  | nested => ""

/-- The value as a number; a flag counts as zero or one. -/
def number? : Scalar → Option Number
  | number n => some n
  | flag b => some (.integer (if b then 1 else 0))
  | tag t => t.number?
  | _ => none

def text? : Scalar → Option String
  | text s => some s
  | tag t => t.text?
  | _ => none

end Scalar

namespace Node

/-- The text of a node. Where nothing stands there is none. -/
def text? : Node → Option String
  | absent => none
  | word text .. | team text _ | flag text _ | number text _ | uuid text _ | coordinate text _
  | vector2 text .. | vector3 text .. | tagFlag text _ | tagScalar text _ | tagList text _
  | tagArray text _ | tagCompound text _ | block text .. | itemStack text .. | itemComponent text ..
  | selector text .. | scores text _ | advancements text _ | message text _ | tagPath text _
  | subscript text _ | command text .. | other text => some text
  | range r => some r.text
  | location l => some l.text

/-- The value of a node that has one. -/
def value? : Node → Option Scalar
  | word _ _ value => some (.text value)
  | team _ value => some (match value with | some s => .text s | none => .missing)
  | flag _ value => some (.flag value)
  | number _ value => some (.number value)
  | uuid _ value => some (.uuid value)
  | coordinate _ value => some (.number value.value)
  | tagFlag _ (.inl b) => some (.flag b)
  | tagFlag _ (.inr n) => some (.number (.integer n))
  | tagScalar _ value => some (.tag value)
  | itemComponent .. => some .nested
  | _ => none

def coordinate? : Node → Option Coordinate
  | coordinate _ c => some c
  | _ => none

def range? : Node → Option Range
  | range r => some r
  | _ => none

def location? : Node → Option ResourceLocation
  | location l => some l
  | _ => none

end Node

end PackToMod
