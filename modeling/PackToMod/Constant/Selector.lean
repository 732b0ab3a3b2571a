import PackToMod.Fault
import PackToMod.Node
import PackToMod.Text.Split

/-!
# Selector constants

A selector becomes a query for entities: which entities it considers, where, in which order, and the
predicates that each of them has to pass.
-/

namespace PackToMod

inductive SortOrder where
  | unsorted
  | nearest
  | furthest
  | arbitrary
  | random
  deriving DecidableEq, Repr

def SortOrder.text : SortOrder → String
  | unsorted => "null"
  | nearest => "Sort.NEAREST"
  | furthest => "Sort.FURTHEST"
  | arbitrary => "Sort.ARBITRARY"
  | random => "Sort.RANDOM"

/-- A test of an entity. A test of players fails for every other entity, and may prepare its test
with some statements. -/
structure EntityPredicate where
  playersOnly : Bool := false
  inverted : Bool := false
  preparation : String := ""
  test : String
  deriving DecidableEq, Repr

def EntityPredicate.text (p : EntityPredicate) : String :=
  let test := (if p.inverted then "!" else "") ++ p.test
  if p.playersOnly then
    "entity -> \x7b\n            if (entity instanceof ServerPlayer) \x7b\n                "
      ++ p.preparation ++ "\n                return " ++ test
      ++ ";\n            \x7d\n            return false;\n        \x7d"
  else "entity -> " ++ test

/-- The extents of a box from the position of the query. -/
structure Box where
  x : Number
  y : Number
  z : Number

structure Query where
  singleResult : Bool := false
  includesEntities : Bool := true
  worldLimited : Bool := false
  predicates : List EntityPredicate := []
  distance : Option String := none
  x : Option Scalar := none
  y : Option Scalar := none
  z : Option Scalar := none
  dx : Option Scalar := none
  dy : Option Scalar := none
  dz : Option Scalar := none
  order : SortOrder := .unsorted
  currentEntity : Bool := false
  playerName : Option String := none
  entityId : Option Uuid := none
  usesSelector : Bool := false

namespace Query

/-- One extent of a box: a block more than what is asked for, which is nothing if it is missing. -/
def extent : Option Scalar → Except Fault Number
  | none => .ok (.integer 1)
  | some s => match s.number? with
    | none => .error .badExtent
    | some n => match n.succ with
      | .ok n => .ok n
      | .error e => .error (.number e)

/-- The box of a query that gives at least one extent. -/
def box (q : Query) : Except Fault (Option Box) :=
  if q.dx.isNone && q.dy.isNone && q.dz.isNone then .ok none
  else do return some ⟨← extent q.dx, ← extent q.dy, ← extent q.dz⟩

def require (q : Query) (p : EntityPredicate) : Query :=
  { q with predicates := q.predicates ++ [p] }

end Query

def Box.text (b : Box) : String :=
  "new AABB(Vec3.ZERO, new Vec3(" ++ b.x.text ++ ", " ++ b.y.text ++ ", " ++ b.z.text ++ "))"

structure SelectorConstant where
  number : Nat
  query : Query
  box : Option Box

/-- The lookup for the wanted number and sort of entities. -/
def finder (single players : Bool) : String :=
  match single, players with
  | true, false => "findSingleEntity"
  | true, true => "findSinglePlayer"
  | false, false => "findEntities"
  | false, true => "findPlayers"

namespace SelectorConstant

def symbol (s : SelectorConstant) : String :=
  "Selector_" ++ toString s.number

def declaration (s : SelectorConstant) : String :=
  "private static final EntitySelector " ++ s.symbol ++ ";\n"

/-- The expression that finds entities through the constant. -/
def find (s : SelectorConstant) (single players : Bool) : String :=
  s.symbol ++ "." ++ finder single players ++ "(source)"

def flagText (b : Bool) : String := if b then "true" else "false"

def initialiser (s : SelectorConstant) : String :=
  let q := s.query
  let position := fun (value : Option Scalar) (default : String) =>
    (value.map Scalar.render).getD default
  s.symbol ++ " = new EntitySelector(\n                "
    ++ (if q.singleResult then "1" else "EntitySelector.INFINITE")
    ++ ", " ++ flagText q.includesEntities ++ ", " ++ flagText q.worldLimited
    ++ ", List.of(" ++ Text.sepBy ", " (q.predicates.map EntityPredicate.text) ++ "),\n"
    ++ "                " ++ q.distance.getD "MinMaxBounds.Doubles.ANY"
    ++ ", old -> new Vec3(" ++ position q.x "old.x" ++ ", " ++ position q.y "old.y"
    ++ ", " ++ position q.z "old.z" ++ "), " ++ (s.box.map Box.text).getD "null"
    ++ ", " ++ q.order.text ++ ", " ++ flagText q.currentEntity ++ ",\n"
    ++ "                " ++ (q.playerName.map fun name => "\"" ++ name ++ "\"").getD "null"
    ++ ", " ++ (q.entityId.map fun id => "UUID.fromString(\"" ++ id.text ++ "\")").getD "null"
    ++ ", null, " ++ flagText q.usesSelector ++ "\n            );\n"

end SelectorConstant

end PackToMod
