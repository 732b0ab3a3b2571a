import PackToMod.Build.Locations
import PackToMod.Build.Ranges
import PackToMod.Build.Tags

/-!
# Declaring selectors

The arguments of a selector are applied to its query in order. Constants that an argument refers to
are declared on the way, and stay declared if a later argument turns out to be unusable.
-/

namespace PackToMod

inductive SelectorKey where
  | x
  | y
  | z
  | dx
  | dy
  | dz
  | tag
  | distance
  | xRotation
  | yRotation
  | type
  | gamemode
  | advancements
  | predicate
  | name
  | level
  | sort
  | nbt
  | scores
  | team
  deriving DecidableEq, Repr

def SelectorKey.names : List (String × SelectorKey) :=
  [("x", x), ("y", y), ("z", z), ("dx", dx), ("dy", dy), ("dz", dz), ("tag", tag),
    ("distance", distance), ("x_rotation", xRotation), ("y_rotation", yRotation), ("type", type),
    ("gamemode", gamemode), ("advancements", advancements), ("predicate", predicate),
    ("name", name), ("level", level), ("sort", sort), ("nbt", nbt), ("scores", scores),
    ("team", team)]

def SelectorKey.ofText? (s : String) : Option SelectorKey :=
  names.lookup s

/-- The query that the variable of a selector starts with. -/
def Query.ofVariable (players : Bool) (name : String) : Query :=
  let q : Query := { includesEntities := !players, usesSelector := true }
  if name = "a" then { q with includesEntities := false }
  else if name = "p" then
    { q with
      includesEntities := false, singleResult := true, worldLimited := true, order := .nearest }
  else if name = "r" then { q with includesEntities := false, order := .random }
  else if name = "s" then { q with currentEntity := true }
  else if name = "n" then
    { q with singleResult := true, worldLimited := true, order := .nearest }
  else q

def Scalar.present? : Scalar → Option Scalar
  | .missing => none
  | s => some s

namespace SelectorArgument

def scalar (a : SelectorArgument Node) : BuildM Scalar :=
  BuildM.require .noSuchPart a.value.value?

/-- Whether an argument asks for players by their entity type. -/
def asksForPlayers (a : SelectorArgument Node) (l : ResourceLocation) : Bool :=
  !a.inverted && l.path = "player" && (l.domain = none || l.domain = some "minecraft")

end SelectorArgument

/-- The progress of the player in the advancement with the given constant. -/
def progressText (location : String) : String :=
  "entity.getAdvancements().getOrStartProgress(Objects.requireNonNull("
    ++ "entity.getServer().getAdvancements().tree().get(" ++ location ++ ")).holder())"

/-- The test of an advancement. Criteria are not told apart: both lists stay empty. -/
def advancementPredicate (location : String) : AdvancementTest → EntityPredicate
  | .done expected =>
    { playersOnly := true, inverted := expected, test := progressText location ++ ".isDone()" }
  | .criteria _ =>
    { playersOnly := true
      preparation :=
        "\n                                final boolean[] valid = \x7btrue\x7d;"
          ++ "\n                                var completed = List.of();"
          ++ "\n                                var unfinished = List.of();"
          ++ "\n                                " ++ progressText location
          ++ ".getCompletedCriteria().forEach(it -> \x7b"
          ++ "\n                                    if (!valid[0]) return;"
          ++ "\n                                    valid[0] = completed.contains(it) || "
          ++ "!unfinished.contains(it);"
          ++ "\n                                \x7d);"
          ++ "\n                                "
      test := "valid" }

/-- The test of a score, by the constant of its range. -/
def scorePredicate (objective range : String) : EntityPredicate :=
  { test := range ++ ".matches(entity.getServer().getScoreboard().getPlayerScoreInfo(entity, "
      ++ "entity.getServer().getScoreboard().getObjective(\"" ++ objective ++ "\")).value())" }

def teamPredicate : Scalar → EntityPredicate
  | .missing => { test := "entity.getTeam() == null" }
  | team =>
    { test := "entity.getTeam() != null && entity.getTeam().getName().equals(\""
        ++ team.render ++ "\")" }

/-- The test of an entity's type, by the constant of the type or of the tag of types. -/
def typePredicate (inverted isTag : Bool) (location : String) : EntityPredicate :=
  let set := if isTag then "TagKey.create(Registries.ENTITY_TYPE, " ++ location ++ ")"
    else "HolderSet.direct(Holder.direct(BuiltInRegistries.ENTITY_TYPE.get(" ++ location ++ ")))"
  { inverted, test := "entity.getType().is(" ++ set ++ ")" }

namespace Query

def requireAdvancements (q : Query) :
    List (Node × AdvancementTest) → BuildM Query
  | [] => pure q
  | (location, test) :: entries => do
    let location ← location.declareLocation
    (q.require (advancementPredicate location test)).requireAdvancements entries

def requireScores (q : Query) : List (String × Node) → BuildM Query
  | [] => pure q
  | (objective, range) :: entries => do
    let range ← range.declareRange .ints
    (q.require (scorePredicate objective range)).requireScores entries

/-- The order that a sort argument asks for. Sorting by distance keeps to one world. -/
def sortBy (q : Query) (order : Scalar) : Except Fault Query :=
  match order.text? with
  | some "nearest" => .ok { q with order := .nearest, worldLimited := true }
  | some "furthest" => .ok { q with order := .furthest, worldLimited := true }
  | some "arbitrary" => .ok { q with order := .arbitrary }
  | some "random" => .ok { q with order := .random }
  | _ => .error .badSortOrder

/-- Applies one argument with a known key. -/
def applyKey (q : Query) (a : SelectorArgument Node) : SelectorKey → BuildM Query
  | .x => do return { q with x := some (← a.scalar), worldLimited := true }
  | .y => do return { q with y := some (← a.scalar), worldLimited := true }
  | .z => do return { q with z := some (← a.scalar), worldLimited := true }
  | .dx => do return { q with dx := (← a.scalar).present?, worldLimited := true }
  | .dy => do return { q with dy := (← a.scalar).present?, worldLimited := true }
  | .dz => do return { q with dz := (← a.scalar).present?, worldLimited := true }
  | .tag => do
    let name ← a.scalar
    return q.require
      { inverted := a.inverted, test := "entity.getTags().contains(\"" ++ name.render ++ "\")" }
  | .distance => do
    let range ← a.value.declareRange .doubles
    return { q with distance := some range, worldLimited := true }
  | .xRotation => do
    let range ← a.value.declareRange .doubles
    return q.require { test := range ++ ".matches(entity.getXRot())" }
  | .yRotation => do
    let range ← a.value.declareRange .doubles
    return q.require { test := range ++ ".matches(entity.getYRot())" }
  | .type => do
    let location ← BuildM.require .noSuchPart a.value.location?
    if a.asksForPlayers location then return { q with includesEntities := false }
    else
      return q.require (typePredicate a.inverted location.isTag (← declareLocation location))
  | .gamemode => do
    let mode ← a.scalar
    return q.require
      { playersOnly := true
        inverted := a.inverted
        test := "entity.gameMode.getGameModeForPlayer() == GameType.byName(\"" ++ mode.render
          ++ "\")" }
  | .advancements => do
    match a.value with
    | .advancements _ entries => q.requireAdvancements entries
    | _ => throw .noSuchPart
  | .predicate => throw .predicateArgument
  | .name => do
    let name ← a.scalar
    return q.require
      { inverted := a.inverted
        test := "entity.getName().getString().equals(\"" ++ name.render ++ "\")" }
  | .level => do
    let range ← a.value.declareRange .doubles
    return q.require { playersOnly := true, test := range ++ ".matches(entity.experienceLevel)" }
  | .sort => do BuildM.ofExcept id (q.sortBy (← a.scalar))
  | .nbt => do
    let tag ← a.value.declareTag
    return q.require
      { test := "nbtMatches(new EntityDataAccessor(entity).getData(), " ++ tag.symbol ++ ")" }
  | .scores => do
    match a.value with
    | .scores _ entries => q.requireScores entries
    | _ => throw .noSuchPart
  | .team => do return q.require (teamPredicate (← a.scalar))

def applyArgument (q : Query) (a : SelectorArgument Node) : BuildM Query := do
  q.applyKey a (← BuildM.require (.unknownSelectorKey a.key) (SelectorKey.ofText? a.key))

def applyArguments (q : Query) : List (SelectorArgument Node) → BuildM Query
  | [] => pure q
  | a :: rest => do (← q.applyArgument a).applyArguments rest

end Query

/-- The query of a selector, a player name or an entity identifier. -/
def Node.query (players : Bool) : Node → BuildM Query
  | selector _ target arguments => (Query.ofVariable players target).applyArguments arguments
  | word _ .playerName name =>
    pure { includesEntities := !players, playerName := some name }
  | uuid _ value => pure { includesEntities := !players, entityId := some value }
  | _ => throw .notASelector

/-- The expression that finds the entities of a selector, whose constant is registered unless its
text is registered already. A new constant is searched as its query says, a registered one as
`players` says. -/
def Node.find (node : Node) (single players : Bool) : BuildM String := do
  let key ← node.key
  match (← get).selectors.get? key with
  | some constant => return constant.find single players
  | none =>
    let n ← BuildM.fresh
    let q ← node.query players
    let constant : SelectorConstant := ⟨n, q, ← BuildM.ofExcept id q.box⟩
    modify fun b => { b with selectors := b.selectors.set key constant }
    modify fun b => { b with staticSelectors := b.staticSelectors.set key constant }
    return constant.find single (!q.includesEntities)

end PackToMod
