import PackToMod.Build.BlockPredicates
import PackToMod.Command.Source

/-!
# Running commands in a changed context

`execute` is a chain: each command of it holds one clause, which changes the source or tests a
condition, and the rest of the chain as a subcommand. A clause may open blocks; they are closed
after the code of the subcommand.
-/

namespace PackToMod

open DraftM

/-- What a clause leaves behind. -/
inductive Outcome where
  /-- Nothing that a command could end with. -/
  | nothing
  /-- Code that stores a result, used when no subcommand follows. -/
  | result (code : String)
  /-- The subcommand has been compiled already. -/
  | finished
  deriving DecidableEq, Repr

structure Clause where
  closing : String := ""
  outcome : Outcome := .nothing
  deriving DecidableEq, Repr

/-- A statement that returns, changed to say that it has returned. -/
def wrapReturn (statement : String) : String :=
  String.ofList (Text.replaceFirst ";".toList ");".toList
    (Text.replaceFirst "return ".toList "return new MaybeReturn(true, ".toList statement.toList))

/-- Compiles a subcommand and calls it. A subcommand that may return is marked so, and its call is
kept only where the command around it returns as well. -/
def runSubcommand (o : Operand) : DraftM Clause := do
  let method ← onBuild o.compile
  if method.returns = .never then emit method.statement
  else
    let key ← onBuild o.node.key
    onBuild <| modify fun b =>
      { b with methods := b.methods.modify key fun m => { m with returns := .maybe } }
    if (← get).draft.returns = .always then emit (wrapReturn method.statement)
  modifyDraft fun d =>
    { d with needsDispatcher := method.needsDispatcher, needsMacros := method.needsMacros }
  return { outcome := .finished }

/-! ## Loops and guards -/

/-- Opens a loop over entities. -/
def forkCode (entities statement : String) : String :=
  entities ++ ".forEach(entity -> \x7b\n" ++ statement ++ "\n"

def forkClosing : String := "\x7d);\n"

/-- Makes the source the entity of an optional, and opens a guard for it. -/
def optionalCode (entity : String) : String :=
  "\n            source = source.withEntity(" ++ entity
    ++ ".orElse(null));\n            if (source.getEntity() != null) \x7b\n            "

def guardClosing : String := "\x7d\n"

def atEntity : String := "source = source.withEntity(entity);"

def atEntityPlace : String :=
  "source = source\n                    .withPosition(entity.position())"
    ++ "\n                    .withRotation(entity.getRotationVector())"
    ++ "\n                    .withLevel("
    ++ "entity.getServer().getLevel(entity.level().dimension()));\n"

/-- The entities that a clause selects. -/
def selectTargets : DraftM (Option String) :=
  operand "targets" fun node => node.find false false

/-- A clause that runs once for each selected entity. The comment on the selector is dropped. -/
def fork (statement : String) : DraftM Clause := do
  emitOver do return forkCode (shown (← selectTargets)) statement
  return { closing := forkClosing }

/-- A clause that runs once for each selected entity, below the comment on the selector. -/
def forkInto (statement : String) : DraftM Clause := do
  emit (forkCode (shown (← selectTargets)) statement)
  return { closing := forkClosing }

/-! ## Changing the source -/

/-- The coordinates of a position, each cut as often as its axis occurs. -/
structure Aligned where
  x : String := sourcePosition ++ ".x"
  y : String := sourcePosition ++ ".y"
  z : String := sourcePosition ++ ".z"

def Aligned.cut (a : Aligned) (axis : Char) : Except Fault Aligned :=
  if axis = 'x' then .ok { a with x := "(int) " ++ a.x }
  else if axis = 'y' then .ok { a with y := "(int) " ++ a.y }
  else if axis = 'z' then .ok { a with z := "(int) " ++ a.z }
  else .error (.unknownAxis axis)

def Aligned.cutAll (a : Aligned) : List Char → Except Fault Aligned
  | [] => .ok a
  | axis :: axes => do (← a.cut axis).cutAll axes

def align : DraftM Clause := do
  let axes ← operand "axes" fun node => BuildM.require .noSuchPart node.value?
  let axes ← onBuild (BuildM.require .noText (axes.bind Scalar.text?))
  let a ← onBuild (BuildM.ofExcept id (Aligned.cutAll {} axes.toList))
  emit ("source = source.withPosition(new Vec3(" ++ a.x ++ ", " ++ a.y ++ ", " ++ a.z ++ "));\n")
  return {}

def anchored : DraftM Clause := do
  let anchor ← operand "anchor" fun node => BuildM.ofExcept id node.anchor
  emit ("source = source.withAnchor(" ++ shown anchor ++ ");\n")
  return {}

/-- The dimension with the given constant. -/
def dimensionText (location : String) : String :=
  "source.getServer().getLevel(ResourceKey.create(Registries.DIMENSION, " ++ location ++ "))"

def inDimension : DraftM Clause := do
  let location ← operand "dimension" Node.declareLocation
  emit ("source = source.withLevel(" ++ dimensionText (shown location) ++ ");\n")
  return {}

/-- The entity that the source's entity has in a role, if it can have one. -/
def roleText (type getter : String) : String :=
  "(source.getEntityOrException() instanceof " ++ type ++ " e ? Optional.ofNullable(e." ++ getter
    ++ "()) : Optional.empty())"

/-- Code for an entity in a role, with the closing of what it opens. -/
def optionalRole (type getter : String) : Handler (DraftM (String × String)) :=
  .plain (pure (optionalCode (roleText type getter), guardClosing))

/-- Entities in a relation to the source's entity. -/
def relations : Handlers (DraftM (String × String)) :=
  [("attacker", optionalRole "Attackable" "getLastAttacker"),
    ("controller", .plain (pure
      ("source = source.withEntity(source.getEntityOrException().getControllingPassenger());\n",
        ""))),
    ("leasher", optionalRole "Leashable" "getLeashHolder"),
    ("origin", optionalRole "TraceableEntity" "getOwner"),
    ("owner", optionalRole "OwnableEntity" "getOwner"),
    ("passengers", .plain (pure
      (forkCode "source.getEntityOrException().getPassengers()" atEntity, forkClosing))),
    ("target", optionalRole "Targeting" "getTarget"),
    ("vehicle", .plain (pure
      ("source = source.withEntity(source.getEntityOrException().getVehicle());\n", "")))]

/-- A clause on a related entity. The comment on the relation is dropped. -/
def on : DraftM Clause := do
  let before := (← get).draft.output
  let (code, closing) ← onBuild (BuildM.require .noText (← next relations))
  modifyDraft fun d => { d with output := before ++ code }
  return { closing }

def positioned : DraftM Clause := do
  let clause ← next [
    ("pos", .operand fun o => do
      emit ("source = source.withPosition(" ++ (← o.node.sourceVector false)
        ++ ").withAnchor(EntityAnchorArgument.Anchor.FEET);\n")
      return {}),
    ("over", .plain do
      let map ← operand "heightmap" fun node => BuildM.ofExcept id node.heightmap
      emit ("source = source.withPosition(Vec3.atCenterOf(source.getLevel().getHeightmapPos("
        ++ shown map ++ ", new BlockPos(toVec3i(source.getPosition())))));\n")
      return {}),
    ("as", .plain (forkInto "source = source.withPosition(entity.position());\n"))]
  return clause.getD {}

def rotated : DraftM Clause := do
  let clause ← next [
    ("pos", .operand fun o => do
      let rotation ← onBuild (BuildM.ofExcept id (o.node.rotation sourceRotation))
      emit ("source = source.withRotation(" ++ rotation ++ ");\n")
      return {}),
    ("as", .plain (forkInto "source = source.withRotation(entity.getRotationVector());\n"))]
  return clause.getD {}

/-- Summons an entity and makes it the source. -/
def summonCode (type : String) : String :=
  "\n            CompoundTag tag_tmp = new CompoundTag();\n            tag_tmp.putString(\"id\", \""
    ++ type ++ "\");\n            source = source.withEntity(Objects.requireNonNull("
    ++ "BuiltInRegistries.ENTITY_TYPE.get(ResourceLocation.withDefaultNamespace(\"\"))"
    ++ ".loadEntityRecursive(tag_tmp, source.getLevel(), entity -> \x7b"
    ++ "\n                entity.setPos(source.getPosition());"
    ++ "\n                if (entity instanceof Mob) // randomize data ._."
    ++ "\n                    entity.finalizeSpawn(source.getLevel(), "
    ++ "source.getLevel().getCurrentDifficultyAt(entity.blockPosition()), "
    ++ "MobSpawnType.COMMAND, null);\n                return entity;"
    ++ "\n            \x7d)));\n        "

def summon : DraftM Clause := do
  emit (summonCode (shown (← operand "entity" Node.key)))
  return {}

/-! ## Conditions -/

/-- A condition, and the code that stores its result. -/
structure Condition where
  test : String := ""
  result : Option String := none

def storeOne : String := "result = 1;\n"

/-- The code that stores a count when the condition is asked for, and one when its failure is. -/
def storeCount (affirmed : Bool) (count : String) : String :=
  if affirmed then "result = " ++ count ++ ";\n" else storeOne

def blockPosition (word : String) : DraftM (Option String) :=
  operand word fun node => node.sourceVector true

def biomeCondition : DraftM Condition := do
  let position ← blockPosition "pos"
  let biome ← operand "biome" fun node => do
    let l ← BuildM.require .noSuchPart node.location?
    let location ← declareLocation l
    return if l.isTag then "TagKey.create(Registries.BIOME, " ++ location ++ ")" else location
  let biome ← onBuild (BuildM.require .noText biome)
  emit ("var blockpos = new BlockPos(" ++ shown position ++ ");\n")
  return {
    test := "source.getLevel().isLoaded(blockpos) && source.getLevel().getBiome(blockpos).is("
      ++ biome ++ ")"
    result := some storeOne }

def blockCondition : DraftM Condition := do
  let position ← blockPosition "pos"
  let predicate ← operand "block" Node.declareBlockPredicate
  let predicate ← onBuild (BuildM.require .noText predicate)
  return {
    test := "source.getLevel().isLoaded(blockpos) && " ++ predicate
      ++ ".matches(source.getLevel(), new BlockPos(" ++ shown position ++ "))"
    result := some storeOne }

/-- The head of the loop that compares two regions block by block. -/
def regionsHead (start stop destination : String) : String :=
  "((Supplier<Boolean>) () -> \x7b\n"
    ++ "\n                var original = BoundingBox.fromCorners(" ++ start ++ ", " ++ stop
    ++ ");\n                Vec3i destenation = " ++ destination
    ++ ";\n                Vec3i length = original.getLength();"
    ++ "\n                var compare = BoundingBox.fromCorners(destenation, "
    ++ "destenation.offset(original.getLength()));\n                "
    ++ "\n                for (int x = 0; x <= length.getX(); x++)"
    ++ "\n                    for (int y = 0; y <= length.getY(); y++)"
    ++ "\n                        for (int z = 0; z <= length.getZ(); z++) \x7b"
    ++ "\n                            var original_pos = new BlockPos(x + original.minX(), "
    ++ "y + original.minY(), z + original.minZ());"
    ++ "\n                            var compare_pos = new BlockPos(x + compare.minX(), "
    ++ "y + compare.minY(), z + compare.minZ());"
    ++ "\n                            if (!source.getLevel().isLoaded(original_pos) || "
    ++ "!source.getLevel().isLoaded(compare_pos)) return false;"
    ++ "\n                            var original_state = "
    ++ "source.getLevel().getBlockState(original_pos);\n            "

/-- The rest of the loop, which counts the blocks. -/
def regionsTail : String :=
  "\n                            var compare_state = "
    ++ "source.getLevel().getBlockState(compare_pos);"
    ++ "\n                            if (original_state != compare_state) return false; //sus"
    ++ "\n                            var original_entity = "
    ++ "source.getLevel().getBlockEntity(original_pos);"
    ++ "\n                            if (original_entity == null) continue;"
    ++ "\n                            var compare_entity = "
    ++ "source.getLevel().getBlockEntity(compare_pos);"
    ++ "\n                            if (compare_entity == null) return false;"
    ++ "\n                            if (!original_entity.components().equals("
    ++ "compare_entity.components())) return false;"
    ++ "\n                            totalBlocks++;\n                        \x7d"
    ++ "\n                    return true;\n                \x7d).get()\n            "

/-- The comparison of two regions. Only the affirmed condition has the rest of the loop. -/
def regionsCondition (affirmed : Bool) : DraftM Condition := do
  let start ← blockPosition "start"
  let stop ← blockPosition "end"
  let destination ← blockPosition "destination"
  if affirmed then emit "int totalBlocks = 0;"
  let mode ← next [
    ("all", .plain (pure "")),
    ("masked", .plain (pure "if (original_state.isAir()) continue;\n"))]
  let mode ← onBuild (BuildM.require .noText mode)
  return {
    test := regionsHead (shown start) (shown stop) (shown destination) ++ mode
      ++ if affirmed then regionsTail else ""
    result := some (storeCount affirmed "totalBlocks") }

/-- Counts the tags that a path reaches. -/
def matchesCode (tags : String) : String :=
  "\n                boolean exists;\n                int totalMatches;\n                try \x7b"
    ++ "\n                    var tags = " ++ tags ++ ";"
    ++ "\n                    exists = tags.size() > 0;"
    ++ "\n                    totalMatches = tags.size();"
    ++ "\n                \x7d catch (NullPointerException | IndexOutOfBoundsException e) \x7b"
    ++ "\n                    exists = false;\n                \x7d\n            "

/-- The existence of data. The comments on where it is are dropped. -/
def dataCondition (affirmed : Bool) : DraftM Condition := do
  emitOver do
    let data ← accessData
    let path ← operand "path" pure
    let path ← onBuild (BuildM.require .noSuchPart path)
    return matchesCode (← path.pathExpression false (shown data))
  return { test := "exists", result := some (storeCount affirmed "totalMatches") }

def dimensionCondition : DraftM Condition := do
  let dimension ← operand "dimension" pure
  let dimension ← onBuild (BuildM.require .noSuchPart dimension)
  return {
    test := "source.getLevel() == " ++ dimensionText (← dimension.declareLocation)
    result := some storeOne }

/-- A condition or its negation, around the rest of the command. -/
def condition (affirmed : Bool) : DraftM Clause := do
  let c ← next [
    ("biome", .plain biomeCondition),
    ("block", .plain blockCondition),
    ("blocks", .plain (regionsCondition affirmed)),
    ("data", .plain (dataCondition affirmed)),
    ("dimension", .plain dimensionCondition)]
  let c := c.getD {}
  emit ("if (" ++ (if affirmed then "" else "!") ++ "(" ++ c.test ++ ")) \x7b\n")
  return {
    closing := guardClosing
    outcome := match c.result with
      | some code => .result code
      | none => .nothing }

/-! ## The command -/

def clauses : Handlers (DraftM Clause) :=
  [("subcommand", .operand runSubcommand),
    ("align", .plain align),
    ("anchored", .plain anchored),
    ("as", .plain (fork atEntity)),
    ("at", .plain (fork atEntityPlace)),
    ("facing", .plain do face; return {}),
    ("in", .plain inDimension),
    ("on", .plain on),
    ("positioned", .plain positioned),
    ("rotated", .plain rotated),
    ("summon", .plain summon),
    ("if", .plain (condition true)),
    ("unless", .plain (condition false)),
    ("run", .plain (pure {}))]

/-- What follows a clause: a subcommand, or else the clause's own result. -/
def finish (outcome : Outcome) : DraftM Unit := do
  if outcome = .finished then return
  let followed ← next [("subcommand", .operand runSubcommand)]
  if followed.isNone then
    match outcome with
    | .result code => emit code
    | _ => throw .danglingClause

/-- `execute`: one clause, what follows it, and the end of the blocks that it has opened. -/
def execute : DraftM Unit := do
  let clause := (← next clauses).getD {}
  finish clause.outcome
  emit clause.closing

end PackToMod
