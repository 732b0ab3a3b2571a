import PackToMod.Build.Paths
import PackToMod.Build.Selectors
import PackToMod.Draft
import PackToMod.Text.Uppercase
import PackToMod.Vector

/-!
# Sources of positions, directions and data

Parts that several commands share: anchors, height maps, the direction to face, and the data of a
block, an entity or a storage.
-/

namespace PackToMod

/-- The word at a node in upper case. -/
def Node.upperWord (node : Node) : Except Fault String :=
  match node.value?.bind Scalar.text? with
  | some s => .ok (Text.upper s)
  | none => .error .noSuchPart

def Node.anchor (node : Node) : Except Fault String := do
  return "EntityAnchorArgument.Anchor." ++ (← node.upperWord)

def Node.heightmap (node : Node) : Except Fault String := do
  return "Heightmap.Types." ++ (← node.upperWord)

/-- A position measured from the command source. -/
def Node.sourceVector (node : Node) (whole : Bool) : BuildM String :=
  BuildM.ofExcept id (node.position whole sourcePosition sourceRotation)

open DraftM

/-- Turns the source toward an entity, or the given anchor of it. -/
def faceEntity (o : Operand) : DraftM Unit := do
  let entity ← o.node.find true false
  let anchor ← operand "facingAnchor" fun node => BuildM.ofExcept id node.anchor
  emit ("source = source.facing(" ++ entity ++ ", "
    ++ anchor.getD "EntityAnchorArgument.Anchor.FEET" ++ ");\n")

/-- Turns the source toward a position or an entity. -/
def face : DraftM Unit := do
  let _ ← next [
    ("facingLocation", .operand fun o => do
      emit ("source = source.facing(" ++ (← o.node.sourceVector false) ++ ");\n")),
    ("entity", .plain do
      let _ ← next [("facingEntity", .operand faceEntity)])]

/-- The data of a block entity. -/
def blockData (position : String) : String :=
  "new BlockDataAccessor(source.getLevel().getBlockEntity(new BlockPos(" ++ position
    ++ ")), new BlockPos(" ++ position ++ ")).getData()"

/-- The expression for the data that a command reads, if it names any. -/
def accessData : DraftM (Option String) :=
  next [
    ("block", .plain do
      return blockData (shown (← operand "sourcePos" fun node => node.sourceVector true))),
    ("entity", .plain do
      let entity ← operand "source" fun node => node.find true false
      return "new EntityDataAccessor(" ++ shown entity ++ ").getData()"),
    ("storage", .plain do
      let storage ← operand "source" Node.declareLocation
      return "source.getServer().getCommandStorage().get(" ++ shown storage ++ ")")]

end PackToMod
