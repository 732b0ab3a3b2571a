import PackToMod.Build.Items
import PackToMod.Command.Source

/-!
# Moving, removing and supplying entities
-/

namespace PackToMod

open DraftM

/-- Moves the entity at hand to a position, and turns it if the command goes on to say so. -/
def moveTo (o : Operand) : DraftM Unit := do
  emit ("source.getEntityOrException().setPos(" ++ (← o.node.sourceVector false) ++ ");\n")
  let _ ← next [("facing", .plain face)]

def moveToEntity (o : Operand) : DraftM Unit := do
  emit ("source.getEntityOrException().setPos(" ++ (← o.node.find true false)
    ++ ".position());\n")

/-- Moves each of the selected entities. -/
def moveAll (o : Operand) : DraftM Unit := do
  emit ("\n            for (entity in " ++ (← o.node.find false false)
    ++ ") \x7b\n                source = source.withEntity(entity);\n            ")
  let _ ← next [("location", .operand moveTo), ("destination", .operand moveToEntity)]

/-- `tp`: moves the entity at hand, or the selected ones inside a loop. -/
def teleport : DraftM Unit := do
  let closing ← next [
    ("location", .operand fun o => do moveTo o; return ""),
    ("targets", .operand fun o => do moveAll o; return "\x7d")]
  emit (closing.getD "")

/-- `kill`: removes the selected entities, or the entity at hand. -/
def kill : DraftM Unit := do
  let selected ← next [("targets", .operand fun o => do
    emit ("\n            for (entity in " ++ (← o.node.find false false)
      ++ ") \x7b\n                entity.kill();\n            \x7d\n        "))]
  if selected.isNone then emit "source.getEntityOrException().kill();"

/-- What a count is put into a template as. -/
def Scalar.argument : Scalar → Percent.Argument
  | .text s => .text s
  | .tag (.string s) | .tag (.unknown s) => .text s
  | .uuid u => .uuid u
  | s => match s.number? with
    | some n => .number n
    | none => .missing

/-- `give`: the item is a template whose count is filled in last. -/
def give : DraftM Unit := do
  let _ ← next [("targets", .operand fun o => do
    emit ("for (player in " ++ (← o.node.find false true) ++ ") \x7b\n"))]
  let stack ← operand "item" fun node => node.itemExpression "%i"
  let count ← operand "count" fun node => BuildM.require .noSuchPart node.value?
  let stack ← onBuild (BuildM.require .noText stack)
  let count := (count.getD (.number (.integer 1))).argument
  let stack ← onBuild (BuildM.ofExcept .percent (Percent.fill stack count))
  emit ("player.getInventory().add(" ++ stack ++ ");\n\x7d")

end PackToMod
