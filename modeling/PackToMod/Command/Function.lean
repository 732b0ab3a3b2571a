import PackToMod.Build.Functions
import PackToMod.Command.Source

/-!
# Running functions
-/

namespace PackToMod

open DraftM

/-- Macro arguments read from data, or from a path into it. -/
def dataArguments : DraftM (Option String) := do
  let data ← accessData
  let part ← operand "path" fun node => node.pathExpression true (shown data)
  match part with
  | some part => return some ("(CompoundTag) " ++ part)
  | none => return data

/-- The macro arguments that a call goes on to give; by default an empty compound. -/
def callArguments : DraftM (Option String) := do
  let given ← next [
    ("with", .plain dataArguments),
    ("arguments", .operand fun o => do return some (← o.node.declareTag).symbol)]
  return given.getD (some "new CompoundTag()")

/-- The macro arguments as a value for the call. -/
def Braces.Value.ofOption : Option String → Braces.Value
  | some s => .ofString s
  | none => .missing

/-- `function`: the call is a brace template, into which the macro arguments are filled. -/
def runFunction : DraftM Unit := do
  let call ← next [("name", .operand fun o => do
    let call ← o.node.functionCall { macros := "\x7b0\x7d" } (← get).draft.compiled
    return (call, ← callArguments))]
  let (call, arguments) ← onBuild (BuildM.require .noSuchPart call)
  emit (← onBuild (BuildM.ofExcept .braces (Braces.fill call [.ofOption arguments])))
  modifyDraft fun d => { d with needsDispatcher := true }

end PackToMod
