import PackToMod.Build.Locations
import PackToMod.Build.Tags

/-!
# Items and their components
-/

namespace PackToMod

/-- Declares the value and the key of a component. A value that was declared before is refused: its
type is not at hand. -/
def Node.declareComponent : Node → BuildM PatchSetting
  | itemComponent _ key value => do
    let value ← value.declareTag
    let type ← BuildM.require .untypedTag value.type?
    return ⟨← key.declareLocation, type, value.term⟩
  | _ => throw .noSuchPart

/-- The settings of a patch, declared one after the other. -/
def declareSettings : List Node → BuildM (List PatchSetting)
  | [] => pure []
  | c :: cs => do
    let setting ← c.declareComponent
    return setting :: (← declareSettings cs)

/-- The text that a list of components is registered under. -/
def componentsKey : List Node → BuildM String
  | [] => pure ""
  | c :: cs => do return (← c.key) ++ "\t" ++ (← componentsKey cs)

/-- The patch for a list of components. -/
def declarePatch (cs : List Node) : BuildM String := do
  if cs.isEmpty then return emptyPatch
  let key ← componentsKey cs
  match (← get).patches.get? key with
  | some patch => return patch.symbol
  | none =>
    let patch : PatchConstant := ⟨← BuildM.fresh, ← declareSettings cs⟩
    modify fun b => { b with patches := b.patches.set key patch }
    modify fun b => { b with staticPatches := b.staticPatches.set key patch }
    return patch.symbol

/-- The expression for an item stack. -/
def Node.itemExpression (count : String) : Node → BuildM String
  | itemStack _ identifier components => do
    let location ← identifier.declareLocation
    return "new ItemStack(Holder.direct(BuiltInRegistries.ITEM.get(" ++ location ++ ")), " ++ count
      ++ ", " ++ (← declarePatch components) ++ ")"
  | block _ identifier _ _ => do
    let _ ← identifier.declareLocation
    throw .noSuchPart
  | _ => throw .noSuchPart

end PackToMod
