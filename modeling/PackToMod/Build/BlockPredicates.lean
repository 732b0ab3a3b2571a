import PackToMod.Build.Locations
import PackToMod.Build.Tags

/-!
# Declaring block predicates
-/

namespace PackToMod

/-- Declares the constants that a block refers to. -/
def Node.declareBlockParts : Node → BuildM Unit
  | block _ identifier _ data => do
    let _ ← identifier.declareLocation
    match data with
    | absent => pure ()
    | data => do let _ ← data.declareTag
  | itemStack _ identifier _ => do
    let _ ← identifier.declareLocation
    throw .noSuchPart
  | _ => throw .noSuchPart

/-- The predicate of a block, registered unless its text is registered already. It is registered
before its parts are looked at, so a predicate with unusable parts stays. -/
def Node.declareBlockPredicate (node : Node) : BuildM String := do
  let key ← node.key
  match (← get).blockPredicates.get? key with
  | some n => return blockPredicateSymbol n
  | none =>
    let n ← BuildM.fresh
    modify fun b => { b with blockPredicates := b.blockPredicates.set key n }
    node.declareBlockParts
    return blockPredicateSymbol n

end PackToMod
