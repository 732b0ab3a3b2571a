import PackToMod.Build

/-!
# Declaring tags
-/

namespace PackToMod

/-- A declared tag: its term, and whether this use has declared it. -/
structure TagReference where
  term : TagTerm
  isNew : Bool
  deriving DecidableEq, Repr

namespace TagReference

def symbol (r : TagReference) : String := r.term.text

/-- The type of a tag is known to the use that has declared it, not when the tag is found again. -/
def type? (r : TagReference) : Option TagType :=
  if r.isNew then some r.term.type else none

end TagReference

/-- The constant of a tag, registered unless its text is registered already. -/
def Node.declareTag (node : Node) : BuildM TagReference := do
  let key ← node.key
  match (← get).tags.get? key with
  | some tag => return ⟨tag.root, false⟩
  | none =>
    let _ ← BuildM.fresh
    let tag ← BuildM.numbering (node.lowerTag false)
    modify fun b => { b with tags := b.tags.set key tag }
    modify fun b => { b with staticTags := b.staticTags.set key tag }
    return ⟨tag.root, true⟩

end PackToMod
