import PackToMod.Build.Tags

/-!
# Tag paths

A tag path becomes an expression that walks from a root into its parts. A path that can reach
several tags gives a list; `single` asks for one tag, and then lists are cut to their first
element.
-/

namespace PackToMod

def elementText (root index : String) : String :=
  "((ListTag) " ++ root ++ ").get(" ++ index ++ ")"

/-- One step into a tag: the expression for the part, and whether it is a single tag. -/
def Node.pathStep (single : Bool) (root : String) : Node → BuildM (String × Bool)
  | word _ .pathKey key =>
    pure ("((CompoundTag) " ++ root ++ ").get(\"" ++ key ++ "\")", true)
  | tagCompound text entries => do
    let tag ← (tagCompound text entries).declareTag
    return ("returnIfMatches((Tag) " ++ root ++ ", " ++ tag.symbol ++ ")", true)
  | subscript _ absent => pure (if single then elementText root "0" else root, false)
  | subscript _ (number _ index) => pure (elementText root index.text, true)
  | subscript _ (tagCompound text entries) => do
    let tag ← (tagCompound text entries).declareTag
    let matching := "((ListTag) " ++ root
      ++ ").stream().filter(tag -> tag instanceof CompoundTag && nbtMatches(tag, " ++ tag.symbol
      ++ ")).collect(Collectors.toList())"
    return (if single then elementText matching "0" else matching, false)
  | subscript _ _ => throw .badSubscript
  | _ => pure (root, true)

/-- The steps of a path in order. What the last step gives decides whether it is a single tag. -/
def pathSteps (single : Bool) : String × Bool → List Node → BuildM (String × Bool)
  | reached, [] => pure reached
  | (root, _), step :: steps => do pathSteps single (← step.pathStep single root) steps

/-- The expression for a path from `root`. -/
def Node.pathExpression (single : Bool) (root : String) : Node → BuildM String
  | tagPath _ [] => throw .emptyPath
  | tagPath _ steps => do
    let (reached, one) ← pathSteps single (root, true) steps
    let found := "Objects.requireNonNull(" ++ reached ++ ")"
    return if one && !single then "List.of(" ++ found ++ ")" else found
  | _ => throw .noSuchPart

end PackToMod
