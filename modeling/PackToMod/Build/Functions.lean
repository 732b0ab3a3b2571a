import PackToMod.Build.Locations

/-!
# Calling functions

A call of a function of the data pack. A function that is compiled along is called directly, any
other through the server; for a tag of functions that is decided when the call runs.
-/

namespace PackToMod

/-- The parts of a call that its user chooses. -/
structure CallOptions where
  onError : String := "throw new RuntimeException(e);"
  macros : String := "new CompoundTag();"
  afterwards : String := ""

/-- Calls every function of a tag. -/
def tagCall (o : CallOptions) (location : String) : String :=
  "\n            source.getServer().getFunctions().getTag(" ++ location
    ++ ").forEach(func -> \x7b\n                int executionResult;\n                try \x7b"
    ++ "\n                    if (COMPILED.contains(func.id().toString())) \x7b"
    ++ "\n                        executionResult = function(source, func.id().toString(), "
    ++ o.macros ++ ", dispatcher);\n                    \x7d else \x7b"
    ++ "\n                        executionResult = func.instantiate(" ++ o.macros
    ++ ", dispatcher);\n                    \x7d\n                \x7d catch (Exception e) \x7b"
    ++ "\n                    " ++ o.onError ++ "\n                \x7d\n                "
    ++ o.afterwards ++ "\n            \x7d);\n            "

/-- Calls one function, directly if it is compiled along. -/
def singleCall (o : CallOptions) (compiled : List String) (name location : String) : String :=
  "int executionResult;\ntry \x7b\x7b\n"
    ++ (if compiled.contains name then
        "executionResult = function(source, \"" ++ name ++ "\", " ++ o.macros ++ ", dispatcher);\n"
      else "executionResult = source.getServer().getFunctions().get(" ++ location
        ++ ").orElseThrow().instantiate(" ++ o.macros ++ ", dispatcher);")
    ++ "\n            \x7d catch (Exception e) \x7b\n                " ++ o.onError
    ++ "\n            \x7d\n            " ++ o.afterwards ++ "\n        "

/-- The call of the function or the tag of functions at a location. -/
def Node.functionCall (o : CallOptions) (compiled : List String) (node : Node) : BuildM String := do
  let l ← BuildM.require .noSuchPart node.location?
  let location ← PackToMod.declareLocation l
  return if l.isTag then tagCall o location else singleCall o compiled l.text location

end PackToMod
