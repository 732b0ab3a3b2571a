import PackToMod.Text.Split

/-!
# Projects

What a data pack says about itself, and the description of the mod that is made from it.
-/

namespace PackToMod

structure Project where
  id : String
  name : String
  description : String
  version : String
  author : String
  deriving DecidableEq, Repr

/-- The description that the mod loader reads. -/
def Project.modDescription (p : Project) : String :=
  Text.unlines
    ["",
      "\x7b",
      "\t\"schemaVersion\": 1,",
      "\t\"id\": \"" ++ p.id ++ "\",",
      "\t\"version\": \"" ++ p.version ++ "\",",
      "\t\"name\": \"" ++ p.name ++ "\",",
      "\t\"description\": \"" ++ p.description ++ "\",",
      "\t\"authors\": [",
      "\t\t\"Auto generated\", \"" ++ p.author ++ "\"",
      "\t],",
      "\t\"contact\": \x7b",
      "\t\t\"homepage\": \"https://gitlab.com/infinit-empires\",",
      "\t\t\"sources\": \"https://gitlab.com/infinit-empires/compiler\"",
      "\t\x7d,",
      "\t\"license\": \"CC0-1.0\",",
      "\t\"icon\": \"assets/template-mod/icon.png\",",
      "\t\"environment\": \"server\",",
      "\t\"entrypoints\": \x7b",
      "\t\t\"main\": [",
      "\t\t\t\"datapack." ++ p.id ++ ".EntryPoint\"",
      "\t\t]",
      "\t\x7d,",
      "\t\"mixins\": [",
      "\t],",
      "\t\"depends\": \x7b",
      "\t\t\"fabricloader\": \">=0.15.11\",",
      "\t\t\"minecraft\": \"~1.21\",",
      "\t\t\"java\": \">=21\",",
      "\t\t\"fabric-api\": \"*\"",
      "\t\x7d",
      "\x7d",
      ""]

end PackToMod
