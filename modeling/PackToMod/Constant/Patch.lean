import PackToMod.Constant.Tag

/-!
# Component-patch constants

The components of an item become one patch, set up through a builder.
-/

namespace PackToMod

/-- One component of a patch: the constant of its key, and type and term of its value. -/
structure PatchSetting where
  location : String
  type : TagType
  value : TagTerm

structure PatchConstant where
  number : Nat
  settings : List PatchSetting

namespace PatchConstant

def symbol (p : PatchConstant) : String :=
  "Components_" ++ toString p.number

def builder (p : PatchConstant) : String :=
  p.symbol ++ "_Builder"

def declaration (p : PatchConstant) : String :=
  "private static final DataComponentPatch " ++ p.symbol ++ ";"

def settingText (p : PatchConstant) (s : PatchSetting) : String :=
  p.builder ++ ".set((DataComponentType<" ++ s.type.name
    ++ ">) BuiltInRegistries.DATA_COMPONENT_TYPE.get(" ++ s.location ++ "), "
    ++ s.value.text ++ ");\n"

def initialiser (p : PatchConstant) : String :=
  "var " ++ p.builder ++ " = DataComponentPatch.builder();\n"
    ++ String.join (p.settings.map p.settingText)
    ++ p.symbol ++ " = " ++ p.builder ++ ".build();\n"

end PatchConstant

/-- The expression for an item without components. -/
def emptyPatch : String := "DataComponentPatch.EMPTY"

end PackToMod
