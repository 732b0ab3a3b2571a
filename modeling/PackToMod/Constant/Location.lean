import PackToMod.Node
import PackToMod.Text.Respell

/-!
# Resource-location constants

The constant of a resource location is named after it, with slashes and points spelled out.
-/

namespace PackToMod.ResourceLocation

def spelling (c : Char) : String :=
  if c = '/' then "SLASH" else if c = '.' then "DOT" else c.toString

def symbol (l : ResourceLocation) : String :=
  "ResourceLocation_" ++ Text.respell spelling (match l.domain with
    | none => l.path
    | some domain => domain ++ "_" ++ l.path)

/-- The expression that builds the location. -/
def expression (l : ResourceLocation) : String :=
  match l.domain with
  | none => "ResourceLocation.withDefaultNamespace(\"" ++ l.path ++ "\")"
  | some domain =>
    "ResourceLocation.fromNamespaceAndPath(\"" ++ domain ++ "\", \"" ++ l.path ++ "\")"

def declaration (l : ResourceLocation) : String :=
  "private static final ResourceLocation " ++ l.symbol ++ " = " ++ l.expression ++ ";\n"

end PackToMod.ResourceLocation
