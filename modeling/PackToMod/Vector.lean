import PackToMod.Fault
import PackToMod.Node

/-!
# Vectors

A vector of a command becomes an expression. Each coordinate is a sum of a base and an offset: the
base is the coordinate itself or one read off the command source. A vector along the line of sight
is turned as a whole; its first coordinate decides.
-/

namespace PackToMod

/-- The position of the command source. -/
def sourcePosition : String := "source.getAnchor().apply(source)"

/-- The rotation of the command source. -/
def sourceRotation : String := "source.getRotation()"

namespace Coordinate

/-- The number of a coordinate, cut to its integer part in a vector of whole numbers. -/
def valueText (whole : Bool) (c : Coordinate) : Except Fault String :=
  if whole then
    match c.value.truncate with
    | .ok n => .ok (toString n)
    | .error e => .error (.number e)
  else .ok c.value.text

/-- The sum for a coordinate along `axis`. -/
def sum (whole : Bool) (base axis : String) (c : Coordinate) : Except Fault String :=
  match c.origin with
  | .absolute => do return (← c.valueText whole) ++ " + 0"
  | .relative => do
    return (if whole then "(int) " else "") ++ base ++ "." ++ axis ++ "() + "
      ++ (← c.valueText whole)
  | _ => .error .badOrigin

end Coordinate

/-- A vector along the line of sight. -/
def facingVector (whole : Bool) (position rotation x y z : String) : String :=
  let vector := position ++ ".add(Vec3.directionFromRotation(" ++ rotation
    ++ ").multiply(new Vec3(" ++ x ++ ", " ++ y ++ ", " ++ z ++ ")))"
  if whole then "toVec3i(" ++ vector ++ ")" else vector

namespace Node

def coordinateOrFault (node : Node) : Except Fault Coordinate :=
  match node.coordinate? with
  | some c => .ok c
  | none => .error .noSuchPart

/-- The sum for the coordinate at a node. -/
def sum (whole : Bool) (base axis : String) (node : Node) : Except Fault String := do
  (← node.coordinateOrFault).sum whole base axis

/-- The value of a node as it is written. -/
def valueText (node : Node) : Except Fault String :=
  match node.value? with
  | some value => .ok value.render
  | none => .error .noSuchPart

/-- The expression for a position. -/
def position (whole : Bool) (position rotation : String) : Node → Except Fault String
  | vector3 _ x y z => do
    if (← x.coordinateOrFault).origin = .facing then
      return facingVector whole position rotation (← x.valueText) (← y.valueText) (← z.valueText)
    else
      let x ← x.sum whole position "x"
      let y ← y.sum whole position "y"
      let z ← z.sum whole position "z"
      return "new Vec3" ++ (if whole then "i" else "") ++ "(" ++ x ++ ", " ++ y ++ ", " ++ z ++ ")"
  | vector2 _ x y => do
    if (← x.coordinateOrFault).origin = .facing then .error .noSuchPart
    else
      let _ ← x.sum whole position "x"
      let _ ← y.sum whole position "y"
      .error .noSuchPart
  | _ => .error .noSuchPart

/-- The expression for a rotation. A third coordinate is not looked at. -/
def rotation (base : String) : Node → Except Fault String
  | vector2 _ x y | vector3 _ x y _ => do
    let x ← x.sum false base "x"
    let y ← y.sum false base "y"
    return "new Vec2(" ++ x ++ ", " ++ y ++ ")"
  | _ => .error .noSuchPart

end Node

end PackToMod
