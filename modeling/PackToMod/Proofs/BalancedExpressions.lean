import PackToMod.Build.Paths
import PackToMod.Command.Execute
import PackToMod.Proofs.BalancedConstants

/-!
# Expressions are well bracketed

The expressions that commands are put together from: references to constants, steps into data, vectors and
words. With nodes that have no brackets in their strings, each of them is balanced or fails with a balanced
message, whatever is registered already.
-/

namespace PackToMod

open Build Text

variable {U : Node → Prop} {node : Node}

/-! ## References to constants -/

lemma SelectorConstant.find_balanced (s : SelectorConstant) (single players : Bool) :
    Balanced (s.find single players) := by
  have hsymbol := s.symbol_balanced
  have hfinder : Balanced (finder single players) := by
    cases single <;> cases players <;> decide
  unfold SelectorConstant.find
  exact Shaped.balanced (by decide)

lemma find_gives (hU : DownClosed U) (h : U node) (single players : Bool) :
    Gives Balanced (node.find single players) := by
  unfold Node.find
  refine .bind (.key node) fun key _ => .bind .get fun b _ => ?_
  split
  · exact .pure (SelectorConstant.find_balanced ..)
  · refine .bind .fresh fun n _ => .bind (query_gives hU h players) fun q _ => ?_
    refine .bind (.ofExcept (box_holds q)) fun box _ => .bind (.modify _) fun _ _ => ?_
    exact .pure (SelectorConstant.find_balanced ..)

lemma blockPredicateSymbol_balanced (n : Nat) : Balanced (blockPredicateSymbol n) := by
  have hn := (bracketless_nat n).balanced
  unfold blockPredicateSymbol
  exact Shaped.balanced (by decide)

lemma declareBlockParts_gives (hU : DownClosed U) (h : U node) :
    Gives (fun _ => True) node.declareBlockParts := by
  unfold Node.declareBlockParts
  split
  · next text identifier states data =>
    refine .bind (nodeDeclareLocation_gives (hU _ h _ List.mem_cons_self)) fun _ _ => ?_
    split
    · exact .pure trivial
    · exact .bind (declareTag_gives _) fun _ _ => .pure trivial
  · exact .bind (nodeDeclareLocation_gives (hU _ h _ List.mem_cons_self)) fun _ _ => .throw balanced_empty
  · exact .throw balanced_empty

lemma declareBlockPredicate_gives (hU : DownClosed U) (h : U node) :
    Gives Balanced node.declareBlockPredicate := by
  unfold Node.declareBlockPredicate
  refine .bind (.key node) fun key _ => .bind .get fun b _ => ?_
  split
  · exact .pure (blockPredicateSymbol_balanced _)
  · refine .bind .fresh fun n _ => .bind (.modify _) fun _ _ => ?_
    exact .bind (declareBlockParts_gives hU h) fun _ _ => .pure (blockPredicateSymbol_balanced n)

/-- The expression for the patch of an item. -/
def IsPatchText (text : String) : Prop :=
  text = emptyPatch ∨ ∃ p : PatchConstant, text = p.symbol

lemma componentsKey_gives (components : List Node) : Gives (fun _ => True) (componentsKey components) := by
  induction components with
  | nil => exact .pure trivial
  | cons c cs ih => exact .bind (.key c) fun _ _ => .bind ih fun _ _ => .pure trivial

lemma declarePatch_gives (hU : DownClosed U) {components : List Node} (h : ∀ c ∈ components, U c) :
    Gives IsPatchText (declarePatch components) := by
  unfold declarePatch
  split
  · exact .pure (.inl rfl)
  · refine .bind (componentsKey_gives components) fun key _ => .bind .get fun b _ => ?_
    split
    · exact .pure (.inr ⟨_, rfl⟩)
    · refine .bind .fresh fun n _ => .bind (declareSettings_gives hU h) fun settings _ => ?_
      exact .bind (.modify _) fun _ _ => .pure (.inr ⟨_, rfl⟩)

/-- The expression for an item stack, by its parts. -/
def IsItemText (U : Node → Prop) (count text : String) : Prop :=
  ∃ location patch, IsLocationSymbol U location ∧ IsPatchText patch ∧
    text = "new ItemStack(Holder.direct(BuiltInRegistries.ITEM.get(" ++ location ++ ")), " ++ count ++ ", "
      ++ patch ++ ")"

lemma itemExpression_gives (hU : DownClosed U) (h : U node) (count : String) :
    Gives (IsItemText U count) (node.itemExpression count) := by
  unfold Node.itemExpression
  split
  · next text identifier components =>
    have hcomponents : ∀ c ∈ components, U c := fun c hc => hU _ h _ (List.mem_cons_of_mem _ hc)
    refine .bind (nodeDeclareLocation_gives (hU _ h _ List.mem_cons_self)) fun location hlocation => ?_
    refine .bind (declarePatch_gives hU hcomponents) fun patch hpatch => ?_
    exact .pure ⟨location, patch, hlocation, hpatch, rfl⟩
  · exact .bind (nodeDeclareLocation_gives (hU _ h _ List.mem_cons_self)) fun _ _ => .throw balanced_empty
  · exact .throw balanced_empty

lemma location_gives (hclean : Unbracketed U) (h : U node) : Gives Balanced node.declareLocation :=
  (nodeDeclareLocation_gives h).mono fun _ hsymbol => (hclean.location hsymbol).balanced

/-! ## Paths -/

lemma elementText_balanced {root index : String} (hroot : Balanced root) (hindex : Balanced index) :
    Balanced (elementText root index) := by
  unfold elementText
  exact Shaped.balanced (by decide)

lemma pathStep_gives (hclean : Unbracketed U) (h : U node) {root : String} (hroot : Balanced root)
    (single : Bool) : Gives (fun reached => Balanced reached.1) (node.pathStep single root) := by
  have hzero : Balanced "0" := Shaped.balanced (by decide)
  unfold Node.pathStep
  split
  · next text key =>
    have hkey := (hclean _ h key (List.mem_cons_of_mem _ List.mem_cons_self)).balanced
    exact .pure (Shaped.balanced (by decide))
  · refine .bind (declareTag_gives _) fun tag _ => ?_
    have htag : Balanced tag.symbol := tag.term.text_balanced
    exact .pure (Shaped.balanced (by decide))
  · refine .pure ?_
    dsimp only
    split
    · exact elementText_balanced hroot hzero
    · exact hroot
  · next text index => exact .pure (elementText_balanced hroot (bracketless_number index).balanced)
  · refine .bind (declareTag_gives _) fun tag _ => .pure ?_
    have htag : Balanced tag.symbol := tag.term.text_balanced
    have hmatching : Balanced ("((ListTag) " ++ root
        ++ ").stream().filter(tag -> tag instanceof CompoundTag && nbtMatches(tag, " ++ tag.symbol
        ++ ")).collect(Collectors.toList())") := Shaped.balanced (by decide)
    dsimp only
    split
    · exact elementText_balanced hmatching hzero
    · exact hmatching
  · exact .throw (Shaped.balanced (by decide) : Balanced "No active exception to reraise")
  · exact .pure hroot

lemma pathSteps_gives (hclean : Unbracketed U) (single : Bool) {steps : List Node} (h : ∀ step ∈ steps, U step)
    {reached : String × Bool} (hreached : Balanced reached.1) :
    Gives (fun reached => Balanced reached.1) (pathSteps single reached steps) := by
  induction steps generalizing reached with
  | nil => exact .pure hreached
  | cons step steps ih =>
    obtain ⟨hstep, hsteps⟩ := List.forall_mem_cons.mp h
    exact .bind (pathStep_gives hclean hstep hreached single) fun _ hnext => ih hsteps hnext

lemma pathExpression_gives (hclean : Unbracketed U) (hU : DownClosed U) (h : U node) {root : String}
    (hroot : Balanced root) (single : Bool) : Gives Balanced (node.pathExpression single root) := by
  unfold Node.pathExpression
  split
  · exact .throw balanced_empty
  · refine .bind (pathSteps_gives hclean single (hU _ h) hroot) fun reached hreached => .pure ?_
    have hfound : Balanced ("Objects.requireNonNull(" ++ reached.1 ++ ")") := Shaped.balanced (by decide)
    split
    · exact Shaped.balanced (by decide)
    · exact hfound
  · exact .throw balanced_empty

/-! ## Vectors -/

lemma sourcePosition_balanced : Balanced sourcePosition := by
  unfold sourcePosition
  exact Shaped.balanced (by decide)

lemma sourceRotation_balanced : Balanced sourceRotation := by
  unfold sourceRotation
  exact Shaped.balanced (by decide)

lemma Coordinate.valueText_holds (whole : Bool) (c : Coordinate) : Holds Balanced (c.valueText whole) := by
  unfold Coordinate.valueText
  split
  · split
    · exact (bracketless_integer _).balanced
    · exact balanced_empty
  · exact (bracketless_number _).balanced

lemma Coordinate.sum_holds (whole : Bool) {base axis : String} (hbase : Balanced base) (haxis : Balanced axis)
    (c : Coordinate) : Holds Balanced (c.sum whole base axis) := by
  unfold Coordinate.sum
  split
  · exact .bind (c.valueText_holds whole) fun value hvalue =>
      (Shaped.balanced (by decide) : Balanced (value ++ " + 0"))
  · refine .bind (c.valueText_holds whole) fun value hvalue => ?_
    have hcast : Balanced (if whole then "(int) " else "") := by
      cases whole <;> decide
    exact (Shaped.balanced (by decide) : Balanced ((if whole then "(int) " else "") ++ base ++ "." ++ axis ++ "() + "
      ++ value))
  · exact (Shaped.balanced (by decide) : Balanced "No active exception to reraise")

lemma coordinateOrFault_holds (node : Node) : Holds (fun _ => True) node.coordinateOrFault := by
  unfold Node.coordinateOrFault
  split
  · trivial
  · exact balanced_empty

lemma sum_holds (whole : Bool) {base axis : String} (hbase : Balanced base) (haxis : Balanced axis)
    (node : Node) : Holds Balanced (node.sum whole base axis) :=
  .bind (coordinateOrFault_holds node) fun c _ => c.sum_holds whole hbase haxis

lemma valueText_holds (hclean : Unbracketed U) (h : U node) : Holds Balanced node.valueText := by
  unfold Node.valueText
  split
  · next v hv => exact hclean.value h hv
  · exact balanced_empty

lemma facingVector_balanced (whole : Bool) {position rotation x y z : String} (hposition : Balanced position)
    (hrotation : Balanced rotation) (hx : Balanced x) (hy : Balanced y) (hz : Balanced z) :
    Balanced (facingVector whole position rotation x y z) := by
  have hvector : Balanced (position ++ ".add(Vec3.directionFromRotation(" ++ rotation
      ++ ").multiply(new Vec3(" ++ x ++ ", " ++ y ++ ", " ++ z ++ ")))") := Shaped.balanced (by decide)
  have htruncated {vector : String} (h : Balanced vector) : Balanced ("toVec3i(" ++ vector ++ ")") :=
    Shaped.balanced (by decide)
  cases whole with
  | false => exact hvector
  | true => exact htruncated hvector

/-- A position is balanced if the values of its coordinates are. -/
lemma vector3_holds (text : String) {x y z : Node} (hx : Holds Balanced x.valueText) (hy : Holds Balanced y.valueText)
    (hz : Holds Balanced z.valueText) (whole : Bool) {position rotation : String} (hposition : Balanced position)
    (hrotation : Balanced rotation) : Holds Balanced ((Node.vector3 text x y z).position whole position rotation) := by
  have haxisX : Balanced "x" := Shaped.balanced (by decide)
  have haxisY : Balanced "y" := Shaped.balanced (by decide)
  have haxisZ : Balanced "z" := Shaped.balanced (by decide)
  unfold Node.position
  refine .bind (coordinateOrFault_holds x) fun c _ => ?_
  split
  · exact .bind hx fun x hx => .bind hy fun y hy => .bind hz fun z hz =>
      facingVector_balanced whole hposition hrotation hx hy hz
  · refine .bind (sum_holds whole hposition haxisX x) fun x hx => ?_
    refine .bind (sum_holds whole hposition haxisY y) fun y hy => ?_
    refine .bind (sum_holds whole hposition haxisZ z) fun z hz => ?_
    have htype : Balanced (if whole then "i" else "") := by
      cases whole <;> decide
    exact (Shaped.balanced (by decide) : Balanced ("new Vec3" ++ (if whole then "i" else "") ++ "(" ++ x ++ ", " ++ y
      ++ ", " ++ z ++ ")"))

lemma position_holds (hclean : Unbracketed U) (hU : DownClosed U) (h : U node) (whole : Bool)
    {position rotation : String} (hposition : Balanced position) (hrotation : Balanced rotation) :
    Holds Balanced (node.position whole position rotation) := by
  have hx : Balanced "x" := Shaped.balanced (by decide)
  have hy : Balanced "y" := Shaped.balanced (by decide)
  cases node with
  | vector3 text x y z =>
    have hchildren := hU _ h
    exact vector3_holds text (valueText_holds hclean (hchildren x (by simp [Node.children])))
      (valueText_holds hclean (hchildren y (by simp [Node.children])))
      (valueText_holds hclean (hchildren z (by simp [Node.children]))) whole hposition hrotation
  | vector2 text x y =>
    refine .bind (coordinateOrFault_holds x) fun c _ => ?_
    split
    · exact balanced_empty
    · refine .bind (sum_holds whole hposition hx x) fun _ _ => ?_
      exact .bind (sum_holds whole hposition hy y) fun _ _ => balanced_empty
  | _ => exact balanced_empty

lemma sourceVector_gives (hclean : Unbracketed U) (hU : DownClosed U) (h : U node) (whole : Bool) :
    Gives Balanced (node.sourceVector whole) :=
  .ofExcept (position_holds hclean hU h whole sourcePosition_balanced sourceRotation_balanced)

lemma rotation_holds (node : Node) : Holds Balanced (node.rotation sourceRotation) := by
  have hsum (axis : String) (haxis : Balanced axis) (node : Node) :=
    sum_holds false sourceRotation_balanced haxis node
  have hvector (x y : Node) : Holds Balanced (do
      let x ← x.sum false sourceRotation "x"
      let y ← y.sum false sourceRotation "y"
      return "new Vec2(" ++ x ++ ", " ++ y ++ ")") := by
    refine .bind (hsum "x" (Shaped.balanced (by decide)) x) fun x hx =>
      .bind (hsum "y" (Shaped.balanced (by decide)) y) fun y hy => ?_
    exact (Shaped.balanced (by decide) : Balanced ("new Vec2(" ++ x ++ ", " ++ y ++ ")"))
  unfold Node.rotation
  split
  · exact hvector _ _
  · exact hvector _ _
  · exact balanced_empty

/-! ## Words and messages -/

/-- The text at a leaf is one of its node's strings. -/
lemma Unbracketed.valueText (hclean : Unbracketed U) (h : U node) {v : Scalar} (hv : node.value? = some v)
    {s : String} (hs : v.text? = some s) : Bracketless s.toList := by
  refine hclean node h s ?_
  unfold Node.value? at hv
  split at hv
  all_goals cases hv
  all_goals simp only [Scalar.text?, reduceCtorEq, Option.some.injEq] at hs
  · simp [Node.strings, hs]
  · next text value =>
    cases value with
    | none => cases hs
    | some value =>
      rw [← Option.some.inj hs]
      simp [Node.strings]
  · simp [Node.strings, hs]

lemma upperWord_holds (hclean : Unbracketed U) (h : U node) : Holds Balanced node.upperWord := by
  unfold Node.upperWord
  split
  · next s hs =>
    obtain ⟨v, hv, hs⟩ := Option.bind_eq_some_iff.mp hs
    exact (bracketless_upper (hclean.valueText h hv hs)).balanced
  · exact balanced_empty

lemma anchor_holds (hclean : Unbracketed U) (h : U node) : Holds Balanced node.anchor := by
  refine .bind (upperWord_holds hclean h) fun word hword => ?_
  exact (Shaped.balanced (by decide) : Balanced ("EntityAnchorArgument.Anchor." ++ word))

lemma heightmap_holds (hclean : Unbracketed U) (h : U node) : Holds Balanced node.heightmap := by
  refine .bind (upperWord_holds hclean h) fun word hword => ?_
  exact (Shaped.balanced (by decide) : Balanced ("Heightmap.Types." ++ word))

lemma messageText_holds (hclean : Unbracketed U) (hU : DownClosed U) (h : U node) :
    Holds Balanced node.messageText := by
  unfold Node.messageText
  split
  · exact balanced_empty
  · split
    · next v hv => exact hclean.value (hU _ h _ List.mem_cons_self) hv
    · exact balanced_empty
  · exact balanced_empty

/-- The terms of a line with variables. -/
lemma lineTerms_holds (hclean : Unbracketed U) {nodes : List Node} (h : ∀ node ∈ nodes, U node) :
    Holds (fun parts => ∀ term ∈ parts.1, Balanced term) (lineTerms nodes) := by
  have hvalue {text value : String} {kind : WordKind} (hword : U (.word text kind value)) : Balanced value :=
    (hclean _ hword value (List.mem_cons_of_mem _ List.mem_cons_self)).balanced
  fun_induction lineTerms nodes with
  | case1 => exact List.forall_mem_nil _
  | case2 text value rest ih =>
    obtain ⟨hword, hrest⟩ := List.forall_mem_cons.mp h
    have hvalue := hvalue hword
    refine .bind (ih hrest) fun parts hparts => ?_
    exact List.forall_mem_cons.mpr ⟨Shaped.balanced (by decide), hparts⟩
  | case3 text name rest ih =>
    obtain ⟨hword, hrest⟩ := List.forall_mem_cons.mp h
    have hname := hvalue hword
    refine .bind (ih hrest) fun parts hparts => ?_
    exact List.forall_mem_cons.mpr ⟨Shaped.balanced (by decide), hparts⟩
  | case4 => exact balanced_empty

/-! ## Axes -/

structure Aligned.IsBalanced (a : Aligned) : Prop where
  x : Balanced a.x
  y : Balanced a.y
  z : Balanced a.z

lemma Aligned.isBalanced_default : ({} : Aligned).IsBalanced := by
  have hposition := sourcePosition_balanced
  constructor <;> exact Shaped.balanced (by decide)

lemma Aligned.cut_holds {a : Aligned} (ha : a.IsBalanced) {axis : Char} (haxis : isBracket axis = false) :
    Holds IsBalanced (a.cut axis) := by
  obtain ⟨hx, hy, hz⟩ := ha
  unfold Aligned.cut
  split_ifs
  · exact ⟨Shaped.balanced (by decide), hy, hz⟩
  · exact ⟨hx, Shaped.balanced (by decide), hz⟩
  · exact ⟨hx, hy, Shaped.balanced (by decide)⟩
  · exact (bracketless_quoted (bracketless_toString haxis)).balanced

lemma Aligned.cutAll_holds {axes : List Char} (haxes : Bracketless axes) {a : Aligned} (ha : a.IsBalanced) :
    Holds IsBalanced (a.cutAll axes) := by
  induction axes generalizing a with
  | nil => exact ha
  | cons axis axes ih =>
    obtain ⟨haxis, hrest⟩ := List.forall_mem_cons.mp haxes
    exact .bind (cut_holds ha haxis) fun a' ha' => ih hrest ha'

end PackToMod
