import PackToMod.Proofs.Assignments
import PackToMod.Proofs.Outcomes

/-!
# Texts of constants that assign nothing

The initialisers of constants are written with the strings of nodes, with numbers and with the symbols of other
constants. If none of the strings assigns a numbered name, none of these pieces does, and the initialisers assign it
only where their templates do.
-/

namespace PackToMod

-- The literals of the longest templates are computed with one step for each character.
set_option maxRecDepth 2000

open Build Text

/-- The strings of a node that are written into the initialisers of constants. -/
def Node.values : Node → List String
  | .word _ _ value => [value]
  | .team _ value => value.toList
  | .location l => [l.symbol]
  | .tagScalar _ value => value.text?.toList
  | .tagCompound _ entries | .scores _ entries => entries.map Prod.fst
  | _ => []

/-- No string that the nodes in `U` have written into the code assigns the name. -/
def Harmless (name : String) (U : Node → Prop) : Prop :=
  ∀ node, U node → ∀ s ∈ node.values, Unassigning name s

section

variable {name : String} {U : Node → Prop} {node : Node}

/-! ## Pieces -/

instance unassigning_number (n : Number) : Unassigning name n.text :=
  .of_notMem fun h => absurd (n.text_areParts _ h) (by decide)

instance (n : Int) : Unassigning name (toString n) :=
  .of_notMem fun h => absurd (areParts_integer n _ h) (by decide)

instance unassigning_uuid (u : Uuid) : Unassigning name u.text := by
  refine .of_notMem fun h => ?_
  obtain hdash | ⟨d, hd⟩ := exists_of_mem_uuid h
  · exact absurd hdash (by decide)
  · exact Nat.digitChar_ne '=' rfl hd.symm

lemma TagTerm.sign_notMem_text (t : TagTerm) : '=' ∉ t.text.toList := by
  rcases t with ⟨type, n⟩ | value
  · refine notMem_numbered n ?_ (by decide)
    cases type <;> decide
  · cases value <;> decide

instance (t : TagTerm) : Unassigning name t.text :=
  .of_notMem t.sign_notMem_text

instance (type : TagType) : Unassigning name type.name := by
  cases type <;> exact .of_notMem (by decide)

instance (p : PatchConstant) : Unassigning name p.symbol :=
  .of_notMem (notMem_numbered p.number (by decide) (by decide))

instance (b : Bool) : Unassigning name (SelectorConstant.flagText b) := by
  cases b <;> exact .of_notMem (by decide)

instance (order : SortOrder) : Unassigning name order.text := by
  cases order <;> exact .of_notMem (by decide)

lemma notMem_respell {spelling : Char → String} {c : Char} {s : String} (h : ∀ d ∈ s.toList, c ∉ (spelling d).toList) :
    c ∉ (respell spelling s).toList := by
  unfold respell
  rw [String.toList_ofList]
  intro hc
  obtain ⟨d, hd, hcd⟩ := List.mem_flatMap.mp hc
  exact h d hd hcd

lemma IsRangeSymbol.unassigning {sort : RangeSort} {symbol : String} (h : IsRangeSymbol sort symbol) :
    Unassigning name symbol := by
  obtain ⟨r, rfl⟩ := h
  have hbound (bound : Option Number) : '=' ∉ (sort.boundName bound).toList := by
    refine notMem_respell fun d hd => ?_
    have hne : d ≠ '=' := by
      rintro rfl
      cases bound with
      | none => exact absurd hd (by decide)
      | some n => exact absurd (n.text_areParts _ hd) (by decide)
    cases sort with
    | doubles =>
      unfold RangeSort.spelling
      dsimp only
      split_ifs
      · decide
      · decide
      · simpa [Char.toString] using hne.symm
    | ints =>
      unfold RangeSort.spelling
      dsimp only
      split_ifs
      · decide
      · simpa [Char.toString] using hne.symm
  refine .of_notMem ?_
  unfold RangeSort.symbol
  cases sort <;> simp [hbound]

lemma Harmless.location (hclean : Harmless name U) {symbol : String} (h : IsLocationSymbol U symbol) :
    Unassigning name symbol := by
  obtain ⟨l, hl, rfl⟩ := h
  exact hclean _ hl _ List.mem_cons_self

lemma unassigning_getD {α : Type} {text : α → String} {value : Option α} {default : String}
    (h : ∀ a ∈ value, Unassigning name (text a)) (hdefault : Unassigning name default) :
    Unassigning name ((value.map text).getD default) := by
  cases value with
  | none => exact hdefault
  | some a => exact h a rfl

variable [IsNumbered name]

/-! ## Values -/

lemma TagScalar.render_unassigning {value : TagScalar} (h : ∀ s ∈ value.text?, Unassigning name s) :
    Unassigning name value.render := by
  unfold TagScalar.render
  cases value with
  | byte n | short n | int n | long n =>
    exact Passes.unassigning (by decide)
  | float x | double x =>
    have hx : Unassigning name (Number.real x).text := unassigning_number _
    exact Passes.unassigning (by decide)
  | string s | unknown s => exact h s rfl

lemma Harmless.value (hclean : Harmless name U) (h : U node) {v : Scalar} (hv : node.value? = some v) :
    Unassigning name v.render := by
  have hstrings := hclean node h
  unfold Node.value? at hv
  split at hv
  all_goals cases hv
  · exact hstrings _ List.mem_cons_self
  · next text value =>
    cases value with
    | none => exact .of_notMem (by decide)
    | some s => exact hstrings s List.mem_cons_self
  · next text value =>
    cases value <;> exact .of_notMem (by decide)
  · exact unassigning_number _
  · exact unassigning_uuid _
  · exact unassigning_number _
  · next text value =>
    cases value <;> exact .of_notMem (by decide)
  · exact unassigning_number (.integer _)
  · exact TagScalar.render_unassigning fun s hs => hstrings s (Option.mem_toList.mpr hs)
  · exact .of_notMem (by decide)

lemma Harmless.argumentValue (hclean : Harmless name U) (hU : DownClosed U) {key : SelectorKey} {v : Scalar}
    (h : IsArgumentValue U key v) : Unassigning name v.render := by
  obtain ⟨text, target, arguments, hselector, a, ha, -, hv⟩ := h
  exact hclean.value (hU _ hselector _ (List.mem_map_of_mem ha)) hv

/-! ## Tags -/

lemma TagScalar.literal_unassigning {value : TagScalar} (h : ∀ s ∈ value.text?, Unassigning name s) :
    Unassigning name value.literal := by
  unfold TagScalar.literal
  cases value with
  | byte n | short n | int n | long n =>
    exact Passes.unassigning (by decide)
  | float x | double x =>
    have hx : Unassigning name (Number.real x).text := unassigning_number _
    exact Passes.unassigning (by decide)
  | string s =>
    have hs := h s rfl
    exact Passes.unassigning (by decide)
  | unknown s => exact h s rfl

/-- The step does not assign the name, unless it is its own variable. -/
def TagStep.IsHarmless (name : String) : TagStep → Prop
  | .assign _ _ value => Unassigning name (" = " ++ (value.text ++ ";\n"))
  | step => Unassigning name step.text

lemma assign_isHarmless (isLocal : Bool) (target : TagTerm) {value : TagExpression} (h : Unassigning name value.text) :
    (TagStep.assign isLocal target value).IsHarmless name := by
  unfold TagStep.IsHarmless
  exact Passes.unassigning (by decide)

lemma put_isHarmless (target value : TagTerm) {key : String} (h : Unassigning name key) :
    (TagStep.put target key value).IsHarmless name := by
  unfold TagStep.IsHarmless TagStep.text
  exact Passes.unassigning (by decide)

lemma add_isHarmless (target value : TagTerm) : (TagStep.add target value).IsHarmless name := by
  unfold TagStep.IsHarmless TagStep.text
  exact Passes.unassigning (by decide)

theorem Node.IsTag.steps_isHarmless (hclean : Harmless name U) (hU : DownClosed U) (htag : node.IsTag) (h : U node)
    {isLocal : Bool} {n n' : Nat} {tag : TagConstant} (hlower : node.lowerTag isLocal n = .ok tag n') :
    ∀ step ∈ tag.steps, step.IsHarmless name := by
  induction htag generalizing isLocal n n' tag with
  | flag text value =>
    unfold Node.lowerTag at hlower
    cases hlower
    exact List.forall_mem_nil _
  | @scalar text value type hvalue =>
    rw [Node.lowerTag, hvalue] at hlower
    cases hlower
    refine List.forall_mem_singleton.mpr (assign_isHarmless _ _ (TagScalar.literal_unassigning fun s hs => ?_))
    exact hclean _ h s (Option.mem_toList.mpr hs)
  | @list text elements _ ih =>
    rw [lowerTag_list] at hlower
    obtain ⟨steps, hsteps, rfl⟩ := run_map_eq_ok hlower
    refine List.forall_mem_cons.mpr ⟨assign_isHarmless _ _ (.of_notMem (by decide)), ?_⟩
    refine forall_mem_lowerParts (fun _ _ t => add_isHarmless _ t) ?_ hsteps
    exact fun e he n tag n' hpart => ih e he (hU _ h _ he) hpart
  | @compound text entries _ ih =>
    rw [lowerTag_compound] at hlower
    obtain ⟨steps, hsteps, rfl⟩ := run_map_eq_ok hlower
    refine List.forall_mem_cons.mpr ⟨assign_isHarmless _ _ (.of_notMem (by decide)), ?_⟩
    refine forall_mem_lowerParts (fun e he t => put_isHarmless _ t ?_) ?_ hsteps
    · exact hclean _ h _ (List.mem_map_of_mem he)
    · exact fun e he n tag n' hpart => ih e he (hU _ h _ (List.mem_map_of_mem he)) hpart

/-! ## Patches -/

lemma PatchConstant.unassigning_start (p : PatchConstant) :
    Unassigning name ("var " ++ p.builder ++ " = DataComponentPatch.builder();\n") := by
  unfold builder
  exact Passes.unassigning (by decide)

lemma PatchConstant.unassigning_setting (hclean : Harmless name U) (p : PatchConstant) {s : PatchSetting}
    (h : PatchSetting.IsOf U s) : Unassigning name (p.settingText s) := by
  have hlocation := hclean.location h
  unfold settingText builder
  exact Passes.unassigning (by decide)

lemma PatchConstant.unassigning_end (p : PatchConstant) :
    Unassigning name (" = " ++ (p.builder ++ ".build();\n")) := by
  unfold builder
  exact Passes.unassigning (by decide)

/-! ## Selectors -/

lemma EntityPredicate.text_unassigning {p : EntityPredicate} (hpreparation : Unassigning name p.preparation)
    (htest : Unassigning name p.test) : Unassigning name p.text := by
  have hsigned : Unassigning name ((if p.inverted then "!" else "") ++ p.test) := by
    split <;> exact Passes.unassigning (by decide)
  unfold EntityPredicate.text
  dsimp only
  split <;> exact Passes.unassigning (by decide)

lemma progressText_unassigning {location : String} (h : Unassigning name location) :
    Unassigning name (progressText location) := by
  unfold progressText
  exact Passes.unassigning (by decide)

lemma EntityPredicate.IsOf.text_unassigning (hclean : Harmless name U) (hU : DownClosed U) {p : EntityPredicate}
    (h : p.IsOf U) : Unassigning name p.text := by
  have hnone : Unassigning name "" := .of_notMem (by decide)
  cases h with
  | tag inverted hv | gamemode inverted hv | name inverted hv =>
    have hvalue := hclean.argumentValue hU hv
    exact EntityPredicate.text_unassigning hnone (Passes.unassigning (by decide))
  | xRotation hrange | yRotation hrange | level hrange =>
    have hsymbol : Unassigning name _ := hrange.unassigning
    exact EntityPredicate.text_unassigning hnone (Passes.unassigning (by decide))
  | type inverted isTag hlocation =>
    have hsymbol := hclean.location hlocation
    refine EntityPredicate.text_unassigning hnone ?_
    unfold typePredicate
    dsimp only
    split <;> exact Passes.unassigning (by decide)
  | advancement test hlocation =>
    have hprogress := progressText_unassigning (hclean.location hlocation)
    unfold advancementPredicate
    cases test with
    | done expected => exact EntityPredicate.text_unassigning hnone (Passes.unassigning (by decide))
    | criteria expected =>
      exact EntityPredicate.text_unassigning (Passes.unassigning (by decide)) (Passes.unassigning (by decide))
  | nbt t => exact EntityPredicate.text_unassigning hnone (Passes.unassigning (by decide))
  | score hscores hobjective hrange =>
    have hsymbol : Unassigning name _ := hrange.unassigning
    have hname := hclean _ hscores _ hobjective
    unfold scorePredicate
    exact EntityPredicate.text_unassigning hnone (Passes.unassigning (by decide))
  | @team v hv =>
    have hvalue := hclean.argumentValue hU hv
    refine EntityPredicate.text_unassigning ?_ ?_
    · cases v <;> exact hnone
    · unfold teamPredicate
      split <;> exact Passes.unassigning (by decide)

lemma Box.text_unassigning (b : Box) : Unassigning name b.text := by
  unfold Box.text
  exact Passes.unassigning (by decide)

lemma unassigning_sepBy {texts : List String} (h : ∀ text ∈ texts, Unassigning name text) :
    Unassigning name (sepBy ", " texts) := by
  fun_induction Text.sepBy ", " texts with
  | case1 => exact .of_notMem (by decide)
  | case2 text => exact h text List.mem_cons_self
  | case3 text texts _ ih =>
    obtain ⟨htext, hrest⟩ := List.forall_mem_cons.mp h
    have htexts := ih hrest
    exact Passes.unassigning (by decide)

/-- A selector is assigned at the front of its initialiser, and the name not later. -/
theorem SelectorConstant.initialiser_assigns (hU : DownClosed U) {s : SelectorConstant} (h : s.query.IsOf U) :
    ∃ value, s.initialiser = s.symbol ++ " = " ++ value ∧ (Harmless name U → Unassigning name (" = " ++ value)) := by
  have hopening : " = new EntitySelector(\n                " = " = " ++ "new EntitySelector(\n                " := by
    decide
  unfold SelectorConstant.initialiser
  dsimp only
  rw [hopening]
  simp only [String.append_assoc]
  refine ⟨_, rfl, fun hclean => ?_⟩
  have hlimit : Unassigning name (if s.query.singleResult then "1" else "EntitySelector.INFINITE") := by
    split <;> exact .of_notMem (by decide)
  have hpredicates : Unassigning name (Text.sepBy ", " (s.query.predicates.map EntityPredicate.text)) := by
    refine unassigning_sepBy fun text htext => ?_
    obtain ⟨p, hp, rfl⟩ := List.mem_map.mp htext
    exact (h.predicates p hp).text_unassigning hclean hU
  have hdistance : Unassigning name (s.query.distance.getD "MinMaxBounds.Doubles.ANY") := by
    cases hd : s.query.distance with
    | none => exact .of_notMem (by decide)
    | some range => exact (h.distance range hd).unassigning
  have hx : Unassigning name ((s.query.x.map Scalar.render).getD "old.x") :=
    unassigning_getD (fun v hv => hclean.argumentValue hU (h.x v hv)) (.of_notMem (by decide))
  have hy : Unassigning name ((s.query.y.map Scalar.render).getD "old.y") :=
    unassigning_getD (fun v hv => hclean.argumentValue hU (h.y v hv)) (.of_notMem (by decide))
  have hz : Unassigning name ((s.query.z.map Scalar.render).getD "old.z") :=
    unassigning_getD (fun v hv => hclean.argumentValue hU (h.z v hv)) (.of_notMem (by decide))
  have hbox : Unassigning name ((s.box.map Box.text).getD "null") :=
    unassigning_getD (fun b _ => b.text_unassigning) (.of_notMem (by decide))
  have hplayer : Unassigning name ((s.query.playerName.map fun name => "\"" ++ (name ++ "\"")).getD "null") := by
    refine unassigning_getD (fun player hplayer => ?_) (.of_notMem (by decide))
    obtain ⟨text, hword⟩ := h.playerName player hplayer
    have hvalue := hclean _ hword player List.mem_cons_self
    exact Passes.unassigning (by decide)
  have hid : Unassigning name
      ((s.query.entityId.map fun id => "UUID.fromString(\"" ++ (id.text ++ "\")")).getD "null") := by
    refine unassigning_getD (fun id _ => ?_) (.of_notMem (by decide))
    exact Passes.unassigning (by decide)
  exact Passes.unassigning (by decide)

end

end PackToMod
