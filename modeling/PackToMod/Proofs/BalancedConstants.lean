import PackToMod.Command.Chat
import PackToMod.Command.Source
import PackToMod.Proofs.Outcomes

/-!
# Constants are well bracketed

Where the texts of the nodes have no brackets, all brackets in the texts that are made from them come from
the templates. Every template closes what it opens, so the initialisers of tags, patches and selectors are
balanced, and so are the expressions that commands are put together from.
-/

namespace PackToMod

-- The literals of the longest templates are computed with one step for each character.
set_option maxRecDepth 2000

open Build Text

/-- The strings that a node holds itself. -/
def Node.strings : Node → List String
  | .absent => []
  | .word text _ value => [text, value]
  | .team text value => text :: value.toList
  | .flag text _ | .number text _ | .uuid text _ | .coordinate text _ | .vector2 text .. | .vector3 text ..
  | .tagFlag text _ | .tagList text _ | .tagArray text _ | .itemStack text .. | .itemComponent text ..
  | .message text _ | .tagPath text _ | .subscript text _ | .other text => [text]
  | .range r => [r.text]
  | .location l => l.text :: l.path :: l.domain.toList
  | .tagScalar text value => text :: value.text?.toList
  | .tagCompound text entries => text :: entries.map Prod.fst
  | .block text _ states _ => text :: states.flatMap fun state => [state.1, state.2]
  | .selector text target arguments => text :: target :: arguments.map SelectorArgument.key
  | .scores text entries => text :: entries.map Prod.fst
  | .advancements text entries => text :: entries.flatMap fun entry => match entry.2 with
    | .done _ => []
    | .criteria expected => expected.map Prod.fst
  | .command text identifier _ dump => [text, identifier, dump]

/-- The nodes in `U` have no brackets in their strings. -/
def Unbracketed (U : Node → Prop) : Prop :=
  ∀ node, U node → ∀ s ∈ node.strings, Bracketless s.toList

section

variable {U : Node → Prop} {node : Node}

lemma Unbracketed.text (hclean : Unbracketed U) (h : U node) {text : String} (htext : node.text? = some text) :
    Bracketless text.toList := by
  refine hclean node h text ?_
  cases node <;> simp_all [Node.text?, Node.strings]

/-! ## Values -/

lemma TagScalar.render_balanced {value : TagScalar} (h : ∀ s ∈ value.text?, Bracketless s.toList) :
    Balanced value.render := by
  unfold TagScalar.render
  cases value with
  | byte n | short n | int n | long n =>
    have hn := (bracketless_integer n).balanced
    exact Shaped.balanced (by decide)
  | float x | double x =>
    have hx := (bracketless_number (.real x)).balanced
    exact Shaped.balanced (by decide)
  | string s | unknown s => exact (h s rfl).balanced

lemma Unbracketed.value (hclean : Unbracketed U) (h : U node) {v : Scalar} (hv : node.value? = some v) :
    Balanced v.render := by
  have hstrings := hclean node h
  unfold Node.value? at hv
  split at hv
  all_goals cases hv
  · exact (hstrings _ (List.mem_cons_of_mem _ List.mem_cons_self)).balanced
  · next text value =>
    cases value with
    | none => decide
    | some s => exact (hstrings s (List.mem_cons_of_mem _ List.mem_cons_self)).balanced
  · next text value =>
    cases value <;> decide
  · exact (bracketless_number _).balanced
  · exact (bracketless_uuid _).balanced
  · exact (bracketless_number _).balanced
  · next text value =>
    cases value <;> decide
  · exact (bracketless_number (.integer _)).balanced
  · refine TagScalar.render_balanced fun s hs => hstrings s (List.mem_cons_of_mem _ ?_)
    exact Option.mem_toList.mpr hs
  · exact balanced_empty

lemma Unbracketed.argumentValue (hclean : Unbracketed U) (hU : DownClosed U) {key : SelectorKey} {v : Scalar}
    (h : IsArgumentValue U key v) : Balanced v.render := by
  obtain ⟨text, target, arguments, hselector, a, ha, -, hv⟩ := h
  exact hclean.value (hU _ hselector _ (List.mem_map_of_mem ha)) hv

/-! ## Symbols -/

lemma bracketless_toString {c : Char} (hc : isBracket c = false) : Bracketless c.toString.toList := by
  rw [Char.toString, String.toList_singleton]
  exact .cons hc (List.forall_mem_nil _)

lemma Unbracketed.location (hclean : Unbracketed U) {symbol : String} (h : IsLocationSymbol U symbol) :
    Bracketless symbol.toList := by
  obtain ⟨l, hl, rfl⟩ := h
  have hstrings := hclean _ hl
  have hpath : Bracketless l.path.toList := hstrings _ (List.mem_cons_of_mem _ List.mem_cons_self)
  have hspelling (c : Char) (hc : isBracket c = false) : Bracketless (ResourceLocation.spelling c).toList := by
    unfold ResourceLocation.spelling
    split_ifs
    · decide
    · decide
    · exact bracketless_toString hc
  unfold ResourceLocation.symbol
  rw [String.toList_append]
  refine .append (by decide) (bracketless_respell ?_ hspelling)
  cases hdomain : l.domain with
  | none => exact hpath
  | some domain =>
    have hdomain : Bracketless domain.toList := by
      refine hstrings domain ?_
      simp [Node.strings, hdomain]
    rw [String.toList_append, String.toList_append]
    exact (hdomain.append (by decide)).append hpath

lemma IsRangeSymbol.balanced {sort : RangeSort} {symbol : String} (h : IsRangeSymbol sort symbol) :
    Balanced symbol := by
  obtain ⟨r, rfl⟩ := h
  have hspelling (c : Char) (hc : isBracket c = false) : Bracketless (sort.spelling c).toList := by
    cases sort with
    | doubles =>
      unfold RangeSort.spelling
      dsimp only
      split_ifs
      · decide
      · decide
      · exact bracketless_toString hc
    | ints =>
      unfold RangeSort.spelling
      dsimp only
      split_ifs
      · decide
      · exact bracketless_toString hc
  have hbound (bound : Option Number) : Balanced (sort.boundName bound) := by
    refine (bracketless_respell ?_ hspelling).balanced
    cases bound with
    | none => decide
    | some n => exact bracketless_number n
  have hmin := hbound r.min
  have hmax := hbound r.max
  unfold RangeSort.symbol
  cases sort <;> exact Shaped.balanced (by decide)

instance (type : TagType) : Balanced type.name := by
  cases type <;> decide

lemma TagTerm.text_balanced (t : TagTerm) : Balanced t.text := by
  rcases t with ⟨type, n⟩ | b
  · have hn := (bracketless_nat n).balanced
    change Balanced (type.name ++ "_" ++ toString n)
    exact Shaped.balanced (by decide)
  · cases b <;> decide

/-! ## Tags -/

lemma TagScalar.literal_balanced {value : TagScalar} (h : ∀ s ∈ value.text?, Bracketless s.toList) :
    Balanced value.literal := by
  unfold TagScalar.literal
  cases value with
  | byte n | short n | int n | long n =>
    have hn := (bracketless_integer n).balanced
    exact Shaped.balanced (by decide)
  | float x | double x =>
    have hx := (bracketless_number (.real x)).balanced
    exact Shaped.balanced (by decide)
  | string s =>
    have hs := (h s rfl).balanced
    exact Shaped.balanced (by decide)
  | unknown s => exact (h s rfl).balanced

lemma assign_balanced (isLocal : Bool) (target : TagTerm) {value : TagExpression} (h : Balanced value.text) :
    Balanced (TagStep.assign isLocal target value).text := by
  have htarget := target.text_balanced
  have hkeyword : Balanced (if isLocal then "var " else "") := by cases isLocal <;> decide
  unfold TagStep.text
  exact Shaped.balanced (by decide)

lemma put_balanced (target value : TagTerm) {key : String} (h : Bracketless key.toList) :
    Balanced (TagStep.put target key value).text := by
  have htarget := target.text_balanced
  have hvalue := value.text_balanced
  have hkey := h.balanced
  unfold TagStep.text
  exact Shaped.balanced (by decide)

lemma add_balanced (target value : TagTerm) : Balanced (TagStep.add target value).text := by
  have htarget := target.text_balanced
  have hvalue := value.text_balanced
  unfold TagStep.text
  exact Shaped.balanced (by decide)

theorem Node.IsTag.steps_balanced (hclean : Unbracketed U) (hU : DownClosed U) (htag : node.IsTag) (h : U node)
    {isLocal : Bool} {n n' : Nat} {tag : TagConstant} (hlower : node.lowerTag isLocal n = .ok tag n') :
    ∀ step ∈ tag.steps, Balanced step.text := by
  induction htag generalizing isLocal n n' tag with
  | flag text value =>
    unfold Node.lowerTag at hlower
    cases hlower
    exact List.forall_mem_nil _
  | @scalar text value type hvalue =>
    rw [Node.lowerTag, hvalue] at hlower
    cases hlower
    refine List.forall_mem_singleton.mpr (assign_balanced _ _ (TagScalar.literal_balanced fun s hs => ?_))
    exact hclean _ h s (List.mem_cons_of_mem _ (Option.mem_toList.mpr hs))
  | @list text elements _ ih =>
    rw [lowerTag_list] at hlower
    obtain ⟨steps, hsteps, rfl⟩ := run_map_eq_ok hlower
    refine List.forall_mem_cons.mpr ⟨assign_balanced _ _ (by decide), ?_⟩
    refine forall_mem_lowerParts (fun _ _ t => add_balanced _ t) ?_ hsteps
    exact fun e he n tag n' hpart => ih e he (hU _ h _ he) hpart
  | @compound text entries _ ih =>
    rw [lowerTag_compound] at hlower
    obtain ⟨steps, hsteps, rfl⟩ := run_map_eq_ok hlower
    refine List.forall_mem_cons.mpr ⟨assign_balanced _ _ (by decide), ?_⟩
    refine forall_mem_lowerParts (fun e he t => put_balanced _ t ?_) ?_ hsteps
    · exact hclean _ h _ (List.mem_cons_of_mem _ (List.mem_map_of_mem he))
    · exact fun e he n tag n' hpart => ih e he (hU _ h _ (List.mem_map_of_mem he)) hpart

lemma TagConstant.initialiser_balanced {t : TagConstant} (h : ∀ step ∈ t.steps, Balanced step.text) :
    Balanced t.initialiser := by
  refine Balanced.join fun text htext => ?_
  obtain ⟨step, hstep, rfl⟩ := List.mem_map.mp htext
  exact h step hstep

/-! ## Selectors -/

lemma EntityPredicate.text_balanced {p : EntityPredicate} (hpreparation : Balanced p.preparation)
    (htest : Balanced p.test) : Balanced p.text := by
  have hsign : Balanced (if p.inverted then "!" else "") := by
    cases p.inverted <;> decide
  unfold EntityPredicate.text
  dsimp only
  by_cases hplayers : p.playersOnly = true
  · rw [if_pos hplayers]
    exact Shaped.balanced (by decide)
  · rw [if_neg hplayers]
    exact Shaped.balanced (by decide)

lemma progressText_balanced {location : String} (h : Balanced location) : Balanced (progressText location) := by
  unfold progressText
  exact Shaped.balanced (by decide)

lemma EntityPredicate.IsOf.text_balanced (hclean : Unbracketed U) (hU : DownClosed U) {p : EntityPredicate}
    (h : p.IsOf U) : Balanced p.text := by
  cases h with
  | tag inverted hv | gamemode inverted hv | name inverted hv =>
    have hvalue := hclean.argumentValue hU hv
    exact EntityPredicate.text_balanced balanced_empty (Shaped.balanced (by decide))
  | xRotation hrange | yRotation hrange | level hrange =>
    have hsymbol := hrange.balanced
    exact EntityPredicate.text_balanced balanced_empty (Shaped.balanced (by decide))
  | type inverted isTag hlocation =>
    have hsymbol := (hclean.location hlocation).balanced
    refine EntityPredicate.text_balanced balanced_empty ?_
    unfold typePredicate
    dsimp only
    split <;> exact Shaped.balanced (by decide)
  | advancement test hlocation =>
    have hprogress := progressText_balanced (hclean.location hlocation).balanced
    unfold advancementPredicate
    cases test with
    | done expected => exact EntityPredicate.text_balanced balanced_empty (Shaped.balanced (by decide))
    | criteria expected =>
      exact EntityPredicate.text_balanced (Shaped.balanced (by decide)) (Shaped.balanced (by decide))
  | nbt t =>
    have hterm := t.text_balanced
    exact EntityPredicate.text_balanced balanced_empty (Shaped.balanced (by decide))
  | score hscores hobjective hrange =>
    have hsymbol := hrange.balanced
    have hname := (hclean _ hscores _ (List.mem_cons_of_mem _ hobjective)).balanced
    unfold scorePredicate
    exact EntityPredicate.text_balanced balanced_empty (Shaped.balanced (by decide))
  | @team v hv =>
    have hvalue := hclean.argumentValue hU hv
    refine EntityPredicate.text_balanced ?_ ?_
    · cases v <;> exact balanced_empty
    · unfold teamPredicate
      split <;> exact Shaped.balanced (by decide)

lemma Box.text_balanced (b : Box) : Balanced b.text := by
  have hx := (bracketless_number b.x).balanced
  have hy := (bracketless_number b.y).balanced
  have hz := (bracketless_number b.z).balanced
  unfold Box.text
  exact Shaped.balanced (by decide)

lemma SelectorConstant.symbol_balanced (s : SelectorConstant) : Balanced s.symbol := by
  have hn := (bracketless_nat s.number).balanced
  unfold SelectorConstant.symbol
  exact Shaped.balanced (by decide)

lemma balanced_getD {α : Type} {text : α → String} {value : Option α} {default : String}
    (h : ∀ a ∈ value, Balanced (text a)) (hdefault : Balanced default) :
    Balanced ((value.map text).getD default) := by
  cases value with
  | none => exact hdefault
  | some a => exact h a rfl

lemma flagText_balanced (b : Bool) : Balanced (SelectorConstant.flagText b) := by
  cases b <;> decide

theorem SelectorConstant.initialiser_balanced (hclean : Unbracketed U) (hU : DownClosed U) {s : SelectorConstant}
    (h : s.query.IsOf U) : Balanced s.initialiser := by
  have hsymbol := s.symbol_balanced
  have hlimit : Balanced (if s.query.singleResult then "1" else "EntitySelector.INFINITE") := by
    split <;> exact Shaped.balanced (by decide)
  have hentities := flagText_balanced s.query.includesEntities
  have hworld := flagText_balanced s.query.worldLimited
  have hcurrent := flagText_balanced s.query.currentEntity
  have hselector := flagText_balanced s.query.usesSelector
  have hpredicates : Balanced (Text.sepBy ", " (s.query.predicates.map EntityPredicate.text)) := by
    refine Balanced.sepBy (Shaped.balanced (by decide)) fun text htext => ?_
    obtain ⟨p, hp, rfl⟩ := List.mem_map.mp htext
    exact (h.predicates p hp).text_balanced hclean hU
  have hdistance : Balanced (s.query.distance.getD "MinMaxBounds.Doubles.ANY") := by
    cases hd : s.query.distance with
    | none => decide
    | some range => exact (h.distance range hd).balanced
  have hx : Balanced ((s.query.x.map Scalar.render).getD "old.x") :=
    balanced_getD (fun v hv => hclean.argumentValue hU (h.x v hv)) (Shaped.balanced (by decide))
  have hy : Balanced ((s.query.y.map Scalar.render).getD "old.y") :=
    balanced_getD (fun v hv => hclean.argumentValue hU (h.y v hv)) (Shaped.balanced (by decide))
  have hz : Balanced ((s.query.z.map Scalar.render).getD "old.z") :=
    balanced_getD (fun v hv => hclean.argumentValue hU (h.z v hv)) (Shaped.balanced (by decide))
  have hbox : Balanced ((s.box.map Box.text).getD "null") :=
    balanced_getD (fun b _ => b.text_balanced) (Shaped.balanced (by decide))
  have horder : Balanced s.query.order.text := by
    cases s.query.order <;> decide
  have hname : Balanced ((s.query.playerName.map fun name => "\"" ++ name ++ "\"").getD "null") := by
    refine balanced_getD (fun name hname => ?_) (Shaped.balanced (by decide))
    obtain ⟨text, hword⟩ := h.playerName name hname
    have hvalue := (hclean _ hword name (List.mem_cons_of_mem _ List.mem_cons_self)).balanced
    exact Shaped.balanced (by decide)
  have hid : Balanced ((s.query.entityId.map fun id => "UUID.fromString(\"" ++ id.text ++ "\")").getD
      "null") := by
    refine balanced_getD (fun id _ => ?_) (Shaped.balanced (by decide))
    have hvalue := (bracketless_uuid id).balanced
    exact Shaped.balanced (by decide)
  unfold SelectorConstant.initialiser
  dsimp only
  exact Shaped.balanced (by decide)

/-! ## Patches -/

theorem PatchConstant.initialiser_balanced (hclean : Unbracketed U) {p : PatchConstant}
    (h : ∀ s ∈ p.settings, PatchSetting.IsOf U s) : Balanced p.initialiser := by
  have hn := (bracketless_nat p.number).balanced
  have hsymbol : Balanced p.symbol := by
    unfold PatchConstant.symbol
    exact Shaped.balanced (by decide)
  have hbuilder : Balanced p.builder := by
    unfold PatchConstant.builder
    exact Shaped.balanced (by decide)
  have hsettings : Balanced (String.join (p.settings.map p.settingText)) := by
    refine Balanced.join fun text htext => ?_
    obtain ⟨s, hs, rfl⟩ := List.mem_map.mp htext
    have hlocation := (hclean.location (h s hs)).balanced
    have hvalue := s.value.text_balanced
    unfold PatchConstant.settingText
    exact Shaped.balanced (by decide)
  unfold PatchConstant.initialiser
  exact Shaped.balanced (by decide)

/-- All initialisers of a build whose constants were made from nodes in `U`. -/
lemma Build.Derived.balanced {b : Build} (hclean : Unbracketed U) (hU : DownClosed U) (h : b.Derived U) :
    (∀ entry ∈ b.tags.entries, Balanced entry.2.initialiser) ∧
      (∀ entry ∈ b.patches.entries, Balanced entry.2.initialiser) ∧
      ∀ entry ∈ b.selectors.entries, Balanced entry.2.initialiser := by
  obtain ⟨htags, hpatches, hselectors⟩ := h
  refine ⟨fun entry hentry => ?_, fun entry hentry => ?_, fun entry hentry => ?_⟩
  · obtain ⟨node, n, n', hnode, -, hlower⟩ := htags entry hentry
    have htag : node.IsTag := (lowerTag_gives false node).ok hlower
    exact TagConstant.initialiser_balanced (htag.steps_balanced hclean hU hnode hlower)
  · obtain ⟨components, b₀, b₁, hcomponents, hsettings⟩ := hpatches entry hentry
    exact PatchConstant.initialiser_balanced hclean ((declareSettings_gives hU hcomponents).ok hsettings)
  · obtain ⟨node, players, b₀, b₁, hnode, hquery⟩ := hselectors entry hentry
    exact SelectorConstant.initialiser_balanced hclean hU ((query_gives hU hnode players).ok hquery)

end

end PackToMod
