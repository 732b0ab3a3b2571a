import PackToMod.Build.BlockPredicates
import PackToMod.Build.Functions
import PackToMod.Build.Items
import PackToMod.Build.Paths
import PackToMod.Build.Selectors
import PackToMod.Proofs.Growth

/-!
# What declaring a constant does to a build

Every operation that declares constants only makes the build grow, also when it fails half-way, and the
symbol that it returns is that of a registered entry.
-/

namespace PackToMod

open Build

variable {U : Node → Prop}

/-! ## Tags, locations and ranges -/

lemma declareTag_runs {node : Node} (h : U node) :
    Runs (Basic U) (fun tag b => ∃ entry ∈ b.tags.entries, entry.2.root = tag.term)
      node.declareTag := by
  intro b
  unfold Node.declareTag Node.key
  cases htext : node.text? with
  | none => exact refl_of (Basic U) b
  | some key =>
    simp only [run_bind, BuildM.require, run_pure, run_get]
    cases hget : b.tags.get? key with
    | some tag => exact ⟨refl_of (Basic U) b, _, Registry.mem_of_get? hget, rfl⟩
    | none =>
      have hnumbers := lowerTag_numbers false node (b.counter + 1)
      simp only [run_bind, run_fresh, BuildM.numbering]
      cases hlower : node.lowerTag false (b.counter + 1) with
      | error f n =>
        rw [hlower] at hnumbers
        exact Basic.counter (Nat.le_of_succ_le hnumbers)
      | ok tag n =>
        rw [hlower] at hnumbers
        have hnew := Registry.get?_eq_none_iff.mp hget
        refine ⟨Basic.tag h htext hlower hnew (Nat.le_succ _) hnumbers.1 hnumbers.2, ?_⟩
        exact ⟨_, Registry.mem_of_get? (Registry.get?_set_self _ _ _), rfl⟩

lemma declareLocation_runs {l : ResourceLocation} (h : U (.location l)) :
    Runs (Basic U) (fun symbol b => symbol = l.symbol ∧ (l.text, l) ∈ b.locations.entries)
      (declareLocation l) :=
  fun _ => ⟨Basic.location h, rfl, Registry.mem_of_get? (Registry.get?_set_self _ _ _)⟩

lemma eq_of_location? {node : Node} {l : ResourceLocation} (h : node.location? = some l) :
    node = .location l := by
  cases node <;> simp_all [Node.location?]

lemma eq_of_range? {node : Node} {r : Range} (h : node.range? = some r) : node = .range r := by
  cases node <;> simp_all [Node.range?]

lemma nodeDeclareLocation_runs {node : Node} (h : U node) :
    Runs (Basic U) (fun symbol b => ∃ l, node = .location l ∧ symbol = l.symbol ∧
      (l.text, l) ∈ b.locations.entries) node.declareLocation := by
  intro b
  unfold Node.declareLocation
  cases hl : node.location? with
  | none => exact refl_of (Basic U) b
  | some l =>
    have hnode := eq_of_location? hl
    have hrun := declareLocation_runs (hnode ▸ h) b
    exact ⟨hrun.1, l, hnode, hrun.2⟩

lemma rangeDeclare_runs (sort : RangeSort) {r : Range} (h : U (.range r)) :
    Runs (Basic U) (fun symbol b => symbol = sort.symbol r.min r.max ∧
      ∃ constant, (r.text, constant) ∈ (b.ranges sort).entries) (r.declare sort) := by
  intro b
  unfold Range.declare Registry.contains
  simp only [run_bind, run_get]
  cases hget : (b.ranges sort).get? r.text with
  | some constant => exact ⟨refl_of (Basic U) b, rfl, constant, Registry.mem_of_get? hget⟩
  | none =>
    have hnew := Registry.get?_eq_none_iff.mp hget
    cases hconstant : RangeConstant.ofRange r with
    | error e => exact refl_of (Basic U) b
    | ok constant =>
      refine ⟨Basic.range h hnew hconstant, rfl, constant, ?_⟩
      have hset := Registry.get?_set_self (b.ranges sort) r.text constant
      cases sort <;> exact Registry.mem_of_get? hset

lemma declareRange_runs (sort : RangeSort) {node : Node} (h : U node) :
    Runs (Basic U) (fun symbol b => ∃ r, node = .range r ∧ symbol = sort.symbol r.min r.max ∧
      ∃ constant, (r.text, constant) ∈ (b.ranges sort).entries) (node.declareRange sort) := by
  intro b
  unfold Node.declareRange
  cases hr : node.range? with
  | none => exact refl_of (Basic U) b
  | some r =>
    have hnode := eq_of_range? hr
    have hrun := rangeDeclare_runs sort (hnode ▸ h) b
    rw [run_bind]
    simp only [BuildM.require, run_pure]
    cases hdeclare : r.declare sort b with
    | error f b' =>
      rw [hdeclare] at hrun
      exact hrun
    | ok symbol b' =>
      rw [hdeclare] at hrun
      exact ⟨hrun.1, r, hnode, hrun.2⟩

/-! ## Selectors -/

lemma requireAdvancements_keeps {entries : List (Node × AdvancementTest)}
    (h : ∀ entry ∈ entries, U entry.1) (q : Query) :
    Keeps (Basic U) (q.requireAdvancements entries) := by
  induction entries generalizing q with
  | nil => exact Keeps.pure q
  | cons entry entries ih =>
    have hlocation := Keeps.of_runs (nodeDeclareLocation_runs (h entry List.mem_cons_self))
    refine Keeps.bind hlocation fun location => ?_
    exact ih (fun e he => h e (List.mem_cons_of_mem _ he)) _

lemma requireScores_keeps {entries : List (String × Node)} (h : ∀ entry ∈ entries, U entry.2)
    (q : Query) : Keeps (Basic U) (q.requireScores entries) := by
  induction entries generalizing q with
  | nil => exact Keeps.pure q
  | cons entry entries ih =>
    have hrange := Keeps.of_runs (declareRange_runs .ints (h entry List.mem_cons_self))
    refine Keeps.bind hrange fun range => ?_
    exact ih (fun e he => h e (List.mem_cons_of_mem _ he)) _

lemma scalar_keeps (a : SelectorArgument Node) : Keeps (Basic U) a.scalar :=
  Keeps.require _ _

lemma applyKey_keeps (hU : DownClosed U) {a : SelectorArgument Node} (h : U a.value) (q : Query)
    (key : SelectorKey) : Keeps (Basic U) (q.applyKey a key) := by
  have hrange : Keeps (Basic U) (a.value.declareRange .doubles) :=
    Keeps.of_runs (declareRange_runs .doubles h)
  cases key with
  | x | y | z | dx | dy | dz | tag | gamemode | name | team =>
    exact Keeps.bind (scalar_keeps a) fun _ => Keeps.pure _
  | distance | xRotation | yRotation | level => exact Keeps.bind hrange fun _ => Keeps.pure _
  | type =>
    rw [Query.applyKey]
    refine Keeps.require_bind fun l hl => ?_
    split
    · exact Keeps.pure _
    · have hlocation : Keeps (Basic U) (declareLocation l) :=
        Keeps.of_runs (declareLocation_runs (eq_of_location? hl ▸ h))
      exact Keeps.bind hlocation fun _ => Keeps.pure _
  | advancements =>
    rw [Query.applyKey]
    split
    · next text entries hvalue =>
      refine requireAdvancements_keeps (fun entry hentry => hU _ h _ ?_) q
      rw [hvalue]
      exact List.mem_map_of_mem hentry
    · exact Keeps.throw _
  | predicate => exact Keeps.throw _
  | sort => exact Keeps.bind (scalar_keeps a) fun _ => Keeps.ofExcept _ _
  | nbt => exact Keeps.bind (Keeps.of_runs (declareTag_runs h)) fun _ => Keeps.pure _
  | scores =>
    rw [Query.applyKey]
    split
    · next text entries hvalue =>
      refine requireScores_keeps (fun entry hentry => hU _ h _ ?_) q
      rw [hvalue]
      exact List.mem_map_of_mem hentry
    · exact Keeps.throw _

lemma applyArguments_keeps (hU : DownClosed U) {arguments : List (SelectorArgument Node)}
    (h : ∀ a ∈ arguments, U a.value) (q : Query) : Keeps (Basic U) (q.applyArguments arguments) := by
  induction arguments generalizing q with
  | nil => exact Keeps.pure q
  | cons a rest ih =>
    have hfirst : Keeps (Basic U) (q.applyArgument a) :=
      Keeps.bind (Keeps.require _ _) fun key => applyKey_keeps hU (h a List.mem_cons_self) q key
    exact Keeps.bind hfirst fun q' => ih (fun e he => h e (List.mem_cons_of_mem _ he)) q'

lemma query_keeps (hU : DownClosed U) {node : Node} (h : U node) (players : Bool) :
    Keeps (Basic U) (node.query players) := by
  unfold Node.query
  split
  · next text target arguments =>
    exact applyArguments_keeps hU (fun a ha => hU _ h _ (List.mem_map_of_mem ha)) _
  · exact Keeps.pure _
  · exact Keeps.pure _
  · exact Keeps.throw _

lemma find_runs (hU : DownClosed U) {node : Node} (h : U node) (single players : Bool) :
    Runs (Quiet U) (fun text b => ∃ entry ∈ b.selectors.entries, ∃ players,
      text = entry.2.find single players) (node.find single players) := by
  intro b
  unfold Node.find Node.key
  cases htext : node.text? with
  | none => exact refl_of (Quiet U) b
  | some key =>
    simp only [run_bind, BuildM.require, run_pure, run_get]
    cases hget : b.selectors.get? key with
    | some c => exact ⟨refl_of (Quiet U) b, _, Registry.mem_of_get? hget, players, rfl⟩
    | none =>
      have hquery := query_keeps hU h players { b with counter := b.counter + 1 }
      simp only [run_bind, run_fresh]
      cases hq : node.query players { b with counter := b.counter + 1 } with
      | error f b' =>
        rw [hq, lastState_error] at hquery
        exact (Basic.counter (Nat.le_succ _)).toQuiet.trans hquery.toQuiet
      | ok q b' =>
        rw [hq, lastState_ok] at hquery
        dsimp only
        cases hbox : q.box with
        | error f => exact (Basic.counter (Nat.le_succ _)).toQuiet.trans hquery.toQuiet
        | ok box =>
          -- The arguments declare no selectors, so the text is still free when the query is done.
          have hnew : key ∉ b'.selectors.keys := by
            rw [hquery.selectors_eq]
            exact Registry.get?_eq_none_iff.mp hget
          refine ⟨hquery.toQuiet.selector h hq hnew rfl, (key, ⟨b.counter, q, box⟩), ?_,
            !q.includesEntities, rfl⟩
          exact Registry.mem_of_get? (Registry.get?_set_self _ _ _)

/-! ## Items, block predicates, paths and calls of functions -/

lemma declareComponent_keeps (hU : DownClosed U) {node : Node} (h : U node) :
    Keeps (Basic U) node.declareComponent := by
  unfold Node.declareComponent
  split
  · next text key value =>
    have hkey : U key := hU _ h _ List.mem_cons_self
    have hvalue : U value := hU _ h _ (List.mem_cons_of_mem _ List.mem_cons_self)
    refine Keeps.bind (Keeps.of_runs (declareTag_runs hvalue)) fun tag => ?_
    refine Keeps.bind (Keeps.require _ _) fun type => ?_
    exact Keeps.bind (Keeps.of_runs (nodeDeclareLocation_runs hkey)) fun _ => Keeps.pure _
  · exact Keeps.throw _

lemma declareSettings_keeps (hU : DownClosed U) {components : List Node}
    (h : ∀ c ∈ components, U c) : Keeps (Basic U) (declareSettings components) := by
  induction components with
  | nil => exact Keeps.pure _
  | cons c cs ih =>
    refine Keeps.bind (declareComponent_keeps hU (h c List.mem_cons_self)) fun setting => ?_
    exact Keeps.bind (ih fun e he => h e (List.mem_cons_of_mem _ he)) fun _ => Keeps.pure _

/-- The text of a list of components is put together without touching the build. -/
lemma componentsKey_run (components : List Node) (b : Build) :
    (∃ key, componentsKey components b = .ok key b) ∨ ∃ f, componentsKey components b = .error f b := by
  induction components with
  | nil => exact .inl ⟨"", rfl⟩
  | cons c cs ih =>
    rw [componentsKey]
    unfold Node.key
    cases c.text? with
    | none => exact .inr ⟨.noSuchPart, rfl⟩
    | some text =>
      simp only [run_bind, BuildM.require, run_pure]
      rcases ih with ⟨key, hkey⟩ | ⟨f, hf⟩
      · rw [hkey]
        exact .inl ⟨_, rfl⟩
      · rw [hf]
        exact .inr ⟨_, rfl⟩

lemma declarePatch_runs (hU : DownClosed U) {components : List Node} (h : ∀ c ∈ components, U c) :
    Runs (Quiet U) (fun symbol b => components ≠ [] → ∃ entry ∈ b.patches.entries,
      entry.2.symbol = symbol) (declarePatch components) := by
  intro b
  unfold declarePatch
  cases hempty : components.isEmpty with
  | true =>
    refine ⟨refl_of (Quiet U) b, fun hne => ?_⟩
    exact absurd (List.isEmpty_iff.mp hempty) hne
  | false =>
    simp only [Bool.false_eq_true, if_false, run_bind]
    rcases componentsKey_run components b with ⟨key, hkey⟩ | ⟨f, hf⟩
    · rw [hkey]
      simp only [run_get]
      cases hget : b.patches.get? key with
      | some patch => exact ⟨refl_of (Quiet U) b, fun _ => ⟨_, Registry.mem_of_get? hget, rfl⟩⟩
      | none =>
        have hsettings := declareSettings_keeps hU h { b with counter := b.counter + 1 }
        simp only [run_bind, run_fresh]
        cases hrun : declareSettings components { b with counter := b.counter + 1 } with
        | error f b' =>
          rw [hrun, lastState_error] at hsettings
          exact (Basic.counter (Nat.le_succ _)).toQuiet.trans hsettings.toQuiet
        | ok settings b' =>
          rw [hrun, lastState_ok] at hsettings
          have hnew : key ∉ b'.patches.keys := by
            rw [hsettings.patches_eq]
            exact Registry.get?_eq_none_iff.mp hget
          refine ⟨hsettings.toQuiet.patch h hrun hnew rfl, fun _ => ⟨(key, ⟨b.counter, settings⟩), ?_, rfl⟩⟩
          exact Registry.mem_of_get? (Registry.get?_set_self _ _ _)
    · rw [hf]
      exact refl_of (Quiet U) b

lemma quiet_of_basic {α : Type} {x : BuildM α} (h : Keeps (Basic U) x) : Keeps (Quiet U) x :=
  h.mono fun _ _ => Basic.toQuiet

lemma declareBlockParts_keeps (hU : DownClosed U) {node : Node} (h : U node) :
    Keeps (Basic U) node.declareBlockParts := by
  unfold Node.declareBlockParts
  split
  · next text identifier states data =>
    have hidentifier : U identifier := hU _ h _ List.mem_cons_self
    have hdata : U data := hU _ h _ (List.mem_cons_of_mem _ List.mem_cons_self)
    refine Keeps.bind (Keeps.of_runs (nodeDeclareLocation_runs hidentifier)) fun _ => ?_
    split
    · exact Keeps.pure _
    · exact Keeps.bind (Keeps.of_runs (declareTag_runs hdata)) fun _ => Keeps.pure _
  · next text identifier components =>
    have hidentifier : U identifier := hU _ h _ List.mem_cons_self
    exact Keeps.bind (Keeps.of_runs (nodeDeclareLocation_runs hidentifier)) fun _ => Keeps.throw _
  · exact Keeps.throw _

lemma declareBlockPredicate_runs (hU : DownClosed U) {node : Node} (h : U node) :
    Runs (Quiet U) (fun symbol b => ∃ entry ∈ b.blockPredicates.entries,
      blockPredicateSymbol entry.2 = symbol) node.declareBlockPredicate := by
  intro b
  unfold Node.declareBlockPredicate Node.key
  cases htext : node.text? with
  | none => exact refl_of (Quiet U) b
  | some key =>
    simp only [run_bind, BuildM.require, run_pure, run_get]
    cases hget : b.blockPredicates.get? key with
    | some n => exact ⟨refl_of (Quiet U) b, _, Registry.mem_of_get? hget, rfl⟩
    | none =>
      -- The entry is there before its parts are declared, and stays if that fails.
      have hset := Registry.get?_set_self b.blockPredicates key b.counter
      have hstart : Quiet U b { b with
          counter := b.counter + 1
          blockPredicates := b.blockPredicates.set key b.counter } :=
        Quiet.blockPredicate (Registry.get?_eq_none_iff.mp hget)
      have hparts := declareBlockParts_keeps hU h { b with
        counter := b.counter + 1
        blockPredicates := b.blockPredicates.set key b.counter }
      simp only [run_bind, run_fresh, run_modify]
      cases hrun : node.declareBlockParts { b with
          counter := b.counter + 1
          blockPredicates := b.blockPredicates.set key b.counter } with
      | error f b' =>
        rw [hrun, lastState_error] at hparts
        exact hstart.trans hparts.toQuiet
      | ok _ b' =>
        rw [hrun, lastState_ok] at hparts
        refine ⟨hstart.trans hparts.toQuiet, (key, b.counter), ?_, rfl⟩
        rw [hparts.blockPredicates_eq]
        exact Registry.mem_of_get? hset

lemma itemExpression_keeps (hU : DownClosed U) {node : Node} (h : U node) (count : String) :
    Keeps (Quiet U) (node.itemExpression count) := by
  unfold Node.itemExpression
  split
  · next text identifier components =>
    have hidentifier : U identifier := hU _ h _ List.mem_cons_self
    have hcomponents : ∀ c ∈ components, U c := fun c hc => hU _ h _ (List.mem_cons_of_mem _ hc)
    refine Keeps.bind (quiet_of_basic (Keeps.of_runs (nodeDeclareLocation_runs hidentifier))) fun _ => ?_
    exact Keeps.bind (Keeps.of_runs (declarePatch_runs hU hcomponents)) fun _ => Keeps.pure _
  · next text identifier states data =>
    have hidentifier : U identifier := hU _ h _ List.mem_cons_self
    exact Keeps.bind (quiet_of_basic (Keeps.of_runs (nodeDeclareLocation_runs hidentifier))) fun _ =>
      Keeps.throw _
  · exact Keeps.throw _

lemma pathStep_keeps (hU : DownClosed U) {node : Node} (h : U node) (single : Bool) (root : String) :
    Keeps (Basic U) (node.pathStep single root) := by
  unfold Node.pathStep
  split
  · exact Keeps.pure _
  · exact Keeps.bind (Keeps.of_runs (declareTag_runs h)) fun _ => Keeps.pure _
  · exact Keeps.pure _
  · exact Keeps.pure _
  · have hindex := Keeps.of_runs (declareTag_runs (hU _ h _ List.mem_cons_self))
    exact Keeps.bind hindex fun _ => Keeps.pure _
  · exact Keeps.throw _
  · exact Keeps.pure _

lemma pathSteps_keeps (hU : DownClosed U) (single : Bool) {steps : List Node} (h : ∀ step ∈ steps, U step)
    (reached : String × Bool) : Keeps (Basic U) (pathSteps single reached steps) := by
  induction steps generalizing reached with
  | nil => exact Keeps.pure _
  | cons step steps ih =>
    have hfirst := pathStep_keeps hU (h step List.mem_cons_self) single reached.1
    exact Keeps.bind hfirst fun next => ih (fun e he => h e (List.mem_cons_of_mem _ he)) next

lemma pathExpression_keeps (hU : DownClosed U) {node : Node} (h : U node) (single : Bool) (root : String) :
    Keeps (Basic U) (node.pathExpression single root) := by
  unfold Node.pathExpression
  split
  · exact Keeps.throw _
  · exact Keeps.bind (pathSteps_keeps hU single (hU _ h) _) fun _ => Keeps.pure _
  · exact Keeps.throw _

lemma functionCall_keeps {node : Node} (h : U node) (options : CallOptions) (compiled : List String) :
    Keeps (Basic U) (node.functionCall options compiled) := by
  unfold Node.functionCall
  refine Keeps.require_bind fun l hl => ?_
  have hlocation : Keeps (Basic U) (declareLocation l) :=
    Keeps.of_runs (declareLocation_runs (eq_of_location? hl ▸ h))
  exact Keeps.bind hlocation fun _ => Keeps.pure _

end PackToMod
