import PackToMod.Proofs.Compilation

/-!
# Requests to a build

A build is worked on from outside by compiling commands and by the helpers that declare constants, in any
order; what fails keeps what it has done. `after_grows` carries growth and well made methods from single
requests to all sequences of them.
-/

namespace PackToMod

open Build

/-- Runs a computation on a new draft. -/
def DraftM.runOn {α : Type} (d : Draft) (x : DraftM α) : BuildM α := fun b =>
  match x ⟨b, d⟩ with
  | .ok a s => .ok a s.build
  | .error f s => .error f s.build

/-- A call from outside. The helpers that read a draft get its words and the nodes of its operands. -/
inductive Request where
  | compile (compiled : List String) (node : Node)
  | location (node : Node)
  | range (sort : RangeSort) (node : Node)
  | tag (node : Node)
  | find (single players : Bool) (node : Node)
  | patch (components : List Node)
  | blockPredicate (node : Node)
  | item (count : String) (node : Node)
  | path (single : Bool) (root : String) (node : Node)
  | functionCall (options : CallOptions) (compiled : List String) (node : Node)
  | data (compiled words : List String) (operands : List Node)
  | facing (compiled words : List String) (operands : List Node)

inductive Answer where
  | method (m : Method)
  | tag (t : TagReference)
  | text (s : String)
  | data (s : Option String)
  | nothing

namespace Request

def run : Request → BuildM Answer
  | compile compiled node => .method <$> node.compile compiled
  | location node => .text <$> node.declareLocation
  | range sort node => .text <$> node.declareRange sort
  | tag node => .tag <$> node.declareTag
  | find single players node => .text <$> node.find single players
  | patch components => .text <$> declarePatch components
  | blockPredicate node => .text <$> node.declareBlockPredicate
  | item count node => .text <$> node.itemExpression count
  | path single root node => .text <$> node.pathExpression single root
  | functionCall options compiled node => .text <$> node.functionCall options compiled
  | data compiled words nodes =>
    .data <$> DraftM.runOn { words, operands := operandsOf compiled nodes, compiled } accessData
  | facing compiled words nodes =>
    (fun _ => .nothing) <$> DraftM.runOn { words, operands := operandsOf compiled nodes, compiled } face

/-- The nodes that a request is about. -/
def nodes : Request → List Node
  | compile _ node | location node | range _ node | tag node | find _ _ node | blockPredicate node
  | item _ node | path _ _ node | functionCall _ _ node => [node]
  | patch nodes | data _ _ nodes | facing _ _ nodes => nodes

/-- The build after a request, whether it is answered or fails. -/
def next (r : Request) (b : Build) : Build :=
  lastState (r.run b)

end Request

/-- The build after some requests, one after the other. -/
def Build.after (b : Build) (rs : List Request) : Build :=
  rs.foldl (fun b r => r.next b) b

lemma Build.after_cons (b : Build) (r : Request) (rs : List Request) :
    b.after (r :: rs) = (r.next b).after rs :=
  rfl

variable {U : Node → Prop} {b : Build}

lemma Build.sound_empty : ({} : Build).Sound :=
  fun _ h => absurd h List.not_mem_nil

lemma Walks.runOn {α : Type} {Q : α → Prop} {x : DraftM α} (h : Walks U Q x) {d : Draft} (hd : d.Within U) :
    Keeps (Quiet U) (DraftM.runOn d x) := by
  intro b
  have hpass := (h ⟨b, d⟩ hd).passes
  unfold DraftM.runOn
  cases hx : x ⟨b, d⟩ with
  | ok a s =>
    rw [hx] at hpass
    exact hpass.build
  | error f s =>
    rw [hx] at hpass
    exact hpass.build

/-- The requests other than compiling leave the methods alone. -/
lemma Request.run_keeps (hU : DownClosed U) {r : Request} (hr : ∀ node ∈ r.nodes, U node)
    (hhelper : ∀ compiled node, r ≠ .compile compiled node) : Keeps (Quiet U) r.run := by
  cases r with
  | compile compiled node => exact absurd rfl (hhelper compiled node)
  | location node => exact (location_keeps (hr node List.mem_cons_self)).map _
  | range sort node =>
    have hnode := hr node List.mem_cons_self
    exact (quiet_of_basic (.of_runs (declareRange_runs sort hnode))).map _
  | tag node =>
    have hnode := hr node List.mem_cons_self
    exact (quiet_of_basic (.of_runs (declareTag_runs hnode))).map _
  | find single players node => exact (find_keeps hU (hr node List.mem_cons_self) single players).map _
  | patch components => exact (Keeps.of_runs (declarePatch_runs hU hr)).map _
  | blockPredicate node =>
    have hnode := hr node List.mem_cons_self
    exact (Keeps.of_runs (declareBlockPredicate_runs hU hnode)).map _
  | item count node => exact (itemExpression_keeps hU (hr node List.mem_cons_self) count).map _
  | path single root node =>
    have hnode := hr node List.mem_cons_self
    exact (quiet_of_basic (pathExpression_keeps hU hnode single root)).map _
  | functionCall options compiled node =>
    have hnode := hr node List.mem_cons_self
    exact (quiet_of_basic (functionCall_keeps hnode options compiled)).map _
  | data compiled words nodes =>
    have hdraft : Draft.IsOn { words, operands := operandsOf compiled nodes, compiled } compiled nodes := rfl
    exact ((accessData_walks hU).runOn (hdraft.within hr)).map _
  | facing compiled words nodes =>
    have hdraft : Draft.IsOn { words, operands := operandsOf compiled nodes, compiled } compiled nodes := rfl
    exact ((face_walks hU).runOn (hdraft.within hr)).map _

theorem Request.next_grows (hU : DownClosed U) {r : Request} (hr : ∀ node ∈ r.nodes, U node)
    (hb : b.Sound) : Extends U b (r.next b) ∧ (r.next b).Sound := by
  by_cases hcompile : ∃ compiled node, r = .compile compiled node
  · obtain ⟨compiled, node, rfl⟩ := hcompile
    unfold Request.next
    rw [run, lastState_map]
    exact (compile_yields hU compiled (hr node List.mem_cons_self) hb).grown
  · have hquiet : Quiet U b (r.next b) :=
      Request.run_keeps hU hr (fun compiled node hr => hcompile ⟨compiled, node, hr⟩) b
    exact ⟨hquiet.toExtends, hquiet.sound hb⟩

/-- What every request does, a sequence of requests does. -/
theorem Build.after_grows (hU : DownClosed U) {rs : List Request}
    (hrs : ∀ r ∈ rs, ∀ node ∈ r.nodes, U node) (hb : b.Sound) :
    Extends U b (b.after rs) ∧ (b.after rs).Sound := by
  induction rs generalizing b with
  | nil => exact ⟨refl_of (Extends U) b, hb⟩
  | cons r rs ih =>
    obtain ⟨hr, hrest⟩ := List.forall_mem_cons.mp hrs
    obtain ⟨hextends, hsound⟩ := Request.next_grows hU hr hb
    obtain ⟨hextends', hsound'⟩ := ih hrest hsound
    exact ⟨hextends.trans hextends', hsound'⟩

/-! ## With nothing asked of the nodes -/

lemma Request.next_extends (r : Request) (hb : b.Sound) :
    Extends (fun _ => True) b (r.next b) ∧ (r.next b).Sound :=
  r.next_grows downClosed_true (fun _ _ => trivial) hb

lemma Build.Sound.after_extends (hb : b.Sound) (rs : List Request) :
    Extends (fun _ => True) b (b.after rs) ∧ (b.after rs).Sound :=
  Build.after_grows downClosed_true (fun _ _ _ _ => trivial) hb

/-- Whatever is requested and however it ends, the static block assigns what is declared. -/
theorem Build.inStep_after (rs : List Request) : (({} : Build).after rs).InStep :=
  (Build.sound_empty.after_extends rs).1.inStep ⟨rfl, rfl, rfl⟩

end PackToMod
