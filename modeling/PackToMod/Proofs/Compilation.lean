import PackToMod.Proofs.Execution

/-!
# What compiling a command does to a build

A compilation finds a method, or takes a number, lets the command's handler work and registers a method
under the text of the command. `compile_yields` follows the nesting of commands: whether a compilation
returns or fails, the build has only grown and its methods are still well made, and a method that is
returned is registered under the text of its command.
-/

namespace PackToMod

open Build DraftM

variable {U : Node → Prop} {b : Build}

/-! ## Commands and the commands among their arguments -/

lemma operandsOf_eq_map (compiled : List String) (nodes : List Node) :
    operandsOf compiled nodes = nodes.map fun node => ⟨node, node.compile compiled⟩ := by
  induction nodes with
  | nil => rfl
  | cons node nodes ih => rw [operandsOf, ih, List.map_cons]

lemma exists_of_mem_operandsOf {compiled : List String} {nodes : List Node} {o : Operand}
    (h : o ∈ operandsOf compiled nodes) : ∃ node ∈ nodes, ⟨node, node.compile compiled⟩ = o := by
  rwa [operandsOf_eq_map, List.mem_map] at h

/-- The operands of the draft are `nodes`. -/
def Draft.IsOn (d : Draft) (compiled : List String) (nodes : List Node) : Prop :=
  d.operands = operandsOf compiled nodes

lemma Draft.IsOn.within {d : Draft} {compiled : List String} {nodes : List Node} (hd : d.IsOn compiled nodes)
    (h : ∀ node ∈ nodes, U node) : d.Within U := by
  intro o ho
  rw [hd] at ho
  obtain ⟨node, hnode, rfl⟩ := exists_of_mem_operandsOf ho
  exact h node hnode

/-- A node that is no command. -/
def Node.IsPart (node : Node) : Prop :=
  ∀ text identifier arguments dump, node ≠ .command text identifier arguments dump

lemma Node.IsPart.compile_eq {node : Node} (h : node.IsPart) (compiled : List String) :
    node.compile compiled = compileOther node :=
  Node.compile.eq_2 compiled node h

/-- Induction along the arguments of commands. -/
@[elab_as_elim]
theorem Node.argumentInduction {motive : Node → Prop}
    (command : ∀ text identifier arguments dump, (∀ node ∈ arguments, motive node) →
      motive (.command text identifier arguments dump))
    (part : ∀ node, node.IsPart → motive node) (node : Node) : motive node := by
  refine (Node.compile.mutual_induct motive (fun nodes => ∀ node ∈ nodes, motive node)
    command part ?_ ?_).1 node
  · exact fun node h => absurd h List.not_mem_nil
  · intro node nodes hnode hnodes other hother
    rcases List.mem_cons.mp hother with rfl | hmem
    · exact hnode
    · exact hnodes other hmem

/-! ## The steps of a compilation -/

/-- The draft of a command before its first word is read. -/
def startDraft (compiled : List String) (operands : List Operand) (identifier : String) : Draft :=
  { words := Text.splitColons identifier, operands, compiled }

/-- The frame in which a command that has no method yet is handled. -/
def startFrame (compiled : List String) (operands : List Operand) (identifier : String) (b : Build) :
    Frame :=
  ⟨{ b with counter := b.counter + 1 }, startDraft compiled operands identifier⟩

def Build.logged (b : Build) (f : Fault) : Build :=
  { b with log := b.log ++ [f.logLine] }

section

variable {compiled : List String} {operands : List Operand} {text identifier dump : String}

/-- The method that a draft ends in. -/
def Draft.method (d : Draft) (number : Nat) (text : String) : Method :=
  .ofOutput number text d.output d.macros d.needsDispatcher d.needsMacros d.returns

def Build.register (b : Build) (text : String) (m : Method) : Build :=
  { b with methods := b.methods.set text m }

lemma compileWith_hit {m : Method} (h : b.methods.get? text = some m) :
    compileWith compiled operands text identifier dump b = .ok m b := by
  simp [compileWith, h]

lemma compileWith_native (dump : String) {a : Option Unit} {s : Frame} (h : b.methods.get? text = none)
    (hrun : next commands (startFrame compiled operands identifier b) = .ok a s) :
    compileWith compiled operands text identifier dump b =
      .ok (s.draft.method b.counter text) (s.build.register text (s.draft.method b.counter text)) := by
  simp only [startFrame, startDraft] at hrun
  simp [compileWith, h, compileDraft, hrun, Draft.method, Build.register]

/-- A fault that is not for the dispatcher ends the compilation. -/
lemma compileWith_failing (dump : String) {f : Fault} {s : Frame} (h : b.methods.get? text = none)
    (hrun : next commands (startFrame compiled operands identifier b) = .error f s)
    (hf : f.isDispatched = false) :
    compileWith compiled operands text identifier dump b = .error f (s.build.logged f) := by
  simp only [startFrame, startDraft] at hrun
  simp [compileWith, h, compileDraft, hrun, BuildM.log, hf, Build.logged]

/-- A command cannot be left to the dispatcher if the code for that is not to be had. -/
lemma compileWith_unfilled {f : Fault} {s : Frame} {e : Percent.Error} (h : b.methods.get? text = none)
    (hrun : next commands (startFrame compiled operands identifier b) = .error f s)
    (hf : f.isDispatched = true) (hcode : dispatchCode f text dump = .error e) :
    compileWith compiled operands text identifier dump b = .error (.percent e) (s.build.logged f) := by
  simp only [startFrame, startDraft] at hrun
  simp [compileWith, h, compileDraft, hrun, BuildM.log, hf, hcode, BuildM.ofExcept, Build.logged]

lemma compileWith_left {f : Fault} {s : Frame} {output : String} (h : b.methods.get? text = none)
    (hrun : next commands (startFrame compiled operands identifier b) = .error f s)
    (hf : f.isDispatched = true) (hcode : dispatchCode f text dump = .ok output) :
    let m := { s.draft with output, needsDispatcher := true }.method b.counter text
    compileWith compiled operands text identifier dump b = .ok m ((s.build.logged f).register text m) := by
  simp only [startFrame, startDraft] at hrun
  simp [compileWith, h, compileDraft, hrun, BuildM.log, hf, hcode, BuildM.ofExcept, Build.logged,
    Build.register, Draft.method]

/-- The command of a faulty run is left to the dispatcher, or the compilation fails. The fault is logged
either way. -/
lemma compileWith_faulty (dump : String) {f : Fault} {s : Frame} (h : b.methods.get? text = none)
    (hrun : next commands (startFrame compiled operands identifier b) = .error f s) :
    (∃ f', compileWith compiled operands text identifier dump b = .error f' (s.build.logged f)) ∨
    ∃ output, let m := { s.draft with output, needsDispatcher := true }.method b.counter text
      compileWith compiled operands text identifier dump b =
        .ok m ((s.build.logged f).register text m) := by
  cases hf : f.isDispatched with
  | false => exact .inl ⟨f, compileWith_failing dump h hrun hf⟩
  | true =>
    cases hcode : dispatchCode f text dump with
    | error e => exact .inl ⟨.percent e, compileWith_unfilled h hrun hf hcode⟩
    | ok output => exact .inr ⟨output, compileWith_left h hrun hf hcode⟩

end

/-! ## Well made methods -/

/-- A method that was made from output for `text` and never returns from the function around its call. -/
def Method.IsFor (text : String) (m : Method) : Prop :=
  ∃ output, m = .ofOutput m.number text output m.macros m.needsDispatcher m.needsMacros .never

lemma Method.IsFor.returns {text : String} {m : Method} (h : m.IsFor text) : m.returns = .never := by
  obtain ⟨output, hm⟩ := h
  rw [hm]
  rfl

lemma Draft.isFor_method {d : Draft} (h : d.returns = .never) (number : Nat) (text : String) :
    (d.method number text).IsFor text := by
  refine ⟨d.output, ?_⟩
  rw [Draft.method, number_ofOutput, h]
  rfl

lemma Draft.number_method (d : Draft) (number : Nat) (text : String) :
    (d.method number text).number = number :=
  number_ofOutput ..

def Build.Sound (b : Build) : Prop :=
  ∀ entry ∈ b.methods.entries, entry.2.IsFor entry.1

lemma Build.Sound.register {text : String} {m : Method} (hb : b.Sound) (hm : m.IsFor text) :
    (b.register text m).Sound := by
  intro entry hentry
  rcases Registry.mem_set hentry with rfl | hold
  · exact hm
  · exact hb entry hold

lemma Build.Sound.of_methods_eq {b' : Build} (hb : b.Sound) (h : b'.methods = b.methods) : b'.Sound := by
  unfold Build.Sound
  rw [h]
  exact hb

lemma Build.Quiet.sound {b' : Build} (h : Quiet U b b') (hb : b.Sound) : b'.Sound :=
  hb.of_methods_eq h.methods_eq

lemma Build.Extends.logged (f : Fault) : Extends U b (b.logged f) where
  log := List.prefix_append _ _

/-! ## All compilations -/

/-- What a compilation of `node` from `b` may end in. -/
def Node.Yields (U : Node → Prop) (node : Node) (b : Build) : EStateM.Result Fault Build Method → Prop
  | .ok m b' => Extends U b b' ∧ b'.Sound ∧ ∃ text, node.text? = some text ∧ b'.methods.get? text = some m
  | .error _ b' => Extends U b b' ∧ b'.Sound

lemma Node.Yields.grown {node : Node} {r : EStateM.Result Fault Build Method} (h : node.Yields U b r) :
    Extends U b (lastState r) ∧ (lastState r).Sound := by
  cases r with
  | ok m b' => exact ⟨h.1, h.2.1⟩
  | error f b' => exact h

lemma Node.Yields.returns {node : Node} {m : Method} {b' : Build} (h : node.Yields U b (.ok m b')) :
    m.returns = .never := by
  obtain ⟨-, hsound, text, -, hget⟩ := h
  exact (hsound _ (Registry.mem_of_get? hget)).returns

/-- A node that is no command is answered with a method registered under its text, or not at all. -/
lemma compileOther_cases (node : Node) :
    (∃ text m, node.text? = some text ∧ b.methods.get? text = some m ∧ compileOther node b = .ok m b) ∨
    ∃ f n, b.counter ≤ n ∧ compileOther node b = .error f { b with counter := n } := by
  unfold compileOther Node.key
  cases htext : node.text? with
  | none => exact .inr ⟨.noSuchPart, b.counter, le_rfl, rfl⟩
  | some text =>
    cases hget : b.methods.get? text with
    | none => exact .inr ⟨.noSuchPart, b.counter + 1, Nat.le_succ _, by simp [BuildM.require, hget]⟩
    | some m => exact .inl ⟨text, m, rfl, hget, by simp [BuildM.require, hget]⟩

lemma compileOther_yields (node : Node) (hb : b.Sound) : node.Yields U b (compileOther node b) := by
  rcases compileOther_cases (b := b) node with ⟨text, m, htext, hget, hrun⟩ | ⟨f, n, hn, hrun⟩
  · rw [hrun]
    exact ⟨refl_of (Extends U) b, hb, text, htext, hget⟩
  · rw [hrun]
    exact ⟨(Basic.counter hn).toExtends, hb⟩

/-- The operands of a draft compile as `Node.Yields` says. -/
def Draft.OperandsYield (U : Node → Prop) (d : Draft) : Prop :=
  ∀ o ∈ d.operands, ∀ b : Build, b.Sound → o.node.Yields U b (o.compile b)

lemma Draft.IsOn.operandsYield {d : Draft} {compiled : List String} {nodes : List Node}
    (hd : d.IsOn compiled nodes)
    (h : ∀ node ∈ nodes, ∀ b : Build, b.Sound → node.Yields U b (node.compile compiled b)) :
    d.OperandsYield U := by
  intro o ho b hb
  rw [hd] at ho
  obtain ⟨node, hnode, rfl⟩ := exists_of_mem_operandsOf ho
  exact h node hnode b hb

lemma Draft.OperandsYield.neverReturns {s : Frame} (h : s.draft.OperandsYield U) (hb : s.build.Sound) :
    s.NeverReturns U := by
  intro o ho s₁ hpass m b' hcompile
  have hyields := h o ho s₁.build (hpass.build.sound hb)
  rw [hcompile] at hyields
  exact hyields.returns

/-- What the handler of a command leaves behind. -/
lemma commands_grown (hU : DownClosed U) {s : Frame} (hs : s.draft.Within U) (hb : s.build.Sound)
    (hoperands : s.draft.OperandsYield U) :
    let s' := lastState (next commands s)
    Extends U s.build s'.build ∧ s'.build.Sound ∧ s'.draft.returns = s.draft.returns := by
  rcases commands_cases hU hs (hoperands.neverReturns hb) with
    ⟨hpass, -⟩ | ⟨o, ho, s₁, closing, hpass, -, hrun⟩
  · exact ⟨hpass.build.toExtends, hpass.build.sound hb, hpass.returns⟩
  · have hgrown := (hoperands o ho s₁.build (hpass.build.sound hb)).grown
    dsimp only
    rw [hrun, lastState_map]
    unfold callOperand
    cases hcompile : o.compile s₁.build with
    | ok m b' =>
      rw [hcompile] at hgrown
      exact ⟨hpass.build.toExtends.trans hgrown.1, hgrown.2, hpass.returns⟩
    | error f b' =>
      rw [hcompile] at hgrown
      exact ⟨hpass.build.toExtends.trans hgrown.1, hgrown.2, hpass.returns⟩

/-- Registering the method of a draft under a text that had none when its number was taken. -/
lemma yields_register {text : String} {node : Node} {b₁ : Build} {d : Draft}
    (htext : node.text? = some text) (habsent : b.methods.get? text = none)
    (hextends : Extends U { b with counter := b.counter + 1 } b₁) (hsound : b₁.Sound)
    (hreturns : d.returns = .never) :
    node.Yields U b (.ok (d.method b.counter text) (b₁.register text (d.method b.counter text))) := by
  have hnew : text ∉ b.methods.keys := Registry.get?_eq_none_iff.mp habsent
  refine ⟨hextends.method hnew (d.number_method _ _), hsound.register (d.isFor_method hreturns _ _),
    text, htext, Registry.get?_set_self ..⟩

lemma compileWith_yields (hU : DownClosed U) {compiled : List String} {operands : List Operand}
    {text identifier dump : String} {arguments : List Node}
    (hs : (startDraft compiled operands identifier).Within U) (hb : b.Sound)
    (hoperands : (startDraft compiled operands identifier).OperandsYield U) :
    (Node.command text identifier arguments dump).Yields U b
      (compileWith compiled operands text identifier dump b) := by
  cases habsent : b.methods.get? text with
  | some m =>
    rw [compileWith_hit habsent]
    exact ⟨refl_of (Extends U) b, hb, text, rfl, habsent⟩
  | none =>
    have hgrown := commands_grown (s := startFrame compiled operands identifier b) hU hs hb hoperands
    cases hrun : next commands (startFrame compiled operands identifier b) with
    | ok a s =>
      rw [hrun, lastState_ok] at hgrown
      obtain ⟨hextends, hsound, hreturns⟩ := hgrown
      rw [compileWith_native dump habsent hrun]
      exact yields_register rfl habsent hextends hsound hreturns
    | error f s =>
      -- The fault is logged before it is decided whether the dispatcher can take the command.
      rw [hrun, lastState_error] at hgrown
      obtain ⟨hextends, hsound, hreturns⟩ := hgrown
      have hlogged := hextends.trans (Extends.logged f)
      rcases compileWith_faulty dump habsent hrun with ⟨f', hfail⟩ | ⟨output, hleft⟩
      · rw [hfail]
        exact ⟨(Basic.counter (Nat.le_succ _)).toExtends.trans hlogged, hsound⟩
      · rw [hleft]
        exact yields_register rfl habsent hlogged hsound hreturns

/-- Every compilation, of a node at any depth of nesting and from any build whose methods are well made. -/
theorem compile_yields (hU : DownClosed U) (compiled : List String) {node : Node} (h : U node)
    (hb : b.Sound) : node.Yields U b (node.compile compiled b) := by
  induction node using Node.argumentInduction generalizing b with
  | part node hpart =>
    rw [hpart.compile_eq]
    exact compileOther_yields node hb
  | command text identifier arguments dump ih =>
    have hstart : (startDraft compiled (operandsOf compiled arguments) identifier).IsOn compiled arguments := rfl
    have harguments : ∀ node ∈ arguments, U node := hU _ h
    rw [Node.compile]
    refine compileWith_yields hU (hstart.within harguments) hb (hstart.operandsYield ?_)
    exact fun node hnode b' hb' => ih node hnode (harguments node hnode) hb'

lemma compile_yields_true (compiled : List String) (node : Node) (hb : b.Sound) :
    node.Yields (fun _ => True) b (node.compile compiled b) :=
  compile_yields downClosed_true compiled trivial hb

end PackToMod
