import PackToMod.Proofs.CallGraph

/-!
# Compilations inside compilations

The handler of a command comes to compile at most one of its arguments, whose handler may in turn come to
compile one of its own, so the commands compiled in one go form a chain. `nestedInduction` follows it from
the innermost command outward. A fault arises at the inner end and passes every command of the chain, each
of which logs it, and then nothing has been registered; otherwise each command registers its method, and
only the innermost can be left to the dispatcher.
-/

namespace PackToMod

open Build DraftM

/-- A template that cannot be filled is no reason to leave a command to the dispatcher. -/
lemma isDispatched_percent (e : Percent.Error) : (Fault.percent e).isDispatched = false := by
  cases e with
  | number e => cases e <;> rfl
  | _ => rfl

namespace Compilation

variable {c outer inner : Compilation} {f : Fault} {m : Method} {after : Build}

def run (c : Compilation) : EStateM.Result Fault Build Method :=
  c.command.compile c.compiled c.before

/-- The work of the command's handler. -/
def handled (c : Compilation) : EStateM.Result Fault Frame (Option Unit) :=
  next commands (startFrame c.compiled (operandsOf c.compiled c.arguments) c.identifier c.before)

/-- No command with this text has a method yet. -/
def IsNew (c : Compilation) : Prop :=
  c.before.methods.get? c.text = none

/-- The handler of `outer` comes to compile the command of `inner`, with nothing registered or logged by
then, and ends as that compilation makes it: it fails along, or calls the method. -/
structure Enters (outer inner : Compilation) : Prop where
  outer_new : outer.IsNew
  inner_new : inner.IsNew
  compiled : inner.compiled = outer.compiled
  argument : inner.command ∈ outer.arguments
  methods : inner.before.methods = outer.before.methods
  log : inner.before.log = outer.before.log
  handled : ∃ s closing, s.build = inner.before ∧
    outer.handled = (some <$> callOperand ⟨inner.command, inner.command.compile inner.compiled⟩ closing) s

/-- The handler leaves methods and log alone, as any does that comes to no new command. -/
structure IsInnermost (c : Compilation) : Prop where
  methods : (lastState c.handled).build.methods = c.before.methods
  log : (lastState c.handled).build.log = c.before.log

/-- The handler has a fault for which the command is left to the dispatcher. -/
def Falls (c : Compilation) (f : Fault) : Prop :=
  (∃ s, c.handled = .error f s) ∧ f.isDispatched = true

/-- The compilation fails with `f` because of the fault `f₀` of the handler: with the same fault, or
because the command cannot be left to the dispatcher. -/
def FailsBy (c : Compilation) (f₀ f : Fault) : Prop :=
  (∃ s, c.handled = .error f₀ s) ∧ (f₀.isDispatched = false ∧ f = f₀ ∨
    f₀.isDispatched = true ∧ ∃ e, dispatchCode f₀ c.text c.dump = .error e ∧ f = .percent e)

lemma run_eq (c : Compilation) :
    c.run = compileWith c.compiled (operandsOf c.compiled c.arguments) c.text c.identifier c.dump c.before := by
  rw [run, command, Node.compile]

/-! ## One command -/

lemma run_of_handled_ok (hnew : c.IsNew) {a : Option Unit} {s : Frame} (h : c.handled = .ok a s) :
    ∃ m, c.run = .ok m (s.build.register c.text m) := by
  rw [run_eq]
  exact ⟨_, compileWith_native c.dump hnew h⟩

/-- The ends of a compilation whose handler has a fault. -/
lemma run_of_handled_error (hnew : c.IsNew) {s : Frame} (h : c.handled = .error f s) :
    (∃ f', c.FailsBy f f' ∧ c.run = .error f' (s.build.logged f)) ∨
    ∃ m, c.Falls f ∧ c.run = .ok m ((s.build.logged f).register c.text m) := by
  rw [run_eq]
  cases hf : f.isDispatched with
  | false => exact .inl ⟨f, ⟨⟨s, h⟩, .inl ⟨hf, rfl⟩⟩, compileWith_failing c.dump hnew h hf⟩
  | true =>
    cases hcode : dispatchCode f c.text c.dump with
    | error e =>
      exact .inl ⟨.percent e, ⟨⟨s, h⟩, .inr ⟨hf, e, hcode, rfl⟩⟩, compileWith_unfilled hnew h hf hcode⟩
    | ok output => exact .inr ⟨_, ⟨⟨s, h⟩, hf⟩, compileWith_left hnew h hf hcode⟩

lemma FailsBy.isDispatched {f₀ : Fault} (h : c.FailsBy f₀ f) : f.isDispatched = false := by
  rcases h with ⟨-, ⟨hf, rfl⟩ | ⟨-, e, -, rfl⟩⟩
  · exact hf
  · exact isDispatched_percent e

/-- A node that is no command is answered without work on the methods. -/
lemma compileOther_keeps (node : Node) (b : Build) :
    (lastState (compileOther node b)).methods = b.methods ∧ (lastState (compileOther node b)).log = b.log := by
  rcases compileOther_cases (b := b) node with ⟨-, m, -, -, hrun⟩ | ⟨f, n, -, hrun⟩
  · rw [hrun]
    exact ⟨rfl, rfl⟩
  · rw [hrun]
    exact ⟨rfl, rfl⟩

lemma lastState_callOperand (o : Operand) (closing : String) (s : Frame) :
    (lastState (callOperand o closing s)).build = lastState (o.compile s.build) := by
  unfold callOperand
  cases o.compile s.build with
  | ok m b => rfl
  | error f b => rfl

/-- A handler stays with its own command, or comes to compile a new one among the arguments. -/
lemma handled_cases (hb : c.before.Sound) (hnew : c.IsNew) : c.IsInnermost ∨ ∃ inner, c.Enters inner := by
  rcases commands_cases downClosed_true (fun _ _ => trivial) (startFrame_neverReturns hb) with
    ⟨hpass, -⟩ | ⟨o, ho, s, closing, hpass, -, hrun⟩
  · exact .inl ⟨hpass.build.methods_eq, hpass.build.log_eq⟩
  · obtain ⟨node, hnode, rfl⟩ := exists_of_mem_operandsOf ho
    have hmethods : s.build.methods = c.before.methods := hpass.build.methods_eq
    have hlog : s.build.log = c.before.log := hpass.build.log_eq
    have hhandled : c.handled = (some <$> callOperand ⟨node, node.compile c.compiled⟩ closing) s := hrun
    have hlast : (lastState c.handled).build = lastState (node.compile c.compiled s.build) := by
      rw [hhandled, lastState_map, lastState_callOperand]
    cases node using Node.argumentInduction with
    | part node hpart =>
      obtain ⟨hsame, hsilent⟩ := compileOther_keeps node s.build
      rw [hpart.compile_eq] at hlast
      exact .inl ⟨by rw [hlast, hsame, hmethods], by rw [hlast, hsilent, hlog]⟩
    | command text identifier arguments dump =>
      cases hget : s.build.methods.get? text with
      | some m =>
        rw [Node.compile, compileWith_hit hget, lastState_ok] at hlast
        exact .inl ⟨by rw [hlast, hmethods], by rw [hlast, hlog]⟩
      | none =>
        exact .inr ⟨⟨c.compiled, text, identifier, arguments, dump, s.build⟩,
          hnew, hget, rfl, hnode, hmethods, hlog, s, closing, rfl, hhandled⟩

lemma run_of_not_isNew (h : ¬c.IsNew) : ∃ m, c.run = .ok m c.before := by
  obtain ⟨m, hm⟩ := Option.ne_none_iff_exists'.mp h
  rw [run_eq]
  exact ⟨m, compileWith_hit hm⟩

/-! ## A command inside another -/

lemma Enters.handled_error (h : outer.Enters inner) (hrun : inner.run = .error f after) :
    ∃ s, outer.handled = .error f s ∧ s.build = after := by
  obtain ⟨s, closing, hs, hhandled⟩ := h.handled
  have hcompile : inner.command.compile inner.compiled s.build = .error f after := by
    rw [hs]
    exact hrun
  refine ⟨{ s with build := after }, ?_, rfl⟩
  rw [hhandled, run_map, callOperand]
  dsimp only
  rw [hcompile]

lemma Enters.handled_ok (h : outer.Enters inner) (hrun : inner.run = .ok m after) :
    ∃ a s, outer.handled = .ok a s ∧ s.build = after := by
  obtain ⟨s, closing, hs, hhandled⟩ := h.handled
  have hcompile : inner.command.compile inner.compiled s.build = .ok m after := by
    rw [hs]
    exact hrun
  refine ⟨some ⟨⟩, s.calling after m closing, ?_, rfl⟩
  rw [hhandled, run_map, callOperand]
  dsimp only
  rw [hcompile]

/-- A fault that is not for the dispatcher is logged and passed on. -/
lemma Enters.run_error (h : outer.Enters inner) (hrun : inner.run = .error f after)
    (hf : f.isDispatched = false) : outer.run = .error f (after.logged f) := by
  obtain ⟨s, hhandled, rfl⟩ := h.handled_error hrun
  rw [run_eq]
  exact compileWith_failing outer.dump h.outer_new hhandled hf

/-- Nothing can fail after the inner command has been compiled. -/
lemma Enters.run_ok (h : outer.Enters inner) (hrun : inner.run = .ok m after) :
    ∃ m', outer.run = .ok m' (after.register outer.text m') := by
  obtain ⟨a, s, hhandled, rfl⟩ := h.handled_ok hrun
  exact run_of_handled_ok h.outer_new hhandled

lemma Enters.not_falls (h : outer.Enters inner) (hrun : inner.run = .ok m after) (f : Fault) :
    ¬outer.Falls f := by
  rintro ⟨⟨s', hfaulty⟩, -⟩
  obtain ⟨a, s, hhandled, -⟩ := h.handled_ok hrun
  rw [hhandled] at hfaulty
  exact nomatch hfaulty

/-- Induction along the arguments of commands, which are smaller trees whatever the builds they are compiled from. -/
@[elab_as_elim]
theorem argumentInduction {motive : Compilation → Prop}
    (command : ∀ c : Compilation, (∀ d : Compilation, d.command ∈ c.arguments → motive d) → motive c)
    (c : Compilation) : motive c := by
  suffices h : ∀ node : Node, ∀ c : Compilation, c.command = node → motive c from h c.command c rfl
  intro node
  induction node using Node.argumentInduction with
  | part node hpart =>
    intro c hc
    exact absurd (hc ▸ hpart) Node.not_isPart_command
  | command text identifier arguments dump ih =>
    intro c hc
    cases hc
    exact command c fun d hd => ih d.command hd d rfl

/-- What holds of an innermost compilation, and passes from one to the next around it, holds of all. -/
theorem nestedInduction {motive : Compilation → Prop}
    (innermost : ∀ c, c.before.Sound → c.IsNew → c.IsInnermost → motive c)
    (enters : ∀ outer inner, outer.before.Sound → outer.Enters inner → motive inner → motive outer)
    (c : Compilation) (hb : c.before.Sound) (hnew : c.IsNew) : motive c := by
  induction c using argumentInduction with
  | command c ih =>
    rcases handled_cases hb hnew with halone | ⟨inner, hinner⟩
    · exact innermost c hb hnew halone
    · have hsound : inner.before.Sound := hb.of_methods_eq hinner.methods
      exact enters c inner hb hinner (ih inner hinner.argument hsound hinner.inner_new)

/-! ## Chains of commands -/

/-- The chain of compilations by which the failing compilation of `c` comes to its fault. -/
structure FailsAlong (c : Compilation) (inner : List Compilation) (f₀ f : Fault) (after : Build) : Prop where
  chain : (c :: inner).IsChain Enters
  fails : ∀ d ∈ c :: inner, ∃ after, d.run = .error f after
  innermost : (inner.getLastD c).IsInnermost
  arises : (inner.getLastD c).FailsBy f₀ f
  methods : after.methods = c.before.methods
  log : after.log = c.before.log ++ f₀.logLine :: List.replicate inner.length f.logLine

/-- A failing compilation that comes to no other command. -/
lemma IsInnermost.failsAlong (h : c.IsInnermost) (hnew : c.IsNew) (hrun : c.run = .error f after) :
    ∃ f₀, c.FailsAlong [] f₀ f after := by
  have hmethods := h.methods
  have hlog := h.log
  cases hhandled : c.handled with
  | ok a s =>
    obtain ⟨m, hend⟩ := run_of_handled_ok hnew hhandled
    rw [hend] at hrun
    exact nomatch hrun
  | error f₀ s =>
    rw [hhandled, lastState_error] at hmethods hlog
    rcases run_of_handled_error hnew hhandled with ⟨f', hfails, hend⟩ | ⟨m, -, hend⟩
    · have hself : ∀ d ∈ [c], ∃ after, d.run = .error f after := by
        intro d hd
        rw [List.mem_singleton.mp hd]
        exact ⟨after, hrun⟩
      rw [hend] at hrun
      cases hrun
      refine ⟨f₀, List.isChain_singleton c, hself, h, hfails, hmethods, ?_⟩
      rw [← hlog]
      rfl
    · rw [hend] at hrun
      exact nomatch hrun

lemma FailsAlong.cons {rest : List Compilation} {f₀ : Fault} (h : outer.Enters inner)
    (hrest : inner.FailsAlong rest f₀ f after) :
    outer.FailsAlong (inner :: rest) f₀ f (after.logged f) where
  chain := List.isChain_cons_cons.mpr ⟨h, hrest.chain⟩
  fails := by
    obtain ⟨after', hrun⟩ := hrest.fails inner List.mem_cons_self
    refine List.forall_mem_cons.mpr ⟨⟨_, h.run_error hrun ?_⟩, hrest.fails⟩
    exact hrest.arises.isDispatched
  innermost := by
    rw [List.getLastD_cons]
    exact hrest.innermost
  arises := by
    rw [List.getLastD_cons]
    exact hrest.arises
  methods := hrest.methods.trans h.methods
  log := by
    rw [logged, hrest.log, h.log, List.length_cons, List.replicate_succ', List.append_assoc]
    rfl

lemma isNew_of_run_error (hrun : c.run = .error f after) : c.IsNew := by
  by_contra hknown
  obtain ⟨m, hend⟩ := run_of_not_isNew hknown
  rw [hend] at hrun
  exact nomatch hrun

/-- A compilation that fails has registered nothing and logged one line for every command of its chain. -/
theorem exists_failsAlong (hb : c.before.Sound) (hrun : c.run = .error f after) :
    ∃ inner f₀, c.FailsAlong inner f₀ f after := by
  refine nestedInduction (motive := fun c => ∀ f after, c.run = .error f after →
    ∃ inner f₀, c.FailsAlong inner f₀ f after) ?_ ?_ c hb (isNew_of_run_error hrun) f after hrun
  · intro c _ hnew halone f after hrun
    exact ⟨[], halone.failsAlong hnew hrun⟩
  · intro outer inner _ henters ih f after hrun
    cases hinner : inner.run with
    | ok m after' =>
      obtain ⟨m', hend⟩ := henters.run_ok hinner
      rw [hend] at hrun
      exact nomatch hrun
    | error f' after' =>
      obtain ⟨rest, f₀, hrest⟩ := ih f' after' hinner
      rw [henters.run_error hinner hrest.arises.isDispatched] at hrun
      cases hrun
      exact ⟨inner :: rest, f₀, hrest.cons henters⟩

/-- The chain of compilations by which the compilation of `c` comes to the entries that it adds. -/
structure StoresAlong (c : Compilation) (inner : List Compilation) (added : List (String × Method))
    (after : Build) : Prop where
  chain : (c :: inner).IsChain Enters
  stores : List.Forall₂ (fun d entry => entry.1 = d.text ∧ ∃ after, d.run = .ok entry.2 after)
    (c :: inner) added
  innermost : (inner.getLastD c).IsInnermost
  methods : after.methods.entries = c.before.methods.entries ++ added.reverse
  native : ∀ d ∈ (c :: inner).dropLast, ∀ f, ¬d.Falls f
  log : (∃ f, (inner.getLastD c).Falls f ∧ after.log = c.before.log ++ [f.logLine]) ∨
    (∀ f, ¬(inner.getLastD c).Falls f) ∧ after.log = c.before.log

/-- A compilation that comes to no other command registers its own method at the end, whether the command
has a native form or not. -/
lemma IsInnermost.storesAlong (h : c.IsInnermost) (hnew : c.IsNew) (hrun : c.run = .ok m after) :
    c.StoresAlong [] [(c.text, m)] after := by
  have hmethods := h.methods
  have hlog := h.log
  have hadded : ∀ b : Build, b.methods = c.before.methods →
      (b.register c.text m).methods.entries = c.before.methods.entries ++ [(c.text, m)] := by
    intro b hb
    rw [register, hb]
    exact Registry.entries_set_of_absent m (Registry.get?_eq_none_iff.mp hnew)
  have hentry : List.Forall₂ (fun d entry => entry.1 = d.text ∧ ∃ after, d.run = .ok entry.2 after)
      [c] [(c.text, m)] := List.Forall₂.cons ⟨rfl, after, hrun⟩ .nil
  have hnone : ∀ d ∈ ([] : List Compilation), ∀ f, ¬d.Falls f := fun d hd => absurd hd List.not_mem_nil
  cases hhandled : c.handled with
  | ok a s =>
    rw [hhandled, lastState_ok] at hmethods hlog
    have hnative : ∀ f, ¬c.Falls f := by
      rintro f ⟨⟨s', hfaulty⟩, -⟩
      rw [hhandled] at hfaulty
      cases hfaulty
    obtain ⟨m', hend⟩ := run_of_handled_ok hnew hhandled
    rw [hend] at hrun
    cases hrun
    exact ⟨List.isChain_singleton c, hentry, h, hadded s.build hmethods, hnone, .inr ⟨hnative, hlog⟩⟩
  | error f s =>
    rw [hhandled, lastState_error] at hmethods hlog
    rcases run_of_handled_error hnew hhandled with ⟨f', -, hend⟩ | ⟨m', hfalls, hend⟩
    · rw [hend] at hrun
      cases hrun
    · rw [hend] at hrun
      cases hrun
      refine ⟨List.isChain_singleton c, hentry, h, hadded (s.build.logged f) hmethods, hnone,
        .inl ⟨f, hfalls, ?_⟩⟩
      rw [← hlog]
      rfl

lemma StoresAlong.cons {rest : List Compilation} {added : List (String × Method)} {m' : Method}
    (h : outer.Enters inner) (hinner : inner.run = .ok m' after) (hrest : inner.StoresAlong rest added after)
    (hfree : outer.text ∉ after.methods.keys)
    (hrun : outer.run = .ok m (after.register outer.text m)) :
    outer.StoresAlong (inner :: rest) ((outer.text, m) :: added) (after.register outer.text m) where
  chain := List.isChain_cons_cons.mpr ⟨h, hrest.chain⟩
  stores := List.Forall₂.cons ⟨rfl, _, hrun⟩ hrest.stores
  innermost := by
    rw [List.getLastD_cons]
    exact hrest.innermost
  methods := by
    rw [register, Registry.entries_set_of_absent m hfree, hrest.methods, h.methods, List.reverse_cons,
      List.append_assoc]
  native := by
    rw [List.dropLast_cons_cons]
    exact List.forall_mem_cons.mpr ⟨h.not_falls hinner, hrest.native⟩
  log := by
    rw [List.getLastD_cons, ← h.log]
    exact hrest.log

/-- The compilation of an argument leaves the text of the command around it without a method. -/
lemma Enters.notMem_keys (h : outer.Enters inner) (hb : outer.before.Sound)
    (hroot : outer.command.Unrepeated) (hinner : inner.run = .ok m after) :
    outer.text ∉ after.methods.keys := by
  have hadds : inner.command.Adds inner.before.methods (lastState inner.run).methods :=
    compile_adds (hb.of_methods_eq h.methods)
  rw [hinner, lastState_ok] at hadds
  refine hadds.absent hroot h.argument rfl ?_
  rw [h.methods]
  exact Registry.get?_eq_none_iff.mp h.outer_new

/-- A compilation that returns a new method has registered one for every command of its chain. -/
theorem exists_storesAlong (hb : c.before.Sound) (hnew : c.IsNew) (hroot : c.command.Unrepeated)
    (hrun : c.run = .ok m after) : ∃ inner added, c.StoresAlong inner added after := by
  refine nestedInduction (motive := fun c => c.command.Unrepeated → ∀ m after, c.run = .ok m after →
    ∃ inner added, c.StoresAlong inner added after) ?_ ?_ c hb hnew hroot m after hrun
  · intro c _ hnew halone _ m after hrun
    exact ⟨[], _, halone.storesAlong hnew hrun⟩
  · intro outer inner hb henters ih hroot m after hrun
    cases hinner : inner.run with
    | error f after' =>
      obtain ⟨_, _, hfails⟩ := exists_failsAlong (hb.of_methods_eq henters.methods) hinner
      rw [henters.run_error hinner hfails.arises.isDispatched] at hrun
      exact nomatch hrun
    | ok m' after' =>
      obtain ⟨rest, added, hrest⟩ := ih (hroot.argument henters.argument) m' after' hinner
      obtain ⟨m'', hend⟩ := henters.run_ok hinner
      have hfree := henters.notMem_keys hb hroot hinner
      rw [hend] at hrun
      cases hrun
      exact ⟨inner :: rest, _, hrest.cons henters hinner hfree hend⟩

end Compilation

/-- After any requests, a command whose nested commands repeat no text is compiled along a chain of
commands, each an argument of the one before. If that fails, nothing is registered and each of them has
logged one line, the innermost for the fault that arose in it; if it returns a new method, each of them has
registered its own, the innermost first, and a line is logged only where the innermost is left to the
dispatcher. -/
theorem compilation_all_or_nothing (rs : List Request) (compiled : List String) (text identifier : String)
    (arguments : List Node) (dump : String)
    (hroot : (Node.command text identifier arguments dump).Unrepeated) :
    let c : Compilation := ⟨compiled, text, identifier, arguments, dump, ({} : Build).after rs⟩
    (∀ f after, c.run = .error f after → ∃ inner f₀, c.FailsAlong inner f₀ f after) ∧
      ∀ m after, c.run = .ok m after → c.IsNew → ∃ inner added, c.StoresAlong inner added after := by
  have hsound := (Build.sound_empty.after_extends rs).2
  refine ⟨fun f after hrun => ?_, fun m after hrun hnew => ?_⟩
  · exact Compilation.exists_failsAlong hsound hrun
  · exact Compilation.exists_storesAlong hsound hnew hroot hrun

/-- A command that runs a line of a function: the method of the line comes first. -/
theorem run_line_stored_along :
    let c := runLineCompilation "execute run $say $(name)" "$say $(name)"
    c.command.Unrepeated ∧ ∃ inner after, c.StoresAlong inner
      [("execute run $say $(name)", runLineMethod "execute run $say $(name)" "$say $(name)"),
        ("$say $(name)", lineMethod 1 "$say $(name)")] after := by
  have hne : "execute run $say $(name)" ≠ "$say $(name)" := by decide
  have hroot := runLine_unrepeated hne
  obtain ⟨inner, added, hstores⟩ := (compilation_all_or_nothing [] [] "execute run $say $(name)"
    "execute:run:subcommand" [lineCommand "$say $(name)"] "" hroot).2 _ _ (runLine_compile _ _) rfl
  have hmethods := hstores.methods
  rw [runLine_entries hne] at hmethods
  obtain rfl : added = _ := List.reverse_injective (hmethods.symm.trans (List.reverse_reverse _).symm)
  exact ⟨hroot, inner, _, hstores⟩

end PackToMod
