import PackToMod.Proofs.CallLines
import PackToMod.Proofs.DraftChanges
import PackToMod.Proofs.FailedBuilds
import PackToMod.Proofs.History

/-!
# Where the variables of a line get to

A method needs macros if the calls that start at it end at a line with variables: at once, if it is the method of the
line, or through the subcommands of `execute`, compiled along or found in the cache. But `execute` takes over no more
than the need of the method that it calls, and has no macros of its own. So the variables of the line are among the
macros of the method if it is the line's own, and otherwise only if there are none.
-/

namespace PackToMod

open Build DraftM

/-! ## Handlers leave the macros alone -/

def Draft.withMacros (macros : List String) (needsMacros : Bool) (d : Draft) : Draft :=
  { d with macros, needsMacros }

lemma Draft.unread_withMacros (macros : List String) (needsMacros : Bool) :
    Draft.Unread (withMacros macros needsMacros) :=
  ⟨fun _ => rfl, fun _ => rfl, fun _ => rfl, fun _ _ _ => rfl, fun _ _ _ => rfl, fun _ => rfl⟩

/-- Nothing is registered or said about macros between two frames. -/
structure Frame.Spares (s s' : Frame) : Prop extends s.Passes (fun _ => True) s' where
  macros : s'.draft.macros = s.draft.macros
  needsMacros : s'.draft.needsMacros = s.draft.needsMacros

namespace Frame

variable {s s₁ s₂ : Frame}

lemma Spares.refl (s : Frame) : s.Spares s :=
  ⟨.refl s, rfl, rfl⟩

lemma Spares.trans (h₁ : s.Spares s₁) (h₂ : s₁.Spares s₂) : s.Spares s₂ :=
  ⟨h₁.toPasses.trans h₂.toPasses, h₂.macros.trans h₁.macros, h₂.needsMacros.trans h₁.needsMacros⟩

/-- Words, operands and output may change. -/
lemma Spares.read (h : s.Spares s₁) {words : List String} {operands : List Operand} {output : String}
    (hoperands : operands <:+ s₁.draft.operands) :
    s.Spares { s₁ with draft := { s₁.draft with words, operands, output } } :=
  h.trans ⟨⟨refl_of (Quiet _) _, hoperands, rfl⟩, rfl, rfl⟩

/-- To put the macros that are there in the place of the macros changes nothing, so they are there afterwards. -/
lemma spares_of_ignores {α : Type} {x : DraftM α} (hpass : s.Passes (fun _ => True) (lastState (x s)))
    (h : let T := Draft.withMacros s.draft.macros s.draft.needsMacros
      x (s.changed T) = resultChanged T (x s)) : s.Spares (lastState (x s)) := by
  have hsame : x s = resultChanged (Draft.withMacros s.draft.macros s.draft.needsMacros) (x s) := h
  refine ⟨hpass, ?_, ?_⟩
  · rw [hsame]
    cases x s with
    | ok a s' => rfl
    | error f s' => rfl
  · rw [hsame]
    cases x s with
    | ok a s' => rfl
    | error f s' => rfl

/-- A run that leaves the macros alone, up to a subcommand at its end. -/
def EndsInCall (s : Frame) (r : EStateM.Result Fault Frame Unit) : Prop :=
  s.Spares (lastState r) ∨ ∃ o ∈ s.draft.operands, ∃ s₁ closing, s.Spares s₁ ∧ r = callSubcommand o closing s₁

/-- Reading the word for a subcommand fails, or comes to its call. -/
lemma EndsInCall.subcommand (h : s.Spares s₁) {words : List String} (hwords : s₁.draft.words = subcommandWord :: words)
    {handlers : Handlers (DraftM Clause)} (hlookup : handlers.lookup subcommandWord = some (.operand runSubcommand))
    {f : Option Clause → DraftM Unit} {closing : String}
    (hrest : f (some { outcome := .finished }) = emit closing) : s.EndsInCall ((next handlers >>= f) s₁) := by
  rw [run_bind]
  cases hoperands : s₁.draft.operands with
  | nil =>
    rw [next_starved hwords hlookup hoperands]
    exact .inl (h.read List.suffix_rfl)
  | cons o operands =>
    have hsuffix : operands <:+ s₁.draft.operands := hoperands ▸ List.suffix_cons o operands
    cases htext : o.node.text? with
    | none =>
      rw [next_blank hwords hlookup hoperands htext]
      exact .inl (h.read hsuffix)
    | some text =>
      have ho : o ∈ s₁.draft.operands := hoperands ▸ List.mem_cons_self
      rw [next_operand hwords hlookup hoperands htext, ← run_bind, runSubcommand_rest hrest]
      exact .inr ⟨o, h.operands.subset ho, _, closing, h.read hsuffix, rfl⟩

/-- What follows a clause that leaves the subcommand open. -/
lemma EndsInCall.finish (h : s.Spares s₁) {c : Clause} (hopen : c.IsOpen) :
    s.EndsInCall ((PackToMod.finish c.outcome >>= fun _ => emit c.closing) s₁) := by
  simp only [PackToMod.finish, hopen.1, if_false, bind_assoc]
  cases hwords : s₁.draft.words with
  | nil =>
    rw [run_bind, next_nil hwords]
    dsimp only [Option.isNone_none]
    cases houtcome : c.outcome with
    | nothing => exact .inl h
    | finished => exact absurd houtcome hopen.1
    | result code => exact .inl (h.read List.suffix_rfl)
  | cons word words =>
    by_cases hword : word = subcommandWord
    · subst hword
      exact .subcommand h hwords rfl rfl
    · have hne : (word == "subcommand") = false := beq_false_of_ne hword
      rw [run_bind, next_unknown hwords (by rw [List.lookup_cons, hne]; rfl)]
      exact .inl (h.read List.suffix_rfl)

end Frame

lemma execute_endsInCall (s : Frame) : s.EndsInCall (execute s) := by
  unfold execute
  cases hwords : s.draft.words with
  | nil =>
    rw [run_bind, next_nil hwords]
    exact .finish (.refl s) Clause.isOpen_default
  | cons word words =>
    by_cases hword : word = subcommandWord
    · subst hword
      exact .subcommand (.refl s) hwords rfl rfl
    · have hwalk := clauses_walk downClosed_true s fun _ _ => trivial
      have hspares := Frame.spares_of_ignores hwalk.passes (clauses_ignore (Draft.unread_withMacros _ _) s)
      rw [run_bind, next_clauses_of_ne hwords hword]
      cases hclause : next clauses.tail s with
      | error f s' =>
        rw [hclause] at hspares
        exact .inl hspares
      | ok clause s' =>
        rw [hclause] at hwalk hspares
        obtain ⟨-, -, hopen⟩ := hwalk
        exact .finish hspares (Clause.isOpen_getD hopen)

/-- The handlers other than those of a line and of `execute`. -/
lemma handlers_ignore {T : Draft → Draft} (hT : Draft.Unread T)
    (houtput : ∀ d output, T { d with output } = { T d with output }) {word : String} {handler : Handler (DraftM Unit)}
    (hlookup : commands.lookup word = some handler) (hline : word ≠ lineWord) (hexecute : word ≠ executeWord) :
    Follows.OfHandler T handler := by
  have hmem : (word, handler) ∈ commands := mem_of_lookup hlookup
  simp only [commands, List.mem_cons, Prod.mk.injEq, List.not_mem_nil, or_false] at hmem
  rcases hmem with ⟨-, rfl⟩ | ⟨hword, -⟩ | ⟨-, rfl⟩ | ⟨-, rfl⟩ | ⟨-, rfl⟩ | ⟨-, rfl⟩ | ⟨-, rfl⟩ | ⟨hword, -⟩
  · exact say_ignores hT houtput
  · exact absurd hword hline
  · exact teleport_ignores hT
  · exact teleport_ignores hT
  · exact kill_ignores hT
  · exact give_ignores hT
  · exact runFunction_ignores hT
  · exact absurd hword hexecute

/-- Every exit of a command's handler: the macros are as they were, or it has put together a line, or `execute` has come
to a subcommand. -/
theorem commands_spares (s : Frame) :
    s.Spares (lastState (next commands s)) ∨
    (∃ words terms names, s.draft.words = lineWord :: words ∧
      lineTerms (s.draft.operands.map Operand.node) = .ok (terms, names)) ∨
    ∃ words, s.draft.words = executeWord :: words ∧ ∃ o ∈ s.draft.operands, ∃ s₁ closing, s.Spares s₁ ∧
      next commands s = (some <$> callSubcommand o closing) s₁ := by
  cases hwords : s.draft.words with
  | nil =>
    rw [next_nil hwords]
    exact .inl (.refl s)
  | cons word words =>
    by_cases hline : word = lineWord
    · subst hline
      cases hterms : lineTerms (s.draft.operands.map Operand.node) with
      | error f =>
        rw [next_line_error hwords hterms]
        exact .inl ((Frame.Spares.refl s).read List.suffix_rfl)
      | ok r => exact .inr (.inl ⟨words, r.1, r.2, rfl, rfl⟩)
    · by_cases hexecute : word = executeWord
      · subst hexecute
        have hstart : s.Spares { s with draft := { s.draft with words }.append (comment executeWord) } :=
          (Frame.Spares.refl s).read List.suffix_rfl
        rw [next_plain hwords rfl, lastState_map]
        rcases execute_endsInCall { s with draft := { s.draft with words }.append (comment executeWord) } with
          hspares | ⟨o, ho, s₁, closing, hspares, hrun⟩
        · exact .inl (hstart.trans hspares)
        · refine .inr (.inr ⟨words, rfl, o, ho, s₁, closing, hstart.trans hspares, ?_⟩)
          rw [run_map, hrun, run_map]
      · refine .inl (Frame.spares_of_ignores ?_ ?_)
        · rw [next_commands_of_ne hwords hexecute]
          exact (commands_walk downClosed_true s fun _ _ => trivial).passes
        · refine Follows.next_at (Draft.unread_withMacros _ _) fun word' words' handler hwords' hlookup => ?_
          obtain ⟨rfl, -⟩ := List.cons.inj (hwords.symm.trans hwords')
          exact handlers_ignore (Draft.unread_withMacros _ _) (fun _ _ => rfl) hlookup hline hexecute

/-- A subcommand hands on that it needs macros, but none of them. -/
lemma callSubcommand_needs {o : Operand} {closing : String} {s s' : Frame} {a : Unit}
    (h : callSubcommand o closing s = .ok a s') : ∃ m b, o.compile s.build = .ok m b ∧
      s'.draft.needsMacros = m.needsMacros ∧ s'.draft.macros = s.draft.macros := by
  unfold callSubcommand at h
  obtain ⟨c, s₁, hrun, hemit⟩ := run_bind_eq_ok h
  cases hemit
  cases hcompile : o.compile s.build with
  | error f b =>
    rw [runSubcommand_error hcompile] at hrun
    exact nomatch hrun
  | ok m b =>
    refine ⟨m, b, rfl, ?_⟩
    by_cases hreturns : m.returns = .never
    · rw [runSubcommand_ok hcompile hreturns] at hrun
      cases hrun
      exact ⟨rfl, rfl⟩
    · cases htext : o.node.text? with
      | none => simp [runSubcommand, onBuild, hcompile, hreturns, Node.key, BuildM.require, htext] at hrun
      | some text =>
        by_cases halways : s.draft.returns = .always
        all_goals
          simp [runSubcommand, onBuild, hcompile, hreturns, Node.key, BuildM.require, htext, halways, emit,
            modifyDraft] at hrun
          obtain ⟨-, rfl⟩ := hrun
          exact ⟨rfl, rfl⟩

/-- `execute` has no macros of its own. -/
lemma next_execute_macros {s s' : Frame} {words : List String} {a : Option Unit}
    (hwords : s.draft.words = executeWord :: words) (h : next commands s = .ok a s') :
    s'.draft.macros = s.draft.macros := by
  rcases commands_spares s with hspares | ⟨words', _, _, hline, -⟩ | ⟨_, -, o, -, s₁, closing, hspares, hrun⟩
  · rw [h] at hspares
    exact hspares.macros
  · exact absurd (List.cons.inj (hwords.symm.trans hline)).1 (by decide)
  · rw [hrun] at h
    obtain ⟨_, hcall, -⟩ := run_map_eq_ok h
    obtain ⟨m, b, -, -, hmacros⟩ := callSubcommand_needs hcall
    exact hmacros.trans hspares.macros

/-! ## Lines that calls come to -/

namespace Compilation

/-- `execute` has come to compile an argument in the build `b`, and has put out a call of its method. -/
structure CallsArgument (c : Compilation) (node : Node) (b : Build) : Prop where
  isNew : c.IsNew
  isExecute : ∃ words, Text.splitColons c.identifier = executeWord :: words
  argument : node ∈ c.arguments
  handled : ∃ s closing s', s.build = b ∧ c.handled = .ok (some ⟨⟩) s' ∧
    callSubcommand ⟨node, node.compile c.compiled⟩ closing s = .ok ⟨⟩ s'

/-- A command that is a line with variables. -/
structure IsLine (c : Compilation) : Prop where
  isNew : c.IsNew
  word : ∃ words, Text.splitColons c.identifier = lineWord :: words
  parts : ∀ part ∈ c.arguments, part.IsLinePart

end Compilation

/-- The compilation of `node` in the build `b` comes to a line with the variables `names`, through as many calls of
subcommands as `depth` says. Where the text of the node has a method, this is about the compilation that has made it. -/
inductive ReadsLine : Node → List String → Build → Nat → List String → Prop
  | line {c : Compilation} (h : c.IsLine) : ReadsLine c.command c.compiled c.before 0 (lineVariables c.arguments)
  | call {c : Compilation} {node : Node} {b : Build} {depth : Nat} {names : List String} (h : c.CallsArgument node b)
    (hnode : ReadsLine node c.compiled b depth names) : ReadsLine c.command c.compiled c.before (depth + 1) names
  | found {node : Node} {compiled : List String} {b : Build} {earlier : Compilation} {m : Method} {after : Build}
    {depth : Nat} {names : List String} (htext : node.text? = some earlier.text)
    (hget : b.methods.get? earlier.text = some m) (hnew : earlier.IsNew) (hearlier : earlier.before.KeepsTexts b)
    (hrun : earlier.run = .ok m after)
    (h : ReadsLine earlier.command earlier.compiled earlier.before depth names) : ReadsLine node compiled b depth names

lemma Compilation.IsLine.run {c : Compilation} (h : c.IsLine) {m : Method} {after : Build}
    (hrun : c.run = .ok m after) : m.needsMacros = true ∧ m.macros = lineVariables c.arguments := by
  obtain ⟨words, hwords⟩ := h.word
  obtain ⟨output, hline⟩ := compile_line c.compiled c.dump hwords h.parts h.isNew
  cases hrun.symm.trans hline
  exact ⟨rfl, rfl⟩

lemma Compilation.CallsArgument.run {c : Compilation} {node : Node} {b : Build} (h : c.CallsArgument node b)
    {m : Method} {after : Build} (hrun : c.run = .ok m after) :
    m.macros = [] ∧ ∃ callee b', node.compile c.compiled b = .ok callee b' ∧ m.needsMacros = callee.needsMacros := by
  obtain ⟨s, closing, s', rfl, hhandled, hcall⟩ := h.handled
  rw [run_eq, compileWith_native c.dump h.isNew hhandled] at hrun
  cases hrun
  obtain ⟨words, hwords⟩ := h.isExecute
  obtain ⟨callee, b', hcompile, hneeds, -⟩ := callSubcommand_needs hcall
  exact ⟨next_execute_macros hwords hhandled, callee, b', hcompile, hneeds⟩

/-- What the method of a node has from the line that its compilation comes to. -/
theorem ReadsLine.macros {node : Node} {compiled names : List String} {b : Build} {depth : Nat}
    (h : ReadsLine node compiled b depth names) {m : Method} {after : Build}
    (hrun : node.compile compiled b = .ok m after) :
    m.needsMacros = true ∧ m.macros = if depth = 0 then names else [] := by
  induction h generalizing m after with
  | line hline =>
    rw [if_pos rfl]
    exact hline.run hrun
  | call hcalls _ ih =>
    obtain ⟨hmacros, callee, b', hcompile, hneeds⟩ := hcalls.run hrun
    rw [if_neg (Nat.succ_ne_zero _), hneeds]
    exact ⟨(ih hcompile).1, hmacros⟩
  | found htext hget _ _ hearlier _ ih =>
    rw [compile_hit _ htext hget] at hrun
    cases hrun
    exact ih hearlier

/-! ## Every need has a line -/

/-- Every method that needs macros was made by a compilation that came to a line. -/
def Build.Explained (b : Build) : Prop :=
  ∀ text m, (text, m) ∈ b.methods.entries → m.needsMacros = true → ∃ (earlier : Compilation) (after : Build)
    (depth : Nat) (names : List String), earlier.text = text ∧ earlier.IsNew ∧ earlier.before.KeepsTexts b ∧
      earlier.run = .ok m after ∧ ReadsLine earlier.command earlier.compiled earlier.before depth names

variable {b b' : Build}

lemma Build.explained_empty : ({} : Build).Explained :=
  fun _ _ h => absurd h List.not_mem_nil

lemma Build.Explained.of_methods_eq (hb : b.Explained) (h : b'.methods = b.methods) : b'.Explained := by
  unfold Build.Explained Build.KeepsTexts
  rw [h]
  exact hb

lemma Build.Explained.found (hb : b.Explained) {node : Node} {text : String} {m : Method}
    (htext : node.text? = some text) (hget : b.methods.get? text = some m) (hneeds : m.needsMacros = true)
    (compiled : List String) : ∃ depth names, ReadsLine node compiled b depth names := by
  obtain ⟨earlier, after, depth, names, rfl, hnew, hkeeps, hrun, hline⟩ := hb text m (Registry.mem_of_get? hget) hneeds
  exact ⟨depth, names, .found htext hget hnew hkeeps hrun hline⟩

/-- What a compilation may end in. -/
def Node.IsExplained (node : Node) (compiled : List String) (b : Build) : Prop :=
  (lastState (node.compile compiled b)).Explained ∧ ∀ m after, node.compile compiled b = .ok m after →
    m.needsMacros = true → ∃ depth names, ReadsLine node compiled b depth names

namespace Compilation

variable {c : Compilation}

/-- A compilation that has come to a line explains the method that it registers. -/
lemma isExplained_of_run {m : Method} (hnew : c.IsNew) (hrun : c.run = .ok m (b.register c.text m)) (hb : b.Explained)
    (hline : m.needsMacros = true → ∃ depth names, ReadsLine c.command c.compiled c.before depth names) :
    c.command.IsExplained c.compiled c.before := by
  have hkeeps : c.before.KeepsTexts (lastState c.run) := compile_keepTexts c.compiled c.command c.before
  have hafter : (lastState c.run).Explained := by
    rw [hrun] at hkeeps ⊢
    intro text m' hmem hneeds
    rcases Registry.mem_set hmem with hself | hold
    · cases hself
      obtain ⟨depth, names, hreads⟩ := hline hneeds
      exact ⟨c, _, depth, names, rfl, hnew, hkeeps, hrun, hreads⟩
    · obtain ⟨earlier, after, depth, names, htext, hearlier, hbefore, hrun', hreads⟩ := hb text m' hold hneeds
      exact ⟨earlier, after, depth, names, htext, hearlier, hbefore.register _ _, hrun', hreads⟩
  refine ⟨hafter, fun m' after hok hneeds => ?_⟩
  cases hrun.symm.trans hok
  exact hline hneeds

/-- A method needs macros if its draft did in the end, also where the command is left to the dispatcher. -/
lemma isExplained_of_handled (hnew : c.IsNew) (hb : (lastState c.handled).build.Explained)
    (hline : (lastState c.handled).draft.needsMacros = true →
      ∃ depth names, ReadsLine c.command c.compiled c.before depth names) :
    c.command.IsExplained c.compiled c.before := by
  cases hhandled : c.handled with
  | ok a s =>
    rw [hhandled] at hb hline
    have hrun : c.run = _ := c.run_eq.trans (compileWith_native c.dump hnew hhandled)
    exact isExplained_of_run hnew hrun hb hline
  | error f s =>
    rw [hhandled] at hb hline
    have hlogged : (s.build.logged f).Explained := hb.of_methods_eq rfl
    rcases compileWith_faulty c.dump hnew hhandled with ⟨f', hfail⟩ | ⟨output, hleft⟩
    · have hrun : c.run = _ := c.run_eq.trans hfail
      refine ⟨?_, fun m after hok => ?_⟩
      · change (lastState c.run).Explained
        rw [hrun]
        exact hlogged
      · exact nomatch hrun.symm.trans hok
    · exact isExplained_of_run hnew (c.run_eq.trans hleft) hlogged hline

/-- The handler of a new command, if its arguments are explained. -/
lemma isExplained_of_arguments (hnew : c.IsNew) (hsound : c.before.Sound) (hb : c.before.Explained)
    (h : ∀ node ∈ c.arguments, ∀ b : Build, b.Sound → b.Explained → node.IsExplained c.compiled b) :
    c.command.IsExplained c.compiled c.before := by
  rcases commands_spares (startFrame c.compiled (operandsOf c.compiled c.arguments) c.identifier c.before) with
    hspares | ⟨words, terms, names, hwords, hterms⟩ | ⟨words, hwords, o, ho, s₁, closing, hspares, hrun⟩
  · -- Nothing has been said about macros, and the need was not there at the start.
    refine isExplained_of_handled hnew (hb.of_methods_eq hspares.build.methods_eq) fun hneeds => ?_
    exact nomatch hspares.needsMacros.symm.trans hneeds
  · rw [startFrame, startDraft, map_node_operandsOf] at hterms
    have hline : c.IsLine := ⟨hnew, ⟨words, hwords⟩, isLinePart_of_lineTerms hterms⟩
    refine isExplained_of_handled hnew (hb.of_methods_eq ?_) fun _ => ⟨0, _, .line hline⟩
    rw [handled, next_line hwords (by rw [startFrame, startDraft, map_node_operandsOf]; exact hterms)]
    rfl
  · obtain ⟨node, hnode, rfl⟩ := exists_of_mem_operandsOf ho
    have hmethods : s₁.build.methods = c.before.methods := hspares.build.methods_eq
    obtain ⟨hexplained, hneed⟩ :=
      h node hnode s₁.build (hsound.of_methods_eq hmethods) (hb.of_methods_eq hmethods)
    have hcall : callSubcommand ⟨node, node.compile c.compiled⟩ closing s₁ =
        callOperand ⟨node, node.compile c.compiled⟩ closing s₁ :=
      callSubcommand_eq (startFrame_neverReturns hsound _ ho s₁ hspares.toPasses)
    have hhandled : c.handled = _ := hrun.trans (run_map ..)
    unfold callOperand at hcall
    cases hcompile : node.compile c.compiled s₁.build with
    | error f b' =>
      simp only [hcompile] at hcall hexplained
      rw [hcall] at hhandled
      refine isExplained_of_handled hnew ?_ fun hneeds => ?_
      · rw [hhandled]
        exact hexplained
      · rw [hhandled] at hneeds
        exact nomatch hspares.needsMacros.symm.trans hneeds
    | ok callee b' =>
      simp only [hcompile] at hcall hexplained
      rw [hcall] at hhandled
      refine isExplained_of_handled hnew ?_ fun hneeds => ?_
      · rw [hhandled]
        exact hexplained
      · rw [hhandled] at hneeds
        obtain ⟨depth, names, hreads⟩ := hneed callee b' hcompile hneeds
        exact ⟨depth + 1, names, .call ⟨hnew, ⟨words, hwords⟩, hnode, s₁, closing, _, rfl, hhandled, hcall⟩ hreads⟩

end Compilation

theorem compile_isExplained (compiled : List String) (node : Node) (hsound : b.Sound) (hb : b.Explained) :
    node.IsExplained compiled b := by
  induction node using Node.argumentInduction generalizing b with
  | part node hpart =>
    unfold Node.IsExplained
    rw [hpart.compile_eq]
    rcases compileOther_cases (b := b) node with ⟨text, m, htext, hget, hrun⟩ | ⟨f, n, -, hrun⟩
    · rw [hrun]
      refine ⟨hb, fun m' after hok hneeds => ?_⟩
      cases hok
      exact hb.found htext hget hneeds compiled
    · rw [hrun]
      exact ⟨hb.of_methods_eq rfl, nofun⟩
  | command text identifier arguments dump ih =>
    cases hget : b.methods.get? text with
    | none =>
      have hexplained := Compilation.isExplained_of_arguments (c := ⟨compiled, text, identifier, arguments, dump, b⟩)
        hget hsound hb fun node hnode b' hsound' hb' => ih node hnode hsound' hb'
      exact hexplained
    | some m =>
      unfold Node.IsExplained
      rw [compile_hit compiled rfl hget]
      refine ⟨hb, fun m' after hok hneeds => ?_⟩
      cases hok
      exact hb.found rfl hget hneeds compiled

/-- In all builds that can be reached, every need for macros comes from a line. -/
theorem after_explained (rs : List Request) : (({} : Build).after rs).Explained := by
  suffices h : ∀ b : Build, b.Sound → b.Explained → (b.after rs).Explained from
    h {} Build.sound_empty Build.explained_empty
  induction rs with
  | nil => exact fun _ _ hb => hb
  | cons r rs ih =>
    intro b hsound hb
    rw [Build.after_cons]
    refine ih _ (Request.next_grows downClosed_true (fun _ _ => trivial) hsound).2 ?_
    by_cases hcompile : ∃ compiled node, r = .compile compiled node
    · obtain ⟨compiled, node, rfl⟩ := hcompile
      rw [Request.next, Request.run, lastState_map]
      exact (compile_isExplained compiled node hsound hb).1
    · have hquiet := Request.run_keeps downClosed_true (fun _ _ => trivial)
        (fun compiled node hr => hcompile ⟨compiled, node, hr⟩) b
      exact hb.of_methods_eq hquiet.methods_eq

/-- A method needs macros exactly if its compilation comes to a line with variables, in the command itself or through
subcommands. Only a line's own method has the variables as macros: from a method around it they are missing, unless
there are none. -/
theorem variables_kept_iff_line (rs : List Request) (compiled : List String) (node : Node) (m : Method) (after : Build)
    (hrun : node.compile compiled (({} : Build).after rs) = .ok m after) :
    let b := ({} : Build).after rs
    (m.needsMacros = true ↔ ∃ depth names, ReadsLine node compiled b depth names) ∧
      ∀ depth names, ReadsLine node compiled b depth names → m.macros = (if depth = 0 then names else []) ∧
        ((∀ name ∈ names, name ∈ m.macros) ↔ depth = 0 ∨ names = []) := by
  intro b
  have hsound : b.Sound := (Build.sound_empty.after_extends rs).2
  refine ⟨⟨?_, ?_⟩, fun depth names hreads => ?_⟩
  · exact (compile_isExplained compiled node hsound (after_explained rs)).2 m after hrun
  · rintro ⟨depth, names, hreads⟩
    exact (hreads.macros hrun).1
  · have hmacros := (hreads.macros hrun).2
    refine ⟨hmacros, ?_⟩
    rw [hmacros]
    cases depth with
    | zero => simp
    | succ depth => simp [List.eq_nil_iff_forall_not_mem]

/-- `execute run` around a command. -/
def runCompilation (outer : String) (node : Node) (b : Build) : Compilation :=
  ⟨[], outer, "execute:run:subcommand", [node], "", b⟩

lemma callSubcommand_ok {o : Operand} {s : Frame} {m : Method} (h : o.compile s.build = .ok m b)
    (hreturns : m.returns = .never) (closing : String) :
    callSubcommand o closing s = .ok ⟨⟩ (s.calling b m closing) := by
  rw [callSubcommand, run_bind, runSubcommand_ok h hreturns]
  simp [emit, modifyDraft, Draft.append, Frame.calling]

lemma runCompilation_calls {outer text : String} {node : Node} {callee : Method} (hnew : b.methods.get? outer = none)
    (htext : node.text? = some text) (hreturns : callee.returns = .never)
    (hcompile : node.compile [] { b with counter := b.counter + 1 } = .ok callee b') :
    (runCompilation outer node b).CallsArgument node { b with counter := b.counter + 1 } ∧
      ∃ m after, (runCompilation outer node b).run = .ok m after := by
  have hwords : Text.splitColons "execute:run:subcommand" = ["execute", "run", "subcommand"] := by decide
  have hoperands : operandsOf [] [node] = [⟨node, node.compile []⟩] := by rw [operandsOf, operandsOf]
  have hrun := next_run (s := startFrame [] (operandsOf [] [node]) "execute:run:subcommand" b) hwords hoperands htext
    hcompile hreturns
  obtain ⟨m, hend⟩ := Compilation.run_of_handled_ok (c := runCompilation outer node b) hnew hrun
  refine ⟨⟨hnew, ⟨_, hwords⟩, List.mem_singleton_self node, _, "", _, ?_, hrun,
    callSubcommand_ok hcompile hreturns ""⟩, m, _, hend⟩
  rfl

/-- A line with two variables. -/
def greeting : Node :=
  greetLine "$say $(who) $(what)" "who" "what"

def greetingCompilation (b : Build) : Compilation :=
  ⟨[], "$say $(who) $(what)", "mecha:macro", greeting.arguments, "", b⟩

/-- `execute run` around the line. -/
def runGreeting (b : Build) : Compilation :=
  runCompilation "execute run $say $(who) $(what)" greeting b

lemma greeting_reads (hnew : b.methods.get? "$say $(who) $(what)" = none) :
    ReadsLine greeting [] b 0 ["who", "what"] := by
  have hline : (greetingCompilation b).IsLine := ⟨hnew, ⟨_, greetLine_words⟩, greetLine_parts "" "who" "what"⟩
  exact .line hline

/-- The line is compiled first and found in the cache by the command around it, whose method has none of its
variables. -/
theorem greeting_found_without_variables :
    let b := ({} : Build).after [.compile [] greeting]
    ∃ m after, (runGreeting b).run = .ok m after ∧ ReadsLine (runGreeting b).command [] b 1 ["who", "what"] ∧
      m.needsMacros = true ∧ ¬∀ name ∈ ["who", "what"], name ∈ m.macros := by
  intro b
  obtain ⟨line, b₁, hline, hmethods, -, hreturns⟩ :=
    greetLine_compile (b := {}) [] "$say $(who) $(what)" "who" "what" rfl
  have hafter : ({} : Build).after [.compile [] greeting] = lastState (greeting.compile [] {}) :=
    lastState_map Answer.method (greeting.compile []) {}
  have hb : b = b₁ := hafter.trans (by rw [greeting, hline, lastState_ok])
  have hget : b.methods.get? "$say $(who) $(what)" = some line := by
    rw [hb, hmethods]
    exact Registry.get?_set_self ..
  have hfound : greeting.compile [] { b with counter := b.counter + 1 } =
      .ok line { b with counter := b.counter + 1 } := compile_hit [] rfl hget
  have hnew : b.methods.get? "execute run $say $(who) $(what)" = none := by
    rw [hb, hmethods]
    exact Registry.get?_set_of_ne _ _ (by decide)
  obtain ⟨hcalls, m, after, hrun⟩ := runCompilation_calls hnew rfl hreturns hfound
  have hrunline : (greetingCompilation {}).run = .ok line b₁ := hline
  have hnewline : (greetingCompilation {}).IsNew := rfl
  have hearlier : ReadsLine greeting [] { b with counter := b.counter + 1 } 0 ["who", "what"] :=
    .found rfl hget hnewline (List.nil_subset _) hrunline (greeting_reads rfl)
  have hreads : ReadsLine (runGreeting b).command [] b 1 ["who", "what"] := .call hcalls hearlier
  obtain ⟨hneeds, hkept⟩ := variables_kept_iff_line [.compile [] greeting] [] (runGreeting b).command m after hrun
  refine ⟨m, after, hrun, hreads, hneeds.mpr ⟨_, _, hreads⟩, ?_⟩
  rw [(hkept _ _ hreads).2]
  decide

/-- A method that calls a line with variables, and has none of them. -/
theorem greeting_variables_lost :
    ∃ m after, (runGreeting {}).run = .ok m after ∧ ReadsLine (runGreeting {}).command [] {} 1 ["who", "what"] ∧
      m.needsMacros = true ∧ m.macros = [] := by
  obtain ⟨line, b₁, hline, -, -, hreturns⟩ :=
    greetLine_compile (b := { counter := 1 }) [] "$say $(who) $(what)" "who" "what" rfl
  have hnew : ({} : Build).methods.get? "execute run $say $(who) $(what)" = none := rfl
  obtain ⟨hcalls, m, after, hrun⟩ := runCompilation_calls hnew rfl hreturns hline
  have hreads : ReadsLine (runGreeting {}).command [] {} 1 ["who", "what"] := .call hcalls (greeting_reads rfl)
  exact ⟨m, after, hrun, hreads, hreads.macros hrun⟩

end PackToMod
