import PackToMod.Proofs.Handlers

/-!
# How a command comes to compile another one

Only `execute` compiles a subcommand, at most one, and nothing can fail after it: what is left to do is
to call it and to close the blocks around the call. `commands_calls` says this of every command: either
the handler works quietly, or it ends with the subcommand and some text after it. `commands_cases` is the
same for operands that never return, as they do in all builds that have only been compiled to: the run is
then that of one operand's compilation with some text around the call.
-/

namespace PackToMod

open Build DraftM

variable {U : Node → Prop}

/-- The frame after a call of `m` has been put out, with the needs of the callee. -/
def Frame.calling (s : Frame) (b : Build) (m : Method) (closing : String) : Frame :=
  { build := b
    draft := { s.draft with
      output := s.draft.output ++ m.statement ++ closing
      needsDispatcher := m.needsDispatcher
      needsMacros := m.needsMacros } }

/-- Compiles an operand, calls it and closes what is open around the call. -/
def callOperand (o : Operand) (closing : String) : DraftM Unit := fun s =>
  match o.compile s.build with
  | .ok m b => .ok ⟨⟩ (s.calling b m closing)
  | .error f b => .error f { s with build := b }

lemma callOperand_eq_ok {o : Operand} {closing : String} {s s' : Frame} {a : Unit}
    (h : callOperand o closing s = .ok a s') :
    ∃ m b, o.compile s.build = .ok m b ∧ s' = s.calling b m closing := by
  unfold callOperand at h
  cases hcompile : o.compile s.build with
  | error f b =>
    rw [hcompile] at h
    exact nomatch h
  | ok m b =>
    rw [hcompile] at h
    cases h
    exact ⟨m, b, rfl, rfl⟩

lemma runSubcommand_error {o : Operand} {s : Frame} {f : Fault} {b : Build}
    (h : o.compile s.build = .error f b) : runSubcommand o s = .error f { s with build := b } := by
  simp [runSubcommand, onBuild, h]

lemma runSubcommand_ok {o : Operand} {s : Frame} {m : Method} {b : Build}
    (h : o.compile s.build = .ok m b) (hreturns : m.returns = .never) :
    runSubcommand o s = .ok { outcome := .finished } (s.calling b m "") := by
  simp [runSubcommand, onBuild, h, hreturns, emit, modifyDraft, Frame.calling, Draft.append]

/-- The operands compile to methods that never return, from wherever a walk leads. -/
def Frame.NeverReturns (U : Node → Prop) (s : Frame) : Prop :=
  ∀ o ∈ s.draft.operands, ∀ s₁, s.Passes U s₁ → ∀ m b, o.compile s₁.build = .ok m b → m.returns = .never

/-- Reading the word for a subcommand fails quietly or goes on to compile an operand, below a comment with its
text. -/
lemma next_subcommand (handlers : Handlers (DraftM Clause)) {s : Frame} {words : List String}
    (hwords : s.draft.words = subcommandWord :: words)
    (hlookup : handlers.lookup subcommandWord = some (.operand runSubcommand)) :
    (∃ f s', next handlers s = .error f s' ∧ s.Passes U s' ∧ f.message? = none) ∨
    ∃ o ∈ s.draft.operands, ∃ s₁, s.Passes U s₁ ∧ next handlers s = (some <$> runSubcommand o) s₁ ∧
      s₁.draft.words = words ∧
      ∃ text, o.node.text? = some text ∧ s₁.draft.output = s.draft.output ++ comment text := by
  cases hoperands : s.draft.operands with
  | nil =>
    refine .inl ⟨_, _, next_starved hwords hlookup hoperands, ?_, rfl⟩
    exact ⟨refl_of (Quiet U) _, List.suffix_rfl, rfl⟩
  | cons o operands =>
    have hsuffix : operands <:+ s.draft.operands := by
      rw [hoperands]
      exact List.suffix_cons o operands
    cases htext : o.node.text? with
    | none =>
      refine .inl ⟨_, _, next_blank hwords hlookup hoperands htext, ?_, rfl⟩
      exact ⟨refl_of (Quiet U) _, hsuffix, rfl⟩
    | some text =>
      refine .inr ⟨o, List.mem_cons_self, _, ?_, next_operand hwords hlookup hoperands htext, rfl, text, htext, rfl⟩
      exact ⟨refl_of (Quiet U) _, hsuffix, rfl⟩

/-- Runs a subcommand and closes what is open around it. -/
def callSubcommand (o : Operand) (closing : String) : DraftM Unit := do
  let _ ← runSubcommand o
  emit closing

lemma runSubcommand_finished {o : Operand} {s s' : Frame} {c : Clause} (h : runSubcommand o s = .ok c s') :
    c = { outcome := .finished } := by
  obtain ⟨m, s₁, -, h⟩ := run_bind_eq_ok h
  split at h
  · obtain ⟨-, s₂, -, h⟩ := run_bind_eq_ok h
    obtain ⟨-, s₃, -, h⟩ := run_bind_eq_ok h
    cases h
    rfl
  · obtain ⟨key, s₂, -, h⟩ := run_bind_eq_ok h
    obtain ⟨-, s₃, -, h⟩ := run_bind_eq_ok h
    obtain ⟨s₄, s₅, -, h⟩ := run_bind_eq_ok h
    split at h
    · obtain ⟨-, s₆, -, h⟩ := run_bind_eq_ok h
      obtain ⟨-, s₇, -, h⟩ := run_bind_eq_ok h
      cases h
      rfl
    · obtain ⟨-, s₆, -, h⟩ := run_bind_eq_ok h
      cases h
      rfl

/-- What is done after a subcommand depends on nothing but that it is done. -/
lemma runSubcommand_rest {o : Operand} {closing : String} {f : Option Clause → DraftM Unit}
    (hrest : f (some { outcome := .finished }) = emit closing) :
    some <$> runSubcommand o >>= f = callSubcommand o closing := by
  funext s
  unfold callSubcommand
  rw [run_bind, run_map, run_bind]
  cases hrun : runSubcommand o s with
  | error e s' => rfl
  | ok c s' =>
    obtain rfl := runSubcommand_finished hrun
    dsimp only
    rw [hrest]

/-- An operand that never returns is called, and nothing else is done to it. -/
lemma callSubcommand_eq {s : Frame} {o : Operand} {closing : String}
    (hreturns : ∀ m b, o.compile s.build = .ok m b → m.returns = .never) :
    callSubcommand o closing s = callOperand o closing s := by
  unfold callSubcommand callOperand
  cases hcompile : o.compile s.build with
  | error e b => simp [runSubcommand_error hcompile]
  | ok m b =>
    simp [runSubcommand_ok hcompile (hreturns m b hcompile), emit, modifyDraft, Frame.calling, Draft.append]

/-- Compiling an operand that never returns, and what is done after it. -/
lemma runSubcommand_bind {s : Frame} {o : Operand} {closing : String} {f : Option Clause → DraftM Unit}
    (hreturns : ∀ m b, o.compile s.build = .ok m b → m.returns = .never)
    (hrest : f (some { outcome := .finished }) = emit closing) :
    (some <$> runSubcommand o >>= f) s = callOperand o closing s := by
  rw [runSubcommand_rest hrest, callSubcommand_eq hreturns]

/-- A run either works quietly, and reads no word for a subcommand if it returns, or ends with a
subcommand. -/
def Frame.RunsThrough (U : Node → Prop) (s : Frame) (r : EStateM.Result Fault Frame Unit) : Prop :=
  (s.Passes U (lastState r) ∧ ∀ s', r = .ok ⟨⟩ s' → subcommandWord ∉ s.draft.words) ∨
  ∃ o ∈ s.draft.operands, ∃ s₁ closing, s.Passes U s₁ ∧ IsClosing closing ∧
    r = callSubcommand o closing s₁

lemma Frame.RunsThrough.of_error {s s' : Frame} {f : Fault} (h : s.Passes U s') :
    s.RunsThrough U (.error f s') :=
  .inl ⟨h, nofun⟩

/-- The end of a run that has come to a subcommand. -/
lemma Frame.RunsThrough.of_call {s s₁ : Frame} {o : Operand} {c : Clause} {f : Option Clause → DraftM Unit}
    (ho : o ∈ s.draft.operands) (hpass : s.Passes U s₁) (hclosing : IsClosing c.closing)
    (hrest : f (some { outcome := .finished }) = emit c.closing) :
    s.RunsThrough U ((some <$> runSubcommand o >>= f) s₁) :=
  .inr ⟨o, ho, s₁, c.closing, hpass, hclosing, by rw [runSubcommand_rest hrest]⟩

/-- What follows a clause that leaves the subcommand open. -/
lemma finish_runsThrough {s s₁ : Frame} {c : Clause} (hopen : c.IsOpen) (hpass : s.Passes U s₁)
    (hskip : s.Skips s₁) :
    s.RunsThrough U ((finish c.outcome >>= fun _ => emit c.closing) s₁) := by
  obtain ⟨hunfinished, hclosing⟩ := hopen
  simp only [finish, hunfinished, if_false, bind_assoc]
  cases hwords : s₁.draft.words with
  | nil =>
    rw [run_bind, next_nil hwords]
    dsimp only [Option.isNone_none]
    cases houtcome : c.outcome with
    | nothing => exact .of_error hpass
    | finished => exact absurd houtcome hunfinished
    | result code =>
      -- The clause stands alone. All words have been read by now, and none of them was for a subcommand.
      refine .inl ⟨⟨hpass.build, hpass.operands, hpass.returns⟩, fun s' _ => ?_⟩
      obtain ⟨used, hused, hnot⟩ := hskip
      rw [hused, hwords, List.append_nil]
      exact hnot
  | cons word words =>
    by_cases hword : word = subcommandWord
    · subst hword
      rcases next_subcommand (U := U) [("subcommand", .operand runSubcommand)] hwords rfl with
        ⟨f, s', hrun, hs', -⟩ | ⟨o, ho, s', hs', hrun, -⟩
      · rw [run_bind, hrun]
        exact .of_error (hpass.trans hs')
      · rw [run_bind, hrun, ← run_bind]
        refine .of_call (hpass.operands.subset ho) (hpass.trans hs') hclosing ?_
        rfl
    · have hne : (word == "subcommand") = false := beq_false_of_ne hword
      rw [run_bind, next_unknown hwords (by rw [List.lookup_cons, hne]; rfl)]
      exact .of_error ⟨hpass.build, hpass.operands, hpass.returns⟩

lemma next_clauses_of_ne {s : Frame} {word : String} {words : List String}
    (hwords : s.draft.words = word :: words) (hword : word ≠ subcommandWord) :
    next clauses s = next clauses.tail s := by
  have hne : (word == "subcommand") = false := beq_false_of_ne hword
  have hlookup : clauses.lookup word = clauses.tail.lookup word := by
    rw [clauses, List.lookup_cons, hne, List.tail_cons]
  simp only [next, Draft.read, hwords, hlookup, run_bind, run_get]

/-- Every exit of `execute`. -/
theorem execute_runsThrough (hU : DownClosed U) {s : Frame} (hs : s.draft.Within U) :
    s.RunsThrough U (execute s) := by
  unfold execute
  cases hwords : s.draft.words with
  | nil =>
    rw [run_bind, next_nil hwords]
    exact finish_runsThrough Clause.isOpen_default (.refl s) (.refl s)
  | cons word words =>
    by_cases hword : word = subcommandWord
    · subst hword
      rcases next_subcommand (U := U) clauses hwords rfl with
        ⟨f, s', hrun, hs', -⟩ | ⟨o, ho, s', hs', hrun, -⟩
      · rw [run_bind, hrun]
        exact .of_error hs'
      · rw [run_bind, hrun, ← run_bind]
        exact .of_call (c := {}) ho hs' (.inl rfl) rfl
    · have hwalk := clauses_walk hU s hs
      rw [run_bind, next_clauses_of_ne hwords hword]
      cases hclause : next clauses.tail s with
      | error f s' =>
        rw [hclause] at hwalk
        exact .of_error hwalk
      | ok clause s' =>
        rw [hclause] at hwalk
        obtain ⟨hpass, hskip, hopen⟩ := hwalk
        exact finish_runsThrough (Clause.isOpen_getD hopen) hpass hskip

/-! ## All commands -/

def executeWord : String := "execute"

lemma next_commands_of_ne {s : Frame} {word : String} {words : List String}
    (hwords : s.draft.words = word :: words) (hword : word ≠ executeWord) :
    next commands s = next commands.dropLast s := by
  have hne : (word == "execute") = false := beq_false_of_ne hword
  have hcommands : commands = commands.dropLast ++ [("execute", .plain execute)] := rfl
  have hlookup : commands.lookup word = commands.dropLast.lookup word := by
    conv_lhs => rw [hcommands]
    rw [List.lookup_append, List.lookup_cons, hne, List.lookup_nil, Option.or_none]
  simp only [next, Draft.read, hwords, hlookup, run_bind, run_get]

/-- The commands other than `execute`. -/
lemma commands_walk (hU : DownClosed U) : Walks.Plain U (next commands.dropLast) :=
  Walks.plain (Walks.next (Q := fun _ => True) ⟨⟨by decide, say_walks⟩, ⟨by decide, runLine_walks⟩,
    ⟨by decide, teleport_walks hU⟩, ⟨by decide, teleport_walks hU⟩, ⟨by decide, kill_walks hU⟩,
    ⟨by decide, give_walks hU⟩, by decide, runFunction_walks hU⟩)

/-- Every exit of a command's handler: it works quietly, and returns from `execute` only where no
subcommand stands, or it ends with a subcommand. -/
theorem commands_calls (hU : DownClosed U) {s : Frame} (hs : s.draft.Within U) :
    (s.Passes U (lastState (next commands s)) ∧
      ∀ rest a s', s.draft.words = executeWord :: rest → next commands s = .ok a s' →
        subcommandWord ∉ rest) ∨
    ∃ o ∈ s.draft.operands, ∃ s₁ closing, s.Passes U s₁ ∧ IsClosing closing ∧
      next commands s = (some <$> callSubcommand o closing) s₁ := by
  cases hwords : s.draft.words with
  | nil =>
    rw [next_nil hwords]
    exact .inl ⟨.refl s, nofun⟩
  | cons word words =>
    by_cases hword : word = executeWord
    · subst hword
      -- The frame in which `execute` starts: its own word is read and put out as a comment.
      set s₀ : Frame := { s with draft := { s.draft with words }.append (comment executeWord) } with hs₀
      have hstart : s.Passes U s₀ := ⟨refl_of (Quiet U) _, List.suffix_rfl, rfl⟩
      rw [next_plain hwords rfl, ← hs₀]
      rcases execute_runsThrough (s := s₀) hU hs with
        ⟨hpass, hwords₀⟩ | ⟨o, ho, s₁, closing, hpass, hclosing, hrun⟩
      · refine .inl ⟨?_, fun rest a s' hrest hok => ?_⟩
        · rw [lastState_map]
          exact hstart.trans hpass
        · rw [← (List.cons.inj hrest).2]
          rw [run_map] at hok
          cases hexecute : execute s₀ with
          | ok a s₁ => exact hwords₀ s₁ hexecute
          | error f s₁ =>
            rw [hexecute] at hok
            exact nomatch hok
      · refine .inr ⟨o, ho, s₁, closing, hstart.trans hpass, hclosing, ?_⟩
        rw [run_map, hrun, run_map]
    · rw [next_commands_of_ne hwords hword]
      exact .inl ⟨(commands_walk hU s hs).passes, fun rest a s' hrest =>
        absurd (List.cons.inj hrest).1 hword⟩

/-- Every exit of a command's handler, if the operands never return: it works quietly, and returns from
`execute` only where no subcommand stands, or it compiles one operand and ends with its call. -/
theorem commands_cases (hU : DownClosed U) {s : Frame} (hs : s.draft.Within U)
    (hreturns : s.NeverReturns U) :
    (s.Passes U (lastState (next commands s)) ∧
      ∀ rest a s', s.draft.words = executeWord :: rest → next commands s = .ok a s' →
        subcommandWord ∉ rest) ∨
    ∃ o ∈ s.draft.operands, ∃ s₁ closing, s.Passes U s₁ ∧ IsClosing closing ∧
      next commands s = (some <$> callOperand o closing) s₁ := by
  rcases commands_calls hU hs with hquiet | ⟨o, ho, s₁, closing, hpass, hclosing, hrun⟩
  · exact .inl hquiet
  · refine .inr ⟨o, ho, s₁, closing, hpass, hclosing, ?_⟩
    rw [hrun, run_map, callSubcommand_eq (hreturns o ho s₁ hpass), run_map]

end PackToMod
