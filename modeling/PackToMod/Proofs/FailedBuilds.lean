import PackToMod.Proofs.CompiledFunctions
import PackToMod.Proofs.Nesting

/-!
# What a failed build leaves behind

Compilations never take a method away, whatever build they start from: a text that has a method keeps having
one. So after a build of a pack, also one that stops at a fault, the new texts with methods are those of the
commands that were compiled on the way, at any depth of nesting. The functions before the one that has failed are
rewritten, as in a build that succeeds, and all others are left as they were.
-/

namespace PackToMod

open Build DraftM

variable {b b₁ b' : Build}

/-! ## Texts that have methods -/

lemma Registry.keys_modify {α : Type} (r : Registry α) (key : String) (f : α → α) :
    (r.modify key f).keys = r.keys := by
  unfold modify
  split
  · rfl
  · next value hget =>
    have hmem : key ∈ r.keys := List.mem_map_of_mem (mem_of_get? hget)
    rw [keys_set, if_pos hmem]

/-- A subcommand may be marked as one that returns, but its method stays. -/
lemma callSubcommand_keys (o : Operand) (closing : String) (s : Frame) :
    (lastState (callSubcommand o closing s)).build.methods.keys =
      (lastState (o.compile s.build)).methods.keys := by
  unfold callSubcommand
  rw [run_bind]
  cases hcompile : o.compile s.build with
  | error f b => rw [runSubcommand_error hcompile, lastState_error, lastState_error]
  | ok m b =>
    by_cases hreturns : m.returns = .never
    · rw [runSubcommand_ok hcompile hreturns]
      rfl
    · cases htext : o.node.text? with
      | none => simp [runSubcommand, onBuild, hcompile, hreturns, Node.key, BuildM.require, htext]
      | some text =>
        by_cases halways : s.draft.returns = .always
        · simp [runSubcommand, onBuild, hcompile, hreturns, Node.key, BuildM.require, htext, halways, emit,
            modifyDraft, Registry.keys_modify]
        · simp [runSubcommand, onBuild, hcompile, hreturns, Node.key, BuildM.require, htext, halways, emit,
            modifyDraft, Registry.keys_modify]

/-- No text loses its method. -/
def Build.KeepsTexts (b b' : Build) : Prop :=
  b.methods.keys ⊆ b'.methods.keys

instance : IsPreorder Build KeepsTexts where
  refl _ := List.Subset.refl _
  trans _ _ _ := List.Subset.trans

lemma Build.KeepsTexts.of_methods_eq (h : b'.methods = b.methods) : b.KeepsTexts b' := by
  unfold KeepsTexts
  rw [h]
  exact List.Subset.refl _

lemma Build.KeepsTexts.register (h : b.KeepsTexts b') (text : String) (m : Method) :
    b.KeepsTexts (b'.register text m) :=
  List.Subset.trans h (Registry.keys_prefix_set _ _ _).subset

/-- There is a method under the text of the node. -/
def Node.IsEnrolled (node : Node) (b : Build) : Prop :=
  ∃ text, node.text? = some text ∧ text ∈ b.methods.keys

lemma isEnrolled_register {node : Node} {text : String} (htext : node.text? = some text) (b : Build) (m : Method) :
    node.IsEnrolled (b.register text m) :=
  ⟨text, htext, List.mem_map_of_mem (Registry.mem_of_get? (Registry.get?_set_self b.methods text m))⟩

/-- The handler of a command, if the compilations of its operands take no method away. -/
lemma commands_keepTexts {s : Frame} (h : ∀ o ∈ s.draft.operands, Keeps KeepsTexts o.compile) :
    s.build.KeepsTexts (lastState (next commands s)).build := by
  rcases commands_calls downClosed_true (fun _ _ => trivial) with
    ⟨hpass, -⟩ | ⟨o, ho, s₁, closing, hpass, -, hrun⟩
  · exact .of_methods_eq hpass.build.methods_eq
  · have hbefore : s.build.KeepsTexts s₁.build := .of_methods_eq hpass.build.methods_eq
    refine trans_of KeepsTexts hbefore ?_
    unfold KeepsTexts
    rw [hrun, lastState_map, callSubcommand_keys]
    exact h o ho s₁.build

lemma compileWith_enrols {compiled : List String} {operands : List Operand} {text identifier dump : String}
    {arguments : List Node} (h : ∀ o ∈ operands, Keeps KeepsTexts o.compile) :
    Runs KeepsTexts (fun _ b => (Node.command text identifier arguments dump).IsEnrolled b)
      (compileWith compiled operands text identifier dump) := by
  intro b
  cases habsent : b.methods.get? text with
  | some m =>
    rw [compileWith_hit habsent]
    exact ⟨refl_of KeepsTexts b, text, rfl, List.mem_map_of_mem (Registry.mem_of_get? habsent)⟩
  | none =>
    have hkeeps := commands_keepTexts (s := startFrame compiled operands identifier b) h
    change b.KeepsTexts _ at hkeeps
    cases hrun : next commands (startFrame compiled operands identifier b) with
    | ok a s =>
      rw [hrun, lastState_ok] at hkeeps
      rw [compileWith_native dump habsent hrun]
      exact ⟨hkeeps.register _ _, isEnrolled_register rfl _ _⟩
    | error f s =>
      rw [hrun, lastState_error] at hkeeps
      rcases compileWith_faulty dump habsent hrun with ⟨f', hfail⟩ | ⟨output, hleft⟩
      · rw [hfail]
        exact hkeeps
      · have hlogged : b.KeepsTexts (s.build.logged f) := hkeeps
        rw [hleft]
        exact ⟨hlogged.register _ _, isEnrolled_register rfl _ _⟩

/-- A compilation takes no method away, and there is a method for a node that it returns one for. -/
theorem compile_enrols (compiled : List String) (node : Node) :
    Runs KeepsTexts (fun _ b => node.IsEnrolled b) (node.compile compiled) := by
  induction node using Node.argumentInduction with
  | part node hpart =>
    intro b
    rw [hpart.compile_eq]
    rcases compileOther_cases (b := b) node with ⟨text, m, htext, hget, hrun⟩ | ⟨f, n, -, hrun⟩
    · rw [hrun]
      exact ⟨refl_of KeepsTexts b, text, htext, List.mem_map_of_mem (Registry.mem_of_get? hget)⟩
    · rw [hrun]
      exact KeepsTexts.of_methods_eq rfl
  | command text identifier arguments dump ih =>
    rw [Node.compile]
    refine compileWith_enrols fun o ho => ?_
    obtain ⟨node, hnode, rfl⟩ := exists_of_mem_operandsOf ho
    exact Keeps.of_runs (ih node hnode)

lemma compile_keepTexts (compiled : List String) (node : Node) : Keeps KeepsTexts (node.compile compiled) :=
  Keeps.of_runs (compile_enrols compiled node)

/-! ## Commands inside commands -/

namespace Compilation

variable {c d outer inner : Compilation}

/-- The handler of `outer` comes to compile the command of `inner`. -/
structure Calls (outer inner : Compilation) : Prop where
  outer_new : outer.IsNew
  compiled : inner.compiled = outer.compiled
  argument : inner.command ∈ outer.arguments
  handled : ∃ s closing, s.build = inner.before ∧
    outer.handled = (some <$> callSubcommand ⟨inner.command, inner.command.compile inner.compiled⟩ closing) s

/-- What is registered when the inner command is done is still there when the outer one is. -/
lemma Calls.keepTexts (h : outer.Calls inner) : (lastState inner.run).KeepsTexts (lastState outer.run) := by
  obtain ⟨s, closing, hs, hhandled⟩ := h.handled
  have hinner : (lastState inner.run).KeepsTexts (lastState outer.handled).build := by
    unfold KeepsTexts
    rw [hhandled, lastState_map, callSubcommand_keys, hs]
    exact List.Subset.refl _
  cases hrun : outer.handled with
  | ok a s' =>
    obtain ⟨m, hend⟩ := run_of_handled_ok h.outer_new hrun
    rw [hrun] at hinner
    rw [hend]
    exact hinner.register _ _
  | error f s' =>
    rw [hrun] at hinner
    rcases run_of_handled_error h.outer_new hrun with ⟨f', -, hend⟩ | ⟨m, -, hend⟩
    · rw [hend]
      exact hinner
    · have hlogged : (lastState inner.run).KeepsTexts (s'.build.logged f) := hinner
      rw [hend]
      exact hlogged.register _ _

/-- There is a method for a command that was compiled on the way, at any depth. -/
lemma mem_keys_of_calls (hcalls : Relation.ReflTransGen Calls c d) {m : Method} {after : Build}
    (hrun : d.run = .ok m after) : d.text ∈ (lastState c.run).methods.keys := by
  induction hcalls using Relation.ReflTransGen.head_induction_on with
  | refl =>
    obtain ⟨text, htext, hmem⟩ := ((compile_enrols d.compiled d.command).ok hrun).2
    rw [hrun, lastState_ok]
    exact Option.some.inj htext ▸ hmem
  | head hfirst _ ih => exact hfirst.keepTexts ih

/-- The handler adds a text only by compiling a command among the arguments. -/
lemma calls_of_mem_keys (hnew : c.IsNew) {text : String}
    (hmem : text ∈ (lastState c.handled).build.methods.keys) (habsent : text ∉ c.before.methods.keys) :
    ∃ inner, c.Calls inner ∧ text ∈ (lastState inner.run).methods.keys ∧ text ∉ inner.before.methods.keys := by
  have hstart : (startFrame c.compiled (operandsOf c.compiled c.arguments) c.identifier c.before).draft.Within
      fun _ => True := fun _ _ => trivial
  rcases commands_calls downClosed_true hstart with ⟨hpass, -⟩ | ⟨o, ho, s, closing, hpass, -, hrun⟩
  · have hmethods : (lastState c.handled).build.methods = c.before.methods := hpass.build.methods_eq
    rw [hmethods] at hmem
    exact absurd hmem habsent
  · obtain ⟨node, hnode, rfl⟩ := exists_of_mem_operandsOf ho
    have hmethods : s.build.methods = c.before.methods := hpass.build.methods_eq
    have hhandled : c.handled = (some <$> callSubcommand ⟨node, node.compile c.compiled⟩ closing) s := hrun
    rw [hhandled, lastState_map, callSubcommand_keys] at hmem
    rw [← hmethods] at habsent
    cases node using Node.argumentInduction with
    | part node hpart =>
      rw [hpart.compile_eq, (compileOther_keeps node s.build).1] at hmem
      exact absurd hmem habsent
    | command own identifier arguments dump =>
      exact ⟨⟨c.compiled, own, identifier, arguments, dump, s.build⟩, ⟨hnew, rfl, hnode, s, closing, rfl, hhandled⟩,
        hmem, habsent⟩

/-- The texts that a compilation adds are those of the commands that have been compiled in it. -/
theorem exists_of_mem_keys (c : Compilation) {text : String} (hmem : text ∈ (lastState c.run).methods.keys)
    (habsent : text ∉ c.before.methods.keys) :
    ∃ d m after, Relation.ReflTransGen Calls c d ∧ d.run = .ok m after ∧ d.text = text := by
  induction c using argumentInduction with
  | command c ih =>
    by_cases hnew : c.IsNew
    · -- A text that the handler has added comes from an argument.
      have hhandled (h : text ∈ (lastState c.handled).build.methods.keys) :
          ∃ d m after, Relation.ReflTransGen Calls c d ∧ d.run = .ok m after ∧ d.text = text := by
        obtain ⟨inner, hcalls, hinner, hbefore⟩ := calls_of_mem_keys hnew h habsent
        obtain ⟨d, m, after, hd, hrun, htext⟩ := ih inner hcalls.argument hinner hbefore
        exact ⟨d, m, after, .head hcalls hd, hrun, htext⟩
      cases hrun : c.handled with
      | ok a s =>
        rw [hrun] at hhandled
        obtain ⟨m, hend⟩ := run_of_handled_ok hnew hrun
        rw [hend] at hmem
        rcases Registry.mem_keys_set hmem with rfl | hold
        · exact ⟨c, m, _, .refl, hend, rfl⟩
        · exact hhandled hold
      | error f s =>
        rw [hrun] at hhandled
        rcases run_of_handled_error hnew hrun with ⟨f', -, hend⟩ | ⟨m, -, hend⟩
        · rw [hend] at hmem
          exact hhandled hmem
        · rw [hend] at hmem
          rcases Registry.mem_keys_set hmem with rfl | hold
          · exact ⟨c, m, _, .refl, hend, rfl⟩
          · exact hhandled hold
    · obtain ⟨m, hend⟩ := run_of_not_isNew hnew
      rw [hend] at hmem
      exact absurd hmem habsent

end Compilation

/-! ## Builds -/

/-- The build comes to a command of one of its functions. -/
def ComesTo (files : List FunctionFile) (b : Build) (c : Compilation) : Prop :=
  c.compiled = compiledNames files ∧ Reaches (Node.compile c.compiled) (packCommands files) b c.command c.before

/-- After a build, whether it has failed or not, the texts that have methods are those that had one before and
those of the commands for which a compilation has returned one, at any depth. -/
theorem mem_keys_buildPack_iff {p : Project} {hasOutput : Bool} {files : List FunctionFile} {result : PackResult}
    (hbuild : buildPack p hasOutput files b = .ok result b') (text : String) :
    text ∈ b'.methods.keys ↔ text ∈ b.methods.keys ∨ ∃ c d m after, ComesTo files b c ∧
      Relation.ReflTransGen Compilation.Calls c d ∧ d.run = .ok m after ∧ d.text = text := by
  obtain ⟨result', added, hrun⟩ := buildPack_run p hasOutput files b
  rw [hrun] at hbuild
  cases hbuild
  change text ∈ (lastState ((packCommands files).mapM (Node.compile (compiledNames files)) b)).methods.keys ↔ _
  constructor
  · intro hmem
    by_cases hold : text ∈ b.methods.keys
    · exact .inl hold
    · obtain ⟨node, b₁, hnode, hb₁, hmem⟩ := exists_reaches (P := fun b => text ∈ b.methods.keys) hold hmem
      cases node using Node.argumentInduction with
      | part node hpart =>
        rw [hpart.compile_eq, (Compilation.compileOther_keeps node b₁).1] at hmem
        exact absurd hmem hb₁
      | command own identifier arguments dump =>
        let c : Compilation := ⟨compiledNames files, own, identifier, arguments, dump, b₁⟩
        obtain ⟨d, m, after, hcalls, hrun, htext⟩ := c.exists_of_mem_keys hmem hb₁
        exact .inr ⟨c, d, m, after, ⟨rfl, hnode⟩, hcalls, hrun, htext⟩
  · rintro (hold | ⟨c, d, m, after, ⟨hcompiled, hnode⟩, hcalls, hrun, rfl⟩)
    · exact Keeps.mapM (compile_keepTexts _) _ b hold
    · rw [← hcompiled]
      exact hnode.keeps (compile_keepTexts c.compiled) (Compilation.mem_keys_of_calls hcalls hrun)

/-- The functions that a build leaves are those of its compilation. -/
lemma buildPack_files {p : Project} {hasOutput : Bool} {files : List FunctionFile} {result : PackResult}
    (hbuild : buildPack p hasOutput files b = .ok result b') :
    ∃ r b₁, compileFiles p.id (compiledNames files) files b = .ok r b₁ ∧ result.files = r.files := by
  obtain ⟨r, b₁, hr, h⟩ := run_bind_eq_ok hbuild
  refine ⟨r, b₁, hr, ?_⟩
  cases hfault : r.fault with
  | some fault =>
    rw [hfault] at h
    cases h
    rfl
  | none =>
    rw [hfault] at h
    cases hasOutput with
    | false =>
      cases h
      rfl
    | true =>
      obtain ⟨mod, b₂, -, h⟩ := run_bind_eq_ok h
      cases h
      rfl

/-- Functions that have been compiled are left in the same way whatever comes after them, as long as the same
functions are compiled. -/
lemma rewriteFiles_prefix {p : Project} {hasOutput : Bool} {before files : List FunctionFile}
    {mss : List (List Method)} {result : PackResult}
    (hbefore : packMethods (compiledNames files) before b = .ok mss b₁) (hfiles : before <+: files)
    (hbuild : buildPack p hasOutput files b = .ok result b') : rewriteFiles p.id before mss <+: result.files := by
  obtain ⟨r, b₂, hr, hresult⟩ := buildPack_files hbuild
  obtain ⟨rest, hrest⟩ := hfiles
  rw [hresult]
  nth_rewrite 2 [← hrest] at hr
  rw [compileFiles_append hbefore] at hr
  obtain ⟨r', -, rfl⟩ := run_map_eq_ok hr
  exact List.prefix_append _ _

/-- The functions before `f` are compiled to `mss`, and then `f` is the first with a command that fails. -/
structure StopsAt (files : List FunctionFile) (b : Build) (before : List FunctionFile) (mss : List (List Method))
    (f : FunctionFile) (fault : Fault) (b' : Build) : Prop where
  isCompiled : f.isCompiled = true
  fails : ∃ b₁, packMethods (compiledNames files) before b = .ok mss b₁ ∧
    f.methods (compiledNames files) b₁ = .error fault b'

/-- What a build leaves behind, whatever build it starts from. It may stop at the first function that fails: then
the compiled functions before it are left with the lines that any other build with the same compiled functions
gives them, and that function and all after it are as they were; no files are written. Otherwise all compiled
functions are left with their lines, and the build fails just if there is nowhere to write the files to. In both
cases the texts that have methods are those that had one before and those of the commands that have been
compiled, at any depth. -/
theorem build_leaves (p : Project) (hasOutput : Bool) (files : List FunctionFile) (b : Build) :
    ∃ result b', buildPack p hasOutput files b = .ok result b' ∧
      ((∃ before f after mss fault, files = before ++ f :: after ∧ StopsAt files b before mss f fault b' ∧
          result = ⟨rewriteFiles p.id before mss ++ f :: after, .error fault⟩ ∧
          List.Forall₂ (FunctionFile.IsLeftAs p.id) before (rewriteFiles p.id before mss) ∧
          ∀ hasOutput' files' result' b'', before <+: files' → compiledNames files' = compiledNames files →
            buildPack p hasOutput' files' b = .ok result' b'' → rewriteFiles p.id before mss <+: result'.files) ∨
        ∃ mss b₁, packMethods (compiledNames files) files b = .ok mss b₁ ∧
          result.files = rewriteFiles p.id files mss ∧
          List.Forall₂ (FunctionFile.IsLeftAs p.id) files result.files ∧
          if hasOutput then ∃ mod, result.outcome = .ok mod else result.outcome = .error .noOutputDirectory) ∧
      ∀ text, text ∈ b'.methods.keys ↔ text ∈ b.methods.keys ∨ ∃ c d m after, ComesTo files b c ∧
        Relation.ReflTransGen Compilation.Calls c d ∧ d.run = .ok m after ∧ d.text = text := by
  obtain ⟨mss, b₁, hmss⟩ | ⟨before, f, after, mss, b₁, fault, b', rfl, hf, hmss, hfault⟩ :=
    packMethods_cases (compiledNames files) files b
  · have hleft : List.Forall₂ (FunctionFile.IsLeftAs p.id) files (rewriteFiles p.id files mss) :=
      rewriteFiles_isLeftAs (length_packMethods hmss)
    cases hasOutput with
    | true =>
      obtain ⟨added, hbuild⟩ := buildPack_written (p := p) hmss
      refine ⟨_, _, hbuild, .inr ⟨mss, b₁, hmss, rfl, hleft, ?_⟩, mem_keys_buildPack_iff hbuild⟩
      exact ⟨_, rfl⟩
    | false =>
      have hbuild := buildPack_unwritten (p := p) hmss
      exact ⟨_, _, hbuild, .inr ⟨mss, b₁, hmss, rfl, hleft, rfl⟩, mem_keys_buildPack_iff hbuild⟩
  · have hbuild := buildPack_of_error (p := p) hmss hf hfault hasOutput
    refine ⟨_, _, hbuild, .inl ⟨before, f, after, mss, fault, rfl, ⟨hf, b₁, hmss, hfault⟩, rfl,
      rewriteFiles_isLeftAs (length_packMethods hmss), ?_⟩, mem_keys_buildPack_iff hbuild⟩
    intro hasOutput' files' result' b'' hprefix hnames hbuild'
    rw [← hnames] at hmss
    exact rewriteFiles_prefix hmss hprefix hbuild'

end PackToMod
