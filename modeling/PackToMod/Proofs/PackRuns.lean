import Mathlib.Data.Fintype.EquivFin
import PackToMod.Proofs.CompiledFunctions
import PackToMod.Proofs.History
import PackToMod.Proofs.Nesting

/-!
# One run after another

Runs share one build: each goes on from the methods, the constants and the numbers that those before it have
left. A run that comes to a command takes a number, and a later run can tell, since it shows the numbers that it
takes: so later runs all end as they would alone just if no earlier one has come to a command. What a run finds
in the build it keeps, and a run that has succeeded can be repeated.
-/

namespace PackToMod

open Build

variable {b b₁ b' : Build}

/-! ## Runs -/

structure PackRun where
  project : Project
  hasOutput : Bool
  files : List FunctionFile

namespace PackRun

def run (r : PackRun) : BuildM PackResult :=
  buildPack r.project r.hasOutput r.files

/-- What a run leaves to the next one, which begins a log of its own. -/
def next (r : PackRun) (b : Build) : Build :=
  { lastState (r.run b) with log := [] }

/-- The run ends as it does when it is the first. -/
def IsIsolated (r : PackRun) (b : Build) : Prop :=
  ∃ result b₁ b₂, r.run b = .ok result b₁ ∧ r.run {} = .ok result b₂

/-- The text of the first command that the run compiles, if it comes to one. -/
def firstText (r : PackRun) : Option String :=
  (packCommands r.files).head?.bind Node.text?

end PackRun

/-- The build after some runs, one after the other. -/
def Build.afterRuns (b : Build) (rs : List PackRun) : Build :=
  rs.foldl (fun b r => r.next b) b

/-! ## What runs keep -/

/-- The build `b'` goes on from `b`, if the methods of `b` are well made. -/
def Build.GoesOn (b b' : Build) : Prop :=
  b.Sound → Extends (fun _ => True) b b' ∧ b'.Sound

instance : IsPreorder Build GoesOn where
  refl b hb := ⟨refl_of (Extends _) b, hb⟩
  trans _ _ _ h₁ h₂ hb := by
    obtain ⟨hextends, hsound⟩ := h₁ hb
    obtain ⟨hextends', hsound'⟩ := h₂ hsound
    exact ⟨hextends.trans hextends', hsound'⟩

lemma compile_goesOn (compiled : List String) (node : Node) : Keeps GoesOn (node.compile compiled) :=
  fun _ hb => (compile_yields_true compiled node hb).grown

lemma PackRun.lastState_run (r : PackRun) (b : Build) :
    ∃ added, lastState (r.run b) =
      (lastState ((packCommands r.files).mapM (Node.compile (compiledNames r.files)) b)).withLines added := by
  obtain ⟨result, added, hrun⟩ := buildPack_run r.project r.hasOutput r.files b
  exact ⟨added, congrArg lastState hrun⟩

/-- A run adds to what is there. -/
theorem PackRun.lastState_grows (r : PackRun) (hb : b.Sound) :
    (b.InStep → b.OnlyAppends (lastState (r.run b)) ∧ (lastState (r.run b)).InStep) ∧
      b.counter ≤ (lastState (r.run b)).counter ∧ (lastState (r.run b)).Sound := by
  obtain ⟨added, hlast⟩ := r.lastState_run b
  obtain ⟨hextends, hsound⟩ := Keeps.mapM (compile_goesOn (compiledNames r.files)) (packCommands r.files) b hb
  rw [hlast]
  exact ⟨fun hstep => ⟨{ hextends.onlyAppends hstep with }, hextends.inStep hstep⟩, hextends.counts.counter, hsound⟩

lemma Build.Sound.afterRuns (hb : b.Sound) (rs : List PackRun) :
    b.counter ≤ (b.afterRuns rs).counter ∧ (b.afterRuns rs).Sound ∧ (b.InStep → (b.afterRuns rs).InStep) := by
  induction rs generalizing b with
  | nil => exact ⟨le_rfl, hb, id⟩
  | cons r rs ih =>
    obtain ⟨hadds, hcounter, hsound⟩ := r.lastState_grows hb
    have hnext : (r.next b).Sound := hsound
    obtain ⟨hrest, hend, hstep⟩ := ih hnext
    exact ⟨hcounter.trans hrest, hend, fun h => hstep (hadds h).2⟩

/-! ## Numbers that runs take -/

/-- Compiling a text that has no method takes a number, also if it fails. -/
lemma compile_takes_number (compiled : List String) {node : Node} {text : String} (hb : b.Sound)
    (htext : node.text? = some text) (hnew : b.methods.get? text = none) :
    b.counter < (lastState (node.compile compiled b)).counter := by
  cases node using Node.argumentInduction with
  | part node hpart =>
    rw [hpart.compile_eq]
    simp [compileOther, Node.key, BuildM.require, htext, hnew]
  | command own identifier arguments dump =>
    obtain rfl : own = text := Option.some.inj htext
    let c : Compilation := ⟨compiled, own, identifier, arguments, dump, b⟩
    -- The number is taken before the handler starts.
    have hhandled : b.counter + 1 ≤ (lastState c.handled).build.counter := by
      have hdraft : (startDraft compiled (operandsOf compiled arguments) identifier).IsOn compiled arguments :=
        rfl
      have hoperands := hdraft.operandsYield fun node _ b hb => compile_yields_true compiled node hb
      have hgrown := commands_grown (s := startFrame compiled (operandsOf compiled arguments) identifier b)
        downClosed_true (fun _ _ => trivial) hb hoperands
      exact hgrown.1.counts.counter
    have hisNew : c.IsNew := hnew
    change b.counter < (lastState c.run).counter
    cases hrun : c.handled with
    | ok a s =>
      rw [hrun] at hhandled
      obtain ⟨m, hend⟩ := Compilation.run_of_handled_ok hisNew hrun
      rw [hend]
      exact hhandled
    | error f s =>
      rw [hrun] at hhandled
      rcases Compilation.run_of_handled_error hisNew hrun with ⟨f', -, hend⟩ | ⟨m, -, hend⟩
      · rw [hend]
        exact hhandled
      · rw [hend]
        exact hhandled

/-- A node without a text is no command, and is not compiled. -/
lemma compile_without_text (compiled : List String) {node : Node} (htext : node.text? = none) (b : Build) :
    node.compile compiled b = .error .noSuchPart b := by
  cases node using Node.argumentInduction with
  | part node hpart =>
    rw [hpart.compile_eq]
    simp [compileOther, Node.key, BuildM.require, htext]
  | command own identifier arguments dump => cases htext

namespace PackRun

variable {r : PackRun}

/-- A run that comes to no text leaves nothing behind. -/
lemma next_of_firstText_none (h : r.firstText = none) : r.next {} = {} := by
  obtain ⟨added, hlast⟩ := r.lastState_run {}
  have hstays : lastState ((packCommands r.files).mapM (Node.compile (compiledNames r.files)) {}) = {} := by
    unfold firstText at h
    cases hnodes : packCommands r.files with
    | nil => rfl
    | cons node nodes =>
      rw [hnodes, List.head?_cons, Option.bind_some] at h
      rw [List.mapM_cons, run_bind, compile_without_text _ h]
      rfl
  unfold next
  rw [hlast, hstays]
  rfl

lemma counter_next_of_firstText {text : String} (h : r.firstText = some text) : 0 < (r.next {}).counter := by
  obtain ⟨added, hlast⟩ := r.lastState_run {}
  have hcounter : (r.next {}).counter = (lastState (r.run {})).counter := rfl
  rw [hcounter, hlast]
  unfold firstText at h
  cases hnodes : packCommands r.files with
  | nil =>
    rw [hnodes] at h
    cases h
  | cons node nodes =>
    rw [hnodes, List.head?_cons, Option.bind_some] at h
    let compiled := compiledNames r.files
    have hfirst := compile_takes_number compiled Build.sound_empty h rfl
    have hrest := (reaches_head (Node.compile compiled) node nodes {}).keeps (compile_goesOn compiled)
      (compile_goesOn compiled node {} Build.sound_empty).2
    exact hfirst.trans_le hrest.1.counts.counter

end PackRun

/-- Runs leave an empty build empty if they come to no text, and take numbers otherwise. -/
theorem afterRuns_cases (rs : List PackRun) :
    (∀ r ∈ rs, r.firstText = none) ∧ ({} : Build).afterRuns rs = {} ∨
      (∃ r ∈ rs, r.firstText ≠ none) ∧ 0 < (({} : Build).afterRuns rs).counter := by
  induction rs with
  | nil => exact .inl ⟨fun r hr => absurd hr List.not_mem_nil, rfl⟩
  | cons r rs ih =>
    have hcons : ({} : Build).afterRuns (r :: rs) = (r.next {}).afterRuns rs := rfl
    cases htext : r.firstText with
    | none =>
      rw [hcons, PackRun.next_of_firstText_none htext]
      rcases ih with ⟨hnone, hempty⟩ | ⟨⟨r', hr', hsome⟩, hcounter⟩
      · exact .inl ⟨List.forall_mem_cons.mpr ⟨htext, hnone⟩, hempty⟩
      · exact .inr ⟨⟨r', List.mem_cons_of_mem r hr', hsome⟩, hcounter⟩
    | some text =>
      have hfirst := PackRun.counter_next_of_firstText htext
      have hsound : (r.next {}).Sound := (r.lastState_grows Build.sound_empty).2.2
      refine .inr ⟨⟨r, List.mem_cons_self, by simp [htext]⟩, ?_⟩
      rw [hcons]
      exact hfirst.trans_le (hsound.afterRuns rs).1

/-! ## Numbers that a run shows -/

/-- What comes after the cases in the entry point is always the same. -/
lemma EntryPoint.text_eq : ∃ closing, ∀ id compiled members, ∃ opening, ∀ cases,
    EntryPoint.text id compiled members cases = opening ++ cases ++ closing := by
  obtain ⟨before, after, hafter, hswitch⟩ : ∃ before after, after ≠ [] ∧
      ∀ cases, functionSwitch cases = before ++ (["\t\t\t" ++ cases] ++ after) :=
    ⟨[_, _], _, List.cons_ne_nil _ _, fun _ => rfl⟩
  refine ⟨"\n" ++ Text.unlines after, fun id compiled members => ?_⟩
  refine ⟨String.join (((["", "package datapack." ++ id ++ ";"] ++ imports ++ head id compiled members
    ++ registration id ++ sorting ++ support) ++ before).map (· ++ "\n")) ++ "\t\t\t", fun cases => ?_⟩
  unfold EntryPoint.text
  rw [hswitch, ← List.append_assoc, Text.unlines_append _ (by simp), Text.unlines_append _ hafter]
  simp [String.append_assoc]

/-- The number of a method can be read off the end of its name. -/
lemma methodSymbol_inj {opening opening' : String} {n n' : Nat}
    (h : opening ++ methodSymbol n = opening' ++ methodSymbol n') : n = n' := by
  have hsymbol (opening : String) (n : Nat) :
      opening ++ methodSymbol n = opening ++ "command" ++ "_" ++ toString n := by
    simp [methodSymbol, ← String.toList_inj]
  rw [hsymbol, hsymbol] at h
  exact eq_of_numbered h

/-- A run that compiles one function with one line. -/
def lineRun (text : String) : PackRun :=
  ⟨huntProject, true, [⟨"hunt:line", [], [lineCommand text]⟩]⟩

lemma lineRun_run {text : String} (h : b.methods.get? text = none) :
    ∃ files compiled members description b', (lineRun text).run b = .ok ⟨files, .ok ⟨EntryPoint.text "hunt"
      compiled members (EntryPoint.functionCase "hunt:line" (lineMethod b.counter text).statement),
        description⟩⟩ b' := by
  let files := (lineRun text).files
  let m := lineMethod b.counter text
  let b₁ := Build.register { b with counter := b.counter + 1 } text m
  have hcompile : (lineCommand text).compile (compiledNames files) b = .ok m b₁ := lineCommand_compile _ h
  have hmethods : packMethods (compiledNames files) files b = .ok [[m]] b₁ := by
    have hcompiled : files.filter FunctionFile.isCompiled = [⟨"hunt:line", [], [lineCommand text]⟩] := rfl
    simp [packMethods, hcompiled, FunctionFile.methods, hcompile]
  have hcases : String.join (switchCases files [[m]]) = EntryPoint.functionCase "hunt:line" m.statement := by
    have hcase : switchCases files [[m]] = [EntryPoint.functionCase "hunt:line" (bodyOf [m])] := rfl
    simp [hcase, bodyOf]
  obtain ⟨added, hbuild⟩ := buildPack_written (p := huntProject) hmethods
  rw [hcases] at hbuild
  exact ⟨_, _, _, _, _, hbuild⟩

/-- The case of a function with one line calls the method of the line. -/
lemma lineCase_eq (name text : String) : ∃ opening closing, ∀ n,
    EntryPoint.functionCase name (lineMethod n text).statement = opening ++ methodSymbol n ++ closing := by
  refine ⟨"\n    case \"" ++ name ++ "\":\n        ",
    "(" ++ Text.sepBy ", " ((parameters true true).map Parameter.name) ++ ")" ++ "; // " ++ text ++ "\n"
      ++ "\n        return 0;\n", fun n => ?_⟩
  simp only [EntryPoint.functionCase, lineMethod, Method.ofOutput, callStatement, call, String.append_assoc]

/-- A run of a new line shows the number that it takes. -/
theorem counter_of_isIsolated {text : String} (h : b.methods.get? text = none)
    (hrun : (lineRun text).IsIsolated b) : b.counter = 0 := by
  obtain ⟨result, b₁, b₂, hlater, halone⟩ := hrun
  obtain ⟨files, compiled, members, description, b', hlater'⟩ := lineRun_run h
  obtain ⟨files', compiled', members', description', b'', halone'⟩ := @lineRun_run {} text rfl
  rw [hlater'] at hlater
  rw [halone'] at halone
  cases hlater
  have hentry := (ModFiles.mk.inj (Except.ok.inj (PackResult.mk.inj (EStateM.Result.ok.inj halone).1).2)).1
  obtain ⟨closing, htext⟩ := EntryPoint.text_eq
  obtain ⟨opening, hopening⟩ := htext "hunt" compiled members
  obtain ⟨opening', hopening'⟩ := htext "hunt" compiled' members'
  obtain ⟨before, after, hcase⟩ := lineCase_eq "hunt:line" text
  rw [hopening, hopening', hcase, hcase] at hentry
  -- What stands before the names may differ, but not what comes after them.
  have hsymbols : opening ++ before ++ methodSymbol b.counter = opening' ++ before ++ methodSymbol 0 := by
    simpa only [← String.append_assoc, String.append_left_inj] using hentry.symm
  exact methodSymbol_inj hsymbols

/-! ## Running again -/

/-- The method that the build has under the text of the node. -/
def Node.HasMethod (b : Build) (node : Node) (m : Method) : Prop :=
  ∃ text, node.text? = some text ∧ b.methods.get? text = some m

/-- The methods that the build has for the commands of a function. -/
def FunctionFile.HasMethods (b : Build) (f : FunctionFile) (ms : List Method) : Prop :=
  List.Forall₂ (Node.HasMethod b) f.commands ms

lemma Node.HasMethod.mono {node : Node} {m : Method} (h : node.HasMethod b m)
    (hentries : b.methods.entries <+: b'.methods.entries) : node.HasMethod b' m := by
  obtain ⟨text, htext, hget⟩ := h
  exact ⟨text, htext, Registry.get?_of_prefix hentries hget⟩

section

variable {α β : Type} {f : α → BuildM β} {P : Build → α → β → Prop}

/-- What holds when a step is done, and stays as the build goes on, holds of all steps at the end. -/
lemma forall₂_of_mapM (hf : ∀ a, Keeps GoesOn (f a))
    (hstep : ∀ {a b c b'}, b.Sound → f a b = .ok c b' → P b' a c)
    (hmono : ∀ {b b' a c}, P b a c → b.methods.entries <+: b'.methods.entries → P b' a c)
    {as : List α} {cs : List β} (hb : b.Sound) (h : as.mapM f b = .ok cs b') : List.Forall₂ (P b') as cs := by
  induction as generalizing b cs with
  | nil =>
    cases h
    exact .nil
  | cons a as ih =>
    rw [List.mapM_cons] at h
    obtain ⟨c, b₁, hc, h⟩ := run_bind_eq_ok h
    obtain ⟨cs, b₂, hcs, h⟩ := run_bind_eq_ok h
    cases h
    have hsound : b₁.Sound := by
      have hfirst := hf a b hb
      rw [hc] at hfirst
      exact hfirst.2
    have hrest := Keeps.mapM hf as b₁ hsound
    rw [hcs] at hrest
    exact .cons (hmono (hstep hb hc) hrest.1.methods) (ih hsound hcs)

/-- Steps that change nothing, one after the other. -/
lemma mapM_of_forall₂ {as : List α} {cs : List β} (h : List.Forall₂ (fun a c => f a b = .ok c b) as cs) :
    as.mapM f b = .ok cs b := by
  induction h with
  | nil => rfl
  | cons hfirst _ ih => simp [hfirst, ih]

end

lemma hasMethod_of_compile {compiled : List String} {node : Node} {m : Method} (hb : b.Sound)
    (h : node.compile compiled b = .ok m b') : node.HasMethod b' m := by
  have hyields := compile_yields_true compiled node hb
  rw [h] at hyields
  exact hyields.2.2

lemma hasMethods_of_methods {compiled : List String} {f : FunctionFile} {ms : List Method} (hb : b.Sound)
    (h : f.methods compiled b = .ok ms b') : f.HasMethods b' ms :=
  forall₂_of_mapM (compile_goesOn compiled) hasMethod_of_compile Node.HasMethod.mono hb h

theorem hasMethods_of_packMethods {compiled : List String} {files : List FunctionFile} {mss : List (List Method)}
    (hb : b.Sound) (h : packMethods compiled files b = .ok mss b') :
    List.Forall₂ (FunctionFile.HasMethods b') (files.filter FunctionFile.isCompiled) mss := by
  have hgoesOn (f : FunctionFile) : Keeps GoesOn (f.methods compiled) :=
    Keeps.mapM (compile_goesOn compiled) f.commands
  refine forall₂_of_mapM hgoesOn hasMethods_of_methods (fun hhas hentries => ?_) hb h
  exact hhas.imp fun node m hm => hm.mono hentries

/-- Functions whose commands all have methods are compiled without work. -/
theorem packMethods_of_hasMethods {files : List FunctionFile} {mss : List (List Method)}
    (h : List.Forall₂ (FunctionFile.HasMethods b) (files.filter FunctionFile.isCompiled) mss)
    (compiled : List String) : packMethods compiled files b = .ok mss b := by
  refine mapM_of_forall₂ (h.imp fun f ms hms => mapM_of_forall₂ (hms.imp fun node m hm => ?_))
  obtain ⟨text, htext, hget⟩ := hm
  exact compile_hit compiled htext hget

lemma PackRun.run_written {r : PackRun} {mss : List (List Method)} (houtput : r.hasOutput = true)
    (h : packMethods (compiledNames r.files) r.files b = .ok mss b₁) :
    ∃ added, r.run b = .ok ⟨rewriteFiles r.project.id r.files mss, .ok ⟨EntryPoint.text r.project.id
      (compiledList (compiledNames r.files)) b₁.members (String.join (switchCases r.files mss)),
        r.project.modDescription⟩⟩ (b₁.withLines added) := by
  unfold run
  rw [houtput]
  exact buildPack_written h

/-- A run succeeds only if all functions are compiled and there is somewhere to write to. -/
lemma PackRun.packMethods_of_run {r : PackRun} {result : PackResult} {mod : ModFiles}
    (hrun : r.run b = .ok result b') (hmod : result.outcome = .ok mod) :
    r.hasOutput = true ∧ ∃ mss b₁, packMethods (compiledNames r.files) r.files b = .ok mss b₁ := by
  obtain ⟨mss, b₁, hmss⟩ | ⟨before, f, after, mss, b₁, fault, b₂, hfiles, hf, hmss, hfault⟩ :=
    packMethods_cases (compiledNames r.files) r.files b
  · cases houtput : r.hasOutput with
    | true => exact ⟨rfl, mss, b₁, hmss⟩
    | false =>
      unfold run at hrun
      rw [houtput, buildPack_unwritten hmss] at hrun
      cases hrun
      cases hmod
  · unfold run at hrun
    rw [hfiles] at hrun hmss hfault
    rw [buildPack_of_error hmss hf hfault] at hrun
    cases hrun
    cases hmod

/-- A run that has succeeded is told by the methods that the build has then, and can be repeated. -/
theorem PackRun.run_again {r : PackRun} {result : PackResult} {mod : ModFiles} (hb : b.Sound)
    (hrun : r.run b = .ok result b') (hmod : result.outcome = .ok mod) :
    (∃ mss, List.Forall₂ (FunctionFile.HasMethods b') (r.files.filter FunctionFile.isCompiled) mss ∧
      result.files = rewriteFiles r.project.id r.files mss ∧
      mod.entryPoint = EntryPoint.text r.project.id (compiledList (compiledNames r.files)) b'.members
        (String.join (switchCases r.files mss))) ∧
      ∃ after, r.run (r.next b) = .ok result after := by
  obtain ⟨houtput, mss, b₁, hmss⟩ := packMethods_of_run hrun hmod
  obtain ⟨added, hrun'⟩ := run_written houtput hmss
  have hhas := hasMethods_of_packMethods hb hmss
  have hnext : r.next b = { b₁ with log := [] } := by
    unfold next
    rw [hrun']
    rfl
  -- The next run finds the same methods, so that it compiles nothing.
  have hfound : packMethods (compiledNames r.files) r.files (r.next b) = .ok mss (r.next b) := by
    apply packMethods_of_hasMethods
    rw [hnext]
    exact hhas
  have hmembers : (r.next b).members = b₁.members := by
    rw [hnext]
    rfl
  obtain ⟨added', hagain⟩ := run_written houtput hfound
  rw [hmembers] at hagain
  rw [hrun'] at hrun
  cases hrun
  cases hmod
  exact ⟨⟨mss, hhas, rfl, rfl⟩, _, hagain⟩

/-! ## Isolation -/

lemma PackRun.exists_run (r : PackRun) (b : Build) : ∃ result b', r.run b = .ok result b' := by
  obtain ⟨result, added, hrun⟩ := buildPack_run r.project r.hasOutput r.files b
  exact ⟨result, _, hrun⟩

lemma Build.exists_new_text (b : Build) : ∃ text, b.methods.get? text = none := by
  obtain ⟨text, htext⟩ := Infinite.exists_notMem_finset b.methods.keys.toFinset
  exact ⟨text, Registry.get?_eq_none_iff.mpr fun hmem => htext (List.mem_toFinset.mpr hmem)⟩

/-- Runs in one build, from an empty one on. Later runs all end as they do alone just if no earlier run has come
to a command. In general a run adds to what earlier runs have left, and takes further numbers; if it succeeds,
its entry point has the members of all runs so far, with the methods that the build has for its commands, which
are those of an earlier run where there was one; and then the same run can be repeated, with the same result. -/
theorem runs_isolated_iff (earlier : List PackRun) :
    let before := ({} : Build).afterRuns earlier
    ((∀ r : PackRun, r.IsIsolated before) ↔ ∀ r ∈ earlier, r.firstText = none) ∧
      ∀ r : PackRun, ∃ result after, r.run before = .ok result after ∧ before.OnlyAppends after ∧
        before.counter ≤ after.counter ∧ ∀ mod, result.outcome = .ok mod →
          (∃ mss, List.Forall₂ (FunctionFile.HasMethods after) (r.files.filter FunctionFile.isCompiled) mss ∧
            result.files = rewriteFiles r.project.id r.files mss ∧
            mod.entryPoint = EntryPoint.text r.project.id (compiledList (compiledNames r.files)) after.members
              (String.join (switchCases r.files mss))) ∧
          ∃ after', r.run (r.next before) = .ok result after' := by
  intro before
  obtain ⟨-, hsound, hstep⟩ := Build.sound_empty.afterRuns earlier
  refine ⟨⟨fun hisolated => ?_, fun hnone r => ?_⟩, fun r => ?_⟩
  · obtain ⟨text, hnew⟩ := before.exists_new_text
    have hcounter := counter_of_isIsolated hnew (hisolated (lineRun text))
    rcases afterRuns_cases earlier with ⟨hnone, -⟩ | ⟨-, hpositive⟩
    · exact hnone
    · exact absurd hcounter hpositive.ne'
  · rcases afterRuns_cases earlier with ⟨-, hempty⟩ | ⟨⟨r', hr', hsome⟩, -⟩
    · obtain ⟨result, after, hrun⟩ := r.exists_run {}
      exact ⟨result, after, after, (congrArg r.run hempty).trans hrun, hrun⟩
    · exact absurd (hnone r' hr') hsome
  · obtain ⟨result, after, hrun⟩ := r.exists_run before
    have hgrows := r.lastState_grows hsound
    rw [hrun, lastState_ok] at hgrows
    obtain ⟨hadds, hcounter, -⟩ := hgrows
    exact ⟨result, after, hrun, (hadds (hstep ⟨rfl, rfl, rfl⟩)).1, hcounter,
      fun mod hmod => PackRun.run_again hsound hrun hmod⟩

/-- The first run takes a number for its one command, and the second run goes on with the next one. -/
theorem hunt_shown_in_next_run :
    ¬(lineRun "say done").IsIsolated (({} : Build).afterRuns [⟨huntProject, true, huntFiles⟩]) := by
  obtain ⟨added, hrun⟩ := PackRun.run_written (r := ⟨huntProject, true, huntFiles⟩) rfl huntFiles_methods
  have hafter : ({} : Build).afterRuns [⟨huntProject, true, huntFiles⟩] =
      Build.register { counter := 1 } huntLine (lineMethod 0 huntLine) := by
    change PackRun.next _ _ = _
    unfold PackRun.next
    rw [hrun]
    rfl
  rw [hafter]
  intro hisolated
  have hcounter := counter_of_isIsolated rfl hisolated
  exact absurd hcounter Nat.one_ne_zero

end PackToMod
