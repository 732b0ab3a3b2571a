import PackToMod.Pack
import PackToMod.Proofs.CallGraph
import PackToMod.Proofs.Spelling

/-!
# The functions that a pack compiles

A build of a pack compiles the commands of its functions in order. What it leaves is told by the methods that
were returned for them: they give the cases of the switch, and the lines that the functions are left with. The
functions in the list of compiled ones, in the switch and among the rewritten ones are then the same as those
that do not opt out.
-/

namespace PackToMod

variable {project : String} {compiled : List String} {b b₁ b' : Build}

/-! ## The commands of a function -/

/-- The methods of the commands of a function. -/
def FunctionFile.methods (compiled : List String) (f : FunctionFile) : BuildM (List Method) :=
  f.commands.mapM (Node.compile compiled)

/-- The code that runs all of the methods. -/
def bodyOf (ms : List Method) : String :=
  String.join (ms.map Method.statement)

/-- The macros of all of the methods, each once. -/
def macrosOf (ms : List Method) : List String :=
  ms.foldl (fun macros m => addMacros macros m.macros) []

lemma compileCommands_eq (compiled : List String) (body : String) (macros : List String) (nodes : List Node) :
    compileCommands compiled body macros nodes = (fun ms =>
      (body ++ bodyOf ms, ms.foldl (fun macros m => addMacros macros m.macros) macros)) <$>
        nodes.mapM (Node.compile compiled) := by
  induction nodes generalizing body macros with
  | nil => simp [compileCommands, bodyOf]
  | cons node nodes ih =>
    simp only [compileCommands, ih, List.mapM_cons, map_bind, bind_pure_comp, Functor.map_map]
    congr 1
    funext m
    congr 1
    funext ms
    simp [bodyOf, String.append_assoc]

lemma FunctionFile.compile_eq (project : String) (compiled : List String) (f : FunctionFile) :
    f.compile project compiled = (fun ms => (EntryPoint.functionCase f.name (bodyOf ms),
      callLine project f.name (macrosOf ms))) <$> f.methods compiled := by
  unfold FunctionFile.compile
  rw [compileCommands_eq]
  simp only [bind_pure_comp, Functor.map_map, String.empty_append]
  rfl

/-! ## The functions of a pack -/

/-- A function that has been compiled keeps one line, the call of its compiled form. -/
def FunctionFile.rewritten (project : String) (f : FunctionFile) (ms : List Method) : FunctionFile :=
  { f with lines := [callLine project f.name (macrosOf ms)] }

/-- The functions of a pack once methods are there for the first of those that are compiled. -/
def rewriteFiles (project : String) : List FunctionFile → List (List Method) → List FunctionFile
  | [], _ => []
  | f :: fs, [] => f :: fs
  | f :: fs, ms :: mss =>
    if f.isCompiled then f.rewritten project ms :: rewriteFiles project fs mss
    else f :: rewriteFiles project fs (ms :: mss)

/-- The methods of all functions that are compiled, in order. -/
def packMethods (compiled : List String) (files : List FunctionFile) : BuildM (List (List Method)) :=
  (files.filter FunctionFile.isCompiled).mapM (FunctionFile.methods compiled)

/-- The cases of the functions that are compiled. -/
def switchCases (files : List FunctionFile) (mss : List (List Method)) : List String :=
  List.zipWith (fun f ms => EntryPoint.functionCase f.name (bodyOf ms))
    (files.filter FunctionFile.isCompiled) mss

/-- What is left of some functions, and the cases for them, in front of the result for the others. -/
def CompiledFunctions.after (files : List FunctionFile) (cases : String) (rest : CompiledFunctions) :
    CompiledFunctions :=
  ⟨files ++ rest.files, cases ++ rest.cases, rest.fault⟩

lemma CompiledFunctions.after_nil : CompiledFunctions.after [] "" = id := by
  funext rest
  simp [after]

lemma CompiledFunctions.after_after (files files' : List FunctionFile) (cases cases' : String)
    (rest : CompiledFunctions) :
    (rest.after files' cases').after files cases = rest.after (files ++ files') (cases ++ cases') := by
  simp [after, String.append_assoc]

lemma compileFiles_skip {f : FunctionFile} (hf : f.isCompiled = false) (fs : List FunctionFile) :
    compileFiles project compiled (f :: fs) = CompiledFunctions.after [f] "" <$>
      compileFiles project compiled fs := by
  rw [compileFiles, if_neg (by simp [hf]), bind_pure_comp]
  congr 1

lemma compileFiles_error {f : FunctionFile} (hf : f.isCompiled = true) {fault : Fault}
    (h : f.methods compiled b = .error fault b') (fs : List FunctionFile) :
    compileFiles project compiled (f :: fs) b = .ok ⟨f :: fs, "", some fault⟩ b' := by
  rw [compileFiles, if_pos hf, FunctionFile.compile_eq, run_bind]
  unfold BuildM.attempt
  rw [run_map, h]
  rfl

lemma compileFiles_ok {f : FunctionFile} (hf : f.isCompiled = true) {ms : List Method}
    (h : f.methods compiled b = .ok ms b₁) (fs : List FunctionFile) :
    compileFiles project compiled (f :: fs) b = (CompiledFunctions.after [f.rewritten project ms]
      (EntryPoint.functionCase f.name (bodyOf ms)) <$> compileFiles project compiled fs) b₁ := by
  rw [compileFiles, if_pos hf, FunctionFile.compile_eq, run_bind]
  unfold BuildM.attempt
  rw [run_map, h]
  rfl

lemma rewriteFiles_skip (project : String) {f : FunctionFile} (hf : f.isCompiled = false)
    (fs : List FunctionFile) (mss : List (List Method)) :
    rewriteFiles project (f :: fs) mss = f :: rewriteFiles project fs mss := by
  cases mss with
  | nil => cases fs <;> rfl
  | cons ms mss => simp [rewriteFiles, hf]

lemma rewriteFiles_compiled (project : String) {f : FunctionFile} (hf : f.isCompiled = true)
    (fs : List FunctionFile) (ms : List Method) (mss : List (List Method)) :
    rewriteFiles project (f :: fs) (ms :: mss) = f.rewritten project ms :: rewriteFiles project fs mss := by
  simp [rewriteFiles, hf]

lemma packMethods_skip {f : FunctionFile} (hf : f.isCompiled = false) (fs : List FunctionFile) :
    packMethods compiled (f :: fs) = packMethods compiled fs := by
  simp [packMethods, hf]

lemma packMethods_cons {f : FunctionFile} (hf : f.isCompiled = true) (fs : List FunctionFile) :
    packMethods compiled (f :: fs) = (do
      let ms ← f.methods compiled
      let mss ← packMethods compiled fs
      pure (ms :: mss)) := by
  simp [packMethods, hf]

lemma run_map_congr {ε σ α β : Type} {x y : EStateM ε σ α} {s s' : σ} (h : x s = y s') (f : α → β) :
    (f <$> x) s = (f <$> y) s' := by
  rw [run_map, run_map, h]

/-- Once the first functions are compiled, the build goes on with the others. -/
theorem compileFiles_append {before : List FunctionFile} {mss : List (List Method)}
    (h : packMethods compiled before b = .ok mss b₁) (rest : List FunctionFile) :
    compileFiles project compiled (before ++ rest) b = (CompiledFunctions.after (rewriteFiles project before mss)
      (String.join (switchCases before mss)) <$> compileFiles project compiled rest) b₁ := by
  induction before generalizing b mss with
  | nil =>
    cases h
    have hafter : CompiledFunctions.after (rewriteFiles project [] []) (String.join (switchCases [] [])) = id :=
      CompiledFunctions.after_nil
    rw [List.reverse_nil, hafter, id_map, List.nil_append]
  | cons f before ih =>
    by_cases hf : f.isCompiled = true
    · rw [packMethods_cons hf] at h
      obtain ⟨ms, b₂, hms, h⟩ := run_bind_eq_ok h
      obtain ⟨mss, b₃, hmss, h⟩ := run_bind_eq_ok h
      cases h
      rw [List.cons_append, compileFiles_ok hf hms, run_map_congr (ih hmss), Functor.map_map]
      simp only [CompiledFunctions.after_after, rewriteFiles_compiled project hf, switchCases,
        List.filter_cons_of_pos hf, List.zipWith_cons_cons, String.join_cons, List.singleton_append]
    · rw [Bool.not_eq_true] at hf
      rw [packMethods_skip hf] at h
      rw [List.cons_append, compileFiles_skip hf, run_map_congr (ih h), Functor.map_map]
      simp only [CompiledFunctions.after_after, rewriteFiles_skip project hf, switchCases, List.filter_cons, hf,
        Bool.false_eq_true, if_false, String.empty_append, List.singleton_append]

theorem compileFiles_of_ok {files : List FunctionFile} {mss : List (List Method)}
    (h : packMethods compiled files b = .ok mss b') : compileFiles project compiled files b =
      .ok ⟨rewriteFiles project files mss, String.join (switchCases files mss), none⟩ b' := by
  have hrun : compileFiles project compiled (files ++ []) b = _ := compileFiles_append h []
  rw [List.append_nil] at hrun
  rw [hrun, run_map]
  simp [compileFiles, CompiledFunctions.after]

theorem compileFiles_of_error {before after : List FunctionFile} {f : FunctionFile} {mss : List (List Method)}
    {fault : Fault} (h : packMethods compiled before b = .ok mss b₁) (hf : f.isCompiled = true)
    (hfault : f.methods compiled b₁ = .error fault b') :
    compileFiles project compiled (before ++ f :: after) b = .ok ⟨rewriteFiles project before mss ++ f :: after,
      String.join (switchCases before mss), some fault⟩ b' := by
  rw [compileFiles_append h, run_map, compileFiles_error hf hfault]
  simp [CompiledFunctions.after]

lemma packMethods_of_error {before after : List FunctionFile} {f : FunctionFile} {mss : List (List Method)}
    {fault : Fault} (h : packMethods compiled before b = .ok mss b₁) (hf : f.isCompiled = true)
    (hfault : f.methods compiled b₁ = .error fault b') :
    packMethods compiled (before ++ f :: after) b = .error fault b' := by
  unfold packMethods at h ⊢
  simp [hf, h, hfault]

/-- Either all functions are compiled, or one of them is the first that fails. -/
theorem packMethods_cases (compiled : List String) (files : List FunctionFile) (b : Build) :
    (∃ mss b', packMethods compiled files b = .ok mss b') ∨
    ∃ before f after mss b₁ fault b', files = before ++ f :: after ∧ f.isCompiled = true ∧
      packMethods compiled before b = .ok mss b₁ ∧ f.methods compiled b₁ = .error fault b' := by
  induction files generalizing b with
  | nil => exact .inl ⟨[], b, rfl⟩
  | cons f files ih =>
    by_cases hf : f.isCompiled = true
    · cases hms : f.methods compiled b with
      | error fault b' => exact .inr ⟨[], f, files, [], b, fault, b', rfl, hf, rfl, hms⟩
      | ok ms b₁ =>
        obtain ⟨mss, b', hmss⟩ | ⟨before, g, after, mss, b₂, fault, b', rfl, hg, hmss, hfault⟩ := ih b₁
        · refine .inl ⟨ms :: mss, b', ?_⟩
          simp [packMethods_cons hf, hms, hmss]
        · refine .inr ⟨f :: before, g, after, ms :: mss, b₂, fault, b', rfl, hg, ?_, hfault⟩
          simp [packMethods_cons hf, hms, hmss]
    · rw [Bool.not_eq_true] at hf
      obtain ⟨mss, b', hmss⟩ | ⟨before, g, after, mss, b₂, fault, b', rfl, hg, hmss, hfault⟩ := ih b
      · exact .inl ⟨mss, b', by rw [packMethods_skip hf, hmss]⟩
      · exact .inr ⟨f :: before, g, after, mss, b₂, fault, b', rfl, hg, by rw [packMethods_skip hf, hmss], hfault⟩

/-! ## Compiling along a list -/

section

variable {R : Build → Build → Prop} [IsPreorder Build R] {α β : Type} {f : α → BuildM β} {as : List α} {a : α}

lemma Keeps.mapM (h : ∀ a, Keeps R (f a)) (as : List α) : Keeps R (as.mapM f) := by
  induction as with
  | nil => exact Keeps.pure _
  | cons a as ih =>
    rw [List.mapM_cons]
    exact (h a).bind fun c => ih.bind fun cs => Keeps.pure _

/-- A run along the list comes to `a` with the build `b₁`. -/
def Reaches (f : α → BuildM β) (as : List α) (b : Build) (a : α) (b₁ : Build) : Prop :=
  ∃ before after cs, as = before ++ a :: after ∧ before.mapM f b = .ok cs b₁

lemma reaches_head (f : α → BuildM β) (a : α) (as : List α) (b : Build) : Reaches f (a :: as) b a b :=
  ⟨[], as, [], rfl, rfl⟩

lemma Reaches.cons {a₀ : α} {c : β} {b₀ : Build} (h : f a₀ b₀ = .ok c b) (hrest : Reaches f as b a b₁) :
    Reaches f (a₀ :: as) b₀ a b₁ := by
  obtain ⟨before, after, cs, rfl, hbefore⟩ := hrest
  refine ⟨a₀ :: before, after, c :: cs, rfl, ?_⟩
  simp [h, hbefore]

/-- What all steps keep to holds from the end of each step to the end of the run. -/
lemma Reaches.keeps (hf : ∀ a, Keeps R (f a)) (h : Reaches f as b a b₁) :
    R (lastState (f a b₁)) (lastState (as.mapM f b)) := by
  obtain ⟨before, after, cs, rfl, hbefore⟩ := h
  rw [List.mapM_append, run_bind, hbefore]
  simp only [List.mapM_cons, bind_assoc, pure_bind]
  rw [run_bind]
  cases f a b₁ with
  | error fault b₂ => exact refl_of R b₂
  | ok c b₂ =>
    dsimp only
    rw [bind_pure_comp, lastState_map]
    exact Keeps.mapM hf after b₂

/-- What holds at the end of a run and not at its start comes up in one of the steps. -/
lemma exists_reaches {P : Build → Prop} (hstart : ¬P b) (hend : P (lastState (as.mapM f b))) :
    ∃ a b₁, Reaches f as b a b₁ ∧ ¬P b₁ ∧ P (lastState (f a b₁)) := by
  induction as generalizing b with
  | nil => exact absurd hend hstart
  | cons a as ih =>
    by_cases ha : P (lastState (f a b))
    · exact ⟨a, b, reaches_head f a as b, hstart, ha⟩
    · rw [List.mapM_cons, run_bind] at hend
      cases hrun : f a b with
      | error fault b₁ =>
        rw [hrun] at hend ha
        exact absurd hend ha
      | ok c b₁ =>
        rw [hrun] at hend ha
        dsimp only at hend
        rw [bind_pure_comp, lastState_map] at hend
        obtain ⟨a', b₂, hreaches, hbefore, hafter⟩ := ih ha hend
        exact ⟨a', b₂, hreaches.cons hrun, hbefore, hafter⟩

end

/-! ## Builds -/

/-- The names of the functions that do not opt out. -/
def compiledNames (files : List FunctionFile) : List String :=
  (files.filter FunctionFile.isCompiled).map FunctionFile.name

lemma compiledNames_eq (files : List FunctionFile) :
    compiledNames files = (files.filter fun f => !f.lines.contains "#no_compile").map FunctionFile.name :=
  rfl

lemma buildPack_of_error {p : Project} {before after : List FunctionFile} {f : FunctionFile}
    {mss : List (List Method)} {fault : Fault}
    (h : packMethods (compiledNames (before ++ f :: after)) before b = .ok mss b₁) (hf : f.isCompiled = true)
    (hfault : f.methods (compiledNames (before ++ f :: after)) b₁ = .error fault b') (hasOutput : Bool) :
    buildPack p hasOutput (before ++ f :: after) b =
      .ok ⟨rewriteFiles p.id before mss ++ f :: after, .error fault⟩ b' := by
  have hfiles : compileFiles p.id (((before ++ f :: after).filter FunctionFile.isCompiled).map FunctionFile.name)
      (before ++ f :: after) b = _ := compileFiles_of_error h hf hfault
  rw [buildPack, run_bind, hfiles]
  rfl

/-- The build with more lines in its log. -/
def Build.withLines (b : Build) (lines : List String) : Build :=
  { b with log := b.log ++ lines }

lemma Build.withLines_nil (b : Build) : b.withLines [] = b := by
  unfold withLines
  rw [List.append_nil]

/-- Writing the files of the mod adds to the log at most. -/
lemma writeMod_run (p : Project) (compiled : List String) (cases : String) (b : Build) :
    ∃ added, writeMod p compiled cases b = .ok ⟨EntryPoint.text p.id (compiledList compiled) b.members cases,
      p.modDescription⟩ (b.withLines added) := by
  cases compiled with
  | nil => exact ⟨["WARNING: nothing was compiled"], rfl⟩
  | cons name names =>
    refine ⟨[], ?_⟩
    rw [Build.withLines_nil]
    rfl

/-- If all functions are compiled and there is somewhere to write to, the files of the mod are written. -/
lemma buildPack_written {p : Project} {files : List FunctionFile} {mss : List (List Method)}
    (h : packMethods (compiledNames files) files b = .ok mss b₁) :
    ∃ added, buildPack p true files b = .ok ⟨rewriteFiles p.id files mss, .ok ⟨EntryPoint.text p.id
      (compiledList (compiledNames files)) b₁.members (String.join (switchCases files mss)), p.modDescription⟩⟩
        (b₁.withLines added) := by
  have hfiles : compileFiles p.id ((files.filter FunctionFile.isCompiled).map FunctionFile.name) files b = _ :=
    compileFiles_of_ok h
  obtain ⟨added, hwrite⟩ := writeMod_run p (compiledNames files) (String.join (switchCases files mss)) b₁
  refine ⟨added, ?_⟩
  rw [buildPack, run_bind, hfiles]
  change ((fun mod => (⟨rewriteFiles p.id files mss, .ok mod⟩ : PackResult)) <$>
    writeMod p (compiledNames files) (String.join (switchCases files mss))) b₁ = _
  rw [run_map, hwrite]

lemma buildPack_unwritten {p : Project} {files : List FunctionFile} {mss : List (List Method)}
    (h : packMethods (compiledNames files) files b = .ok mss b₁) :
    buildPack p false files b = .ok ⟨rewriteFiles p.id files mss, .error .noOutputDirectory⟩ b₁ := by
  have hfiles : compileFiles p.id ((files.filter FunctionFile.isCompiled).map FunctionFile.name) files b = _ :=
    compileFiles_of_ok h
  rw [buildPack, run_bind, hfiles]
  rfl

/-- The commands that a build compiles, in order. -/
def packCommands (files : List FunctionFile) : List Node :=
  (files.filter FunctionFile.isCompiled).flatMap FunctionFile.commands

lemma lastState_packMethods (compiled : List String) (files : List FunctionFile) (b : Build) :
    lastState (packMethods compiled files b) = lastState ((packCommands files).mapM (Node.compile compiled) b) := by
  unfold packMethods packCommands
  induction files.filter FunctionFile.isCompiled generalizing b with
  | nil => rfl
  | cons f fs ih =>
    rw [List.mapM_cons, List.flatMap_cons, List.mapM_append, run_bind, run_bind, FunctionFile.methods]
    cases f.commands.mapM (Node.compile compiled) b with
    | error fault b₁ => rfl
    | ok ms b₁ =>
      dsimp only
      rw [bind_pure_comp, bind_pure_comp, lastState_map, lastState_map]
      exact ih b₁

/-- A build gives a result always, and is left as compiling its commands leaves it, but for the log. -/
theorem buildPack_run (p : Project) (hasOutput : Bool) (files : List FunctionFile) (b : Build) :
    ∃ result added, buildPack p hasOutput files b = .ok result
      ((lastState ((packCommands files).mapM (Node.compile (compiledNames files)) b)).withLines added) := by
  rw [← lastState_packMethods]
  obtain ⟨mss, b₁, hmss⟩ | ⟨before, f, after, mss, b₁, fault, b₂, rfl, hf, hmss, hfault⟩ :=
    packMethods_cases (compiledNames files) files b
  · rw [hmss]
    cases hasOutput with
    | true =>
      obtain ⟨added, hwritten⟩ := buildPack_written hmss
      exact ⟨_, added, hwritten⟩
    | false =>
      rw [buildPack_unwritten hmss]
      exact ⟨_, [], congrArg _ (Build.withLines_nil b₁).symm⟩
  · rw [buildPack_of_error hmss hf hfault, packMethods_of_error hmss hf hfault]
    exact ⟨_, [], congrArg _ (Build.withLines_nil b₂).symm⟩

lemma length_of_mapM_ok {ε σ α β : Type} {f : α → EStateM ε σ β} {as : List α} {bs : List β} {s s' : σ}
    (h : as.mapM f s = .ok bs s') : bs.length = as.length := by
  induction as generalizing s bs with
  | nil =>
    cases h
    rfl
  | cons a as ih =>
    rw [List.mapM_cons] at h
    obtain ⟨c, s₁, -, h⟩ := run_bind_eq_ok h
    obtain ⟨cs, s₂, hcs, h⟩ := run_bind_eq_ok h
    cases h
    rw [List.length_cons, List.length_cons, ih hcs]

/-! ## The functions that are rewritten -/

/-- How the call of a compiled function begins, after the mark of a macro line. -/
def callOpening (project name : String) : List Char :=
  ("_function__" ++ project ++ " \"" ++ name ++ "\" \x7b").toList

/-- The function has been left with a call of its compiled form. -/
def FunctionFile.isCall (project : String) (f : FunctionFile) : Bool :=
  match f.lines with
  | [line] => (callOpening project f.name).isPrefixOf line.toList
      || ('$' :: callOpening project f.name).isPrefixOf line.toList
  | _ => false

lemma FunctionFile.isCall_rewritten (project : String) (f : FunctionFile) (ms : List Method) :
    (f.rewritten project ms).isCall project = true := by
  have hline : (callLine project f.name (macrosOf ms)).toList =
      (if (macrosOf ms).isEmpty then [] else ['$']) ++ (callOpening project f.name ++ (Text.sepBy ", "
        ((macrosOf ms).map fun m => "\"" ++ m ++ "\": $(" ++ m ++ ")") ++ "\x7d").toList) := by
    unfold callLine callOpening
    split <;> simp
  unfold rewritten isCall
  rw [Bool.or_eq_true, List.isPrefixOf_iff_prefix, List.isPrefixOf_iff_prefix, hline]
  split
  · exact .inl (List.prefix_append _ _)
  · exact .inr (List.cons_prefix_cons.mpr ⟨rfl, List.prefix_append _ _⟩)

/-- The line that opts out is no call. -/
lemma FunctionFile.isCall_of_optOut {project : String} {f : FunctionFile} (hf : f.isCompiled = false) :
    f.isCall project = false := by
  have hmem : optOutLine ∈ f.lines := by
    simpa [isCompiled] using hf
  obtain ⟨rest, hopening⟩ : ∃ rest, callOpening project f.name = '_' :: rest := by
    unfold callOpening
    simp only [String.toList_append, List.append_assoc]
    exact ⟨_, rfl⟩
  unfold isCall
  split
  · next line hline =>
    rw [hline, List.mem_singleton] at hmem
    rw [← hmem, hopening]
    rfl
  · rfl

lemma rewriteFiles_isCall {files : List FunctionFile} {mss : List (List Method)}
    (h : mss.length = (files.filter FunctionFile.isCompiled).length) :
    ((rewriteFiles project files mss).filter (FunctionFile.isCall project)).map FunctionFile.name =
      compiledNames files := by
  induction files generalizing mss with
  | nil => rfl
  | cons f files ih =>
    by_cases hf : f.isCompiled = true
    · rw [List.filter_cons_of_pos hf, List.length_cons] at h
      obtain ⟨ms, mss, rfl⟩ := List.exists_cons_of_length_eq_add_one h
      rw [rewriteFiles_compiled project hf, List.filter_cons_of_pos (f.isCall_rewritten project ms),
        List.map_cons, ih (by simpa using h)]
      simp [compiledNames, hf, FunctionFile.rewritten]
    · rw [List.filter_cons_of_neg hf] at h
      rw [Bool.not_eq_true] at hf
      rw [rewriteFiles_skip project hf, List.filter_cons_of_neg (by simp [FunctionFile.isCall_of_optOut hf]), ih h]
      simp [compiledNames, hf]

/-- What a function is left as when all functions are compiled: a compiled one keeps everything but its lines,
and one that opts out keeps them too. -/
def FunctionFile.IsLeftAs (project : String) (f f' : FunctionFile) : Prop :=
  if f.isCompiled then ∃ ms, f' = f.rewritten project ms else f' = f

lemma rewriteFiles_isLeftAs {files : List FunctionFile} {mss : List (List Method)}
    (h : mss.length = (files.filter FunctionFile.isCompiled).length) :
    List.Forall₂ (FunctionFile.IsLeftAs project) files (rewriteFiles project files mss) := by
  induction files generalizing mss with
  | nil => exact .nil
  | cons f files ih =>
    by_cases hf : f.isCompiled = true
    · rw [List.filter_cons_of_pos hf, List.length_cons] at h
      obtain ⟨ms, mss, rfl⟩ := List.exists_cons_of_length_eq_add_one h
      have hleft : f.IsLeftAs project (f.rewritten project ms) := by
        rw [FunctionFile.IsLeftAs, if_pos hf]
        exact ⟨ms, rfl⟩
      rw [rewriteFiles_compiled project hf]
      exact .cons hleft (ih (by simpa using h))
    · rw [List.filter_cons_of_neg hf] at h
      have hleft : f.IsLeftAs project f := by
        rw [FunctionFile.IsLeftAs, if_neg hf]
      rw [Bool.not_eq_true] at hf
      rw [rewriteFiles_skip project hf]
      exact .cons hleft (ih h)

lemma length_packMethods {files : List FunctionFile} {mss : List (List Method)}
    (h : packMethods compiled files b = .ok mss b') :
    mss.length = (files.filter FunctionFile.isCompiled).length :=
  length_of_mapM_ok h

/-! ## The entry point -/

lemma Text.unlines_append (lines : List String) {lines' : List String} (h : lines' ≠ []) :
    unlines (lines ++ lines') = String.join (lines.map (· ++ "\n")) ++ unlines lines' := by
  induction lines with
  | nil => simp
  | cons line lines ih =>
    have hcons : unlines (line :: (lines ++ lines')) = line ++ "\n" ++ unlines (lines ++ lines') := by
      rw [unlines]
      simp [h]
    rw [List.cons_append, hcons, ih, List.map_cons, String.join_cons]
    simp only [String.append_assoc]

/-- Lines with a line break after each. -/
def lineTexts (lines : List String) : String :=
  String.join (lines.map (· ++ "\n"))

lemma lineTexts_append (lines lines' : List String) :
    lineTexts (lines ++ lines') = lineTexts lines ++ lineTexts lines' := by
  unfold lineTexts
  rw [List.map_append, String.join_append]

lemma lineTexts_eq_unlines (lines : List String) : lineTexts lines = Text.unlines (lines ++ [""]) := by
  rw [Text.unlines_append lines (List.cons_ne_nil _ _)]
  exact (String.append_empty).symm

/-- The list of compiled functions, as the entry point declares it. -/
def listLines (names : List String) : List String :=
  ["    public static List<String> COMPILED = List.of(",
    "        " ++ ",\n".intercalate (names.map fun name => "\"" ++ name ++ "\"") ++ "    ",
    "    );"]

/-- The case of a compiled function runs its methods in order. -/
def caseText (name : String) (ms : List Method) : String :=
  "\n    case \"" ++ name ++ "\":\n        " ++ String.join (ms.map Method.statement) ++ "\n        return 0;\n"

/-- The switch over the names of compiled functions. -/
def switchLines (names : List String) (mss : List (List Method)) : List String :=
  ["\t\tswitch (id) \x7b",
    "\t\t\t" ++ String.join (List.zipWith caseText names mss),
    "\t\t\tdefault:",
    "\t\t\t\tsource.sendFailure(Component.literal(\"unable to find: \" + id));",
    "                return -1;",
    "\t\t\x7d"]

/-- The lines of an entry point. Its class begins with the list of compiled functions, the name of the mod and the
members of the build, and it ends with the method that runs a compiled function by its name. -/
def entryPointLines (id members : String) (names : List String) (mss : List (List Method)) : List String :=
  (["", "package datapack." ++ id ++ ";"] ++ EntryPoint.imports
      ++ ["public class EntryPoint implements ModInitializer \x7b"])
    ++ listLines names
    ++ (["    ",
        "    public static String MODID = \"" ++ id ++ "\";",
        "    public static final Logger LOGGER = LoggerFactory.getLogger(MODID);",
        "",
        "\t" ++ members,
        ""]
      ++ EntryPoint.registration id ++ EntryPoint.sorting ++ EntryPoint.support
      ++ ["    private static int function(CommandSourceStack source, String id, "
        ++ "CompoundTag marcos, CommandDispatcher<CommandSourceStack> dispatcher) "
        ++ "throws CommandSyntaxException \x7b"])
    ++ switchLines names mss ++ ["\t\x7d", "\x7d"]

lemma exists_entryPointLines_eq (id members : String) (names : List String) (mss : List (List Method)) :
    ∃ front middle back, entryPointLines id members names mss =
      front ++ listLines names ++ middle ++ switchLines names mss ++ back :=
  ⟨_, _, _, rfl⟩

lemma EntryPoint.text_eq_lineTexts (id members : String) (files : List FunctionFile) (mss : List (List Method)) :
    EntryPoint.text id (compiledList (compiledNames files)) members (String.join (switchCases files mss)) =
      lineTexts (entryPointLines id members (compiledNames files) mss) := by
  have hcases : switchCases files mss = List.zipWith caseText (compiledNames files) mss := by
    unfold switchCases compiledNames
    rw [List.zipWith_map_left]
    rfl
  rw [hcases, lineTexts_eq_unlines]
  unfold EntryPoint.text head functionSwitch entryPointLines listLines switchLines compiledList
  rw [Text.sepBy_eq_intercalate]
  simp only [List.append_assoc, List.cons_append, List.nil_append]

/-- A build of a pack whose functions have different names. If it succeeds, then the names in the list of the
entry point, the labels of the switch, the functions that have been rewritten and the functions that do not opt
out are the same, in the same order; the body of a case is what running the methods of the commands takes, in
order; and a function that opts out is left as it was. -/
theorem compiled_functions_agree (p : Project) (hasOutput : Bool) (files files' : List FunctionFile)
    (mod : ModFiles) (b b' : Build) (hnames : (files.map FunctionFile.name).Nodup)
    (hbuild : buildPack p hasOutput files b = .ok ⟨files', .ok mod⟩ b') :
    let names := (files.filter fun f => !f.lines.contains "#no_compile").map FunctionFile.name
    names.Nodup ∧ (files'.filter (FunctionFile.isCall p.id)).map FunctionFile.name = names ∧
      (∃ mss b₁, packMethods names files b = .ok mss b₁ ∧ mss.length = names.length ∧
        files' = rewriteFiles p.id files mss ∧
        mod.entryPoint = lineTexts (entryPointLines p.id b'.members names mss)) ∧
      List.Forall₂ (fun f f' => "#no_compile" ∈ f.lines → f' = f) files files' := by
  rw [← compiledNames_eq]
  intro names
  obtain ⟨mss, b₁, hmss⟩ | ⟨before, f, after, mss, b₁, fault, b₂, rfl, hf, hmss, hfault⟩ :=
    packMethods_cases names files b
  · have hlength := length_packMethods hmss
    cases hasOutput with
    | false =>
      rw [buildPack_unwritten hmss] at hbuild
      cases hbuild
    | true =>
      obtain ⟨added, hwritten⟩ := buildPack_written hmss
      rw [hwritten] at hbuild
      cases hbuild
      refine ⟨hnames.sublist (List.filter_sublist.map _), rewriteFiles_isCall hlength, ⟨mss, b₁, hmss, ?_, rfl, ?_⟩, ?_⟩
      · exact hlength.trans (List.length_map _).symm
      · exact EntryPoint.text_eq_lineTexts p.id b₁.members files mss
      · refine (rewriteFiles_isLeftAs hlength).imp fun f f' h hopt => ?_
        have hf : ¬f.isCompiled = true := by simp [FunctionFile.isCompiled, FunctionFile.optOutLine, hopt]
        rwa [FunctionFile.IsLeftAs, if_neg hf] at h
  · rw [buildPack_of_error hmss hf hfault] at hbuild
    cases hbuild

def huntProject : Project :=
  ⟨"hunt", "Hunt", "Hunts cows", "1.0.0", "Hunter"⟩

def huntLine : String := "$kill @e[type=$(kind)]"

def huntFiles : List FunctionFile :=
  [⟨"hunt:all", [huntLine], [lineCommand huntLine]⟩, ⟨"hunt:notes", ["#no_compile", "say hunted"], []⟩,
    ⟨"hunt:empty", [], []⟩]

lemma huntFiles_methods : packMethods (compiledNames huntFiles) huntFiles {} = .ok [[lineMethod 0 huntLine], []]
    (Build.register { counter := 1 } huntLine (lineMethod 0 huntLine)) := by
  have hcompile : (lineCommand huntLine).compile (compiledNames huntFiles) {} = .ok (lineMethod 0 huntLine)
      (Build.register { counter := 1 } huntLine (lineMethod 0 huntLine)) := lineCommand_compile _ rfl
  have hcompiled : huntFiles.filter FunctionFile.isCompiled =
      [⟨"hunt:all", [huntLine], [lineCommand huntLine]⟩, ⟨"hunt:empty", [], []⟩] := rfl
  simp [packMethods, hcompiled, FunctionFile.methods, hcompile]

/-- Two functions are compiled, one of them without commands, and one between them opts out. -/
theorem hunt_functions_agree :
    ∃ files' mod b', buildPack huntProject true huntFiles {} = .ok ⟨files', .ok mod⟩ b' ∧
      (huntFiles.map FunctionFile.name).Nodup ∧
      (huntFiles.filter fun f => !f.lines.contains "#no_compile").map FunctionFile.name = ["hunt:all", "hunt:empty"] ∧
      (files'.filter (FunctionFile.isCall "hunt")).map FunctionFile.name = ["hunt:all", "hunt:empty"] ∧
      ∃ before middle after, mod.entryPoint = before
        ++ "    public static List<String> COMPILED = List.of(\n        \"hunt:all\",\n\"hunt:empty\"    \n    );\n"
        ++ middle ++ "\t\tswitch (id) \x7b\n\t\t\t"
        ++ "\n    case \"hunt:all\":\n        "
        ++ "command_0(source, dispatcher, marcos); // $kill @e[type=$(kind)]\n\n        return 0;\n"
        ++ "\n    case \"hunt:empty\":\n        \n        return 0;\n\n\t\t\tdefault:\n" ++ after := by
  obtain ⟨added, hbuild⟩ := buildPack_written (p := huntProject) huntFiles_methods
  have hnames : (huntFiles.map FunctionFile.name).Nodup := by decide
  refine ⟨_, _, _, hbuild, hnames, rfl, ?_⟩
  obtain ⟨-, hcalls, ⟨mss, b₁, hmss, -, -, hentry⟩, -⟩ :=
    compiled_functions_agree huntProject true huntFiles _ _ {} _ hnames hbuild
  rw [← compiledNames_eq] at hmss hentry
  rw [huntFiles_methods] at hmss
  cases hmss
  obtain ⟨front, middle, back, hlines⟩ := exists_entryPointLines_eq huntProject.id
    ((Build.register { counter := 1 } huntLine (lineMethod 0 huntLine)).withLines added).members
    (compiledNames huntFiles) [[lineMethod 0 huntLine], []]
  have hlist : lineTexts (listLines (compiledNames huntFiles)) =
      "    public static List<String> COMPILED = List.of(\n        \"hunt:all\",\n\"hunt:empty\"    \n    );\n" := by
    decide +kernel
  have hswitch : lineTexts (switchLines (compiledNames huntFiles) [[lineMethod 0 huntLine], []]) =
      "\t\tswitch (id) \x7b\n\t\t\t"
        ++ "\n    case \"hunt:all\":\n        "
        ++ "command_0(source, dispatcher, marcos); // $kill @e[type=$(kind)]\n\n        return 0;\n"
        ++ "\n    case \"hunt:empty\":\n        \n        return 0;\n\n\t\t\tdefault:\n"
        ++ lineTexts ((switchLines [] []).drop 3) := by
    decide +kernel
  refine ⟨hcalls, lineTexts front, lineTexts middle, lineTexts ((switchLines [] []).drop 3) ++ lineTexts back,
    hentry.trans ?_⟩
  rw [hlines]
  simp only [lineTexts_append, hlist, hswitch, String.append_assoc]

end PackToMod
