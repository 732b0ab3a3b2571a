import PackToMod.Proofs.CompiledFunctions

/-!
# Lines with variables, and the lines that call functions

A line with variables is compiled to a method whose macros are its variables. The line that a compiled function is
left with gathers the macros of all its commands, those found in the cache among them, and passes each of them on
once, in the order in which they first occur.
-/

namespace PackToMod

open Build DraftM

/-! ## Lines with variables -/

/-- The variable that stands at a part of a line. -/
def Node.lineVariable? : Node → Option String
  | .word _ .lineVariable name => some name
  | _ => none

def Node.IsLinePart (node : Node) : Prop :=
  ∃ text value, node = .word text .lineText value ∨ node = .word text .lineVariable value

/-- The variables of a line, in order. -/
def lineVariables (parts : List Node) : List String :=
  parts.filterMap Node.lineVariable?

lemma lineTerms_of_parts {parts : List Node} (h : ∀ part ∈ parts, part.IsLinePart) :
    ∃ terms, lineTerms parts = .ok (terms, lineVariables parts) := by
  induction parts with
  | nil => exact ⟨[], rfl⟩
  | cons part parts ih =>
    obtain ⟨hpart, hparts⟩ := List.forall_mem_cons.mp h
    obtain ⟨terms, hterms⟩ := ih hparts
    obtain ⟨text, value, rfl | rfl⟩ := hpart
    · rw [lineTerms, hterms]
      exact ⟨_, rfl⟩
    · rw [lineTerms, hterms]
      exact ⟨_, rfl⟩

lemma isLinePart_of_lineTerms {parts : List Node} {r : List String × List String} (h : lineTerms parts = .ok r) :
    ∀ part ∈ parts, part.IsLinePart := by
  induction parts generalizing r with
  | nil => exact fun _ hpart => absurd hpart List.not_mem_nil
  | cons part parts ih =>
    by_cases hpart : part.IsLinePart
    · refine List.forall_mem_cons.mpr ⟨hpart, ?_⟩
      cases hrest : lineTerms parts with
      | ok r' => exact ih hrest
      | error f =>
        obtain ⟨text, value, rfl | rfl⟩ := hpart
        all_goals
          rw [lineTerms, hrest] at h
          exact nomatch h
    · rw [lineTerms] at h
      · exact nomatch h
      · exact fun text value heq => hpart ⟨text, value, .inl heq⟩
      · exact fun text value heq => hpart ⟨text, value, .inr heq⟩

/-- The word for a line with variables. -/
def lineWord : String := "mecha"

def lineCode (terms : List String) : String :=
  "dispatcher.execute(dispatcher.parse(" ++ Text.sepBy " + " terms ++ ", source));"

lemma runLine_ok {s : Frame} {terms names : List String}
    (h : lineTerms (s.draft.operands.map Operand.node) = .ok (terms, names)) :
    runLine s = .ok ⟨⟩ { s with draft := { s.draft with
      output := lineCode terms
      macros := names
      needsMacros := true
      needsDispatcher := true } } := by
  rw [runLine, run_bind, run_get]
  simp only [h, BuildM.ofExcept, run_bind, onBuild, modifyDraft]
  rfl

lemma runLine_error {s : Frame} {f : Fault} (h : lineTerms (s.draft.operands.map Operand.node) = .error f) :
    runLine s = .error f s := by
  rw [runLine, run_bind, run_get]
  simp only [h, BuildM.ofExcept, run_bind, onBuild]
  rfl

lemma next_line {s : Frame} {words terms names : List String} (hwords : s.draft.words = lineWord :: words)
    (hterms : lineTerms (s.draft.operands.map Operand.node) = .ok (terms, names)) :
    next commands s = .ok (some ⟨⟩) { s with draft := { s.draft with
      words
      output := lineCode terms
      macros := names
      needsMacros := true
      needsDispatcher := true } } := by
  have hrun := runLine_ok (s := { s with draft := { s.draft with words }.append (comment lineWord) }) hterms
  rw [next_plain hwords rfl, run_map, hrun]
  rfl

lemma next_line_error {s : Frame} {words : List String} {f : Fault} (hwords : s.draft.words = lineWord :: words)
    (hterms : lineTerms (s.draft.operands.map Operand.node) = .error f) :
    next commands s = .error f { s with draft := { s.draft with words }.append (comment lineWord) } := by
  have hrun := runLine_error (s := { s with draft := { s.draft with words }.append (comment lineWord) }) hterms
  rw [next_plain hwords rfl, run_map, hrun]

lemma map_node_operandsOf (compiled : List String) (nodes : List Node) :
    (operandsOf compiled nodes).map Operand.node = nodes := by
  induction nodes with
  | nil => rw [operandsOf, List.map_nil]
  | cons node nodes ih => rw [operandsOf, List.map_cons, ih]

variable {compiled words : List String} {text identifier : String} {parts : List Node} {b b₁ b₂ : Build}

/-- A line with variables has them as macros. -/
lemma compile_line (compiled : List String) (dump : String) (hwords : Text.splitColons identifier = lineWord :: words)
    (hparts : ∀ part ∈ parts, part.IsLinePart) (hnew : b.methods.get? text = none) :
    ∃ output, let m := Method.ofOutput b.counter text output (lineVariables parts) true true .never
      (Node.command text identifier parts dump).compile compiled b =
        .ok m (Build.register { b with counter := b.counter + 1 } text m) := by
  obtain ⟨terms, hterms⟩ := lineTerms_of_parts hparts
  have hrun := next_line (s := startFrame compiled (operandsOf compiled parts) identifier b) hwords
    (by rwa [startFrame, startDraft, map_node_operandsOf])
  refine ⟨lineCode terms, ?_⟩
  rw [Node.compile, compileWith_native dump hnew hrun]
  rfl

/-! ## The macros of a function -/

lemma eraseDups_concat (names : List String) (name : String) :
    (names ++ [name]).eraseDups = if name ∈ names then names.eraseDups else names.eraseDups ++ [name] := by
  rw [List.eraseDups_append]
  by_cases h : name ∈ names
  · simp [List.removeAll, h]
  · simp [List.removeAll, h, List.eraseDups_cons]

lemma nodup_eraseDups (names : List String) : names.eraseDups.Nodup := by
  induction names using List.reverseRecOn with
  | nil => exact List.nodup_nil
  | append_singleton names name ih =>
    rw [eraseDups_concat]
    split
    · exact ih
    · next h =>
      refine List.Nodup.append ih (List.nodup_singleton name) ?_
      rw [List.disjoint_singleton]
      exact fun hmem => h (List.mem_eraseDups.mp hmem)

lemma addMacros_eraseDups (macros names : List String) :
    addMacros macros.eraseDups names = (macros ++ names).eraseDups := by
  induction names generalizing macros with
  | nil => rw [addMacros, List.append_nil]
  | cons name names ih =>
    have hfirst : (if macros.eraseDups.contains name then macros.eraseDups else macros.eraseDups ++ [name]) =
        (macros ++ [name]).eraseDups := by
      rw [eraseDups_concat]
      simp only [List.contains_iff_mem, List.mem_eraseDups]
    rw [addMacros, hfirst, ih, List.append_assoc, List.singleton_append]

/-- The macros of a function are those of its commands, each where it first occurs. -/
lemma macrosOf_eq (ms : List Method) : macrosOf ms = (ms.flatMap Method.macros).eraseDups := by
  have hfold (names : List String) : ms.foldl (fun macros m => addMacros macros m.macros) names.eraseDups =
      (names ++ ms.flatMap Method.macros).eraseDups := by
    induction ms generalizing names with
    | nil => simp
    | cons m ms ih => rw [List.foldl_cons, addMacros_eraseDups, ih, List.flatMap_cons, List.append_assoc]
  exact hfold []

lemma mem_macrosOf_iff {ms : List Method} {name : String} : name ∈ macrosOf ms ↔ ∃ m ∈ ms, name ∈ m.macros := by
  rw [macrosOf_eq, List.mem_eraseDups, List.mem_flatMap]

/-! ## The line of a function -/

/-- The functions are gone through to the end or to a fault, in any case. -/
lemma exists_compileFiles (project : String) (compiled : List String) (files : List FunctionFile) (b : Build) :
    ∃ result b', compileFiles project compiled files b = .ok result b' := by
  rcases packMethods_cases compiled files b with
    ⟨mss, b', hmss⟩ | ⟨before, f, after, mss, b₁, fault, b', rfl, hf, hmss, hfault⟩
  · exact ⟨_, _, compileFiles_of_ok hmss⟩
  · exact ⟨_, _, compileFiles_of_error hmss hf hfault⟩

/-- However a build ends, it leaves the functions as they were when the last of them was compiled. -/
lemma exists_buildPack {p : Project} {files : List FunctionFile} {result : CompiledFunctions} (hasOutput : Bool)
    (h : compileFiles p.id (compiledNames files) files b = .ok result b₁) :
    ∃ outcome b', buildPack p hasOutput files b = .ok ⟨result.files, outcome⟩ b' := by
  have hfiles : compileFiles p.id ((files.filter FunctionFile.isCompiled).map FunctionFile.name) files b = _ := h
  obtain ⟨added, hwrite⟩ := writeMod_run p (compiledNames files) result.cases b₁
  rw [buildPack, run_bind, hfiles]
  dsimp only
  cases result.fault with
  | some fault => exact ⟨_, _, rfl⟩
  | none =>
    cases hasOutput with
    | false => exact ⟨_, _, rfl⟩
    | true =>
      have hrun : ((fun mod => (⟨result.files, .ok mod⟩ : PackResult)) <$>
          writeMod p (compiledNames files) result.cases) b₁ = _ := run_map ..
      rw [hwrite] at hrun
      exact ⟨_, _, hrun⟩

/-- A function that has been compiled is left with its line, whatever becomes of those behind it. -/
lemma exists_compileFiles_rewritten (project : String) {before after : List FunctionFile} {f : FunctionFile}
    {mss : List (List Method)} {ms : List Method} (hf : f.isCompiled = true)
    (hbefore : packMethods compiled before b = .ok mss b₁) (hms : f.methods compiled b₁ = .ok ms b₂) :
    ∃ result b', compileFiles project compiled (before ++ f :: after) b = .ok result b' ∧
      result.files[before.length]? = some (f.rewritten project ms) := by
  obtain ⟨rest, b', hrest⟩ := exists_compileFiles project compiled after b₂
  have hlength : before.length = (rewriteFiles project before mss).length :=
    (rewriteFiles_isLeftAs (length_packMethods hbefore)).length_eq
  refine ⟨(rest.after [f.rewritten project ms] (EntryPoint.functionCase f.name (bodyOf ms))).after
    (rewriteFiles project before mss) (String.join (switchCases before mss)), b', ?_, ?_⟩
  · rw [compileFiles_append hbefore, run_map, compileFiles_ok hf hms, run_map, hrest]
  · simp [CompiledFunctions.after, hlength]

/-- A function that a build compiles is left with a line that passes on every macro of its commands once: the
macros are what the methods of the commands have, one after the other, without those that came before, and the line
is a macro line if there are any. -/
theorem call_line_passes_macros_once (p : Project) (hasOutput : Bool) (before after : List FunctionFile)
    (f : FunctionFile) (b b₁ b₂ : Build) (mss : List (List Method)) (ms : List Method) (hf : f.isCompiled = true)
    (hbefore : packMethods (compiledNames (before ++ f :: after)) before b = .ok mss b₁)
    (hms : f.methods (compiledNames (before ++ f :: after)) b₁ = .ok ms b₂) :
    let macros := (ms.flatMap Method.macros).eraseDups
    let line := (if macros = [] then "" else "$") ++ ("_function__" ++ p.id ++ " \"" ++ f.name ++ "\" \x7b" ++
      ", ".intercalate (macros.map fun m => "\"" ++ m ++ "\": $(" ++ m ++ ")") ++ "\x7d")
    (∃ files outcome b', buildPack p hasOutput (before ++ f :: after) b = .ok ⟨files, outcome⟩ b' ∧
        files[before.length]? = some { f with lines := [line] }) ∧
      macros.Nodup ∧ (∀ name, name ∈ macros ↔ ∃ m ∈ ms, name ∈ m.macros) ∧
      (line.toList.head? = some '$' ↔ macros ≠ []) := by
  intro macros line
  have hmacros : macrosOf ms = macros := macrosOf_eq ms
  have hline : callLine p.id f.name (macrosOf ms) = line := by
    rw [hmacros, callLine, Text.sepBy_eq_intercalate]
    simp only [line, List.isEmpty_iff, String.append_assoc]
  refine ⟨?_, nodup_eraseDups _, fun name => ?_, ?_⟩
  · obtain ⟨result, b', hfiles, hleft⟩ := exists_compileFiles_rewritten p.id hf hbefore hms
    obtain ⟨outcome, b'', hbuild⟩ := exists_buildPack hasOutput hfiles
    refine ⟨result.files, outcome, b'', hbuild, ?_⟩
    rw [hleft, FunctionFile.rewritten, hline]
  · rw [← hmacros]
    exact mem_macrosOf_iff
  · by_cases h : macros = []
    · simp [line, h]
    · simp [line, h]

/-- A line with two variables. -/
def greetLine (text first second : String) : Node :=
  .command text "mecha:macro" [.word "say " .lineText "say ", .word first .lineVariable first,
    .word " " .lineText " ", .word second .lineVariable second] ""

lemma greetLine_words : Text.splitColons "mecha:macro" = lineWord :: ["macro"] := by
  decide

lemma greetLine_parts (text first second : String) :
    ∀ part ∈ (greetLine text first second).arguments, part.IsLinePart := by
  simp [greetLine, Node.arguments, Node.IsLinePart]

lemma greetLine_compile (compiled : List String) (text first second : String) (hnew : b.methods.get? text = none) :
    ∃ m b', (greetLine text first second).compile compiled b = .ok m b' ∧ b'.methods = b.methods.set text m ∧
      m.macros = [first, second] ∧ m.returns = .never := by
  obtain ⟨output, hrun⟩ := compile_line compiled "" greetLine_words (greetLine_parts text first second) hnew
  exact ⟨_, _, hrun, rfl, rfl, rfl⟩

def greetProject : Project :=
  ⟨"greet", "Greetings", "Greets everyone", "1.0.0", "Greeter"⟩

/-- A function with a line that comes twice. -/
def greetFile : FunctionFile :=
  ⟨"greet:all", ["$say $(who) $(what)", "$say $(what) $(when)", "$say $(who) $(what)"],
    [greetLine "$say $(who) $(what)" "who" "what", greetLine "$say $(what) $(when)" "what" "when",
      greetLine "$say $(who) $(what)" "who" "what"]⟩

lemma greetFile_methods (compiled : List String) : ∃ m m' b', greetFile.methods compiled {} = .ok [m, m', m] b' ∧
    m.macros = ["who", "what"] ∧ m'.macros = ["what", "when"] := by
  obtain ⟨m, b₁, hm, hb₁, hmacros, -⟩ := greetLine_compile (b := {}) compiled "$say $(who) $(what)" "who" "what"
    rfl
  have hnew : b₁.methods.get? "$say $(what) $(when)" = none := by
    rw [hb₁]
    exact Registry.get?_set_of_ne _ _ (by decide)
  obtain ⟨m', b₂, hm', hb₂, hmacros', -⟩ := greetLine_compile compiled "$say $(what) $(when)" "what" "when" hnew
  -- The third line is found in the cache, behind the second one.
  have hfound : b₂.methods.get? "$say $(who) $(what)" = some m := by
    rw [hb₂, Registry.get?_set_of_ne _ _ (by decide), hb₁]
    exact Registry.get?_set_self ..
  have hagain : (greetLine "$say $(who) $(what)" "who" "what").compile compiled b₂ = .ok m b₂ := by
    rw [greetLine, Node.compile, compileWith_hit hfound]
  refine ⟨m, m', b₂, ?_, hmacros, hmacros'⟩
  simp [FunctionFile.methods, greetFile, hm, hm', hagain]

/-- Two lines share a variable, and one of them comes twice. -/
theorem greet_macros_passed_once :
    ∃ files outcome b', buildPack greetProject true [⟨"greet:notes", ["#no_compile"], []⟩, greetFile] {} =
        .ok ⟨files, outcome⟩ b' ∧
      files[1]? = some { greetFile with lines := ["$_function__greet \"greet:all\" \x7b\"who\": $(who), " ++
        "\"what\": $(what), \"when\": $(when)\x7d"] } := by
  have hf : greetFile.isCompiled = true := by decide
  obtain ⟨m, m', b', hms, hmacros, hmacros'⟩ := greetFile_methods (compiledNames
    ([⟨"greet:notes", ["#no_compile"], []⟩] ++ [greetFile]))
  obtain ⟨hbuild, -⟩ := call_line_passes_macros_once greetProject true [⟨"greet:notes", ["#no_compile"], []⟩] []
    greetFile {} {} b' [] [m, m', m] hf rfl hms
  have hnames : ([m, m', m].flatMap Method.macros).eraseDups = ["who", "what", "when"] := by
    simp only [List.flatMap_cons, List.flatMap_nil, hmacros, hmacros']
    decide
  rw [hnames] at hbuild
  obtain ⟨files, outcome, b', hrun, hline⟩ := hbuild
  refine ⟨files, outcome, b', hrun, ?_⟩
  rw [List.length_singleton] at hline
  rw [hline]
  rfl

end PackToMod
