import PackToMod.Proofs.Declarations
import PackToMod.Proofs.TagInitialisers
import PackToMod.Proofs.UnassigningTexts

/-!
# Every declared constant is initialised

Tags, patches and selectors are declared as final fields without a value, and a static block assigns the
values. The declarations and the initialisers are registered apart. After any requests, answered or failed, both are
there for the same texts, in the same order, and the text of an initialiser assigns the symbol that is declared in one
place, at the beginning of a line. A boolean tag has no variable, so there is nothing to assign. Strings are copied
into the code as they are, so the place is the only one unless a string has the assignment written in it.
-/

namespace PackToMod

open Build TagProgram

/-! ## Statements -/

def TagConstant.statements (t : TagConstant) : List String :=
  t.steps.map TagStep.text

def PatchConstant.statements (p : PatchConstant) : List String :=
  ("var " ++ p.builder ++ " = DataComponentPatch.builder();\n")
    :: (p.settings.map p.settingText ++ [p.symbol ++ " = " ++ p.builder ++ ".build();\n"])

lemma PatchConstant.join_statements (p : PatchConstant) : String.join p.statements = p.initialiser := by
  unfold statements initialiser
  simp [String.append_assoc]

/-- The statement begins by assigning what is written as `target`. -/
def assigns (target statement : String) : Bool :=
  (target ++ " = ").toList.isPrefixOf statement.toList

/-- One of the statements assigns the symbol, and none makes it a local variable. -/
structure AssignedOnce (symbol : String) (statements : List String) : Prop where
  once : statements.countP (assigns symbol) = 1
  notLocal : statements.countP (assigns ("var " ++ symbol)) = 0

/-! ## Names at the front of a statement -/

def IsName (s : String) : Prop :=
  s.toList.all isNamePart = true

/-- A text that begins with a name begins with no other one. -/
lemma IsName.unique {name name' : String} (h : IsName name) (h' : IsName name') {c c' : Char}
    (hc : isNamePart c = false) (hc' : isNamePart c' = false) {rest rest' : List Char}
    (heq : name.toList ++ c :: rest = name'.toList ++ c' :: rest') : name = name' ∧ c = c' := by
  have hread : readName (name.toList ++ c :: rest) = (name, c :: rest) := readName_append h hc
  rw [heq, readName_append h' hc'] at hread
  simp only [Prod.mk.injEq, List.cons.injEq] at hread
  exact ⟨hread.1.symm, hread.2.1.symm⟩

lemma assigns_iff {target statement : String} :
    assigns target statement = true ↔ ∃ rest, statement.toList = target.toList ++ ' ' :: '=' :: ' ' :: rest := by
  have htarget : (target ++ " = ").toList = target.toList ++ [' ', '=', ' '] := by
    rw [String.toList_append]
    rfl
  unfold assigns
  rw [List.isPrefixOf_iff_prefix, htarget]
  constructor
  · rintro ⟨rest, hrest⟩
    exact ⟨rest, by simp [← hrest]⟩
  · rintro ⟨rest, hrest⟩
    exact ⟨rest, by simp [hrest]⟩

/-- A name that is assigned stands at the front of the statement, with a blank after it. -/
lemma eq_of_assigns {symbol name statement : String} (hassigns : assigns symbol statement = true)
    (hsymbol : IsName symbol) (hname : IsName name) {c : Char} (hc : isNamePart c = false) {rest : List Char}
    (hstatement : statement.toList = name.toList ++ c :: rest) : symbol = name ∧ c = ' ' := by
  obtain ⟨rest', hrest⟩ := assigns_iff.mp hassigns
  rw [hstatement] at hrest
  obtain ⟨heq, hblank⟩ := hname.unique hsymbol hc (by decide) hrest
  exact ⟨heq.symm, hblank⟩

/-- A local variable that is assigned stands after the keyword. -/
lemma exists_of_assigns_local {symbol statement : String} (h : assigns ("var " ++ symbol) statement = true) :
    ∃ rest, statement.toList = "var".toList ++ ' ' :: (symbol.toList ++ ' ' :: rest) := by
  obtain ⟨rest, hrest⟩ := assigns_iff.mp h
  refine ⟨'=' :: ' ' :: rest, ?_⟩
  rw [hrest, String.toList_append]
  simp

/-- What the symbols of constants have in common: they are names, and none is the keyword for local
variables. -/
structure IsSymbol (s : String) : Prop where
  isName : IsName s
  ne_var : s ≠ "var"

lemma isName_var : IsName "var" := by
  unfold IsName
  decide

/-- A numbered name with an underscore in it. -/
lemma isSymbol_numbered {head : String} (hhead : IsName head) (hunderscore : '_' ∈ head.toList) (n : Nat) :
    IsSymbol (head ++ toString n) := by
  refine ⟨isNamePart_numbered hhead n, fun heq => ?_⟩
  have hmem : '_' ∈ (head ++ toString n).toList := by
    rw [String.toList_append]
    exact List.mem_append_left _ hunderscore
  rw [heq] at hmem
  exact absurd hmem (by decide)

/-- An assignment of a symbol does not make it a local variable. -/
lemma IsSymbol.not_assigns_local {symbol : String} (h : IsSymbol symbol) {statement : String} {c : Char}
    (hc : isNamePart c = false) {rest : List Char} (hstatement : statement.toList = symbol.toList ++ c :: rest)
    (name : String) : assigns ("var " ++ name) statement = false := by
  rw [Bool.eq_false_iff]
  intro hassigns
  obtain ⟨rest', hrest⟩ := exists_of_assigns_local hassigns
  rw [hstatement] at hrest
  exact h.ne_var (h.isName.unique isName_var hc (by decide) hrest).1

/-! ## Tags -/

lemma TagTerm.isSymbol_variable (type : TagType) (n : Nat) : IsSymbol (TagTerm.variable type n).text :=
  isSymbol_numbered type.isNamePart_head (by simp) n

/-- A text begins with a term only if it begins with a name: the variable, or the type of booleans. -/
lemma TagTerm.exists_front (t : TagTerm) {c : Char} (hc : isNamePart c = false) (rest : List Char) :
    ∃ name c' rest', IsSymbol name ∧ isNamePart c' = false ∧
      t.text.toList ++ c :: rest = name.toList ++ c' :: rest' ∧ (c' = ' ' → t.text = name ∧ c = ' ') := by
  rcases t with ⟨type, n⟩ | value
  · exact ⟨_, c, rest, isSymbol_variable type n, hc, rfl, fun hblank => ⟨rfl, hblank⟩⟩
  · refine ⟨"ByteTag", '.', ?_, ⟨?_, by decide⟩, by decide, ?_, fun hblank => absurd hblank (by decide)⟩
    · exact "valueOf(".toList ++ ((if value then "true" else "false").toList ++ ')' :: c :: rest)
    · unfold IsName
      decide
    · cases value <;> rfl

lemma TagTerm.front_ne_var (t : TagTerm) {c : Char} (hc : isNamePart c = false) (rest rest' : List Char) :
    t.text.toList ++ c :: rest ≠ "var".toList ++ ' ' :: rest' := by
  intro heq
  obtain ⟨name, c', rest₁, hname, hc', hfront, -⟩ := t.exists_front hc rest
  rw [hfront] at heq
  exact hname.ne_var (hname.isName.unique isName_var hc' (by decide) heq).1

/-- A text that begins with a term and with a variable before a blank: the term has the number of the
variable. -/
lemma TagTerm.number_of_front {t : TagTerm} {c : Char} (hc : isNamePart c = false) {type : TagType} {n : Nat}
    {rest rest' : List Char}
    (heq : t.text.toList ++ c :: rest = (TagTerm.variable type n).text.toList ++ ' ' :: rest') :
    (∃ type', t = .variable type' n) ∧ c = ' ' := by
  have hsymbol := isSymbol_variable type n
  obtain ⟨name, c', rest₁, hname, hc', hfront, hblank⟩ := t.exists_front hc rest
  rw [hfront] at heq
  obtain ⟨rfl, hc'⟩ := hname.isName.unique hsymbol.isName hc' (by decide) heq
  obtain ⟨htext, hc⟩ := hblank hc'
  refine ⟨?_, hc⟩
  rcases t with ⟨type', m⟩ | value
  · exact ⟨type', by rw [number_eq_of_text_eq htext]⟩
  · have hdot : '.' ∈ (TagTerm.boolean value).text.toList := by
      cases value <;> decide
    rw [htext] at hdot
    exact absurd (List.all_eq_true.mp hsymbol.isName '.' hdot) (by decide)

lemma TagStep.text_front (step : TagStep) :
    (∃ target value rest, step = .assign true target value ∧
      step.text.toList = "var".toList ++ ' ' :: (target.text.toList ++ ' ' :: rest)) ∨
    ∃ target c rest, isNamePart c = false ∧ step.text.toList = target.text.toList ++ c :: rest ∧
      (c = ' ' → ∃ value, step = .assign false target value) := by
  rcases step with ⟨isLocal, target, value⟩ | ⟨target, key, value⟩ | ⟨target, value⟩
  · cases isLocal with
    | true =>
      refine .inl ⟨target, value, "= ".toList ++ (value.text.toList ++ ";\n".toList), rfl, ?_⟩
      simp [TagStep.text]
    | false =>
      refine .inr ⟨target, ' ', "= ".toList ++ (value.text.toList ++ ";\n".toList), by decide, ?_, ?_⟩
      · simp [TagStep.text]
      · exact fun _ => ⟨value, rfl⟩
  · refine .inr ⟨target, '.', "put(\"".toList ++ (key.toList ++ ("\", ".toList ++ (value.text.toList ++
      ");\n".toList))), by decide, ?_, fun h => absurd h (by decide)⟩
    simp [TagStep.text]
  · refine .inr ⟨target, '.', "add(".toList ++ (value.text.toList ++ ");\n".toList), by decide, ?_,
      fun h => absurd h (by decide)⟩
    simp [TagStep.text]

/-- The step that assigns a variable, as a field or as a local one, counts its number. -/
lemma TagStep.number?_of_assigns {step : TagStep} {type : TagType} {n : Nat}
    (h : assigns (TagTerm.variable type n).text step.text = true ∨
      assigns ("var " ++ (TagTerm.variable type n).text) step.text = true) : step.number? = some n := by
  have hsymbol := TagTerm.isSymbol_variable type n
  rcases step.text_front with ⟨target, value, rest, rfl, htext⟩ | ⟨target, c, rest, hc, htext, hassign⟩
  · rcases h with h | h
    · exact absurd (eq_of_assigns h hsymbol.isName isName_var (by decide) htext).1 hsymbol.ne_var
    · obtain ⟨rest', hrest⟩ := exists_of_assigns_local h
      rw [htext] at hrest
      have htail := List.cons.inj (List.append_cancel_left hrest)
      obtain ⟨⟨type', rfl⟩, -⟩ := TagTerm.number_of_front (by decide) htail.2
      rfl
  · rcases h with h | h
    · obtain ⟨rest', hrest⟩ := assigns_iff.mp h
      rw [htext] at hrest
      obtain ⟨⟨type', rfl⟩, hblank⟩ := TagTerm.number_of_front hc hrest
      obtain ⟨value, rfl⟩ := hassign hblank
      rfl
    · obtain ⟨rest', hrest⟩ := exists_of_assigns_local h
      exact absurd (htext.symm.trans hrest) (target.front_ne_var hc _ _)

/-- The first step of a tag assigns its root, which has the first number. Only a boolean has no steps. -/
lemma Node.IsTag.first_step {node : Node} (h : node.IsTag) {isLocal : Bool} {n n' : Nat} {tag : TagConstant}
    (hlower : node.lowerTag isLocal n = .ok tag n') :
    (∃ text value, node = .tagFlag text value ∧ ∃ holds, tag.root = .boolean holds) ∨
      ∃ type value steps, tag = ⟨.variable type n, .assign isLocal (.variable type n) value :: steps⟩ := by
  cases h with
  | flag text value =>
    cases hlower
    exact .inl ⟨text, value, rfl, _, rfl⟩
  | scalar text hvalue =>
    rw [Node.lowerTag, hvalue] at hlower
    cases hlower
    exact .inr ⟨_, _, _, rfl⟩
  | list text _ =>
    rw [lowerTag_list] at hlower
    obtain ⟨steps, -, rfl⟩ := run_map_eq_ok hlower
    exact .inr ⟨_, _, steps, rfl⟩
  | compound text _ =>
    rw [lowerTag_compound] at hlower
    obtain ⟨steps, -, rfl⟩ := run_map_eq_ok hlower
    exact .inr ⟨_, _, steps, rfl⟩

/-- No step after the first one counts the number of the root, since the numbers of a tag are all different. -/
lemma steps_of_lowerTag {node : Node} {n n' : Nat} {tag : TagConstant} (hlower : node.lowerTag false n = .ok tag n') :
    (∃ text value, node = .tagFlag text value ∧ ∃ holds, tag.root = .boolean holds) ∨
      ∃ type value steps, tag = ⟨.variable type n, .assign false (.variable type n) value :: steps⟩ ∧
        ∀ step ∈ steps, step.number? ≠ some n := by
  have htag : node.IsTag := (lowerTag_gives false node).ok hlower
  obtain hboolean | ⟨type, value, steps, rfl⟩ := htag.first_step hlower
  · exact .inl hboolean
  refine .inr ⟨type, value, steps, rfl, fun step hstep hnumber => ?_⟩
  have hnumbers := lowerTag_numbers false node n
  rw [hlower] at hnumbers
  have hnodup : (n :: stepNumbers steps).Nodup := by
    change (TagConstant.numbers ⟨.variable type n, .assign false (.variable type n) value :: steps⟩).Nodup
    rw [hnumbers.2]
    exact List.nodup_range'
  exact (List.nodup_cons.mp hnodup).1 (List.mem_filterMap.mpr ⟨step, hstep, hnumber⟩)

lemma assignedOnce_of_lowerTag {node : Node} {n n' : Nat} {tag : TagConstant}
    (hlower : node.lowerTag false n = .ok tag n') :
    (∃ text value, node = .tagFlag text value ∧ ∃ holds, tag.root = .boolean holds) ∨
      AssignedOnce tag.root.text tag.statements := by
  obtain hboolean | ⟨type, value, steps, rfl, hothers⟩ := steps_of_lowerTag hlower
  · exact .inl hboolean
  right
  have hsymbol := TagTerm.isSymbol_variable type n
  have hfirst : (TagStep.assign false (.variable type n) value).text.toList =
      (TagTerm.variable type n).text.toList ++ ' ' :: '=' :: ' ' :: (value.text ++ ";\n").toList := by
    simp [TagStep.text]
  unfold TagConstant.statements
  rw [List.map_cons]
  constructor
  · have hrest : (steps.map TagStep.text).countP (assigns (TagTerm.variable type n).text) = 0 := by
      rw [List.countP_eq_zero, List.forall_mem_map]
      intro step hstep hassigns
      exact hothers step hstep (TagStep.number?_of_assigns (.inl hassigns))
    rw [List.countP_cons_of_pos (assigns_iff.mpr ⟨_, hfirst⟩), hrest]
  · rw [List.countP_eq_zero, List.forall_mem_cons, List.forall_mem_map]
    refine ⟨?_, fun step hstep hassigns => ?_⟩
    · rw [hsymbol.not_assigns_local (by decide) hfirst]
      exact Bool.false_ne_true
    · exact hothers step hstep (TagStep.number?_of_assigns (.inr hassigns))

/-! ## The places of assignments -/

lemma TagStep.text_ends (step : TagStep) : ∃ line, step.text = line ++ "\n" := by
  have hassign : ";\n" = ";" ++ "\n" := by decide
  have hcall : ");\n" = ");" ++ "\n" := by decide
  cases step <;> simp only [TagStep.text, hassign, hcall, ← String.append_assoc] <;> exact ⟨_, rfl⟩

lemma PatchConstant.statements_end (p : PatchConstant) : ∀ s ∈ p.statements, ∃ line, s = line ++ "\n" := by
  have hstart : " = DataComponentPatch.builder();\n" = " = DataComponentPatch.builder();" ++ "\n" := by decide
  have hsetting : ");\n" = ");" ++ "\n" := by decide
  have hlast : ".build();\n" = ".build();" ++ "\n" := by decide
  unfold statements
  rw [List.forall_mem_cons, List.forall_mem_append, List.forall_mem_map, List.forall_mem_singleton]
  refine ⟨?_, fun s _ => ?_, ?_⟩
  · rw [hstart, ← String.append_assoc]
    exact ⟨_, rfl⟩
  · unfold settingText
    rw [hsetting, ← String.append_assoc]
    exact ⟨_, rfl⟩
  · rw [hlast, ← String.append_assoc]
    exact ⟨_, rfl⟩

lemma SelectorConstant.initialiser_ends (s : SelectorConstant) : ∃ line, s.initialiser = line ++ "\n" := by
  have hlast : "\n            );\n" = "\n            );" ++ "\n" := by decide
  unfold initialiser
  dsimp only
  rw [hlast, ← String.append_assoc]
  exact ⟨_, rfl⟩

instance (type : TagType) (n : Nat) : IsNumbered (TagTerm.variable type n).text :=
  isNumbered type.isNamePart_head n

instance (p : PatchConstant) : IsNumbered p.symbol :=
  isNumbered (by decide) p.number

instance (s : SelectorConstant) : IsNumbered s.symbol :=
  isNumbered (by decide) s.number

/-- A harmless step assigns no variable but the one whose number it counts. -/
lemma TagStep.IsHarmless.unassigning {step : TagStep} {type : TagType} {n : Nat}
    (h : step.IsHarmless (TagTerm.variable type n).text) (hn : step.number? ≠ some n) :
    Unassigning (TagTerm.variable type n).text step.text := by
  rcases step with ⟨isLocal, target, value⟩ | ⟨target, key, value⟩ | ⟨target, value⟩
  · refine ⟨fun before after heq => hn ?_⟩
    have hhead : '=' ∉ ((if isLocal then "var " else "") ++ target.text).toList := by
      rw [String.toList_append, List.mem_append, not_or]
      refine ⟨?_, target.sign_notMem_text⟩
      cases isLocal <;> decide
    have htext : (TagStep.assign isLocal target value).text =
        (if isLocal then "var " else "") ++ target.text ++ " = " ++ (value.text ++ ";\n") :=
      String.append_assoc
    have hfront := Unassigning.eq_front h hhead (htext.symm.trans heq)
    rcases target with ⟨type', m⟩ | value
    · have hnames : (if isLocal then "var " else "") ++ (type'.name ++ "_" ++ toString m) =
          before ++ (type.name ++ "_" ++ toString n) := hfront
      simp only [← String.append_assoc] at hnames
      rw [eq_of_numbered hnames]
      rfl
    · -- A boolean ends with a parenthesis.
      have hnumbered : IsNumbered (TagTerm.variable type n).text := inferInstance
      obtain ⟨head, d, hd, hlast⟩ := hnumbered.digit
      have hend := congrArg (fun s : String => s.toList.getLast?) hfront
      have hboolean : (TagTerm.boolean value).text.toList.getLast? = some ')' := by cases value <;> decide
      simp only [String.toList_append, hlast, List.getLast?_append, hboolean, List.getLast?_singleton,
        Option.some_or, Option.some.injEq] at hend
      rw [← hend] at hd
      exact absurd hd (by decide)
  · exact h
  · exact h

section

variable {U : Node → Prop}

lemma assignedIn_of_lowerTag (hU : DownClosed U) {node : Node} (hnode : U node) {n n' : Nat} {tag : TagConstant}
    (hlower : node.lowerTag false n = .ok tag n') :
    (∃ text value, node = .tagFlag text value ∧ ∃ holds, tag.root = .boolean holds) ∨
      AssignedIn tag.root.text tag.initialiser ∧
        (Harmless tag.root.text U → AssignedOnceIn tag.root.text tag.initialiser) := by
  obtain hboolean | ⟨type, value, steps, rfl, hothers⟩ := steps_of_lowerTag hlower
  · exact .inl hboolean
  right
  have htext : (TagStep.assign false (.variable type n) value).text =
      (TagTerm.variable type n).text ++ " = " ++ (value.text ++ ";\n") := by
    simp [TagStep.text, String.append_assoc]
  have hends : ∀ s ∈ (TagStep.assign false (.variable type n) value :: steps).map TagStep.text,
      ∃ line, s = line ++ "\n" :=
    List.forall_mem_map.mpr fun step _ => step.text_ends
  unfold TagConstant.initialiser
  rw [List.map_cons, htext] at hends ⊢
  refine ⟨assignedIn_join (List.forall_mem_nil _) _ _ _, fun hclean => ?_⟩
  have htag : node.IsTag := (lowerTag_gives false node).ok hlower
  obtain ⟨hfirst, hsteps⟩ := List.forall_mem_cons.mp (htag.steps_isHarmless hclean hU hnode hlower)
  refine assignedOnceIn_join [] hends hfirst (List.forall_mem_map.mpr fun step hstep => ?_)
  exact (hsteps step hstep).unassigning (hothers step hstep)

lemma PatchConstant.assignedIn {p : PatchConstant} (h : ∀ s ∈ p.settings, PatchSetting.IsOf U s) :
    AssignedIn p.symbol p.initialiser ∧ (Harmless p.symbol U → AssignedOnceIn p.symbol p.initialiser) := by
  have hlast : p.symbol ++ " = " ++ p.builder ++ ".build();\n" = p.symbol ++ " = " ++ (p.builder ++ ".build();\n") :=
    String.append_assoc
  have hends : ∀ s ∈ p.statements, ∃ line, s = line ++ "\n" := p.statements_end
  rw [← p.join_statements]
  unfold statements at hends ⊢
  rw [hlast, ← List.cons_append] at hends ⊢
  refine ⟨assignedIn_join (fun s hs => hends s (List.mem_append_left _ hs)) _ _ _, fun hclean => ?_⟩
  refine assignedOnceIn_join _ hends p.unassigning_end ?_
  rw [List.append_nil]
  exact List.forall_mem_cons.mpr ⟨p.unassigning_start,
    List.forall_mem_map.mpr fun s hs => p.unassigning_setting hclean (h s hs)⟩

lemma SelectorConstant.assignedIn (hU : DownClosed U) {s : SelectorConstant} (h : s.query.IsOf U) :
    AssignedIn s.symbol s.initialiser ∧ (Harmless s.symbol U → AssignedOnceIn s.symbol s.initialiser) := by
  have hends := s.initialiser_ends
  obtain ⟨value, htext, hvalue⟩ : ∃ value, s.initialiser = s.symbol ++ " = " ++ value ∧
      (Harmless s.symbol U → Unassigning s.symbol (" = " ++ value)) := s.initialiser_assigns hU h
  rw [htext] at hends ⊢
  have hone : String.join ([] ++ [s.symbol ++ " = " ++ value]) = s.symbol ++ " = " ++ value := by simp
  rw [← hone]
  refine ⟨assignedIn_join (List.forall_mem_nil _) _ _ _, fun hclean => ?_⟩
  exact assignedOnceIn_join [] (List.forall_mem_singleton.mpr hends) (hvalue hclean) (List.forall_mem_nil _)

end

/-! ## Declarations and initialisers of a build -/

/-- The parts of a build whose constants get their values in the static block. -/
inductive Deferred where
  | tags
  | patches
  | selectors

def Deferred.table : Deferred → Table
  | .tags => .tags
  | .patches => .patches
  | .selectors => .selectors

/-- A declared constant: the text that it is registered under, its declaration and its symbol. -/
structure Field where
  text : String
  declaration : String
  symbol : String

/-- The part of the static block for one constant: the text that it is registered under, and its code. -/
structure Initialiser where
  text : String
  code : String

def Build.fields (b : Build) : Deferred → List Field
  | .tags => b.tags.entries.map fun entry => ⟨entry.1, entry.2.declaration, entry.2.root.text⟩
  | .patches => b.patches.entries.map fun entry => ⟨entry.1, entry.2.declaration, entry.2.symbol⟩
  | .selectors => b.selectors.entries.map fun entry => ⟨entry.1, entry.2.declaration, entry.2.symbol⟩

def Build.initialisers (b : Build) : Deferred → List Initialiser
  | .tags => b.staticTags.entries.map fun entry => ⟨entry.1, entry.2.initialiser⟩
  | .patches => b.staticPatches.entries.map fun entry => ⟨entry.1, entry.2.initialiser⟩
  | .selectors => b.staticSelectors.entries.map fun entry => ⟨entry.1, entry.2.initialiser⟩

/-- The statements of the initialisers, in the same order. -/
def Build.statements (b : Build) : Deferred → List (List String)
  | .tags => b.staticTags.entries.map (·.2.statements)
  | .patches => b.staticPatches.entries.map (·.2.statements)
  | .selectors => b.staticSelectors.entries.map fun entry => [entry.2.initialiser]

/-- The field is declared, and the initialiser under its text assigns it, at the beginning of a line. This is the one
place where it is assigned, unless a string that is written into the code assigns it. Only if the text is that of a
boolean, which is in `U`, the field is not assigned; a boolean is written where it is used. -/
structure Field.IsInitialised (U : Node → Prop) (part : Deferred) (field : Field) (initialiser : Initialiser) :
    Prop where
  text : initialiser.text = field.text
  declares : part.table.Declares field.declaration field.symbol
  assigned :
    (part = .tags ∧ ∃ value, U (.tagFlag field.text value) ∧ ∃ holds, field.symbol = (TagTerm.boolean holds).text) ∨
      AssignedIn field.symbol initialiser.code ∧
        ((∀ node, U node → ∀ s ∈ node.values, Unassigning field.symbol s) →
          AssignedOnceIn field.symbol initialiser.code)

lemma Build.code_initialisers (b : Build) (part : Deferred) :
    (b.initialisers part).map Initialiser.code = (b.statements part).map String.join := by
  cases part with
  | tags => simp [Build.initialisers, Build.statements, TagConstant.statements, TagConstant.initialiser]
  | patches => simp [Build.initialisers, Build.statements, PatchConstant.join_statements]
  | selectors => simp [Build.initialisers, Build.statements]

lemma Build.Derived.initialised {U : Node → Prop} {b : Build} (h : b.Derived U) (hstep : b.InStep)
    (hU : DownClosed U) (part : Deferred) :
    List.Forall₂ (Field.IsInitialised U part) (b.fields part) (b.initialisers part) := by
  obtain ⟨htags, hpatches, hselectors⟩ := hstep
  cases part with
  | tags =>
    unfold Build.fields Build.initialisers
    rw [htags, List.forall₂_map_left_iff, List.forall₂_map_right_iff, List.forall₂_same]
    intro entry hentry
    obtain ⟨node, n, n', hnode, htext, hlower⟩ := h.1 entry hentry
    refine ⟨rfl, entry.2.declares, ?_⟩
    obtain ⟨text, value, rfl, holds, hroot⟩ | hassigned := assignedIn_of_lowerTag hU hnode hlower
    · obtain rfl : text = entry.1 := Option.some.inj htext
      exact .inl ⟨rfl, value, hnode, holds, congrArg TagTerm.text hroot⟩
    · exact .inr hassigned
  | patches =>
    unfold Build.fields Build.initialisers
    rw [hpatches, List.forall₂_map_left_iff, List.forall₂_map_right_iff, List.forall₂_same]
    intro entry hentry
    obtain ⟨components, b₀, b₁, hcomponents, hsettings⟩ := h.2.1 entry hentry
    have hassigned := PatchConstant.assignedIn ((declareSettings_gives hU hcomponents).ok hsettings)
    exact ⟨rfl, entry.2.declares, .inr hassigned⟩
  | selectors =>
    unfold Build.fields Build.initialisers
    rw [hselectors, List.forall₂_map_left_iff, List.forall₂_map_right_iff, List.forall₂_same]
    intro entry hentry
    obtain ⟨node, players, b₀, b₁, hnode, hquery⟩ := h.2.2 entry hentry
    have hassigned := SelectorConstant.assignedIn hU ((query_gives hU hnode players).ok hquery)
    exact ⟨rfl, entry.2.declares, .inr hassigned⟩

end PackToMod
