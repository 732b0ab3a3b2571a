import PackToMod.Proofs.LocationNames
import PackToMod.Proofs.NamesInCode
import PackToMod.Proofs.Nesting
import PackToMod.Proofs.Output

/-!
# Local variables of conditions

The code for a condition may declare local variables above the guard and use them in the guard and in what is
stored as the result. Whatever is tested, and whether it is asked for or its failure, each local variable that is
used is declared. The test of a block is the exception: it uses `blockpos`, which only the test of a biome declares.
-/

namespace PackToMod

open DraftM

/-! ## Each condition -/

/-- The statement declares the variable, with a value or without one. -/
def Declares (code name : String) : Prop :=
  ∃ type ∈ ["var", "int", "boolean"], ∃ ending ∈ [" = ", ";"], (type ++ " " ++ name ++ ending).toList <:+: code.toList

instance (code name : String) : Decidable (Declares code name) := by
  unfold Declares
  infer_instance

lemma Declares.append {code name : String} (h : Declares code name) (rest : String) : Declares (code ++ rest) name := by
  obtain ⟨type, htype, ending, hending, hinfix⟩ := h
  refine ⟨type, htype, ending, hending, ?_⟩
  have hprefix : code.toList <+: (code ++ rest).toList := by
    rw [String.toList_append]
    exact List.prefix_append _ _
  exact hinfix.trans hprefix.isInfix

/-- The parts of the code for a condition: the declarations, with comments around them, the test, and what is stored
where no subcommand follows. -/
structure Guard where
  before : List String
  declarations : String
  after : List String
  test : String
  result : String

namespace Guard

def lead (g : Guard) : String :=
  comments g.before ++ g.declarations ++ comments g.after

def Uses (g : Guard) (v : String) : Prop :=
  Mentions g.test v ∨ Mentions g.result v

/-- Every local variable in use is declared. The test of a block uses another, and the constant of a location has
a name that may hold anything. -/
structure Fits (U : Node → Prop) (kind : String) (g : Guard) : Prop where
  declared : ∀ v ∈ conditionLocals, g.Uses v → Declares g.declarations v ∨ (kind = "block" ∧ v = "blockpos") ∨
    ∃ node, U node ∧ ∃ l, node.location? = some l ∧ Mentions l.symbol v
  block : kind = "block" → Mentions g.test "blockpos" ∧ g.declarations = ""

/-- What the name of a location's constant mentions. -/
def OfLocation (U : Node → Prop) (names : List String) : Prop :=
  ∀ v ∈ names, ∃ node, U node ∧ ∃ l, node.location? = some l ∧ Mentions l.symbol v

lemma ofLocation_localsIn {U : Node → Prop} {node : Node} (hnode : U node) {l : ResourceLocation}
    (hl : node.location? = some l) : OfLocation U (localsIn l.symbol) :=
  fun _ hv => ⟨node, hnode, l, hl, by simpa using (List.mem_filter.mp hv).2⟩

lemma Fits.of_usesOnly {U : Node → Prop} {kind : String} {g : Guard} (own names : List String) (hkind : kind ≠ "block")
    (htest : UsesOnly (own ++ names) g.test) (hresult : UsesOnly own g.result)
    (hown : ∀ v ∈ own, Declares g.declarations v) (hnames : OfLocation U names) : g.Fits U kind := by
  refine ⟨fun v hv huses => ?_, fun hblock => absurd hblock hkind⟩
  rcases huses with hmentions | hmentions
  · rcases List.mem_append.mp (htest v hv hmentions) with hv | hv
    · exact .inl (hown v hv)
    · exact .inr (.inr (hnames v hv))
  · exact .inl (hown v (hresult v hv hmentions))

end Guard

/-- The run of a condition ends with these parts. -/
def GivesGuard (U : Node → Prop) (kind : String) (c : Condition) (text : String) : Prop :=
  ∃ g : Guard, g.Fits U kind ∧ text = g.lead ∧ c = ⟨g.test, some g.result⟩

lemma usesOnly_storeCount (affirmed : Bool) {allowed : List String} {count : String} (h : UsesOnly allowed count) :
    UsesOnly allowed (storeCount affirmed count) := by
  cases affirmed with
  | true =>
    unfold storeCount
    rw [if_pos rfl]
    exact .last (.literal (.of_nil (.ofList (by decide))) (by decide) h) (by decide) (.of_nil (.ofList (by decide)))
  | false => exact .of_nil (.ofList (by decide))

/-- The head of the loop over all blocks uses no local variable of the method. -/
lemma usesOnly_regionsHead {allowed : List String} {start stop destination rest : String} (hstart : UsesOnly [] start)
    (hstop : UsesOnly [] stop) (hdestination : UsesOnly [] destination) (hrest : UsesOnly allowed rest) :
    UsesOnly allowed (regionsHead start stop destination ++ rest) := by
  unfold regionsHead
  simp only [String.append_assoc]
  iterate 2 refine .literal (.of_nil (.ofList (by decide +kernel))) (by decide) ?_
  refine .before hstart.of_nil (by decide) (.literal (.of_nil (.ofList (by decide))) (by decide) ?_)
  refine .before hstop.of_nil (by decide) (.literal (.of_nil (.ofList (by decide +kernel))) (by decide) ?_)
  refine .before hdestination.of_nil (by decide) ?_
  iterate 13 refine .literal (.of_nil (.ofList (by decide +kernel))) (by decide) ?_
  exact .literal (.of_nil (.ofList (by decide +kernel))) (by decide) hrest

/-- The rest of the loop counts the blocks. -/
lemma usesOnly_regionsTail {mode : String} (hmode : UsesOnly [] mode) :
    UsesOnly ["totalBlocks"] (mode ++ regionsTail) := by
  unfold regionsTail
  simp only [String.append_assoc]
  refine .before hmode.of_nil (by decide) ?_
  iterate 2 refine .literal (.ofList (by decide +kernel)) (by decide) ?_
  refine .before (.ofList (by decide +kernel)) (by decide) ?_
  iterate 9 refine .literal (.ofList (by decide +kernel)) (by decide) ?_
  exact .ofList (by decide +kernel)

section

variable {U : Node → Prop}

/-- Wherever data are looked for, reading that leaves comments. -/
lemma accessData_puts : Puts U (fun _ _ => True) accessData := by
  have hread (word : String) (run : Node → BuildM String) (f : Option String → String) :
      Puts U (fun _ _ => True) (do return f (← operand word run)) :=
    Puts.bind (Puts.operand (P := fun _ => True) fun _ _ _ _ _ _ => trivial) fun _ _ _ => Puts.pure trivial
  exact Puts.mono (Puts.next ⟨hread _ _ _, hread _ _ _, hread _ _ _⟩) fun _ _ _ => trivial

lemma declares_matchesCode (tags : String) : ∀ v ∈ ["exists", "totalMatches"], Declares (matchesCode tags) v := by
  have hopening : ∀ v ∈ ["exists", "totalMatches"], Declares
      "\n                boolean exists;\n                int totalMatches;\n                try \x7b" v := by
    decide +kernel
  unfold matchesCode
  simp only [String.append_assoc]
  exact fun v hv => (hopening v hv).append _

lemma dataCondition_puts (affirmed : Bool) : Puts U (GivesGuard U "data") (dataCondition affirmed) := by
  refine Puts.bind (Puts.emitOver (P := fun text => ∃ tags, text = matchesCode tags) ?_) ?_
  · refine Puts.bind accessData_puts fun data _ _ => ?_
    refine Puts.bind (Puts.operand (P := fun _ => True) fun _ _ _ _ _ _ => trivial) fun path _ _ => ?_
    refine Puts.bind Puts.require fun path' _ _ => ?_
    refine Puts.bind (Puts.onBuild (P := fun _ => True) fun _ _ _ _ => trivial) fun tags _ _ => ?_
    exact Puts.pure ⟨tags, rfl⟩
  rintro _ _ ⟨tags, rfl⟩
  have htest : UsesOnly ["exists", "totalMatches"] "exists" := .ofList (by decide)
  have hcount : UsesOnly ["exists", "totalMatches"] "totalMatches" := .ofList (by decide)
  refine Puts.pure ⟨⟨[], matchesCode tags, [], "exists", storeCount affirmed "totalMatches"⟩,
    .of_usesOnly _ [] (by decide) htest (usesOnly_storeCount affirmed hcount) (declares_matchesCode tags) nofun,
    ?_, rfl⟩
  simp [Guard.lead, comments]

lemma dimensionCondition_puts : Puts U (GivesGuard U "dimension") dimensionCondition := by
  refine Puts.bind (Puts.operand (P := U) ?_) ?_
  · intro node hnode b a b' hrun
    cases hrun
    exact hnode
  rintro dimension _ ⟨⟨texts, rfl⟩, hdimension⟩
  refine Puts.bind Puts.require ?_
  rintro node _ ⟨rfl, hsome⟩
  refine Puts.bind (Puts.onBuild (P := fun location => ∃ l, node.location? = some l ∧ location = l.symbol) ?_) ?_
  · intro b a b' hrun
    obtain ⟨l, b₁, hl, hrun⟩ := run_bind_eq_ok hrun
    cases hrun
    exact ⟨l, (require_ok hl).1, rfl⟩
  rintro _ _ ⟨rfl, l, hl, rfl⟩
  have hsymbol := usesOnly_localsIn l.symbol
  refine Puts.pure ⟨⟨texts, "", [], _, storeOne⟩, .of_usesOnly [] _ (by decide) ?_ (.ofList (by decide)) nofun
    (Guard.ofLocation_localsIn (hdimension node hsome) hl), ?_, rfl⟩
  · unfold dimensionText
    rw [List.nil_append]
    simp only [String.append_assoc]
    iterate 2 refine .literal (.of_nil (.ofList (by decide))) (by decide) ?_
    exact .last hsymbol (by decide) (.of_nil (.ofList (by decide)))
  · simp [Guard.lead, comments]

variable (hU : ∀ node, U node → node.IsMeasured)
include hU

lemma blockPosition_puts (word : String) :
    Puts U (fun r text => (∃ texts, text = comments texts) ∧ UsesOnly [] (shown r)) (blockPosition word) := by
  refine Puts.mono (Puts.operand (P := UsesOnly []) fun node hnode b a b' hrun => ?_) fun r text hQ => ?_
  · unfold Node.sourceVector at hrun
    cases hposition : node.position true sourcePosition sourceRotation with
    | error f =>
      rw [hposition] at hrun
      cases hrun
    | ok p =>
      rw [hposition] at hrun
      cases hrun
      exact node.usesOnly_position (hU node hnode) hposition
  · refine ⟨hQ.1, ?_⟩
    cases r with
    | none => exact .ofList (by decide)
    | some p => exact hQ.2 p rfl

lemma biomeCondition_puts : Puts U (GivesGuard U "biome") biomeCondition := by
  refine Puts.bind (blockPosition_puts hU "pos") ?_
  rintro position _ ⟨⟨texts, rfl⟩, hposition⟩
  refine Puts.bind (Puts.operand (P := fun biome => ∃ names, Guard.OfLocation U names ∧ UsesOnly names biome) ?_) ?_
  · intro node hnode b a b' hrun
    obtain ⟨l, b₁, hl, hrun⟩ := run_bind_eq_ok hrun
    cases hrun
    refine ⟨localsIn l.symbol, Guard.ofLocation_localsIn hnode (require_ok hl).1, ?_⟩
    have hsymbol := usesOnly_localsIn l.symbol
    cases l.isTag with
    | false => exact hsymbol
    | true =>
      exact UsesOnly.last (.literal (.of_nil (.ofList (by decide))) (by decide) hsymbol) (by decide)
        (.of_nil (.ofList (by decide)))
  rintro biome _ ⟨⟨texts', rfl⟩, hbiome⟩
  refine Puts.bind Puts.require ?_
  rintro biome' _ ⟨rfl, hsome⟩
  obtain ⟨names, hnames, huses⟩ := hbiome biome' hsome
  refine Puts.bind (Puts.emit _) ?_
  rintro _ _ rfl
  have hopening : UsesOnly ["blockpos"]
      "source.getLevel().isLoaded(blockpos) && source.getLevel().getBiome(blockpos).is(" := .ofList (by decide)
  have hdeclares : Declares "var blockpos = new BlockPos(" "blockpos" := by decide
  refine Puts.pure ⟨⟨texts ++ texts', "var blockpos = new BlockPos(" ++ shown position ++ ");\n", [], _, storeOne⟩,
    .of_usesOnly ["blockpos"] names (by decide) ?_ (.ofList (by decide)) ?_ hnames, ?_, rfl⟩
  · refine .last (.literal ?_ (by decide) ?_) (by decide) (.of_nil (.ofList (by decide)))
    · exact hopening.mono (List.subset_append_left _ _)
    · exact huses.mono (List.subset_append_right _ _)
  · rw [List.forall_mem_singleton, String.append_assoc]
    exact hdeclares.append _
  · simp [Guard.lead, comments, String.append_assoc]

lemma blockCondition_puts : Puts U (GivesGuard U "block") blockCondition := by
  refine Puts.bind (blockPosition_puts hU "pos") ?_
  rintro position _ ⟨⟨texts, rfl⟩, hposition⟩
  refine Puts.bind (Puts.operand (P := fun predicate => ∃ n, blockPredicateSymbol n = predicate) ?_) ?_
  · intro node _ b a b' hrun
    obtain ⟨-, entry, -, hentry⟩ := (declareBlockPredicate_runs downClosed_true trivial).ok hrun
    exact ⟨entry.2, hentry⟩
  rintro predicate _ ⟨⟨texts', rfl⟩, hpredicate⟩
  refine Puts.bind Puts.require ?_
  rintro _ _ ⟨rfl, hsome⟩
  obtain ⟨n, rfl⟩ := hpredicate _ hsome
  have htests : UsesOnly ["blockpos"] ("source.getLevel().isLoaded(blockpos) && " ++ blockPredicateSymbol n
      ++ ".matches(source.getLevel(), new BlockPos(" ++ shown position ++ "))") := by
    simp only [String.append_assoc]
    refine .literal (.ofList (by decide)) (by decide) ?_
    refine .before (.of_nil (usesOnly_blockPredicateSymbol n)) (by decide) ?_
    exact .literal (.ofList (by decide)) (by decide) (.last (.of_nil hposition) (by decide) (.ofList (by decide)))
  have hstore : UsesOnly [] storeOne := .ofList (by decide)
  refine Puts.pure ⟨⟨texts ++ texts', "", [], _, storeOne⟩, ⟨?_, fun _ => ⟨?_, rfl⟩⟩, ?_, rfl⟩
  · rintro v hv (htest | hresult)
    · exact .inr (.inl ⟨rfl, List.mem_singleton.mp (htests v hv htest)⟩)
    · exact absurd (hstore v hv hresult) List.not_mem_nil
  · simp only [String.append_assoc]
    exact mentions_literal (by decide) (by decide) _
  · simp [Guard.lead, comments]

omit hU in
lemma regions_fits (affirmed : Bool) {start stop destination mode : String} (hstart : UsesOnly [] start)
    (hstop : UsesOnly [] stop) (hdestination : UsesOnly [] destination) (hmode : UsesOnly [] mode)
    (before after : List String) :
    Guard.Fits U "blocks" ⟨before, if affirmed then "int totalBlocks = 0;" else "", after,
      regionsHead start stop destination ++ mode ++ (if affirmed then regionsTail else ""),
      storeCount affirmed "totalBlocks"⟩ := by
  cases affirmed with
  | true =>
    have hcount : UsesOnly ["totalBlocks"] "totalBlocks" := .ofList (by decide)
    have hdeclares : ∀ v ∈ ["totalBlocks"], Declares "int totalBlocks = 0;" v := by decide
    refine .of_usesOnly _ [] (by decide) ?_ (usesOnly_storeCount true hcount) hdeclares nofun
    dsimp only
    rw [if_pos rfl, String.append_assoc]
    exact usesOnly_regionsHead hstart hstop hdestination (usesOnly_regionsTail hmode)
  | false =>
    have hstore : UsesOnly [] storeOne := .ofList (by decide)
    refine .of_usesOnly [] [] (by decide) ?_ hstore nofun nofun
    dsimp only
    rw [if_neg Bool.false_ne_true, String.append_empty]
    exact usesOnly_regionsHead hstart hstop hdestination hmode

lemma regionsCondition_puts (affirmed : Bool) : Puts U (GivesGuard U "blocks") (regionsCondition affirmed) := by
  refine Puts.bind (blockPosition_puts hU "start") ?_
  rintro start _ ⟨⟨texts, rfl⟩, hstart⟩
  refine Puts.bind (blockPosition_puts hU "end") ?_
  rintro stop _ ⟨⟨texts', rfl⟩, hstop⟩
  refine Puts.bind (blockPosition_puts hU "destination") ?_
  rintro destination _ ⟨⟨texts'', rfl⟩, hdestination⟩
  have hmode : Puts U (fun r text => ∀ mode ∈ r, UsesOnly [] mode ∧ ∃ read, text = comment read)
      (next [("all", .plain (pure "")), ("masked", .plain (pure "if (original_state.isAir()) continue;\n"))]) := by
    refine Puts.mono (Puts.next (Q := fun mode text => text = "" ∧ UsesOnly [] mode) ⟨?_, ?_⟩) ?_
    · exact Puts.pure ⟨rfl, .ofList (by decide)⟩
    · exact Puts.pure ⟨rfl, .ofList (by decide)⟩
    · rintro r text (⟨rfl, rfl⟩ | ⟨read, mode, _, rfl, rfl, rfl, hmode⟩)
      · simp
      · simpa using hmode
  cases affirmed with
  | true =>
    refine Puts.bind (Puts.emit _) ?_
    rintro _ _ rfl
    refine Puts.bind hmode fun mode _ hmode => ?_
    refine Puts.bind Puts.require ?_
    rintro mode' _ ⟨rfl, rfl⟩
    obtain ⟨huses, read, rfl⟩ := hmode mode' rfl
    refine Puts.pure ⟨_, regions_fits true hstart hstop hdestination huses (texts ++ texts' ++ texts'') [read],
      ?_, rfl⟩
    simp [Guard.lead, comments, String.append_assoc]
  | false =>
    refine Puts.bind hmode fun mode _ hmode => ?_
    refine Puts.bind Puts.require ?_
    rintro mode' _ ⟨rfl, rfl⟩
    obtain ⟨huses, read, rfl⟩ := hmode mode' rfl
    refine Puts.pure ⟨_, regions_fits false hstart hstop hdestination huses (texts ++ texts' ++ texts'') [read],
      ?_, rfl⟩
    simp [Guard.lead, comments, String.append_assoc]

end

/-! ## The whole command -/

section

variable {U : Node → Prop} {s s' : Frame}

/-- A subcommand puts out its call, or nothing where it returns. -/
lemma runSubcommand_puts (o : Operand) : Puts U (fun _ _ => True) (runSubcommand o) := by
  have hend (m : Method) : Puts U (fun _ _ => True) (do
      modifyDraft fun d => { d with needsDispatcher := m.needsDispatcher, needsMacros := m.needsMacros }
      return ({ outcome := .finished } : Clause)) :=
    .bind (.modifyDraft (fun _ => rfl) (fun _ => rfl) (fun _ => rfl) fun _ => rfl) fun _ _ _ => .pure trivial
  have hbuild {α : Type} (x : BuildM α) : Puts U (fun _ _ => True) (onBuild x) :=
    .mono (.onBuild (P := fun _ => True) fun _ _ _ _ => trivial) fun _ _ _ => trivial
  unfold runSubcommand
  refine .bind (hbuild _) fun m _ _ => ?_
  split
  · exact .bind (.emit _) fun _ _ _ => hend m
  · refine .bind (hbuild _) fun key _ _ => .bind (hbuild _) fun _ _ _ => ?_
    refine .bind .get fun s₀ _ _ => ?_
    split
    · exact .bind (.emit _) fun _ _ _ => hend m
    · exact hend m

/-- What follows a condition: what it stores, if no subcommand is left. -/
lemma finish_result {code : String} {u : Unit} (hs : s.draft.Within U) (h : finish (.result code) s = .ok u s') :
    ∃ inner, s.PutsOut s' inner ∧ (inner = code ∨ subcommandWord ∈ s.draft.words) := by
  unfold finish at h
  rw [if_neg nofun] at h
  cases hwords : s.draft.words with
  | nil =>
    rw [run_bind, next_nil hwords] at h
    cases h
    exact ⟨code, s.putsOut_append code, .inl rfl⟩
  | cons word words =>
    obtain ⟨followed, s₁, hnext, hrest⟩ := run_bind_eq_ok h
    by_cases hword : word = subcommandWord
    · obtain ⟨text, hout, -⟩ := Puts.next (U := U) (Q := fun _ _ => True)
        (show List.Forall _ [("subcommand", .operand runSubcommand)] from fun o _ => runSubcommand_puts o)
        s hs followed s₁ hnext
      have hdone : ∃ text, s₁.PutsOut s' text := by
        cases followed with
        | none =>
          cases hrest
          exact ⟨code, s₁.putsOut_append code⟩
        | some c =>
          cases hrest
          exact ⟨"", .refl _⟩
      obtain ⟨text', hout'⟩ := hdone
      exact ⟨text ++ text', hout.trans hout', .inr (hword ▸ List.mem_cons_self)⟩
    · have hne : (word == "subcommand") = false := beq_false_of_ne hword
      rw [next_unknown hwords (by rw [List.lookup_cons, hne]; rfl)] at hnext
      cases hnext

/-- The code for a condition, up to what follows it. -/
lemma condition_guard (hU : ∀ node, U node → node.IsMeasured) {affirmed : Bool} {kind : String} {rest : List String}
    {c : Clause} (hs : s.draft.Within U) (hwords : s.draft.words = kind :: rest) (h : condition affirmed s = .ok c s') :
    ∃ g : Guard, g.Fits U kind ∧ c = ⟨guardClosing, .result g.result⟩ ∧
      s.PutsOut s' (comment kind ++ g.lead ++ guardCode affirmed g.test) ∧ s'.draft.words <:+ rest := by
  obtain ⟨found, s₁, hnext, h⟩ := run_bind_eq_ok h
  set handlers : Handlers (DraftM Condition) := [("biome", .plain biomeCondition), ("block", .plain blockCondition),
    ("blocks", .plain (regionsCondition affirmed)), ("data", .plain (dataCondition affirmed)),
    ("dimension", .plain dimensionCondition)] with hhandlers
  have hputs : handlers.Forall fun entry => ∃ x, entry.2 = .plain x ∧ Puts U (GivesGuard U entry.1) x :=
    ⟨⟨_, rfl, biomeCondition_puts hU⟩, ⟨_, rfl, blockCondition_puts hU⟩, ⟨_, rfl, regionsCondition_puts hU affirmed⟩,
      ⟨_, rfl, dataCondition_puts affirmed⟩, _, rfl, dimensionCondition_puts⟩
  cases hlookup : handlers.lookup kind with
  | none =>
    rw [next_unknown hwords hlookup] at hnext
    cases hnext
  | some handler =>
    obtain ⟨x, hx, hputs⟩ := List.forall_iff_forall_mem.mp hputs _ (mem_of_lookup hlookup)
    dsimp only at hx
    subst hx
    rw [next_plain hwords hlookup] at hnext
    obtain ⟨cond, hrun, rfl⟩ := run_map_eq_ok hnext
    have hread := s.putsOut_word hwords
    obtain ⟨text, hout, g, hfits, rfl, rfl⟩ := hputs _ (hread.within hs) _ _ hrun
    cases h
    exact ⟨g, hfits, rfl, (hread.trans hout).trans (s₁.putsOut_append _), hout.words⟩

/-- The code of a whole `execute` at a condition. -/
lemma execute_guard (hU : ∀ node, U node → node.IsMeasured) {affirmed : Bool} {kind : String} {rest : List String}
    {u : Unit} (hs : s.draft.Within U) (hwords : s.draft.words = conditionWord affirmed :: kind :: rest)
    (h : execute s = .ok u s') :
    ∃ (g : Guard) (inner : String), g.Fits U kind ∧ (inner = g.result ∨ subcommandWord ∈ rest) ∧
      s.PutsOut s' (comment (conditionWord affirmed) ++ (comment kind ++ g.lead ++ guardCode affirmed g.test)
        ++ inner ++ guardClosing) := by
  obtain ⟨found, s₁, hnext, h⟩ := run_bind_eq_ok h
  obtain ⟨u', s₂, hfinish, h⟩ := run_bind_eq_ok h
  cases h
  have hlookup : clauses.lookup (conditionWord affirmed) = some (.plain (condition affirmed)) := by
    cases affirmed <;> rfl
  rw [next_plain hwords hlookup] at hnext
  obtain ⟨clause, hrun, rfl⟩ := run_map_eq_ok hnext
  have hread := s.putsOut_word hwords
  obtain ⟨g, hfits, rfl, hguard, hrest⟩ := condition_guard hU (hread.within hs) rfl hrun
  obtain ⟨inner, hinner, hcases⟩ := finish_result (hguard.within (hread.within hs)) hfinish
  refine ⟨g, inner, hfits, hcases.imp id fun hmem => hrest.subset hmem, ?_⟩
  exact ((hread.trans hguard).trans hinner).trans (s₂.putsOut_append guardClosing)

end

/-- The method of a condition that is compiled for the first time. -/
lemma Compilation.exists_guard {c : Compilation} {affirmed : Bool} {kind : String} {rest : List String}
    (hwords : Text.splitColons c.identifier = executeWord :: conditionWord affirmed :: kind :: rest)
    (hmeasured : ∀ node ∈ c.arguments, node.IsMeasured) (hnew : c.IsNew)
    (hhandled : ∃ s, c.handled = .ok (some ⟨⟩) s) :
    ∃ (m : Method) (after : Build) (g : Guard) (inner : String), c.run = .ok m after ∧
      m.HasBody (thinned (g.lead ++ guardCode affirmed g.test ++ inner ++ guardClosing)) ∧
      (inner = g.result ∨ subcommandWord ∈ rest) ∧ g.Fits (· ∈ c.arguments) kind := by
  obtain ⟨s, hhandled⟩ := hhandled
  set s₀ := startFrame c.compiled (operandsOf c.compiled c.arguments) c.identifier c.before with hs₀
  have hwithin : s₀.draft.Within (· ∈ c.arguments) := by
    intro o ho
    obtain ⟨node, hnode, rfl⟩ := exists_of_mem_operandsOf ho
    exact hnode
  have hstart : s₀.draft.words = executeWord :: conditionWord affirmed :: kind :: rest := hwords
  have hread := s₀.putsOut_word hstart
  have hrun := hhandled
  rw [Compilation.handled, next_plain hwords rfl] at hrun
  obtain ⟨u, hexecute, -⟩ := run_map_eq_ok hrun
  obtain ⟨g, inner, hfits, hinner, hout⟩ := execute_guard hmeasured (hread.within hwithin) rfl hexecute
  have hreturns : s.draft.returns = .never := (hread.trans hout).returns
  have houtput : s.draft.output =
      Guard.lead { g with before := executeWord :: conditionWord affirmed :: kind :: g.before }
        ++ guardCode affirmed g.test ++ inner ++ guardClosing := by
    rw [(hread.trans hout).output]
    simp [hs₀, startFrame, startDraft, Guard.lead, comments, String.join_cons, String.append_assoc]
  have hbody := hasBody_ofOutput c.before.counter c.text s.draft.output s.draft.macros s.draft.needsDispatcher
    s.draft.needsMacros
  refine ⟨s.draft.method c.before.counter c.text, s.build.register c.text (s.draft.method c.before.counter c.text),
    { g with before := executeWord :: conditionWord affirmed :: kind :: g.before }, inner, ?_, ?_, hinner,
    hfits.declared, hfits.block⟩
  · rw [Compilation.run_eq]
    exact compileWith_native c.dump hnew hhandled
  · unfold Draft.method
    rw [hreturns, ← houtput]
    exact hbody

/-- Every condition, asked for or its failure, with a subcommand or without one, from any state. If the command is
new and its handler returns, its method declares the local variables that the condition or the result uses, above the
guard. A test of a block is the exception: it uses `blockpos` and declares nothing. The name of a location's constant
is one name unless the location has a dash or the like in it; then it may mention anything. -/
theorem condition_locals_declared (c : Compilation) (affirmed : Bool) (kind : String) (rest : List String)
    (hwords : Text.splitColons c.identifier = executeWord :: conditionWord affirmed :: kind :: rest)
    (hmeasured : ∀ node ∈ c.arguments, node.IsMeasured) (hnew : c.IsNew)
    (hhandled : ∃ s, c.handled = .ok (some ⟨⟩) s) :
    ∃ (m : Method) (after : Build) (g : Guard) (inner : String), c.run = .ok m after ∧
      m.HasBody (thinned (g.lead ++ guardCode affirmed g.test ++ inner ++ guardClosing)) ∧
      (inner = g.result ∨ subcommandWord ∈ rest) ∧
      (∀ v ∈ conditionLocals, g.Uses v → Declares g.declarations v ∨ (kind = "block" ∧ v = "blockpos") ∨
        ∃ node ∈ c.arguments, ∃ l, node.location? = some l ∧ Mentions l.symbol v) ∧
      (kind = "block" → Mentions g.test "blockpos" ∧ g.declarations = "") := by
  obtain ⟨m, after, g, inner, hrun, hbody, hinner, hfits⟩ :=
    Compilation.exists_guard hwords hmeasured hnew hhandled
  exact ⟨m, after, g, inner, hrun, hbody, hinner, hfits.declared, hfits.block⟩

lemma testedPosition_isMeasured : testedPosition.IsMeasured := by
  intro text x y z _
  exact ⟨⟨_, rfl⟩, ⟨_, rfl⟩, _, rfl⟩

def plains : ResourceLocation := ⟨"minecraft:plains", false, some "minecraft", "plains"⟩

/-- A test for the biome at a position. -/
def testForPlains : Compilation :=
  ⟨[], "if biome 0 64 0 minecraft:plains", "execute:if:biome:pos:biome", [testedPosition, .location plains], "", {}⟩

theorem biome_position_declared :
    ∃ (m : Method) (after : Build) (g : Guard), testForPlains.run = .ok m after ∧
      m.HasBody (thinned (g.lead ++ guardCode true g.test ++ g.result ++ guardClosing)) ∧
      ∀ v ∈ conditionLocals, g.Uses v → Declares g.declarations v := by
  have hmeasured : ∀ node ∈ testForPlains.arguments, node.IsMeasured := by
    have hlocation : (Node.location plains).IsMeasured := nofun
    simpa [testForPlains] using ⟨testedPosition_isMeasured, hlocation⟩
  have hsymbol : plains.symbol = "ResourceLocation_minecraft_plains" := by decide
  have hname : UsesOnly [] "ResourceLocation_minecraft_plains" := .ofList (by decide)
  have hlocation : ∀ node ∈ testForPlains.arguments, ∀ l, node.location? = some l → l = plains := by
    simp [testForPlains, testedPosition, Node.location?]
  obtain ⟨m, after, g, inner, hrun, hbody, hinner, hdeclared, -⟩ :=
    condition_locals_declared testForPlains true "biome" ["pos", "biome"] (by decide) hmeasured rfl ⟨_, rfl⟩
  obtain rfl : inner = g.result := hinner.resolve_right (by decide)
  refine ⟨m, after, g, hrun, hbody, fun v hv huses => ?_⟩
  rcases hdeclared v hv huses with hdeclares | ⟨hkind, -⟩ | ⟨node, hnode, l, hl, hmentions⟩
  · exact hdeclares
  · exact absurd hkind (by decide)
  · rw [hlocation node hnode l hl, hsymbol] at hmentions
    exact absurd (hname v hv hmentions) List.not_mem_nil

/-- A test for the block at the same position. -/
def testForSand : Compilation :=
  ⟨[], "if block 0 64 0 minecraft:sand", "execute:if:block:pos:block", [testedPosition, plainBlock sand], "", {}⟩

theorem block_position_undeclared :
    ∃ (m : Method) (after : Build) (g : Guard), testForSand.run = .ok m after ∧
      m.HasBody (thinned (g.lead ++ guardCode true g.test ++ g.result ++ guardClosing)) ∧
      g.Uses "blockpos" ∧ ¬Declares g.declarations "blockpos" := by
  have hmeasured : ∀ node ∈ testForSand.arguments, node.IsMeasured := by
    have hblock : (plainBlock sand).IsMeasured := nofun
    simpa [testForSand] using ⟨testedPosition_isMeasured, hblock⟩
  have hwords : Text.splitColons testForSand.identifier =
      executeWord :: conditionWord true :: "block" :: ["pos", "block"] := by decide
  obtain ⟨m, after, g, inner, hrun, hbody, hinner, hfits⟩ :=
    Compilation.exists_guard hwords hmeasured rfl ⟨_, rfl⟩
  obtain rfl : inner = g.result := hinner.resolve_right (by decide)
  obtain ⟨hmentions, hdeclarations⟩ := hfits.block rfl
  refine ⟨m, after, g, hrun, hbody, .inl hmentions, ?_⟩
  rw [hdeclarations]
  decide

end PackToMod
