import PackToMod.Proofs.Nesting

/-!
# Constructs that are not known

A predicate among the arguments of a selector is a reason to leave the command to the dispatcher. An
argument with an unknown key is none, and neither is a tag with a value of unknown type, however deep it
lies: the fault ends the compilation of the command, and of every command around it.
-/

namespace PackToMod

open Build DraftM

/-- Faults of constructs that a selector or a tag may have and that have no meaning here. -/
def Fault.isUnknownConstruct : Fault → Bool
  | .unknownSelectorKey _ | .unknownTagType => true
  | _ => false

variable {f : Fault} {b : Build} {node : Node}

lemma kind_of_isUnknownConstruct (hf : f.isUnknownConstruct = true) : f.kind = .type := by
  cases f with
  | unknownSelectorKey | unknownTagType => rfl
  | _ => exact nomatch hf

/-! ## Tags -/

/-- A leaf whose value has a type that tags do not have. -/
def Node.isUnknownValue : Node → Bool
  | .tagFlag .. => false
  | .tagScalar _ value => value.type?.isNone
  | node => node.value?.isSome

/-- A tag whose values all have a known type. -/
inductive Node.IsTag : Node → Prop
  | flag (text : String) (value : Bool ⊕ Int) : IsTag (.tagFlag text value)
  | scalar (text : String) {value : TagScalar} {type : TagType} (h : value.type? = some type) :
    IsTag (.tagScalar text value)
  | list (text : String) {elements : List Node} (h : ∀ e ∈ elements, IsTag e) : IsTag (.tagList text elements)
  | compound (text : String) {entries : List (String × Node)} (h : ∀ e ∈ entries, IsTag e.2) :
    IsTag (.tagCompound text entries)

/-- A tag with a value of unknown type inside it, and only known ones before. -/
inductive Node.HoldsUnknown : Node → Prop
  | value {node : Node} (h : node.isUnknownValue = true) : HoldsUnknown node
  | list (text : String) {before after : List Node} {node : Node} (hbefore : ∀ e ∈ before, e.IsTag)
    (h : HoldsUnknown node) : HoldsUnknown (.tagList text (before ++ node :: after))
  | compound (text : String) {before after : List (String × Node)} {key : String} {node : Node}
    (hbefore : ∀ e ∈ before, e.2.IsTag) (h : HoldsUnknown node) :
    HoldsUnknown (.tagCompound text (before ++ (key, node) :: after))

/-- A list or a compound with the steps of its parts. -/
def container (isLocal : Bool) (target : TagTerm) (value : TagExpression) (steps : List TagStep) :
    TagConstant :=
  ⟨target, .assign isLocal target value :: steps⟩

section

variable {α : Type} (link : α → TagTerm → TagStep) (part : α → Node)

/-- Parts of a container, each with the step that links it to the container. -/
def lowerParts : List α → NumberingM (List TagStep)
  | [] => pure []
  | a :: as => do
    let tag ← (part a).lowerTag true
    return tag.steps ++ link a tag.root :: (← lowerParts as)

variable {link part} {before after : List α} {a : α}

lemma lowerParts_ok {as : List α} (h : ∀ a ∈ as, ∀ n, ∃ tag n', (part a).lowerTag true n = .ok tag n')
    (n : Nat) : ∃ steps n', lowerParts link part as n = .ok steps n' := by
  induction as generalizing n with
  | nil => exact ⟨[], n, rfl⟩
  | cons a as ih =>
    obtain ⟨tag, n₁, htag⟩ := h a List.mem_cons_self n
    obtain ⟨steps, n₂, hsteps⟩ := ih (fun e he => h e (List.mem_cons_of_mem _ he)) n₁
    refine ⟨tag.steps ++ link a tag.root :: steps, n₂, ?_⟩
    simp [lowerParts, htag, hsteps]

/-- The first part that has a fault ends the work on the container. -/
lemma lowerParts_error (hbefore : ∀ a ∈ before, ∀ n, ∃ tag n', (part a).lowerTag true n = .ok tag n')
    (ha : ∀ n, ∃ n', (part a).lowerTag true n = .error f n') (n : Nat) :
    ∃ n', lowerParts link part (before ++ a :: after) n = .error f n' := by
  induction before generalizing n with
  | nil =>
    obtain ⟨n', hn'⟩ := ha n
    exact ⟨n', by simp [lowerParts, hn']⟩
  | cons e before ih =>
    obtain ⟨tag, n₁, htag⟩ := hbefore e List.mem_cons_self n
    obtain ⟨n₂, hn₂⟩ := ih (fun e he => hbefore e (List.mem_cons_of_mem _ he)) n₁
    exact ⟨n₂, by simp [lowerParts, htag, hn₂]⟩

variable {isLocal : Bool} {target : TagTerm} {value : TagExpression}

lemma container_ok {as : List α} (h : ∀ a ∈ as, ∀ n, ∃ tag n', (part a).lowerTag true n = .ok tag n')
    (n : Nat) : ∃ tag n', (container isLocal target value <$> lowerParts link part as) n = .ok tag n' := by
  obtain ⟨steps, n', hsteps⟩ := lowerParts_ok h n
  rw [run_map, hsteps]
  exact ⟨_, n', rfl⟩

lemma container_error (hbefore : ∀ a ∈ before, ∀ n, ∃ tag n', (part a).lowerTag true n = .ok tag n')
    (ha : ∀ n, ∃ n', (part a).lowerTag true n = .error f n') (n : Nat) :
    ∃ n', (container isLocal target value <$> lowerParts link part (before ++ a :: after)) n =
      .error f n' := by
  obtain ⟨n', hn'⟩ := lowerParts_error hbefore ha n
  rw [run_map, hn']
  exact ⟨n', rfl⟩

end

lemma lowerElements_eq (target : TagTerm) (elements : List Node) :
    lowerElements target elements = lowerParts (fun _ => .add target) id elements := by
  induction elements with
  | nil =>
    rw [lowerElements]
    rfl
  | cons e elements ih =>
    rw [lowerElements, ih]
    rfl

lemma lowerEntries_eq (target : TagTerm) (entries : List (String × Node)) :
    lowerEntries target entries = lowerParts (fun e => .put target e.1) Prod.snd entries := by
  induction entries with
  | nil =>
    rw [lowerEntries]
    rfl
  | cons e entries ih =>
    rw [lowerEntries, ih]
    rfl

lemma lowerTag_list (isLocal : Bool) (text : String) (elements : List Node) (n : Nat) :
    (Node.tagList text elements).lowerTag isLocal n =
      (container isLocal (.variable .list n) .newList <$>
        lowerParts (fun _ => .add (.variable .list n)) id elements) (n + 1) := by
  rw [Node.lowerTag, ← lowerElements_eq]
  rfl

lemma lowerTag_compound (isLocal : Bool) (text : String) (entries : List (String × Node)) (n : Nat) :
    (Node.tagCompound text entries).lowerTag isLocal n =
      (container isLocal (.variable .compound n) .newCompound <$>
        lowerParts (fun e => .put (.variable .compound n) e.1) Prod.snd entries) (n + 1) := by
  rw [Node.lowerTag, ← lowerEntries_eq]
  rfl

lemma Node.IsTag.lowerTag_ok (h : node.IsTag) (isLocal : Bool) (n : Nat) :
    ∃ tag n', node.lowerTag isLocal n = .ok tag n' := by
  induction h generalizing isLocal n with
  | flag text value =>
    unfold Node.lowerTag
    exact ⟨_, n, rfl⟩
  | scalar text hvalue =>
    rw [Node.lowerTag, hvalue]
    exact ⟨_, n + 1, rfl⟩
  | list text _ ih =>
    rw [lowerTag_list]
    exact container_ok (fun e he => ih e he true) (n + 1)
  | compound text _ ih =>
    rw [lowerTag_compound]
    exact container_ok (fun e he => ih e he true) (n + 1)

lemma lowerTag_of_isUnknownValue (h : node.isUnknownValue = true) (isLocal : Bool) (n : Nat) :
    node.lowerTag isLocal n = .error .unknownTagType n := by
  unfold Node.isUnknownValue at h
  split at h
  case h_1 => cases h
  case h_2 text value =>
    rw [Node.lowerTag, Option.isNone_iff_eq_none.mp h]
    rfl
  case h_3 hflag hscalar =>
    rw [Node.lowerTag, if_pos h]
    · rfl
    · exact hflag
    · rintro text entries rfl
      cases h
    · rintro text elements rfl
      cases h
    · exact hscalar

theorem Node.HoldsUnknown.lowerTag_error (h : node.HoldsUnknown) (isLocal : Bool) (n : Nat) :
    ∃ n', node.lowerTag isLocal n = .error .unknownTagType n' := by
  induction h generalizing isLocal n with
  | value hvalue => exact ⟨n, lowerTag_of_isUnknownValue hvalue isLocal n⟩
  | list text hbefore _ ih =>
    rw [lowerTag_list]
    exact container_error (fun e he => (hbefore e he).lowerTag_ok true) (ih true) (n + 1)
  | compound text hbefore _ ih =>
    rw [lowerTag_compound]
    exact container_error (fun e he => (hbefore e he).lowerTag_ok true) (ih true) (n + 1)

lemma Node.HoldsUnknown.text?_ne_none (h : node.HoldsUnknown) : node.text? ≠ none := by
  cases h with
  | value h =>
    cases node with
    | absent => exact nomatch h
    | _ => exact Option.some_ne_none _
  | list | compound => exact Option.some_ne_none _

/-- A tag that is new to a build and holds a value of unknown type. -/
structure Node.IsUnknownTag (b : Build) (node : Node) : Prop where
  holds : node.HoldsUnknown
  isNew : ∀ text, node.text? = some text → b.tags.get? text = none

theorem Node.IsUnknownTag.declareTag_error (h : node.IsUnknownTag b) :
    ∃ b', node.declareTag b = .error .unknownTagType b' := by
  obtain ⟨text, htext⟩ := Option.ne_none_iff_exists'.mp h.holds.text?_ne_none
  obtain ⟨n, hn⟩ := h.holds.lowerTag_error false (b.counter + 1)
  refine ⟨{ b with counter := n }, ?_⟩
  simp [Node.declareTag, Node.key, BuildM.require, htext, h.isNew text htext, BuildM.numbering, hn]

/-! ## Selectors -/

/-- An argument whose key is not known, or whose tag holds a value of unknown type. -/
inductive SelectorArgument.IsUnknown (b : Build) (a : SelectorArgument Node) : Fault → Prop
  | key (h : SelectorKey.ofText? a.key = none) : IsUnknown b a (.unknownSelectorKey a.key)
  | tag (hkey : a.key = "nbt") (h : a.value.IsUnknownTag b) : IsUnknown b a .unknownTagType

lemma SelectorArgument.IsUnknown.applyArgument_error {a : SelectorArgument Node} (h : a.IsUnknown b f)
    (q : Query) : ∃ b', q.applyArgument a b = .error f b' := by
  cases h with
  | key h => exact ⟨b, by simp [Query.applyArgument, BuildM.require, h]⟩
  | tag hkey h =>
    have hnbt : SelectorKey.ofText? a.key = some .nbt := by
      rw [hkey]
      decide
    obtain ⟨b', hb'⟩ := h.declareTag_error
    exact ⟨b', by simp [Query.applyArgument, BuildM.require, hnbt, Query.applyKey, hb']⟩

lemma applyArguments_append (q : Query) (known rest : List (SelectorArgument Node)) :
    q.applyArguments (known ++ rest) = q.applyArguments known >>= fun q' => q'.applyArguments rest := by
  induction known generalizing q with
  | nil => rfl
  | cons a known ih => simp only [List.cons_append, Query.applyArguments, ih, bind_assoc]

/-- A selector that is new to a build and comes to an unknown argument after arguments that it can take. -/
inductive Node.IsUnknownSelector (b : Build) (players : Bool) : Node → Fault → Prop
  | intro {text target : String} {known rest : List (SelectorArgument Node)} {a : SelectorArgument Node}
    {q : Query} {b' : Build} {f : Fault} (hnew : b.selectors.get? text = none)
    (hknown : (Query.ofVariable players target).applyArguments known { b with counter := b.counter + 1 } =
      .ok q b')
    (ha : a.IsUnknown b' f) : IsUnknownSelector b players (.selector text target (known ++ a :: rest)) f

lemma isUnknownSelector_of_head {players : Bool} {text target : String} {a : SelectorArgument Node}
    {rest : List (SelectorArgument Node)} (hnew : b.selectors.get? text = none)
    (ha : a.IsUnknown { b with counter := b.counter + 1 } f) :
    (Node.selector text target (a :: rest)).IsUnknownSelector b players f :=
  @Node.IsUnknownSelector.intro b players text target [] rest a _ _ f hnew rfl ha

theorem Node.IsUnknownSelector.find_error {players : Bool} (h : node.IsUnknownSelector b players f)
    (single : Bool) : ∃ b', node.find single players b = .error f b' := by
  cases h with | @intro text target known rest a q b₁ f hnew hknown ha
  obtain ⟨b', hb'⟩ := ha.applyArgument_error q
  refine ⟨b', ?_⟩
  simp [Node.find, Node.key, Node.text?, BuildM.require, hnew, Node.query, applyArguments_append, hknown,
    Query.applyArguments, hb']

/-! ## Commands -/

section

variable {α : Type} {handlers : Handlers (DraftM α)} {s : Frame} {word text : String} {words : List String}
  {o : Operand} {operands : List Operand}

/-- A word whose handler fails on the operands and the words that follow. -/
lemma next_plain_error {x : DraftM α} (hwords : s.draft.words = word :: words)
    (hlookup : handlers.lookup word = some (.plain x))
    (hx : ∀ s₁ : Frame, s₁.build = s.build → s₁.draft.words = words → s₁.draft.operands = s.draft.operands →
      ∃ s', x s₁ = .error f s') : ∃ s', next handlers s = .error f s' := by
  obtain ⟨s', hs'⟩ := hx { s with draft := { s.draft with words }.append (comment word) } rfl rfl rfl
  rw [next_plain hwords hlookup, run_map, hs']
  exact ⟨s', rfl⟩

/-- A word whose handler fails on the operand that it takes. -/
lemma next_operand_error {run : Operand → DraftM α} (hwords : s.draft.words = word :: words)
    (hlookup : handlers.lookup word = some (.operand run)) (hoperands : s.draft.operands = o :: operands)
    (htext : o.node.text? = some text)
    (hrun : ∀ s₁ : Frame, s₁.build = s.build → ∃ s', run o s₁ = .error f s') :
    ∃ s', next handlers s = .error f s' := by
  obtain ⟨s', hs'⟩ := hrun { s with draft := { s.draft with words, operands }.append (comment text) } rfl
  rw [next_operand hwords hlookup hoperands htext, run_map, hs']
  exact ⟨s', rfl⟩

lemma bind_error {β : Type} {x : DraftM α} (hx : ∃ s', x s = .error f s') (k : α → DraftM β) :
    ∃ s', (x >>= k) s = .error f s' := by
  obtain ⟨s', hs'⟩ := hx
  rw [run_bind, hs']
  exact ⟨s', rfl⟩

lemma onBuild_error {x : BuildM α} (hx : ∃ b', x s.build = .error f b') :
    ∃ s', onBuild x s = .error f s' := by
  obtain ⟨b', hb'⟩ := hx
  rw [onBuild, hb']
  exact ⟨_, rfl⟩

lemma emitOver_error {x : DraftM String} (hx : ∃ s', x s = .error f s') : ∃ s', emitOver x s = .error f s' := by
  obtain ⟨s', hs'⟩ := hx
  refine ⟨s', ?_⟩
  simp [emitOver, hs']

end

/-- On words that begin with `ws`, a fault of looking for the entities of the first operand is one of `x`. -/
def FindsFirst {α : Type} (single players : Bool) (ws : List String) (x : DraftM α) : Prop :=
  ∀ (s : Frame) (words : List String) (o : Operand) (operands : List Operand) (text : String) (f : Fault),
    s.draft.words = ws ++ words → s.draft.operands = o :: operands → o.node.text? = some text →
    (∃ b', o.node.find single players s.build = .error f b') → ∃ s', x s = .error f s'

namespace FindsFirst

variable {α β : Type} {handlers : Handlers (DraftM α)} {single players : Bool} {word : String} {ws : List String}

lemma bind {x : DraftM α} (h : FindsFirst single players ws x) (k : α → DraftM β) :
    FindsFirst single players ws (x >>= k) :=
  fun s words o operands text f hwords hoperands htext hfind =>
    bind_error (h s words o operands text f hwords hoperands htext hfind) k

lemma emitOver {x : DraftM String} (h : FindsFirst single players ws x) :
    FindsFirst single players ws (DraftM.emitOver x) :=
  fun s words o operands text f hwords hoperands htext hfind =>
    emitOver_error (h s words o operands text f hwords hoperands htext hfind)

/-- A word before the one that takes the operand. -/
lemma next_plain {x : DraftM α} (hlookup : handlers.lookup word = some (.plain x))
    (h : FindsFirst single players ws x) : FindsFirst single players (word :: ws) (next handlers) := by
  intro s words o operands text f hwords hoperands htext hfind
  refine next_plain_error hwords hlookup fun s₁ hb hw ho => ?_
  rw [← hb] at hfind
  exact h s₁ words o operands text f hw (ho.trans hoperands) htext hfind

/-- The word that takes the operand. -/
lemma next_operand {run : Operand → DraftM α} (hlookup : handlers.lookup word = some (.operand run))
    (hrun : ∀ (s : Frame) (o : Operand) (f : Fault), (∃ b', o.node.find single players s.build = .error f b') →
      ∃ s', run o s = .error f s') : FindsFirst single players [word] (next handlers) := by
  intro s words o operands text f hwords hoperands htext hfind
  refine next_operand_error hwords hlookup hoperands htext fun s₁ hb => ?_
  rw [← hb] at hfind
  exact hrun s₁ o f hfind

lemma operand (word : String) :
    FindsFirst single players [word] (DraftM.operand word fun node => node.find single players) :=
  next_operand (by simp) fun _ _ _ hfind => onBuild_error hfind

end FindsFirst

lemma teleport_findsFirst : FindsFirst false false ["targets"] teleport := by
  refine .bind (.next_operand rfl fun s o f hfind => ?_) _
  exact bind_error (bind_error (onBuild_error hfind) _) _

lemma kill_findsFirst : FindsFirst false false ["targets"] kill :=
  .bind (.next_operand rfl fun _ _ _ hfind => bind_error (onBuild_error hfind) _) _

/-- Only `give` looks for players. -/
lemma give_findsFirst : FindsFirst false true ["targets"] give :=
  .bind (.next_operand rfl fun _ _ _ hfind => bind_error (onBuild_error hfind) _) _

lemma fork_findsFirst (statement : String) : FindsFirst false false ["targets"] (fork statement) :=
  .bind (.emitOver (.bind (.operand _) _)) _

lemma forkInto_findsFirst (statement : String) : FindsFirst false false ["targets"] (forkInto statement) :=
  .bind (.operand _) _

lemma positioned_findsFirst : FindsFirst false false ["as", "targets"] positioned :=
  .bind (.next_plain rfl (forkInto_findsFirst _)) _

lemma rotated_findsFirst : FindsFirst false false ["as", "targets"] rotated :=
  .bind (.next_plain rfl (forkInto_findsFirst _)) _

lemma face_findsFirst : FindsFirst true false ["entity", "facingEntity"] face := by
  refine .bind (.next_plain rfl (.bind (.next_operand rfl fun s o f hfind => ?_) _)) _
  exact bind_error (onBuild_error hfind) _

lemma condition_findsFirst (affirmed : Bool) :
    FindsFirst true false ["data", "entity", "source"] (condition affirmed) := by
  have haccess : FindsFirst true false ["entity", "source"] accessData := .next_plain rfl (.bind (.operand _) _)
  have hdata : FindsFirst true false ["entity", "source"] (dataCondition affirmed) :=
    .bind (.emitOver (.bind haccess _)) _
  exact .bind (.next_plain rfl hdata) _

lemma execute_findsFirst {single players : Bool} {word : String} {ws : List String} {x : DraftM Clause}
    (hlookup : clauses.lookup word = some (.plain x)) (h : FindsFirst single players ws x) :
    FindsFirst single players ("execute" :: word :: ws) (next commands) :=
  .next_plain rfl (.bind (.next_plain hlookup h) _)

/-- The beginnings of commands by which the first operand is a selector, with whether a single entity is looked for
and whether it has to be a player. -/
def selectorWords : List (List String × Bool × Bool) :=
  [(["kill", "targets"], false, false),
    (["tp", "targets"], false, false),
    (["teleport", "targets"], false, false),
    (["give", "targets"], false, true),
    (["execute", "as", "targets"], false, false),
    (["execute", "at", "targets"], false, false),
    (["execute", "positioned", "as", "targets"], false, false),
    (["execute", "rotated", "as", "targets"], false, false),
    (["execute", "facing", "entity", "facingEntity"], true, false),
    (["execute", "if", "data", "entity", "source"], true, false),
    (["execute", "unless", "data", "entity", "source"], true, false)]

lemma commands_findFirst {single players : Bool} {ws : List String} (h : (ws, single, players) ∈ selectorWords) :
    FindsFirst single players ws (next commands) := by
  simp only [selectorWords, List.mem_cons, Prod.mk.injEq, List.not_mem_nil, or_false] at h
  rcases h with ⟨rfl, rfl, rfl⟩ | ⟨rfl, rfl, rfl⟩ | ⟨rfl, rfl, rfl⟩ | ⟨rfl, rfl, rfl⟩ | ⟨rfl, rfl, rfl⟩ |
    ⟨rfl, rfl, rfl⟩ | ⟨rfl, rfl, rfl⟩ | ⟨rfl, rfl, rfl⟩ | ⟨rfl, rfl, rfl⟩ | ⟨rfl, rfl, rfl⟩ | ⟨rfl, rfl, rfl⟩
  · exact .next_plain rfl kill_findsFirst
  · exact .next_plain rfl teleport_findsFirst
  · exact .next_plain rfl teleport_findsFirst
  · exact .next_plain rfl give_findsFirst
  · exact execute_findsFirst rfl (fork_findsFirst _)
  · exact execute_findsFirst rfl (fork_findsFirst _)
  · exact execute_findsFirst rfl positioned_findsFirst
  · exact execute_findsFirst rfl rotated_findsFirst
  · exact execute_findsFirst rfl (.bind face_findsFirst _)
  · exact execute_findsFirst rfl (condition_findsFirst true)
  · exact execute_findsFirst rfl (condition_findsFirst false)

namespace Compilation

variable {c d : Compilation}

/-- A fault of `x` on `b` is one of the handler, which comes to run it there. -/
def RunsInto {α : Type} (c : Compilation) (x : BuildM α) (b : Build) : Prop :=
  ∀ f b', x b = .error f b' → ∃ s, c.handled = .error f s

/-- The handler of the command comes to a construct that is not known. -/
inductive MeetsUnknown (c : Compilation) : Fault → Prop
  | selector {b : Build} {node : Node} {single players : Bool} {f : Fault}
    (hruns : c.RunsInto (node.find single players) b) (h : node.IsUnknownSelector b players f) :
    MeetsUnknown c f
  | tag {b : Build} {node : Node} (hruns : c.RunsInto node.declareTag b) (h : node.IsUnknownTag b) :
    MeetsUnknown c .unknownTagType

lemma MeetsUnknown.isUnknownConstruct (h : c.MeetsUnknown f) : f.isUnknownConstruct = true := by
  cases h with
  | tag => rfl
  | selector _ h =>
    obtain ⟨-, -, ha⟩ := h
    cases ha with
    | key | tag => rfl

lemma MeetsUnknown.handled (h : c.MeetsUnknown f) : ∃ s, c.handled = .error f s := by
  cases h with
  | selector hruns h =>
    obtain ⟨b', hb'⟩ := h.find_error _
    exact hruns _ b' hb'
  | tag hruns h =>
    obtain ⟨b', hb'⟩ := h.declareTag_error
    exact hruns _ b' hb'

/-- A fault that is not for the dispatcher passes all commands around the one that has it. -/
lemma run_error_of_enters (h : Relation.ReflTransGen Enters c d) (hnew : c.IsNew)
    (hd : ∃ s, d.handled = .error f s) (hf : f.isDispatched = false) : ∃ after, c.run = .error f after := by
  induction h using Relation.ReflTransGen.head_induction_on with
  | refl =>
    obtain ⟨s, hs⟩ := hd
    rw [run_eq]
    exact ⟨_, compileWith_failing d.dump hnew hs hf⟩
  | head henters _ ih =>
    obtain ⟨after, hafter⟩ := ih henters.inner_new
    exact ⟨_, henters.run_error hafter hf⟩

/-- In each of these commands an unknown selector is met, as it is the first operand. -/
lemma selector_meetsUnknown {single players : Bool} {ws words : List String} {node : Node} {arguments : List Node}
    (hws : (ws, single, players) ∈ selectorWords) (hidentifier : Text.splitColons c.identifier = ws ++ words)
    (harguments : c.arguments = node :: arguments)
    (h : node.IsUnknownSelector { c.before with counter := c.before.counter + 1 } players f) :
    c.MeetsUnknown f := by
  have htext : ∃ text, node.text? = some text := by
    cases h with
    | intro => exact ⟨_, rfl⟩
  obtain ⟨text, htext⟩ := htext
  have hoperands : operandsOf c.compiled c.arguments =
      ⟨node, node.compile c.compiled⟩ :: operandsOf c.compiled arguments := by
    rw [harguments, operandsOf]
  have hruns : c.RunsInto (node.find single players) { c.before with counter := c.before.counter + 1 } :=
    fun f' b' hfind => commands_findFirst hws _ words _ _ text f' hidentifier hoperands htext ⟨b', hfind⟩
  exact .selector hruns h

lemma targets_meetsUnknown {word : String} {words : List String} {node : Node} {arguments : List Node}
    (hword : word ∈ ["kill", "tp", "teleport", "give"])
    (hidentifier : Text.splitColons c.identifier = word :: "targets" :: words)
    (harguments : c.arguments = node :: arguments)
    (h : node.IsUnknownSelector { c.before with counter := c.before.counter + 1 } (word = "give") f) :
    c.MeetsUnknown f := by
  have hplaces : ∀ word ∈ ["kill", "tp", "teleport", "give"],
      ([word, "targets"], false, decide (word = "give")) ∈ selectorWords := by decide
  exact selector_meetsUnknown (hplaces word hword) hidentifier harguments h

end Compilation

/-- After any requests, a new command that comes to an unknown construct, in itself or in a command
compiled along, is not compiled. The fault ends the work on each of the commands up to it, and nothing is
registered. -/
theorem unknown_construct_aborts (rs : List Request) (compiled : List String) (text identifier : String)
    (arguments : List Node) (dump : String) (d : Compilation) (f : Fault) :
    let c : Compilation := ⟨compiled, text, identifier, arguments, dump, ({} : Build).after rs⟩
    c.IsNew → Relation.ReflTransGen Compilation.Enters c d → d.MeetsUnknown f →
      ∃ inner after, c.run = .error f after ∧ c.FailsAlong inner f f after ∧ f.logLine = "TypeError" := by
  intro c hnew henters hmeets
  have hsound : c.before.Sound := (Build.sound_empty.after_extends rs).2
  have hf := hmeets.isUnknownConstruct
  have hdispatched : f.isDispatched = false := by
    rw [Fault.isDispatched, kind_of_isUnknownConstruct hf]
    rfl
  obtain ⟨after, hrun⟩ := Compilation.run_error_of_enters henters hnew hmeets.handled hdispatched
  obtain ⟨inner, f₀, hfails⟩ := Compilation.exists_failsAlong hsound hrun
  obtain rfl : f = f₀ := by
    rcases hfails.arises.2 with ⟨-, heq⟩ | ⟨-, e, -, rfl⟩
    · exact heq
    · exact nomatch hf
  refine ⟨inner, after, hrun, hfails, ?_⟩
  cases f with
  | unknownSelectorKey | unknownTagType => rfl
  | _ => exact nomatch hf

/-- A value of unknown type in a list, in a compound, in a selector. -/
theorem nested_unknown_tag_aborts :
    let tag := Node.tagCompound ""
      [("a", .tagFlag "" (.inl true)), ("b", .tagList "" [.tagScalar "" (.unknown "")])]
    let c : Compilation :=
      ⟨[], "", "tp:targets:location", [.selector "" "e" [⟨"nbt", false, tag⟩]], "", {}⟩
    c.IsNew ∧ c.MeetsUnknown .unknownTagType ∧ ∃ inner after, c.run = .error .unknownTagType after ∧
      c.FailsAlong inner .unknownTagType .unknownTagType after := by
  intro tag c
  have hlist : (Node.tagList "" [.tagScalar "" (.unknown "")]).HoldsUnknown :=
    @Node.HoldsUnknown.list "" [] [] _ (by simp) (.value rfl)
  have htag : tag.HoldsUnknown :=
    @Node.HoldsUnknown.compound "" [("a", .tagFlag "" (.inl true))] [] "b" _ (by simp [Node.IsTag.flag]) hlist
  have hwords : Text.splitColons c.identifier = ["tp", "targets", "location"] := by decide
  have hmeets : c.MeetsUnknown .unknownTagType :=
    Compilation.targets_meetsUnknown (by decide) hwords rfl
      (isUnknownSelector_of_head rfl (.tag rfl ⟨htag, fun _ _ => rfl⟩))
  obtain ⟨inner, after, hrun, hfails, -⟩ := unknown_construct_aborts [] [] "" "tp:targets:location"
    [.selector "" "e" [⟨"nbt", false, tag⟩]] "" c .unknownTagType rfl .refl hmeets
  exact ⟨rfl, hmeets, inner, after, hrun, hfails⟩

/-- The key of a common selector argument is not known, and the command is not left to the dispatcher. -/
theorem limited_selector_aborts :
    let c : Compilation := ⟨[], "kill @e[limit=1]", "kill:targets",
      [.selector "@e[limit=1]" "e" [⟨"limit", false, .number "1" (.integer 1)⟩]], "", {}⟩
    c.IsNew ∧ c.MeetsUnknown (.unknownSelectorKey "limit") ∧
      ∃ after, c.run = .error (.unknownSelectorKey "limit") after := by
  intro c
  have hwords : Text.splitColons c.identifier = ["kill", "targets"] := by decide
  have hmeets : c.MeetsUnknown (.unknownSelectorKey "limit") :=
    Compilation.targets_meetsUnknown (by decide) hwords rfl
      (isUnknownSelector_of_head rfl (.key (by decide)))
  exact ⟨rfl, hmeets, Compilation.run_error_of_enters .refl rfl hmeets.handled (by decide)⟩

end PackToMod
