import PackToMod.Proofs.ComponentPatches
import PackToMod.Proofs.LocationNames
import PackToMod.Proofs.StaticBlock

/-!
# Block predicates

A block predicate is declared without a value, like a tag, a patch or a selector. The static block has a section for
block predicates too, but nothing is ever put into it, and no statement of the other sections assigns a block
predicate either. So every test for a block leaves a declared field that is never assigned.

Unlike the others, a block predicate is registered before its parts are looked at. So it stays registered if they are
unusable, and the next request for it does not fail.
-/

namespace PackToMod

open Build

/-! ## The static block -/

/-- A part of the static block: a title, and the initialisers below it. -/
structure StaticSection where
  title : String
  initialisers : List Initialiser

/-- The initialisers, each below the text that it is registered under. -/
def initialiserListing (initialisers : List Initialiser) : String :=
  String.ofList (Text.trimEnd (((initialisers.map fun i => "// " ++ i.text ++ "\n" ++ i.code).intersperse "").flatMap
    String.toList))

def StaticSection.code (s : StaticSection) : String :=
  "/* " ++ s.title ++ " */\n            " ++ initialiserListing s.initialisers

def staticBlock (sections : List StaticSection) : String :=
  "static \x7b\n            " ++ Text.sepBy "\n            \n            " (sections.map StaticSection.code)
    ++ "\n        \x7d"

def Build.staticSections (b : Build) : List StaticSection :=
  [⟨"nbt", b.initialisers .tags⟩, ⟨"components", b.initialisers .patches⟩, ⟨"selectors", b.initialisers .selectors⟩,
    ⟨"block predicates", []⟩]

lemma Registry.listing_eq {α : Type} (render : α → String) (r : Registry α) :
    r.listing render "" = initialiserListing (r.entries.map fun entry => ⟨entry.1, render entry.2⟩) := by
  unfold Registry.listing initialiserListing
  rw [List.map_map]
  rfl

/-- The static block as it stands among the members of the generated class, before the methods. -/
lemma Build.members_eq (b : Build) :
    ∃ before after, b.members = before ++ staticBlock b.staticSections ++ after := by
  have hopening : "\n        \n        static \x7b\n            /* nbt */\n            " =
      "\n        \n        " ++ ("static \x7b\n            " ++ ("/* " ++ ("nbt" ++ " */\n            "))) := by decide
  have hcomponents : "\n            \n            /* components */\n            " =
      "\n            \n            " ++ ("/* " ++ ("components" ++ " */\n            ")) := by decide
  have hselectors : "\n            \n            /* selectors */\n            " =
      "\n            \n            " ++ ("/* " ++ ("selectors" ++ " */\n            ")) := by decide
  have hpredicates : "\n            \n            /* block predicates */\n            " =
      "\n            \n            " ++ ("/* " ++ ("block predicates" ++ " */\n            ")) := by decide
  have hclosing : "\n        \x7d\n        \n        " = "\n        \x7d" ++ "\n        \n        " := by decide
  have hempty : initialiserListing [] = "" := by decide
  -- What stands before the static block and after it is of no interest here.
  have hstatic (declared tags patches selectors methods : String) :
      declared ++ "\n        \n        static \x7b\n            /* nbt */\n            " ++ tags
        ++ "\n            \n            /* components */\n            " ++ patches
        ++ "\n            \n            /* selectors */\n            " ++ selectors
        ++ "\n            \n            /* block predicates */\n            "
        ++ "\n        \x7d\n        \n        " ++ methods ++ "\n        " =
      declared ++ "\n        \n        " ++ ("static \x7b\n            " ++ Text.sepBy "\n            \n            "
        ["/* " ++ "nbt" ++ " */\n            " ++ tags, "/* " ++ "components" ++ " */\n            " ++ patches,
          "/* " ++ "selectors" ++ " */\n            " ++ selectors,
          "/* " ++ "block predicates" ++ " */\n            " ++ initialiserListing []] ++ "\n        \x7d")
        ++ ("\n        \n        " ++ methods ++ "\n        ") := by
    simp only [hopening, hcomponents, hselectors, hpredicates, hclosing, hempty, Text.sepBy, String.append_assoc,
      String.empty_append]
  unfold Build.members staticBlock Build.staticSections
  rw [Registry.listing_eq TagConstant.initialiser, Registry.listing_eq PatchConstant.initialiser,
    Registry.listing_eq SelectorConstant.initialiser]
  exact ⟨_, _, hstatic _ _ _ _ _⟩

/-! ## What the statements assign -/

/-- The statements of the static block, initialiser by initialiser. -/
def Build.staticStatements (b : Build) : List (List String) :=
  b.statements .tags ++ b.statements .patches ++ b.statements .selectors

lemma Build.code_staticSections (b : Build) :
    (b.staticSections.flatMap StaticSection.initialisers).map Initialiser.code =
      b.staticStatements.map String.join := by
  simp [Build.staticSections, Build.staticStatements, Build.code_initialisers]

/-- The statement assigns a block predicate, as a field or as a local variable. -/
def AssignsBlockPredicate (statement : String) : Prop :=
  ∃ n, assigns (blockPredicateSymbol n) statement = true ∨ assigns ("var " ++ blockPredicateSymbol n) statement = true

/-- A text that the symbols of block predicates do not begin with, alone or behind the keyword for local variables.
It is long enough to tell. -/
structure IsOtherFront (front : String) : Prop where
  length : 6 ≤ front.toList.length
  field : ¬ ['B', 'l'] <+: front.toList
  isLocal : ¬ "var ".toList ++ ['B', 'l'] <+: front.toList

lemma toList_var : "var ".toList = "var".toList ++ [' '] := rfl

lemma blockPredicateSymbol_front (n : Nat) : ['B', 'l'] <+: (blockPredicateSymbol n).toList := by
  refine ⟨"ockPredicate_".toList ++ (toString n).toList, ?_⟩
  unfold blockPredicateSymbol
  simp only [String.toList_append]
  rfl

lemma IsOtherFront.not_assigns {front statement : String} (h : IsOtherFront front)
    (hfront : front.toList <+: statement.toList) : ¬ AssignsBlockPredicate statement := by
  rintro ⟨n, hassigns | hassigns⟩
  · obtain ⟨rest, hrest⟩ := assigns_iff.mp hassigns
    have hsymbol : ['B', 'l'] <+: statement.toList := by
      simp only [hrest]
      exact (blockPredicateSymbol_front n).trans (List.prefix_append _ _)
    exact h.field (List.prefix_of_prefix_length_le hsymbol hfront (le_trans (by decide) h.length))
  · obtain ⟨rest, hrest⟩ := exists_of_assigns_local hassigns
    have hsymbol : "var ".toList ++ ['B', 'l'] <+: statement.toList := by
      simp only [hrest, toList_var, List.append_assoc, List.prefix_append_right_inj]
      exact List.cons_prefix_cons.mpr ⟨rfl, (blockPredicateSymbol_front n).trans (List.prefix_append _ _)⟩
    exact h.isLocal (List.prefix_of_prefix_length_le hsymbol hfront h.length)

lemma TagTerm.type_front (t : TagTerm) : t.type.name.toList <+: t.text.toList := by
  rcases t with ⟨type, n⟩ | value
  · exact ⟨_, (TagTerm.text_variable type n).symm⟩
  · cases value <;> decide

/-- A step begins with a type of tags, which may stand behind the keyword. -/
lemma TagStep.not_assigns (step : TagStep) : ¬ AssignsBlockPredicate step.text := by
  rcases step.text_front with ⟨target, value, rest, -, htext⟩ | ⟨target, c, rest, -, htext, -⟩
  · have hfront : IsOtherFront ("var " ++ target.type.name) := by
      cases target.type <;> constructor <;> decide
    refine hfront.not_assigns ?_
    simp only [htext, String.toList_append, toList_var, List.append_assoc, List.prefix_append_right_inj]
    exact List.cons_prefix_cons.mpr ⟨rfl, target.type_front.trans (List.prefix_append _ _)⟩
  · have hfront : IsOtherFront target.type.name := by
      cases target.type <;> constructor <;> decide
    refine hfront.not_assigns ?_
    rw [htext]
    exact target.type_front.trans (List.prefix_append _ _)

lemma PatchConstant.not_assigns (p : PatchConstant) :
    ∀ statement ∈ p.statements, ¬ AssignsBlockPredicate statement := by
  have hsymbol : IsOtherFront "Components_" := by constructor <;> decide
  have hlocal : IsOtherFront "var Components_" := by constructor <;> decide
  unfold statements
  rw [List.forall_mem_cons, List.forall_mem_append, List.forall_mem_map, List.forall_mem_singleton]
  refine ⟨hlocal.not_assigns ?_, fun setting _ => hsymbol.not_assigns ?_, hsymbol.not_assigns ?_⟩
  · simp [builder, symbol]
  · simp [settingText, builder, symbol]
  · simp [symbol]

lemma SelectorConstant.not_assigns (s : SelectorConstant) : ¬ AssignsBlockPredicate s.initialiser := by
  have hsymbol : IsOtherFront "Selector_" := by constructor <;> decide
  refine hsymbol.not_assigns ?_
  unfold initialiser symbol
  simp only [String.toList_append, List.append_assoc]
  exact List.prefix_append _ _

lemma Build.staticStatements_not_assign (b : Build) :
    ∀ statements ∈ b.staticStatements, ∀ statement ∈ statements, ¬ AssignsBlockPredicate statement := by
  unfold Build.staticStatements Build.statements
  rw [List.forall_mem_append, List.forall_mem_append, List.forall_mem_map, List.forall_mem_map, List.forall_mem_map]
  refine ⟨⟨fun entry _ => ?_, fun entry _ => entry.2.not_assigns⟩, fun entry _ => ?_⟩
  · unfold TagConstant.statements
    rw [List.forall_mem_map]
    exact fun step _ => step.not_assigns
  · rw [List.forall_mem_singleton]
    exact entry.2.not_assigns

/-! ## Declared and never assigned -/

/-- A block predicate is registered with the next number before its parts are declared. -/
lemma declareBlockPredicate_new {node : Node} {key : String} {b : Build} (htext : node.text? = some key)
    (hnew : b.blockPredicates.get? key = none) :
    node.declareBlockPredicate b = ((fun _ => blockPredicateSymbol b.counter) <$> node.declareBlockParts)
      { b with counter := b.counter + 1, blockPredicates := b.blockPredicates.set key b.counter } := by
  simp [Node.declareBlockPredicate, Node.key, BuildM.require, htext, hnew]

lemma declareBlockPredicate_known {node : Node} {key : String} {b : Build} {n : Nat} (htext : node.text? = some key)
    (hknown : b.blockPredicates.get? key = some n) :
    node.declareBlockPredicate b = .ok (blockPredicateSymbol n) b := by
  simp [Node.declareBlockPredicate, Node.key, BuildM.require, htext, hknown]

/-- It stays registered even if that fails. -/
lemma blockPredicates_of_new {node : Node} {key : String} {b : Build} (htext : node.text? = some key)
    (hnew : b.blockPredicates.get? key = none) :
    (lastState (node.declareBlockPredicate b)).blockPredicates = b.blockPredicates.set key b.counter := by
  have hbasic : Keeps (Basic fun _ => True) node.declareBlockParts := declareBlockParts_keeps downClosed_true trivial
  rw [declareBlockPredicate_new htext hnew, lastState_map, (hbasic _).blockPredicates_eq]

lemma mem_keys_of_request {node : Node} {key : String} (htext : node.text? = some key) (b : Build) :
    key ∈ ((Request.blockPredicate node).next b).blockPredicates.keys := by
  rw [Request.next, Request.run, lastState_map]
  cases hget : b.blockPredicates.get? key with
  | some n =>
    rw [declareBlockPredicate_known htext hget, lastState_ok]
    exact List.mem_map_of_mem (Registry.mem_of_get? hget)
  | none =>
    rw [blockPredicates_of_new htext hget]
    exact List.mem_map_of_mem (Registry.mem_of_get? (Registry.get?_set_self ..))

/-- In any build, the members of the generated class hold a declaration without a value for every block predicate, and
a static block whose initialisers consist of statements that assign no block predicate. So all block predicates are
assigned just if there are none. There is one after every request for a block predicate, answered or not. -/
theorem block_predicates_unassigned (b : Build) :
    (∃ before after, b.members = before ++ staticBlock b.staticSections ++ after) ∧
      (b.staticSections.flatMap StaticSection.initialisers).map Initialiser.code =
        b.staticStatements.map String.join ∧
      (∀ statements ∈ b.staticStatements, ∀ statement ∈ statements, ¬ AssignsBlockPredicate statement) ∧
      List.Forall₂ Table.blockPredicates.Declares (b.declarations .blockPredicates) (b.symbols .blockPredicates) ∧
      ((∀ symbol ∈ b.symbols .blockPredicates, ∃ statements ∈ b.staticStatements, AssignedOnce symbol statements) ↔
        b.blockPredicates.keys = []) ∧
      ∀ node key, node.text? = some key → key ∈ ((Request.blockPredicate node).next b).blockPredicates.keys := by
  refine ⟨b.members_eq, b.code_staticSections, b.staticStatements_not_assign, ?_, ?_, fun node key htext =>
    mem_keys_of_request htext b⟩
  · unfold Build.declarations Build.symbols
    rw [List.forall₂_map_left_iff, List.forall₂_map_right_iff, List.forall₂_same]
    exact fun entry _ => blockPredicate_declares entry.2
  · unfold Build.symbols Registry.keys
    rw [List.forall_mem_map, List.map_eq_nil_iff]
    constructor
    · intro hassigned
      rw [List.eq_nil_iff_forall_not_mem]
      intro entry hentry
      obtain ⟨statements, hstatements, honce⟩ := hassigned entry hentry
      have hpos : 0 < statements.countP (assigns (blockPredicateSymbol entry.2)) := by
        rw [honce.once]
        exact Nat.one_pos
      obtain ⟨statement, hstatement, hassigns⟩ := List.countP_pos_iff.mp hpos
      exact b.staticStatements_not_assign statements hstatements statement hstatement ⟨entry.2, .inl hassigns⟩
    · intro hnil entry hentry
      rw [hnil] at hentry
      exact absurd hentry List.not_mem_nil

/-- A test for sand declares a block predicate, and the static block is empty. -/
theorem sand_predicate_unassigned :
    let b := ({} : Build).after [.compile [] (testForBlock sand)]
    b.declarations .blockPredicates = ["private static BlockPredicate BlockPredicate_1;\n"] ∧
      b.staticSections.flatMap StaticSection.initialisers = [] :=
  ⟨rfl, rfl⟩

/-! ## Unusable parts -/

variable {b : Build} {text : String} {identifier data : Node} {states : List (String × String)}

/-- The constants that a block needs can be declared: its identifier is a location, and its data are missing or a tag
that can be referred to. -/
def Build.HasParts (b : Build) (identifier data : Node) : Prop :=
  (∃ l, identifier = .location l) ∧ (data = .absent ∨ b.Refers data)

/-- The identifier goes first, then the data, if there are any. -/
lemma declareBlockParts_data (l : ResourceLocation) (hdata : data ≠ .absent) :
    (Node.block text (.location l) states data).declareBlockParts b =
      ((fun _ => ()) <$> data.declareTag) { b with locations := b.locations.set l.text l } := by
  cases data with
  | absent => exact absurd rfl hdata
  | _ => rfl

lemma declareBlockParts_ok_iff :
    (∃ u b', (Node.block text identifier states data).declareBlockParts b = .ok u b') ↔ b.HasParts identifier data := by
  cases hlocation : identifier.location? with
  | none =>
    have hfails : (Node.block text identifier states data).declareBlockParts b = .error .noSuchPart b := by
      simp [Node.declareBlockParts, Node.declareLocation, hlocation, BuildM.require]
    constructor
    · rintro ⟨u, b', h⟩
      rw [hfails] at h
      cases h
    · rintro ⟨⟨l, rfl⟩, -⟩
      cases hlocation
  | some l =>
    obtain rfl := eq_of_location? hlocation
    by_cases hdata : data = .absent
    · subst hdata
      exact iff_of_true ⟨_, _, rfl⟩ ⟨⟨l, rfl⟩, .inl rfl⟩
    · -- The location does not change the tags, so the data can be declared after it just if they can before.
      have htag : (∃ tag b', data.declareTag { b with locations := b.locations.set l.text l } = .ok tag b') ↔
          b.Refers data := declareTag_ok_iff
      rw [declareBlockParts_data l hdata]
      constructor
      · rintro ⟨u, b', h⟩
        obtain ⟨tag, h, -⟩ := run_map_eq_ok h
        exact ⟨⟨l, rfl⟩, .inr (htag.mp ⟨tag, b', h⟩)⟩
      · rintro ⟨-, habsent | hrefers⟩
        · exact absurd habsent hdata
        · obtain ⟨tag, b', h⟩ := htag.mpr hrefers
          exact ⟨(), b', by rw [run_map, h]⟩

/-- What a failed request for a block predicate leaves: its text is registered with the number that it has taken. -/
lemma registered_of_failed {node : Node} {f : Fault} {b' : Build} (htext : node.text? = some text)
    (hfails : node.declareBlockPredicate b = .error f b') :
    text ∉ b.blockPredicates.keys ∧ b'.blockPredicates = b.blockPredicates.set text b.counter := by
  cases hget : b.blockPredicates.get? text with
  | some n =>
    rw [declareBlockPredicate_known htext hget] at hfails
    cases hfails
  | none =>
    have hset := blockPredicates_of_new htext hget
    rw [hfails, lastState_error] at hset
    exact ⟨Registry.get?_eq_none_iff.mp hget, hset⟩

/-- After any requests, a block predicate cannot be declared just if its text is new and one of its parts is unusable.
Then its text is registered all the same, and from then on every block with this text is answered with the
predicate, whatever is requested in between. -/
theorem failed_block_predicate_found (done : List Request) (text : String) (identifier : Node)
    (states : List (String × String)) (data : Node) :
    let b := ({} : Build).after done
    let node := Node.block text identifier states data
    ((∃ f b', node.declareBlockPredicate b = .error f b') ↔
        text ∉ b.blockPredicates.keys ∧ ¬ b.HasParts identifier data) ∧
      ∀ f b', node.declareBlockPredicate b = .error f b' →
        b'.blockPredicates.entries = b.blockPredicates.entries ++ [(text, b.counter)] ∧
          ∀ later (again : Node), again.text? = some text →
            again.declareBlockPredicate (b'.after later) = .ok (blockPredicateSymbol b.counter) (b'.after later) := by
  intro b node
  have hsound : b.Sound := (Build.sound_empty.after_extends done).2
  refine ⟨?_, fun f b' hfails => ?_⟩
  · cases hget : b.blockPredicates.get? text with
    | some n =>
      have hmem : text ∈ b.blockPredicates.keys := List.mem_map_of_mem (Registry.mem_of_get? hget)
      rw [declareBlockPredicate_known rfl hget]
      simp [hmem]
    | none =>
      have hparts : (∃ u b', node.declareBlockParts { b with
          counter := b.counter + 1
          blockPredicates := b.blockPredicates.set text b.counter } = .ok u b') ↔ b.HasParts identifier data :=
        declareBlockParts_ok_iff
      rw [← hparts, declareBlockPredicate_new rfl hget, run_map]
      cases hrun : node.declareBlockParts { b with
          counter := b.counter + 1
          blockPredicates := b.blockPredicates.set text b.counter } with
      | ok u b' => simp
      | error f b' => simp [Registry.get?_eq_none_iff.mp hget]
  · obtain ⟨hnew, hset⟩ := registered_of_failed rfl hfails
    have hnext : (Request.blockPredicate node).next b = b' := by
      rw [Request.next, Request.run, lastState_map, hfails, lastState_error]
    have hsound' : b'.Sound := by
      rw [← hnext]
      exact ((Request.blockPredicate node).next_extends hsound).2
    refine ⟨by rw [hset, Registry.entries_set_of_absent _ hnew], fun later again hagain => ?_⟩
    have hget : b'.blockPredicates.get? text = some b.counter := by
      rw [hset, Registry.get?_set_self]
    exact declareBlockPredicate_known hagain
      (Registry.get?_of_prefix (hsound'.after_extends later).1.blockPredicates hget)

/-- A chest whose lock is an array of numbers, which tags cannot hold here. -/
def lockedChest : Node :=
  .block "minecraft:chest\x7bLock:[I;1,2]\x7d" (.location ⟨"minecraft:chest", false, some "minecraft", "chest"⟩) []
    (.tagCompound "\x7bLock:[I;1,2]\x7d"
      [("Lock", .tagArray "[I;1,2]" [.tagScalar "1" (.int 1), .tagScalar "2" (.int 2)])])

/-- The chest is refused once, and found after two other requests. -/
theorem refused_chest_found :
    ∃ b', lockedChest.declareBlockPredicate (({} : Build).after [.find false false cowSelector]) =
        .error .noSuchPart b' ∧
      lockedChest.declareBlockPredicate (b'.after [.tag (.tagList "[]" []), .patch [.absent]]) =
        .ok "BlockPredicate_1" (b'.after [.tag (.tagList "[]" []), .patch [.absent]]) := by
  obtain ⟨b', hfails⟩ : ∃ b', lockedChest.declareBlockPredicate
      (({} : Build).after [.find false false cowSelector]) = .error .noSuchPart b' := ⟨_, rfl⟩
  obtain ⟨-, hfound⟩ := failed_block_predicate_found [.find false false cowSelector] _ _ _ _
  exact ⟨b', hfails, (hfound _ b' hfails).2 _ lockedChest rfl⟩

/-- In an empty build, the same request fails first and is answered then, since the text was registered. -/
theorem chest_remembered :
    ∃ b', lockedChest.declareBlockPredicate {} = .error .noSuchPart b' ∧
      b'.blockPredicates.entries = [("minecraft:chest\x7bLock:[I;1,2]\x7d", 0)] ∧
      lockedChest.declareBlockPredicate b' = .ok "BlockPredicate_0" b' :=
  ⟨_, rfl, rfl, rfl⟩

end PackToMod
