import Mathlib.Logic.Relation
import PackToMod.Proofs.Requests

/-!
# Every symbol that is handed out is declared

The answers to requests name constants and methods that the generated class has to declare. Locations and
ranges are named after what they are and shared by their text, so for them it matters that a text stands
for one of them only. Under that assumption a symbol that was handed out is declared at once, and stays
declared whatever is requested later.
-/

namespace PackToMod

open Build

variable {U : Node → Prop} {b b' : Build}

/-- The parts of a build that declare symbols. -/
inductive Table where
  | methods
  | locations
  | tags
  | ranges (sort : RangeSort)
  | patches
  | selectors
  | blockPredicates

/-- The declarations that a part adds to the generated class, in order. -/
def Build.declarations (b : Build) : Table → List String
  | .methods => b.methods.entries.map (·.2.code)
  | .locations => b.locations.entries.map (·.2.declaration)
  | .tags => b.tags.entries.map (·.2.declaration)
  | .ranges sort => (b.ranges sort).entries.map fun entry => sort.declaration entry.2
  | .patches => b.patches.entries.map (·.2.declaration)
  | .selectors => b.selectors.entries.map (·.2.declaration)
  | .blockPredicates => b.blockPredicates.entries.map fun entry => blockPredicateDeclaration entry.2

/-- What a declaration says before its symbol. -/
def Table.IsHead : Table → String → Prop
  | .methods, head => head = "private static int "
  | .locations, head => head = "private static final ResourceLocation "
  | .tags, head => ∃ type : TagType, head = "private static final " ++ type.name ++ " "
  | .ranges sort, head => head = "private static final " ++ sort.typeName ++ " "
  | .patches, head => head = "private static final DataComponentPatch "
  | .selectors, head => head = "private static final EntitySelector "
  | .blockPredicates, head => head = "private static BlockPredicate "

/-- What follows the symbol of a declaration. -/
def Table.stop : Table → String
  | .methods => "("
  | .locations => " = "
  | .ranges _ => " = new "
  | .patches => ";"
  | .tags | .selectors | .blockPredicates => ";\n"

/-- The text is the declaration of the symbol. -/
def Table.Declares (table : Table) (text symbol : String) : Prop :=
  ∃ head rest, table.IsHead head ∧ text = head ++ symbol ++ table.stop ++ rest

/-- The symbols that the entries of a part stand for. -/
def Build.symbols (b : Build) : Table → List String
  | .methods => b.methods.entries.map fun entry => methodSymbol entry.2.number
  | .locations => b.locations.entries.map (·.2.symbol)
  | .tags => b.tags.entries.map (·.2.root.text)
  | .ranges sort => (b.ranges sort).entries.map fun entry =>
      sort.symbol (entry.2.min.map Bound.value) (entry.2.max.map Bound.value)
  | .patches => b.patches.entries.map (·.2.symbol)
  | .selectors => b.selectors.entries.map (·.2.symbol)
  | .blockPredicates => b.blockPredicates.entries.map fun entry => blockPredicateSymbol entry.2

/-- The code of a well made method declares the symbol of its number. -/
lemma Method.IsFor.declares {text : String} {m : Method} (h : m.IsFor text) :
    Table.methods.Declares m.code (methodSymbol m.number) := by
  obtain ⟨output, hm⟩ := h
  obtain ⟨rest, hrest⟩ : ∃ rest, (Method.ofOutput m.number text output m.macros m.needsDispatcher
      m.needsMacros .never).code = "private static int " ++ (methodSymbol m.number ++ ("(" ++ rest)) := by
    unfold Method.ofOutput methodCode signature
    dsimp only
    simp only [String.append_assoc]
    exact ⟨_, rfl⟩
  refine ⟨"private static int ", rest, rfl, ?_⟩
  rw [← hm] at hrest
  rw [hrest, Table.stop, String.append_assoc, String.append_assoc]

lemma ResourceLocation.declares (l : ResourceLocation) :
    Table.locations.Declares l.declaration l.symbol := by
  refine ⟨"private static final ResourceLocation ", l.expression ++ ";\n", rfl, ?_⟩
  unfold ResourceLocation.declaration Table.stop
  exact String.append_assoc ..

lemma TagConstant.declares (t : TagConstant) : Table.tags.Declares t.declaration t.root.text := by
  refine ⟨"private static final " ++ t.root.type.name ++ " ", "", ⟨t.root.type, rfl⟩, ?_⟩
  unfold TagConstant.declaration Table.stop
  exact String.append_empty.symm

lemma RangeConstant.declares (sort : RangeSort) (r : RangeConstant) :
    (Table.ranges sort).Declares (sort.declaration r)
      (sort.symbol (r.min.map Bound.value) (r.max.map Bound.value)) := by
  obtain ⟨rest, hrest⟩ : ∃ rest, sort.declaration r = "private static final " ++ (sort.typeName ++ (" " ++
      (sort.symbol (r.min.map Bound.value) (r.max.map Bound.value) ++ (" = new " ++ rest)))) := by
    unfold RangeSort.declaration
    simp only [String.append_assoc]
    exact ⟨_, rfl⟩
  refine ⟨"private static final " ++ sort.typeName ++ " ", rest, rfl, ?_⟩
  rw [hrest, Table.stop]
  simp only [String.append_assoc]

lemma PatchConstant.declares (p : PatchConstant) : Table.patches.Declares p.declaration p.symbol := by
  refine ⟨"private static final DataComponentPatch ", "", rfl, ?_⟩
  unfold PatchConstant.declaration Table.stop
  exact String.append_empty.symm

lemma SelectorConstant.declares (s : SelectorConstant) :
    Table.selectors.Declares s.declaration s.symbol := by
  refine ⟨"private static final EntitySelector ", "", rfl, ?_⟩
  unfold SelectorConstant.declaration Table.stop
  exact String.append_empty.symm

lemma blockPredicate_declares (n : Nat) :
    Table.blockPredicates.Declares (blockPredicateDeclaration n) (blockPredicateSymbol n) := by
  refine ⟨"private static BlockPredicate ", "", rfl, ?_⟩
  unfold blockPredicateDeclaration Table.stop
  exact String.append_empty.symm

/-- Every entry declares its symbol. -/
lemma declares_of_mem_symbols (hb : b.Sound) {table : Table} {symbol : String}
    (h : symbol ∈ b.symbols table) : ∃ text ∈ b.declarations table, table.Declares text symbol := by
  cases table with
  | methods =>
    obtain ⟨entry, hentry, rfl⟩ := List.mem_map.mp h
    exact ⟨_, List.mem_map_of_mem hentry, (hb entry hentry).declares⟩
  | locations =>
    obtain ⟨entry, hentry, rfl⟩ := List.mem_map.mp h
    exact ⟨_, List.mem_map_of_mem hentry, entry.2.declares⟩
  | tags =>
    obtain ⟨entry, hentry, rfl⟩ := List.mem_map.mp h
    exact ⟨_, List.mem_map_of_mem hentry, entry.2.declares⟩
  | ranges sort =>
    obtain ⟨entry, hentry, rfl⟩ := List.mem_map.mp h
    exact ⟨_, List.mem_map_of_mem hentry, entry.2.declares sort⟩
  | patches =>
    obtain ⟨entry, hentry, rfl⟩ := List.mem_map.mp h
    exact ⟨_, List.mem_map_of_mem hentry, entry.2.declares⟩
  | selectors =>
    obtain ⟨entry, hentry, rfl⟩ := List.mem_map.mp h
    exact ⟨_, List.mem_map_of_mem hentry, entry.2.declares⟩
  | blockPredicates =>
    obtain ⟨entry, hentry, rfl⟩ := List.mem_map.mp h
    exact ⟨_, List.mem_map_of_mem hentry, blockPredicate_declares entry.2⟩

/-! ## Texts that stand for one location or range -/

/-- Among the nodes in `U`, locations with the same text are the same, and so are ranges. -/
structure Faithful (U : Node → Prop) : Prop where
  location : ∀ l l', U (.location l) → U (.location l') → l.text = l'.text → l = l'
  range : ∀ r r', U (.range r) → U (.range r') → r.text = r'.text → r = r'

lemma Bound.ofOption_some_ok {n : Number} {bound : Option Bound} (h : Bound.ofOption (some n) = .ok bound) :
    ∃ square, n.square = .ok square ∧ bound = some ⟨n, square⟩ := by
  cases hsquare : n.square with
  | error e => simp [Bound.ofOption, Bound.ofNumber, hsquare, bind, Except.bind] at h
  | ok square =>
    simp only [Bound.ofOption, Bound.ofNumber, hsquare, bind, Except.bind, pure, Except.pure,
      Except.ok.injEq] at h
    exact ⟨square, rfl, h.symm⟩

lemma Bound.value_ofOption {n : Option Number} {bound : Option Bound} (h : Bound.ofOption n = .ok bound) :
    bound.map Bound.value = n := by
  cases n with
  | none =>
    cases h
    rfl
  | some n =>
    obtain ⟨square, -, rfl⟩ := Bound.ofOption_some_ok h
    rfl

lemma RangeConstant.ofRange_ok {r : Range} {c : RangeConstant} (h : RangeConstant.ofRange r = .ok c) :
    Bound.ofOption r.min = .ok c.min ∧ Bound.ofOption r.max = .ok c.max := by
  cases hmin : Bound.ofOption r.min with
  | error e => simp [ofRange, hmin, bind, Except.bind] at h
  | ok min =>
    cases hmax : Bound.ofOption r.max with
    | error e => simp [ofRange, hmin, hmax, bind, Except.bind] at h
    | ok max =>
      simp only [ofRange, hmin, hmax, bind, Except.bind, pure, Except.pure, Except.ok.injEq] at h
      rw [← h]
      exact ⟨rfl, rfl⟩

lemma RangeConstant.bounds_ofRange {r : Range} {c : RangeConstant} (h : RangeConstant.ofRange r = .ok c) :
    c.min.map Bound.value = r.min ∧ c.max.map Bound.value = r.max :=
  ⟨Bound.value_ofOption (ofRange_ok h).1, Bound.value_ofOption (ofRange_ok h).2⟩

/-- A range registered under the text of `r` has the symbol of `r`. -/
lemma symbol_mem_of_range (hU : Faithful U) (hb : Sourced U b) {sort : RangeSort} {r : Range}
    {constant : RangeConstant} (hr : U (.range r)) (h : (r.text, constant) ∈ (b.ranges sort).entries) :
    sort.symbol r.min r.max ∈ b.symbols (.ranges sort) := by
  obtain ⟨r', htext, hr', hconstant⟩ := hb.2 sort _ h
  obtain rfl := hU.range r' r hr' hr htext
  obtain ⟨hmin, hmax⟩ := RangeConstant.bounds_ofRange hconstant
  refine List.mem_map.mpr ⟨(r'.text, constant), h, ?_⟩
  rw [hmin, hmax]

/-- A location may be registered again, but only with the location that was there before. -/
lemma symbols_locations_subset (hU : Faithful U) (hb : Sourced U b) (h : Extends U b b') :
    b.symbols .locations ⊆ b'.symbols .locations := by
  intro symbol hsymbol
  obtain ⟨⟨text, l⟩, hl, rfl⟩ := List.mem_map.mp hsymbol
  have hkey : text ∈ b'.locations.keys := h.locations.subset (List.mem_map_of_mem hl)
  obtain ⟨⟨text', l'⟩, hl', rfl⟩ := List.mem_map.mp hkey
  obtain ⟨htext, hUl⟩ := hb.1 _ hl
  obtain ⟨htext', hUl'⟩ := (h.sourced hb).1 _ hl'
  obtain rfl := hU.location l l' hUl hUl' (htext.trans htext'.symm)
  exact List.mem_map_of_mem hl'

/-- Symbols stay declared while a build grows. -/
lemma Build.Extends.symbols_subset (hU : Faithful U) (hb : Sourced U b) (h : Extends U b b')
    (table : Table) : b.symbols table ⊆ b'.symbols table := by
  cases table with
  | methods => exact (h.methods.map _).subset
  | locations => exact symbols_locations_subset hU hb h
  | tags => exact (h.tags.map _).subset
  | ranges sort => exact ((h.ranges sort).map _).subset
  | patches => exact (h.patches.map _).subset
  | selectors => exact (h.selectors.map _).subset
  | blockPredicates => exact (h.blockPredicates.map _).subset

/-! ## Symbols in answers -/

/-- The symbol that an answer hands out, and the part that has to declare it. A boolean tag and the empty
patch are written out and have no symbol. -/
def Request.symbol? : Request → Answer → Option (Table × String)
  | compile _ _, .method m => some (.methods, calledSymbol m.statement)
  | location _, .text s => some (.locations, s)
  | range sort _, .text s => some (.ranges sort, s)
  | tag _, .tag ⟨.variable type n, _⟩ => some (.tags, (TagTerm.variable type n).text)
  | find _ _ _, .text s => some (.selectors, Text.upTo '.' s)
  | patch (_ :: _), .text s => some (.patches, s)
  | blockPredicate _, .text s => some (.blockPredicates, s)
  | _, _ => none

lemma Method.IsFor.calledSymbol_eq {text : String} {m : Method} (h : m.IsFor text) :
    calledSymbol m.statement = methodSymbol m.number := by
  obtain ⟨output, hm⟩ := h
  conv_lhs => rw [hm]
  exact calledSymbol_ofOutput ..

lemma SelectorConstant.upTo_find (s : SelectorConstant) (single players : Bool) :
    Text.upTo '.' (s.find single players) = s.symbol := by
  refine Text.upTo_eq ?_ (notMem_numbered s.number (by decide) (by decide))
  unfold SelectorConstant.find
  simp only [String.toList_append, List.append_assoc, List.prefix_append_right_inj]
  exact List.prefix_append _ _

/-- A symbol that an answer hands out belongs to an entry of the build that the request leaves. -/
lemma Request.symbol_mem (hU : DownClosed U) (hfaithful : Faithful U) {r : Request}
    (hr : ∀ node ∈ r.nodes, U node) (hb : b.Sound) (hsourced : Sourced U b) {answer : Answer}
    (hrun : r.run b = .ok answer b') {table : Table} {symbol : String}
    (hsymbol : r.symbol? answer = some (table, symbol)) : symbol ∈ b'.symbols table := by
  cases r with
  | compile compiled node =>
    obtain ⟨m, hcompile, rfl⟩ := run_map_eq_ok hrun
    cases hsymbol
    have hyields := compile_yields hU compiled (hr node List.mem_cons_self) hb
    rw [hcompile] at hyields
    obtain ⟨-, hsound, text, -, hget⟩ := hyields
    have hmem := Registry.mem_of_get? hget
    rw [(hsound _ hmem).calledSymbol_eq]
    exact List.mem_map.mpr ⟨_, hmem, rfl⟩
  | location node =>
    obtain ⟨s, hdeclare, rfl⟩ := run_map_eq_ok hrun
    cases hsymbol
    obtain ⟨-, l, -, rfl, hl⟩ := (nodeDeclareLocation_runs (hr node List.mem_cons_self)).ok hdeclare
    exact List.mem_map.mpr ⟨_, hl, rfl⟩
  | range sort node =>
    obtain ⟨s, hdeclare, rfl⟩ := run_map_eq_ok hrun
    cases hsymbol
    obtain ⟨hbasic, range, rfl, rfl, constant, hconstant⟩ :=
      (declareRange_runs sort (hr node List.mem_cons_self)).ok hdeclare
    exact symbol_mem_of_range hfaithful (hbasic.sourced hsourced) (hr _ List.mem_cons_self) hconstant
  | tag node =>
    obtain ⟨⟨term, isNew⟩, hdeclare, rfl⟩ := run_map_eq_ok hrun
    rcases term with ⟨type, n⟩ | value
    · cases hsymbol
      obtain ⟨-, entry, hentry, hroot⟩ := (declareTag_runs (hr node List.mem_cons_self)).ok hdeclare
      exact List.mem_map.mpr ⟨entry, hentry, congrArg TagTerm.text hroot⟩
    · exact nomatch hsymbol
  | find single players node =>
    obtain ⟨s, hfind, rfl⟩ := run_map_eq_ok hrun
    cases hsymbol
    obtain ⟨-, entry, hentry, players', rfl⟩ :=
      (find_runs hU (hr node List.mem_cons_self) single players).ok hfind
    rw [SelectorConstant.upTo_find]
    exact List.mem_map.mpr ⟨entry, hentry, rfl⟩
  | patch components =>
    obtain ⟨s, hdeclare, rfl⟩ := run_map_eq_ok hrun
    cases components with
    | nil => exact nomatch hsymbol
    | cons c cs =>
      cases hsymbol
      obtain ⟨-, hpatch⟩ := (declarePatch_runs hU hr).ok hdeclare
      obtain ⟨entry, hentry, hentrySymbol⟩ := hpatch (List.cons_ne_nil c cs)
      exact List.mem_map.mpr ⟨entry, hentry, hentrySymbol⟩
  | blockPredicate node =>
    obtain ⟨s, hdeclare, rfl⟩ := run_map_eq_ok hrun
    cases hsymbol
    obtain ⟨-, entry, hentry, hentrySymbol⟩ :=
      (declareBlockPredicate_runs hU (hr node List.mem_cons_self)).ok hdeclare
    exact List.mem_map.mpr ⟨entry, hentry, hentrySymbol⟩
  | item | path | functionCall | data | facing => exact nomatch hsymbol

/-! ## All requests -/

/-- The node stands in one of the requests, at any depth. -/
def Occurs (rs : List Request) (node : Node) : Prop :=
  ∃ r ∈ rs, ∃ root ∈ r.nodes,
    Relation.ReflTransGen (fun parent child => child ∈ parent.children) root node

lemma downClosed_occurs (rs : List Request) : DownClosed (Occurs rs) := by
  rintro node ⟨r, hr, root, hroot, hpath⟩ child hchild
  exact ⟨r, hr, root, hroot, hpath.tail hchild⟩

lemma occurs_of_mem_nodes (rs : List Request) : ∀ r ∈ rs, ∀ node ∈ r.nodes, Occurs rs node :=
  fun r hr node hnode => ⟨r, hr, node, hnode, .refl⟩

/-- What any requests make of an empty build comes from the nodes in them. -/
lemma extends_after (rs : List Request) : Extends (Occurs rs) {} (({} : Build).after rs) :=
  (Build.after_grows (downClosed_occurs rs) (occurs_of_mem_nodes rs) Build.sound_empty).1

lemma sourced_empty : Sourced U {} := by
  refine ⟨fun _ h => absurd h List.not_mem_nil, fun sort _ h => ?_⟩
  cases sort with
  | doubles => exact absurd h List.not_mem_nil
  | ints => exact absurd h List.not_mem_nil

lemma derived_empty : Derived U {} :=
  ⟨fun _ h => absurd h List.not_mem_nil, fun _ h => absurd h List.not_mem_nil,
    fun _ h => absurd h List.not_mem_nil⟩

/-- A symbol that the answer to a request hands out is declared from then on, whatever was requested
before and is requested later, if a text stands for one location and one range in all of it. -/
theorem handed_out_symbol_declared (done later : List Request) (r : Request)
    (hfaithful : Faithful (Occurs (done ++ r :: later))) (answer : Answer) (b' : Build)
    (hrun : r.run (({} : Build).after done) = .ok answer b') (table : Table) (symbol : String)
    (hsymbol : r.symbol? answer = some (table, symbol)) :
    ∃ text ∈ (b'.after later).declarations table, table.Declares text symbol := by
  have hU := downClosed_occurs (done ++ r :: later)
  have hnodes := occurs_of_mem_nodes (done ++ r :: later)
  rw [List.forall_mem_append, List.forall_mem_cons] at hnodes
  obtain ⟨hdone, hr, hlater⟩ := hnodes
  obtain ⟨hextends, hsound⟩ := Build.after_grows hU hdone Build.sound_empty
  have hsourced := hextends.sourced sourced_empty
  have hmem : symbol ∈ b'.symbols table := r.symbol_mem hU hfaithful hr hsound hsourced hrun hsymbol
  have hnext : r.next (({} : Build).after done) = b' := by
    rw [Request.next, hrun, lastState_ok]
  obtain ⟨hextends', hsound'⟩ := r.next_grows hU hr hsound
  rw [hnext] at hextends' hsound'
  obtain ⟨hextendsLater, hsoundLater⟩ := Build.after_grows hU hlater hsound'
  exact declares_of_mem_symbols hsoundLater
    (hextendsLater.symbols_subset hfaithful (hextends'.sourced hsourced) table hmem)

lemma mem_of_occurs {rs : List Request} {S : List Node} (hroots : ∀ r ∈ rs, ∀ node ∈ r.nodes, node ∈ S)
    (hclosed : ∀ node ∈ S, ∀ child ∈ node.children, child ∈ S) {node : Node} (h : Occurs rs node) :
    node ∈ S := by
  obtain ⟨r, hr, root, hroot, hpath⟩ := h
  induction hpath with
  | refl => exact hroots r hr root hroot
  | tail _ hchild ih => exact hclosed _ ih _ hchild

def cowLocation : ResourceLocation := ⟨"cow", false, none, "cow"⟩

def cowSelector : Node := .selector "@e[type=cow]" "e" [⟨"type", false, .location cowLocation⟩]

def killCows : Node := .command "kill @e[type=cow]" "kill:targets" [cowSelector] ""

lemma faithful_killCows :
    Faithful (Occurs [.find false false cowSelector, .compile [] killCows,
      .location (.location cowLocation)]) := by
  have hmem : ∀ node, Occurs [.find false false cowSelector, .compile [] killCows,
      .location (.location cowLocation)] node →
      node ∈ [cowSelector, killCows, .location cowLocation] := by
    intro node
    refine mem_of_occurs ?_ ?_
    · simp [Request.nodes]
    · simp [cowSelector, killCows, Node.children]
  have hlocation : ∀ l, Node.location l ∈ [cowSelector, killCows, .location cowLocation] →
      l = cowLocation := by
    simp [cowSelector, killCows]
  have hrange : ∀ r, Node.range r ∉ [cowSelector, killCows, .location cowLocation] := by
    simp [cowSelector, killCows]
  constructor
  · intro l l' hl hl' _
    rw [hlocation l (hmem _ hl), hlocation l' (hmem _ hl')]
  · intro r r' hr
    exact absurd (hmem _ hr) (hrange r)

/-- A command is compiled after its selector has been declared; a location follows. -/
theorem compiled_symbol_stays_declared :
    ∃ answer b', (Request.compile [] killCows).run
        (({} : Build).after [.find false false cowSelector]) = .ok answer b' ∧
      (Request.compile [] killCows).symbol? answer = some (.methods, "command_1") ∧
      ∃ text ∈ (b'.after [.location (.location cowLocation)]).declarations .methods,
        Table.methods.Declares text "command_1" := by
  refine ⟨_, _, rfl, rfl, ?_⟩
  exact handed_out_symbol_declared [.find false false cowSelector] [.location (.location cowLocation)]
    (.compile [] killCows) faithful_killCows _ _ rfl _ _ rfl

end PackToMod
