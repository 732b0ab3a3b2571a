import PackToMod.Proofs.StaticBlock

/-!
# What a history of requests keeps

After any requests, answered or failed, the numbers of all constants and methods are distinct and below
the counter. Nothing that is registered is changed or moved by a later request, and a text that has been
compiled is from then on answered with its method, at no cost.
-/

namespace PackToMod

open Build

variable {b b' : Build}

/-! ## Numbers -/

lemma Build.numbered_empty : ({} : Build).Numbered :=
  ⟨List.nodup_nil, fun _ h => absurd h List.not_mem_nil⟩

lemma Method.IsFor.declaredSymbol_eq {text : String} {m : Method} (h : m.IsFor text) :
    m.declaredSymbol = methodSymbol m.number := by
  obtain ⟨output, hm⟩ := h
  conv_lhs => rw [hm]
  exact declaredSymbol_ofOutput ..

/-- The statement assigns the variable of a tag with the number, as a field or as a local one. -/
def assignsNumber (n : Nat) (statement : String) : Bool :=
  ["ByteTag", "ShortTag", "IntTag", "LongTag", "FloatTag", "DoubleTag", "StringTag", "ListTag", "CompoundTag"].any
    fun type =>
      assigns (type ++ "_" ++ toString n) statement || assigns ("var " ++ (type ++ "_" ++ toString n)) statement

lemma assignsNumber_iff {n : Nat} {statement : String} :
    assignsNumber n statement = true ↔ ∃ type, assigns (TagTerm.variable type n).text statement = true ∨
      assigns ("var " ++ (TagTerm.variable type n).text) statement = true := by
  unfold assignsNumber
  simp only [List.any_eq_true, Bool.or_eq_true]
  constructor
  · rintro ⟨name, hname, h⟩
    have hnames : ["ByteTag", "ShortTag", "IntTag", "LongTag", "FloatTag", "DoubleTag", "StringTag", "ListTag",
        "CompoundTag"] = [TagType.byte, .short, .int, .long, .float, .double, .string, .list, .compound].map
          TagType.name := rfl
    rw [hnames, List.mem_map] at hname
    obtain ⟨type, -, rfl⟩ := hname
    exact ⟨type, h⟩
  · rintro ⟨type, h⟩
    exact ⟨type.name, by cases type <;> simp [TagType.name], h⟩

/-- A statement of a tag assigns the number that its step counts. -/
lemma TagStep.assignsNumber_text_iff {step : TagStep} {n : Nat} :
    assignsNumber n step.text = true ↔ step.number? = some n := by
  rw [assignsNumber_iff]
  constructor
  · rintro ⟨type, h⟩
    exact number?_of_assigns h
  · intro h
    rcases step with ⟨isLocal, target, value⟩ | ⟨target, key, value⟩ | ⟨target, value⟩
    · rcases target with ⟨type, m⟩ | holds
      · obtain rfl : m = n := Option.some.inj h
        refine ⟨type, ?_⟩
        simp only [assigns_iff, TagStep.text]
        cases isLocal with
        | true => exact .inr ⟨(value.text ++ ";\n").toList, by simp⟩
        | false => exact .inl ⟨(value.text ++ ";\n").toList, by simp⟩
      · cases h
    · cases h
    · cases h

lemma TagConstant.count_numbers (t : TagConstant) (n : Nat) :
    t.numbers.count n = t.statements.countP (assignsNumber n) := by
  unfold numbers statements
  rw [List.count_filterMap, List.countP_map]
  refine List.countP_congr fun step _ => ?_
  rw [Function.comp_apply, TagStep.assignsNumber_text_iff, beq_iff_eq]

lemma SelectorConstant.declaration_eq (s : SelectorConstant) :
    s.declaration = "private static final EntitySelector Selector_" ++ toString s.number ++ ";\n" := by
  have hname : "private static final EntitySelector " ++ "Selector_" =
      "private static final EntitySelector Selector_" := by decide
  unfold declaration symbol
  simp only [← hname, String.append_assoc]

lemma PatchConstant.declaration_eq (p : PatchConstant) :
    p.declaration = "private static final DataComponentPatch Components_" ++ toString p.number ++ ";" := by
  have hname : "private static final DataComponentPatch " ++ "Components_" =
      "private static final DataComponentPatch Components_" := by decide
  unfold declaration symbol
  simp only [← hname, String.append_assoc]

lemma blockPredicateDeclaration_eq (n : Nat) :
    blockPredicateDeclaration n = "private static BlockPredicate BlockPredicate_" ++ toString n ++ ";\n" := by
  have hname : "private static BlockPredicate " ++ "BlockPredicate_" =
      "private static BlockPredicate BlockPredicate_" := by decide
  unfold blockPredicateDeclaration blockPredicateSymbol
  simp only [← hname, String.append_assoc]

/-- The counter never falls, every number that an entry introduces is below it, and no number is introduced twice.
The number of a method is the one in the name that its code declares, and so are those of the other constants. The
numbers of a tag are those of the variables that its initialiser assigns, each as often as it is assigned. -/
theorem numbers_fresh (rs : List Request) :
    let b := ({} : Build).after rs
    (∀ r : Request, b.counter ≤ (r.next b).counter) ∧ (∀ n ∈ b.numbers, n < b.counter) ∧ b.numbers.Nodup ∧
      (∀ entry ∈ b.methods.entries, entry.2.declaredSymbol = "command_" ++ toString entry.2.number) ∧
      (∀ entry ∈ b.selectors.entries, entry.2.declaration =
        "private static final EntitySelector Selector_" ++ toString entry.2.number ++ ";\n") ∧
      (∀ entry ∈ b.patches.entries, entry.2.declaration =
        "private static final DataComponentPatch Components_" ++ toString entry.2.number ++ ";") ∧
      (∀ entry ∈ b.blockPredicates.entries, blockPredicateDeclaration entry.2 =
        "private static BlockPredicate BlockPredicate_" ++ toString entry.2 ++ ";\n") ∧
      b.staticTags = b.tags ∧ ∀ entry ∈ b.staticTags.entries, entry.2.initialiser = String.join entry.2.statements ∧
        ∀ n, entry.2.numbers.count n = entry.2.statements.countP (assignsNumber n) := by
  intro b
  obtain ⟨hextends, hsound⟩ := Build.sound_empty.after_extends rs
  obtain ⟨hnodup, hbelow⟩ := hextends.counts.numbered Build.numbered_empty
  refine ⟨fun r => (r.next_extends hsound).1.counts.counter, hbelow, hnodup, ?_, ?_, ?_, ?_,
    (Build.inStep_after rs).1, fun entry _ => ⟨rfl, entry.2.count_numbers⟩⟩
  · exact fun entry hentry => (hsound entry hentry).declaredSymbol_eq
  · exact fun entry _ => entry.2.declaration_eq
  · exact fun entry _ => entry.2.declaration_eq
  · exact fun entry _ => blockPredicateDeclaration_eq entry.2

/-! ## Entries -/

/-- Entries stay as they are and where they are. A location may be set again, so for locations this is
said of the texts. -/
structure Build.OnlyAppends (b b' : Build) : Prop where
  methods : b.methods.entries <+: b'.methods.entries
  tags : b.tags.entries <+: b'.tags.entries
  ranges : ∀ sort, (b.ranges sort).entries <+: (b'.ranges sort).entries
  patches : b.patches.entries <+: b'.patches.entries
  selectors : b.selectors.entries <+: b'.selectors.entries
  blockPredicates : b.blockPredicates.entries <+: b'.blockPredicates.entries
  staticTags : b.staticTags.entries <+: b'.staticTags.entries
  staticPatches : b.staticPatches.entries <+: b'.staticPatches.entries
  staticSelectors : b.staticSelectors.entries <+: b'.staticSelectors.entries
  locations : b.locations.keys <+: b'.locations.keys

lemma Build.Extends.onlyAppends {U : Node → Prop} (h : Extends U b b') (hb : b.InStep) : b.OnlyAppends b' := by
  obtain ⟨htags, hpatches, hselectors⟩ := hb
  obtain ⟨htags', hpatches', hselectors'⟩ := h.inStep ⟨htags, hpatches, hselectors⟩
  exact { h with
    staticTags := by rw [htags, htags']; exact h.tags
    staticPatches := by rw [hpatches, hpatches']; exact h.patches
    staticSelectors := by rw [hselectors, hselectors']; exact h.selectors }

lemma compile_hit {node : Node} {text : String} {m : Method} (compiled : List String)
    (htext : node.text? = some text) (hget : b.methods.get? text = some m) :
    node.compile compiled b = .ok m b := by
  cases node using Node.argumentInduction with
  | command own identifier arguments dump =>
    obtain rfl : own = text := Option.some.inj htext
    rw [Node.compile]
    exact compileWith_hit hget
  | part node hpart =>
    rw [hpart.compile_eq]
    simp [compileOther, Node.key, BuildM.require, htext, hget]

/-- Every request only adds entries at the ends of the registries. So a text that has been compiled once
is answered with the same method ever after, and the build is left as it is. -/
theorem requests_append (done : List Request) :
    let b := ({} : Build).after done
    (∀ r : Request, b.OnlyAppends (r.next b)) ∧
      ∀ compiled node m b', Node.compile compiled node b = .ok m b' →
        ∀ later compiled' node', node'.text? = node.text? →
          Node.compile compiled' node' (b'.after later) = .ok m (b'.after later) := by
  obtain ⟨-, hsound⟩ := Build.sound_empty.after_extends done
  refine ⟨fun r => (r.next_extends hsound).1.onlyAppends (Build.inStep_after done), ?_⟩
  intro compiled node m b' hcompile later compiled' node' htext'
  have hyields := compile_yields_true compiled node hsound
  rw [hcompile] at hyields
  obtain ⟨-, hsound', text, htext, hget⟩ := hyields
  obtain ⟨hlater, -⟩ := hsound'.after_extends later
  exact compile_hit compiled' (htext'.trans htext) (Registry.get?_of_prefix hlater.methods hget)

/-- Another command with the text of one that was compiled before, with other requests between them. -/
theorem kill_found_again :
    ∃ m b', Node.compile [] (.command "kill @e" "kill:targets" [.selector "@e" "e" []] "")
        (({} : Build).after [.find false false (.selector "@e" "e" [])]) = .ok m b' ∧
      Node.compile ["pack:main"] (.command "kill @e" "say:message" [.absent] "")
        (b'.after [.tag (.tagList "[]" []), .patch [.absent]]) =
          .ok m (b'.after [.tag (.tagList "[]" []), .patch [.absent]]) := by
  obtain ⟨m, b', hcompile⟩ :
      ∃ m b', Node.compile [] (.command "kill @e" "kill:targets" [.selector "@e" "e" []] "")
        (({} : Build).after [.find false false (.selector "@e" "e" [])]) = .ok m b' := ⟨_, _, rfl⟩
  exact ⟨m, b', hcompile, (requests_append _).2 _ _ m b' hcompile _ _ _ rfl⟩

end PackToMod
