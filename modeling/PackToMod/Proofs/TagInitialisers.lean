import Mathlib.Logic.Relation
import PackToMod.Proofs.TagPrograms
import PackToMod.Proofs.UnknownConstructs

/-!
# Initialisers rebuild their tags

The value of a tag is read off its tree here. Running the initialiser of the constant that is declared for
the tree binds the symbol of the constant to that value, and leaves nothing else behind.
-/

namespace PackToMod

open TagProgram

/-! ## Values of trees -/

mutual

/-- The tag that a tree stands for. Of several entries of a compound under one key the last one counts. -/
def Node.tagValue? : Node → Option TagValue
  | .tagFlag _ value => some (.ofBool (match value with | .inl b => b | .inr n => 0 < n))
  | .tagScalar _ value => value.value?
  | .tagList _ elements => (elementValues? elements).map .list
  | .tagCompound _ entries =>
    (entryValues? entries).map fun values => .compound fun key => values.reverse.lookup key
  | _ => none

def elementValues? : List Node → Option (List TagValue)
  | [] => some []
  | node :: nodes => node.tagValue?.bind fun v => (elementValues? nodes).map (v :: ·)

def entryValues? : List (String × Node) → Option (List (String × TagValue))
  | [] => some []
  | (key, node) :: entries => node.tagValue?.bind fun v => (entryValues? entries).map ((key, v) :: ·)

end

/-- The texts of a node of a tag that stand between quotes in its initialiser. -/
def Node.quotedTexts : Node → List String
  | .tagScalar _ (.string s) => [s]
  | .tagCompound _ entries => entries.map Prod.fst
  | _ => []

/-- The second node is the first or stands in it, at any depth. -/
def Node.Below : Node → Node → Prop :=
  Relation.ReflTransGen fun parent child => child ∈ parent.children

/-- All values and keys of a tag can stand between quotes. -/
def Node.IsPlainTag (root : Node) : Prop :=
  ∀ node, root.Below node → ∀ s ∈ node.quotedTexts, IsPlainText s

lemma Node.IsPlainTag.child {node child : Node} (h : node.IsPlainTag) (hchild : child ∈ node.children) :
    child.IsPlainTag :=
  fun other hother => h other (Relation.ReflTransGen.head hchild hother)

lemma Node.IsPlainTag.of_children {node : Node} (hown : ∀ s ∈ node.quotedTexts, IsPlainText s)
    (hchildren : ∀ child ∈ node.children, child.IsPlainTag) : node.IsPlainTag := by
  intro other hother
  rcases hother.cases_head with rfl | ⟨child, hchild, hbelow⟩
  · exact hown
  · exact hchildren child hchild other hbelow

/-! ## Names -/

lemma afterLast_variable (type : TagType) (n : Nat) :
    Text.afterLast '_' (TagTerm.variable type n).text = toString n :=
  afterLast_numbered type.name n

/-- Variables with different numbers have different names. -/
lemma number_eq_of_text_eq {type type' : TagType} {m n : Nat}
    (h : (TagTerm.variable type m).text = (TagTerm.variable type' n).text) : m = n :=
  eq_of_numbered h

/-- No variable with a number from `n` on has a value. -/
def Fresh (n : Nat) (store : Store) : Prop :=
  ∀ type k, n ≤ k → store (TagTerm.variable type k).text = none

lemma Fresh.update {n m : Nat} {store : Store} (h : Fresh n store) (hm : m < n) (type : TagType)
    (v : Option TagValue) : Fresh n (Function.update store (TagTerm.variable type m).text v) := by
  intro type' k hk
  rw [Function.update_of_ne]
  · exact h type' k hk
  · intro heq
    have hnumber := number_eq_of_text_eq heq
    omega

lemma Fresh.mono {n m : Nat} {store : Store} (h : Fresh n store) (hm : n ≤ m) : Fresh m store :=
  fun type k hk => h type k (hm.trans hk)

/-- The names that a program assigns are numbered from `n` up to `n'`. -/
def Numbers (n n' : Nat) (program : List Statement) : Prop :=
  n ≤ n' ∧
    ((assigned program).map Prod.snd).map (Text.afterLast '_') = (List.range' n (n' - n)).map toString

lemma numbers_nil (n : Nat) : Numbers n n [] := by
  refine ⟨le_rfl, ?_⟩
  rw [Nat.sub_self]
  rfl

lemma Numbers.append {n n₁ n' : Nat} {p q : List Statement} (hp : Numbers n n₁ p) (hq : Numbers n₁ n' q) :
    Numbers n n' (p ++ q) := by
  obtain ⟨hle, hnames⟩ := hp
  obtain ⟨hle', hnames'⟩ := hq
  refine ⟨hle.trans hle', ?_⟩
  have hsplit : List.range' n (n' - n) = List.range' n (n₁ - n) ++ List.range' n₁ (n' - n₁) := by
    have happend := @List.range'_append_1 n (n₁ - n) (n' - n₁)
    rw [Nat.add_sub_cancel' hle] at happend
    rw [happend]
    congr 1
    omega
  rw [hsplit, List.map_append, ← hnames, ← hnames', ← List.map_append, ← List.map_append, assigned,
    List.filterMap_append]
  rfl

lemma Numbers.assign (isLocal : Bool) (type : TagType) (n : Nat) (v : TagValue) :
    Numbers n (n + 1) [.assign isLocal (TagTerm.variable type n).text v] := by
  refine ⟨Nat.le_succ n, ?_⟩
  have hassigned : assigned [.assign isLocal (TagTerm.variable type n).text v] =
      [(isLocal, (TagTerm.variable type n).text)] := rfl
  rw [hassigned, Nat.add_sub_cancel_left, List.range'_one, List.map_singleton, List.map_singleton,
    List.map_singleton, afterLast_variable]

lemma Numbers.cons_unassigned {n n' : Nat} {statement : Statement} {program : List Statement}
    (hstatement : statement.assigned? = none) (h : Numbers n n' program) :
    Numbers n n' (statement :: program) := by
  unfold Numbers assigned at h ⊢
  rw [List.filterMap_cons_none hstatement]
  exact h

lemma Numbers.nodup {n n' : Nat} {program : List Statement} (h : Numbers n n' program) :
    ((assigned program).map Prod.snd).Nodup := by
  refine List.Nodup.of_map (Text.afterLast '_') ?_
  rw [h.2]
  exact (List.nodup_range' 1).map fun m k heq => toString_nat_injective heq

/-! ## One tag -/

/-- The store in which a term stands for the value. -/
def TagTerm.bound (v : TagValue) (store : Store) : TagTerm → Store
  | .variable type n => Function.update store (TagTerm.variable type n).text (some v)
  | .boolean _ => store

/-- A program that builds the value of a part with the variables from `n` up to `n'`. -/
structure Builds (isLocal : Bool) (n n' : Nat) (tag : TagConstant) (v : TagValue)
    (program : List Statement) : Prop where
  reads : List.Forall₂ TagStep.ReadsAs tag.steps program
  numbers : Numbers n n' program
  root : (∃ b, tag.root = .boolean b ∧ v = .ofBool b) ∨ ∃ type, tag.root = .variable type n ∧
    ∃ rest, assigned program = (isLocal, (TagTerm.variable type n).text) :: rest ∧ ∀ a ∈ rest, a.1 = true
  locals : isLocal = true → ∀ a ∈ assigned program, a.1 = true
  runs : ∀ store, Fresh n store → run program store = some (tag.root.bound v store)

/-- Using up the value of a tag leaves the store as it was before the tag was built. -/
lemma Builds.take {isLocal : Bool} {n n' : Nat} {tag : TagConstant} {v : TagValue} {program : List Statement}
    (h : Builds isLocal n n' tag v program) {store : Store} (hstore : Fresh n store) :
    tag.root.argument.take (tag.root.bound v store) = some (v, store) := by
  rcases h.root with ⟨b, hroot, rfl⟩ | ⟨type, hroot, -⟩
  · rw [hroot]
    rfl
  · have habsent := hstore type n le_rfl
    rw [hroot]
    rw [TagTerm.argument, TagTerm.bound, Argument.take, Function.update_self, Option.map_some,
      Function.update_idem, ← habsent, Function.update_eq_self]

/-- The tree has a value, and wherever its variables begin there is a program for it. -/
def Node.Rebuilds (node : Node) : Prop :=
  ∃ v, node.tagValue? = some v ∧ ∀ isLocal n, ∃ tag n' program,
    node.lowerTag isLocal n = .ok tag n' ∧ Builds isLocal n n' tag v program

lemma rebuilds_flag (text : String) (value : Bool ⊕ Int) : (Node.tagFlag text value).Rebuilds := by
  obtain ⟨b, hvalue, hlower⟩ : ∃ b, (Node.tagFlag text value).tagValue? = some (.ofBool b) ∧
      ∀ isLocal n, (Node.tagFlag text value).lowerTag isLocal n = .ok ⟨.boolean b, []⟩ n := by
    unfold Node.tagValue? Node.lowerTag
    exact ⟨_, rfl, fun _ _ => rfl⟩
  refine ⟨_, hvalue, fun isLocal n => ⟨_, n, [], hlower isLocal n, ?_⟩⟩
  exact {
    reads := .nil
    numbers := numbers_nil n
    root := .inl ⟨_, rfl, rfl⟩
    locals := fun _ a ha => absurd ha List.not_mem_nil
    runs := fun store _ => rfl }

lemma TagScalar.value?_isSome {value : TagScalar} {type : TagType} (h : value.type? = some type) :
    ∃ v, value.value? = some v := by
  cases value with
  | unknown s => cases h
  | _ => exact ⟨_, rfl⟩

/-- A variable that is assigned and then bound. -/
lemma run_assign (isLocal : Bool) (type : TagType) {n : Nat} {store : Store} (h : Fresh n store)
    (v : TagValue) (program : List Statement) :
    run (.assign isLocal (TagTerm.variable type n).text v :: program) store =
      run program (Function.update store (TagTerm.variable type n).text (some v)) := by
  have habsent := h type n le_rfl
  rw [run, Statement.run, habsent]
  rfl

lemma rebuilds_scalar (text : String) {value : TagScalar} {type : TagType} (h : value.type? = some type)
    (hplain : value.IsPlain) : (Node.tagScalar text value).Rebuilds := by
  obtain ⟨v, hv⟩ := TagScalar.value?_isSome h
  refine ⟨v, by rw [Node.tagValue?, hv], fun isLocal n => ?_⟩
  refine ⟨⟨.variable type n, [.assign isLocal (.variable type n) (.literal value)]⟩, n + 1,
    [.assign isLocal (TagTerm.variable type n).text v], by rw [Node.lowerTag, h]; rfl, ?_⟩
  exact {
    reads := .cons (assign_readsAs type n isLocal hv hplain) .nil
    numbers := .assign isLocal type n v
    root := .inr ⟨type, rfl, [], rfl, fun a ha => absurd ha List.not_mem_nil⟩
    locals := by
      rintro rfl a ha
      rw [List.mem_singleton.mp ha]
    runs := fun store hstore => by
      rw [run_assign isLocal type hstore]
      rfl }

/-! ## Parts of a container -/

section

variable {α : Type} {link : α → TagTerm → TagStep} {part : α → Node}

/-- How parts go into a container: the step that links a part is read as a statement, and the statement takes
a container with the parts so far to one with the new part too. -/
structure Links (target : String) (link : α → TagTerm → TagStep) (statement : α → Argument → Statement)
    (holding : List (α × TagValue) → TagValue) (a : α) : Prop where
  reads : ∀ t, (link a t).ReadsAs (statement a t.argument)
  unassigned : ∀ argument, (statement a argument).assigned? = none
  run : ∀ argument store store' v parts, argument.take store = some (v, store') →
    store' target = some (holding parts) →
    (statement a argument).run store =
      some (Function.update store' target (some (holding (parts ++ [(a, v)]))))

/-- A program that puts parts with the given values into a container. -/
structure BuildsParts (target : String) (holding : List (α × TagValue) → TagValue) (n n' : Nat)
    (steps : List TagStep) (values : List (α × TagValue)) (program : List Statement) : Prop where
  reads : List.Forall₂ TagStep.ReadsAs steps program
  numbers : Numbers n n' program
  locals : ∀ a ∈ assigned program, a.1 = true
  runs : ∀ parts store, Fresh n store → store target = some (holding parts) →
    run program store = some (Function.update store target (some (holding (parts ++ values))))

lemma buildsParts_nil (target : String) (holding : List (α × TagValue) → TagValue) (n : Nat) :
    BuildsParts target holding n n [] [] [] where
  reads := .nil
  numbers := numbers_nil n
  locals a ha := absurd ha List.not_mem_nil
  runs parts store _ htarget := by
    rw [List.append_nil, ← htarget, Function.update_eq_self]
    rfl

lemma BuildsParts.cons {type : TagType} {m n n₁ n' : Nat} {statement : α → Argument → Statement}
    {holding : List (α × TagValue) → TagValue} {a : α} {v : TagValue} {tag : TagConstant}
    {steps : List TagStep} {values : List (α × TagValue)} {p q : List Statement}
    (hlink : Links (TagTerm.variable type m).text link statement holding a) (hm : m < n)
    (ha : Builds true n n₁ tag v p)
    (hrest : BuildsParts (TagTerm.variable type m).text holding n₁ n' steps values q) :
    BuildsParts (TagTerm.variable type m).text holding n n' (tag.steps ++ link a tag.root :: steps)
      ((a, v) :: values) (p ++ statement a tag.root.argument :: q) where
  reads := List.rel_append ha.reads (.cons (hlink.reads _) hrest.reads)
  numbers := ha.numbers.append (hrest.numbers.cons_unassigned (hlink.unassigned _))
  locals b hb := by
    rw [assigned, List.filterMap_append, List.filterMap_cons_none (hlink.unassigned _), List.mem_append] at hb
    rcases hb with hb | hb
    · exact ha.locals rfl b hb
    · exact hrest.locals b hb
  runs parts store hstore htarget := by
    have hlinked := hlink.run _ _ _ v parts (ha.take hstore) htarget
    have hfresh : Fresh n₁ store := hstore.mono ha.numbers.1
    have hm₁ : m < n₁ := Nat.lt_of_lt_of_le hm ha.numbers.1
    rw [run_append, ha.runs store hstore, Option.bind_some, run, hlinked, Option.bind_some,
      hrest.runs (parts ++ [(a, v)]) _ (hfresh.update hm₁ type _) (Function.update_self ..),
      Function.update_idem, List.append_assoc, List.singleton_append]

/-- All parts of a container, if each of them rebuilds its tree. -/
lemma exists_buildsParts {type : TagType} {m : Nat} {statement : α → Argument → Statement}
    {holding : List (α × TagValue) → TagValue} {as : List α}
    (hlinks : ∀ a ∈ as, Links (TagTerm.variable type m).text link statement holding a)
    {values : List TagValue}
    (hparts : List.Forall₂ (fun a v => ∀ isLocal n, ∃ tag n' program,
      (part a).lowerTag isLocal n = .ok tag n' ∧ Builds isLocal n n' tag v program) as values)
    {n : Nat} (hm : m < n) : ∃ steps n' program, lowerParts link part as n = .ok steps n' ∧
      BuildsParts (TagTerm.variable type m).text holding n n' steps (as.zip values) program := by
  induction hparts generalizing n with
  | nil => exact ⟨[], n, [], rfl, buildsParts_nil ..⟩
  | @cons a v as values ha _ ih =>
    obtain ⟨tag, n₁, p, hlower, hbuilds⟩ := ha true n
    have hm₁ : m < n₁ := Nat.lt_of_lt_of_le hm hbuilds.numbers.1
    obtain ⟨steps, n', q, hsteps, hrest⟩ := ih (fun b hb => hlinks b (List.mem_cons_of_mem _ hb)) hm₁
    refine ⟨_, n', _, ?_, hrest.cons (hlinks a List.mem_cons_self) hm hbuilds⟩
    simp [lowerParts, hlower, hsteps]

/-- A container is assigned empty, and then its parts go into it one by one. -/
lemma exists_builds_container {type : TagType} {value : TagExpression} {empty : TagValue}
    {statement : Nat → α → Argument → Statement} {holding : List (α × TagValue) → TagValue} {as : List α}
    (hvalue : value.value? = some empty) (hplain : value.IsPlain) (hempty : holding [] = empty)
    {link : Nat → α → TagTerm → TagStep}
    (hlinks : ∀ n, ∀ a ∈ as, Links (TagTerm.variable type n).text (link n) (statement n) holding a)
    {values : List TagValue}
    (hparts : List.Forall₂ (fun a v => ∀ isLocal n, ∃ tag n' program,
      (part a).lowerTag isLocal n = .ok tag n' ∧ Builds isLocal n n' tag v program) as values)
    (isLocal : Bool) (n : Nat) : ∃ tag n' program,
      (container isLocal (.variable type n) value <$> lowerParts (link n) part as) (n + 1) = .ok tag n' ∧
      Builds isLocal n n' tag (holding (as.zip values)) program := by
  obtain ⟨steps, n', program, hsteps, hbuilds⟩ := exists_buildsParts (hlinks n) hparts (Nat.lt_succ_self n)
  refine ⟨⟨.variable type n, .assign isLocal (.variable type n) value :: steps⟩, n',
    .assign isLocal (TagTerm.variable type n).text empty :: program, by rw [run_map, hsteps]; rfl, ?_⟩
  exact {
    reads := .cons (assign_readsAs type n isLocal hvalue hplain) hbuilds.reads
    numbers := (Numbers.assign isLocal type n empty).append hbuilds.numbers
    root := .inr ⟨type, rfl, assigned program, rfl, hbuilds.locals⟩
    locals := by
      rintro rfl a ha
      rcases List.mem_cons.mp ha with rfl | hrest
      · rfl
      · exact hbuilds.locals a hrest
    runs := fun store hstore => by
      have hfresh := (hstore.mono (Nat.le_succ n)).update (Nat.lt_succ_self n) type (some empty)
      rw [run_assign isLocal type hstore, hbuilds.runs [] _ hfresh (by rw [Function.update_self, hempty]),
        Function.update_idem, List.nil_append]
      rfl }

end

/-! ## Lists and compounds -/

lemma links_list (n : Nat) (node : Node) :
    Links (TagTerm.variable .list n).text (fun _ => .add (.variable .list n))
      (fun _ => .add (TagTerm.variable .list n).text) (fun parts => .list (parts.map Prod.snd)) node where
  reads t := add_readsAs .list n t
  unassigned _ := rfl
  run argument store store' v parts htake htarget := by
    rw [Statement.run, htake]
    simp [htarget]

/-- What a compound holds after some entries: under each key the last of them. -/
def holdingEntries (parts : List ((String × Node) × TagValue)) : TagValue :=
  .compound fun key => (parts.map fun p => (p.1.1, p.2)).reverse.lookup key

lemma links_compound (n : Nat) {entry : String × Node} (hkey : IsPlainText entry.1) :
    Links (TagTerm.variable .compound n).text (fun entry => .put (.variable .compound n) entry.1)
      (fun entry => .put (TagTerm.variable .compound n).text entry.1) holdingEntries entry where
  reads t := put_readsAs .compound n hkey t
  unassigned _ := rfl
  run argument store store' v parts htake htarget := by
    have hentries : holdingEntries (parts ++ [(entry, v)]) = .compound (Function.update
        (fun key => (parts.map fun p => (p.1.1, p.2)).reverse.lookup key) entry.1 (some v)) := by
      unfold holdingEntries
      congr 1
      funext key
      rw [List.map_append, List.reverse_append]
      change ((entry.1, v) :: _).lookup key = _
      rw [List.lookup_cons]
      by_cases hk : key = entry.1
      · rw [hk, Function.update_self, beq_self_eq_true]
      · rw [Function.update_of_ne hk, beq_false_of_ne hk]
        rfl
    rw [Statement.run, htake, hentries]
    simp only [Option.bind_eq_bind, Option.bind_some]
    rw [htarget]
    rfl

lemma exists_values {α : Type} {part : α → Node} {as : List α} (h : ∀ a ∈ as, (part a).Rebuilds) :
    ∃ values, List.Forall₂ (fun a v => (part a).tagValue? = some v) as values ∧
      List.Forall₂ (fun a v => ∀ isLocal n, ∃ tag n' program,
        (part a).lowerTag isLocal n = .ok tag n' ∧ Builds isLocal n n' tag v program) as values := by
  induction as with
  | nil => exact ⟨[], .nil, .nil⟩
  | cons a as ih =>
    obtain ⟨v, hv, hbuilds⟩ := h a List.mem_cons_self
    obtain ⟨values, hvalues, hrest⟩ := ih fun b hb => h b (List.mem_cons_of_mem _ hb)
    exact ⟨v :: values, .cons hv hvalues, .cons hbuilds hrest⟩

lemma elementValues?_eq {elements : List Node} {values : List TagValue}
    (h : List.Forall₂ (fun node v => node.tagValue? = some v) elements values) :
    elementValues? elements = some values := by
  induction h with
  | nil => rw [elementValues?]
  | cons hv _ ih =>
    rw [elementValues?, hv, ih]
    rfl

lemma entryValues?_eq {entries : List (String × Node)} {values : List TagValue}
    (h : List.Forall₂ (fun entry v => entry.2.tagValue? = some v) entries values) :
    entryValues? entries = some ((entries.zip values).map fun p => (p.1.1, p.2)) := by
  induction h with
  | nil =>
    rw [entryValues?]
    rfl
  | @cons entry v entries values hv _ ih =>
    obtain ⟨key, node⟩ := entry
    rw [entryValues?, hv, ih]
    rfl

/-- The induction over the tree. -/
theorem Node.IsTag.rebuilds {node : Node} (h : node.IsTag) (hplain : node.IsPlainTag) : node.Rebuilds := by
  induction h with
  | flag text value => exact rebuilds_flag text value
  | @scalar text value type hvalue =>
    refine rebuilds_scalar text hvalue ?_
    cases value with
    | string s => exact hplain _ .refl s List.mem_cons_self
    | _ => trivial
  | @list text elements _ ih =>
    obtain ⟨values, hvalues, hparts⟩ :=
      @exists_values _ id _ fun node hnode => ih node hnode (hplain.child hnode)
    have hzip : (elements.zip values).map Prod.snd = values :=
      List.map_snd_zip (hvalues.length_eq.symm ▸ le_rfl)
    refine ⟨.list values, by rw [Node.tagValue?, elementValues?_eq hvalues]; rfl, fun isLocal n => ?_⟩
    rw [lowerTag_list]
    have hempty : TagExpression.newList.value? = some (.list []) := rfl
    obtain ⟨tag, n', program, hlower, hbuilds⟩ := exists_builds_container hempty trivial rfl
      (fun n node _ => links_list n node) hparts isLocal n
    rw [hzip] at hbuilds
    exact ⟨tag, n', program, hlower, hbuilds⟩
  | @compound text entries _ ih =>
    have hchild : ∀ entry ∈ entries, entry.2.IsPlainTag :=
      fun entry hentry => hplain.child (List.mem_map_of_mem hentry)
    have hkeys : ∀ entry ∈ entries, IsPlainText entry.1 :=
      fun entry hentry => hplain _ .refl _ (List.mem_map_of_mem hentry)
    obtain ⟨values, hvalues, hparts⟩ := @exists_values _ Prod.snd _
      fun entry hentry => ih entry hentry (hchild entry hentry)
    refine ⟨holdingEntries (entries.zip values), ?_, fun isLocal n => ?_⟩
    · rw [Node.tagValue?, entryValues?_eq hvalues]
      rfl
    · rw [lowerTag_compound]
      have hempty : TagExpression.newCompound.value? = some (holdingEntries []) := rfl
      exact exists_builds_container hempty trivial rfl
        (fun n entry hentry => links_compound n (hkeys entry hentry)) hparts isLocal n

/-! ## Declared tags -/

/-- A program for a tag that starts from nothing, with the names it assigns. -/
lemma Builds.final {n n' : Nat} {tag : TagConstant} {v : TagValue} {program : List Statement}
    (h : Builds false n n' tag v program) (hroot : ∀ b, tag.root ≠ .boolean b) :
    (false, tag.root.text) ∈ assigned program ∧
      (∀ a ∈ assigned program, a.1 = false ↔ a.2 = tag.root.text) ∧
      run program (fun _ => none) = some (Function.update (fun _ => none) tag.root.text (some v)) := by
  rcases h.root with ⟨b, hb, -⟩ | ⟨type, htype, rest, hassigned, hrest⟩
  · exact absurd hb (hroot b)
  rw [htype]
  have hnodup := h.numbers.nodup
  rw [hassigned, List.map_cons, List.nodup_cons] at hnodup
  refine ⟨hassigned ▸ List.mem_cons_self, fun a ha => ?_, ?_⟩
  · rw [hassigned] at ha
    rcases List.mem_cons.mp ha with rfl | ha
    · exact ⟨fun _ => rfl, fun _ => rfl⟩
    · have hlocal := hrest a ha
      have hother : a.2 ≠ (TagTerm.variable type n).text :=
        fun heq => hnodup.1 (List.mem_map.mpr ⟨a, ha, heq⟩)
      simp [hlocal, hother]
  · rw [h.runs _ fun _ _ _ => rfl, htype]
    rfl

lemma Node.IsTag.root_ne_boolean {node : Node} (h : node.IsTag) (hnode : ∀ text value, node ≠ .tagFlag text value)
    {isLocal : Bool} {n n' : Nat} {tag : TagConstant} (hlower : node.lowerTag isLocal n = .ok tag n') (b : Bool) :
    tag.root ≠ .boolean b := by
  cases h with
  | flag text value => exact absurd rfl (hnode text value)
  | scalar text hvalue =>
    rw [Node.lowerTag, hvalue] at hlower
    cases hlower
    exact fun heq => TagTerm.noConfusion heq
  | list text _ =>
    rw [lowerTag_list] at hlower
    obtain ⟨steps, -, rfl⟩ := run_map_eq_ok hlower
    exact fun heq => TagTerm.noConfusion heq
  | compound text _ =>
    rw [lowerTag_compound] at hlower
    obtain ⟨steps, -, rfl⟩ := run_map_eq_ok hlower
    exact fun heq => TagTerm.noConfusion heq

/-- Declaring a tag that is not declared yet stores an initialiser that can be read as a program. The program
assigns every name once, the symbol of the constant as the only one that is not local, and its run ends with
the symbol bound to the value of the tag. -/
theorem initialiser_rebuilds_tag {b : Build} {node : Node} {key : String} (htag : node.IsTag)
    (hnode : ∀ text value, node ≠ .tagFlag text value) (hplain : node.IsPlainTag)
    (hkey : node.text? = some key) (hnew : b.tags.get? key = none) :
    ∃ t b' program v, node.declareTag b = .ok ⟨t.root, true⟩ b' ∧ b'.tags.get? key = some t ∧
      b'.staticTags.get? key = some t ∧ TagProgram.read? t.initialiser = some program ∧ node.tagValue? = some v ∧
      ((assigned program).map Prod.snd).Nodup ∧ (false, t.root.text) ∈ assigned program ∧
      (∀ a ∈ assigned program, a.1 = false ↔ a.2 = t.root.text) ∧
      run program (fun _ => none) = some (Function.update (fun _ => none) t.root.text (some v)) := by
  obtain ⟨v, hv, hrebuilds⟩ := htag.rebuilds hplain
  obtain ⟨t, n', program, hlower, hbuilds⟩ := hrebuilds false (b.counter + 1)
  have hfinal := hbuilds.final (htag.root_ne_boolean hnode hlower)
  refine ⟨t, { b with counter := n', tags := b.tags.set key t, staticTags := b.staticTags.set key t }, program, v,
    ?_, Registry.get?_set_self .., Registry.get?_set_self ..,
    read?_steps hbuilds.reads, hv, hbuilds.numbers.nodup, hfinal⟩
  simp [Node.declareTag, Node.key, BuildM.require, hkey, hnew, BuildM.numbering, hlower]

/-- A compound with a list, a boolean, and a key that is given twice. -/
theorem layered_tag_rebuilt : ∃ t b' program v,
    (Node.tagCompound "t" [("k", .tagList "" [.tagScalar "" (.int 1), .tagFlag "" (.inl true)]),
      ("k", .tagScalar "" (.string "x"))]).declareTag {} = .ok ⟨t.root, true⟩ b' ∧
      b'.tags.get? "t" = some t ∧ b'.staticTags.get? "t" = some t ∧
      TagProgram.read? t.initialiser = some program ∧
      (Node.tagCompound "t" [("k", .tagList "" [.tagScalar "" (.int 1), .tagFlag "" (.inl true)]),
        ("k", .tagScalar "" (.string "x"))]).tagValue? = some v ∧
      ((assigned program).map Prod.snd).Nodup ∧ (false, t.root.text) ∈ assigned program ∧
      (∀ a ∈ assigned program, a.1 = false ↔ a.2 = t.root.text) ∧
      run program (fun _ => none) = some (Function.update (fun _ => none) t.root.text (some v)) := by
  have hlist : (Node.tagList "" [.tagScalar "" (.int 1), .tagFlag "" (.inl true)]).IsTag := by
    refine .list "" fun e he => ?_
    rcases List.mem_cons.mp he with rfl | he
    · exact .scalar "" rfl
    · rw [List.mem_singleton.mp he]
      exact .flag "" _
  refine initialiser_rebuilds_tag ?_ (fun _ _ h => Node.noConfusion h) ?_ rfl rfl
  · refine .compound "t" fun e he => ?_
    rcases List.mem_cons.mp he with rfl | he
    · exact hlist
    · rw [List.mem_singleton.mp he]
      exact .scalar "" rfl
  · have hnumber : (Node.tagScalar "" (.int 1)).IsPlainTag :=
      .of_children (List.forall_mem_nil _) (List.forall_mem_nil _)
    have hflag : (Node.tagFlag "" (.inl true)).IsPlainTag :=
      .of_children (List.forall_mem_nil _) (List.forall_mem_nil _)
    have hstring : (Node.tagScalar "" (.string "x")).IsPlainTag :=
      .of_children (by simp [Node.quotedTexts, IsPlainText]) (List.forall_mem_nil _)
    have helements : (Node.tagList "" [.tagScalar "" (.int 1), .tagFlag "" (.inl true)]).IsPlainTag :=
      .of_children (List.forall_mem_nil _) (by simp [Node.children, hnumber, hflag])
    exact .of_children (by simp [Node.quotedTexts, IsPlainText])
      (by simp [Node.children, helements, hstring])

end PackToMod
