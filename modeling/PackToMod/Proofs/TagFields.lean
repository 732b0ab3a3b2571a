import PackToMod.Proofs.ComponentPatches
import PackToMod.Proofs.History
import PackToMod.Proofs.StaticBlock

/-!
# Fields of tags

The term for a tag is used in two ways: it stands for the tag in the program of a larger one, and the term for a whole
tag is the name of a field. A variable can be both. A boolean has no variable; it is written out, which does as a part
of a larger tag. As a whole tag it is declared all the same, so what is declared is no name, there is nothing to
assign it, and all texts of the same boolean declare the same.
-/

namespace PackToMod

open Build

/-- The name that a field for a tag of the type gets. -/
def fieldName (type : TagType) (n : Nat) : String :=
  type.name ++ "_" ++ toString n

/-- The declaration is that of a field with this name, and one of the statements assigns the field. -/
structure TagConstant.IsField (t : TagConstant) (type : TagType) (n : Nat) : Prop where
  declared : t.declaration = "private static final " ++ type.name ++ " " ++ fieldName type n ++ ";\n"
  assigned : AssignedOnce (fieldName type n) t.statements

def Node.isFlag : Node → Bool
  | .tagFlag .. => true
  | _ => false

/-! ## Names and booleans -/

lemma dot_mem_boolean (holds : Bool) : '.' ∈ (TagTerm.boolean holds).text.toList := by
  cases holds <;> decide

lemma dot_notMem_of_isName {name : String} (h : IsName name) : '.' ∉ name.toList :=
  fun hdot => absurd (List.all_eq_true.mp h '.' hdot) (by decide)

lemma variable_ne_boolean (type : TagType) (n : Nat) (holds : Bool) :
    (TagTerm.variable type n).text ≠ (TagTerm.boolean holds).text := by
  intro heq
  refine dot_notMem_of_isName (TagTerm.isSymbol_variable type n).isName ?_
  rw [heq]
  exact dot_mem_boolean holds

/-- Terms with the same text are the same boolean, or variables with the same number. -/
lemma TagTerm.text_eq_cases {t t' : TagTerm} (h : t.text = t'.text) :
    (∃ holds, t = .boolean holds ∧ t' = .boolean holds) ∨
      ∃ type type' n, t = .variable type n ∧ t' = .variable type' n := by
  rcases t with ⟨type, n⟩ | holds <;> rcases t' with ⟨type', n'⟩ | holds'
  · obtain rfl := number_eq_of_text_eq h
    exact .inr ⟨type, type', n, rfl, rfl⟩
  · exact absurd h (variable_ne_boolean type n holds')
  · exact absurd h.symm (variable_ne_boolean type' n' holds)
  · obtain rfl : holds = holds' := by
      revert h
      cases holds <;> cases holds' <;> decide
    exact .inl ⟨holds, rfl, rfl⟩

/-- A declared boolean is no field, since there is a dot in what is declared. -/
lemma TagConstant.not_isField_boolean {t : TagConstant} {holds : Bool} (h : t.root = .boolean holds) (type : TagType)
    (n : Nat) : ¬ t.IsField type n := by
  rintro ⟨hdeclared, -⟩
  have hdot : '.' ∈ t.declaration.toList := by
    unfold TagConstant.declaration
    simp only [h, String.toList_append, List.mem_append, dot_mem_boolean holds, or_true, true_or]
  have htype : '.' ∉ type.name.toList := by cases type <;> decide
  have hname : '.' ∉ (fieldName type n).toList := dot_notMem_of_isName (TagTerm.isSymbol_variable type n).isName
  rw [hdeclared] at hdot
  simp [htype, hname] at hdot

/-! ## One tag -/

lemma isField_of_lowerTag {node : Node} {n n' : Nat} {t : TagConstant} (hlower : node.lowerTag false n = .ok t n')
    (hflag : node.isFlag = false) : ∃ type, t.root = .variable type n ∧ t.IsField type n := by
  have htag : node.IsTag := (lowerTag_gives false node).ok hlower
  obtain ⟨text, value, rfl, -⟩ | honce := assignedOnce_of_lowerTag hlower
  · cases hflag
  obtain ⟨text, value, rfl, -⟩ | ⟨type, value, steps, rfl⟩ := htag.first_step hlower
  · cases hflag
  · exact ⟨type, rfl, rfl, honce⟩

lemma boolean_of_lowerTag {node : Node} {n n' : Nat} {t : TagConstant} (hlower : node.lowerTag false n = .ok t n')
    (hflag : node.isFlag = true) : ∃ holds, t = ⟨.boolean holds, []⟩ := by
  cases node with
  | tagFlag text value =>
    unfold Node.lowerTag at hlower
    cases hlower
    exact ⟨_, rfl⟩
  | _ => cases hflag

/-- The variable of a whole tag is one of those that its program assigns. -/
lemma number_mem_of_lowerTag {node : Node} {n n' : Nat} {t : TagConstant} (hlower : node.lowerTag false n = .ok t n')
    {type : TagType} {k : Nat} (hroot : t.root = .variable type k) : k ∈ t.numbers := by
  have htag : node.IsTag := (lowerTag_gives false node).ok hlower
  obtain ⟨-, -, -, holds, hboolean⟩ | ⟨type', value, steps, rfl⟩ := htag.first_step hlower
  · rw [hroot] at hboolean
    cases hboolean
  · cases hroot
    exact List.mem_filterMap.mpr ⟨_, List.mem_cons_self, rfl⟩

/-! ## All tags -/

/-- Numbers are taken once, so only booleans can have their text in common. -/
lemma Build.tags_pairwise {b : Build} (hderived : b.Derived fun _ => True) (hnumbered : b.Numbered) :
    b.tags.entries.Pairwise fun entry entry' =>
      (entry.2.root.text = entry'.2.root.text ↔
        ∃ holds, entry.2.root = .boolean holds ∧ entry'.2.root = .boolean holds) := by
  have hnodup : (b.tags.entries.flatMap (·.2.numbers)).Nodup := (List.nodup_append.mp hnumbered.1).2.1
  refine (List.nodup_flatMap.mp hnodup).2.imp_of_mem fun {entry entry'} hentry hentry' hdisjoint => ⟨fun heq => ?_, ?_⟩
  · obtain hboolean | ⟨type, type', k, hroot, hroot'⟩ := TagTerm.text_eq_cases heq
    · exact hboolean
    · obtain ⟨node, n, n₁, -, -, hlower⟩ := hderived.1 entry hentry
      obtain ⟨node', n', n₁', -, -, hlower'⟩ := hderived.1 entry' hentry'
      exact absurd (number_mem_of_lowerTag hlower' hroot')
        (hdisjoint (number_mem_of_lowerTag hlower hroot))
  · rintro ⟨holds, hroot, hroot'⟩
    rw [hroot, hroot']

/-- After any requests, a tag that is declared under a new text. If it is no boolean, a field is declared that is named
after the type and a number, and the initialiser under the same text assigns it. If it is a boolean, no field is
declared, and the initialiser is empty. Two entries never declare the same, now or later, unless both are for the
same boolean. -/
theorem tag_field_unless_boolean (done : List Request) (node : Node) (key : String) (htext : node.text? = some key)
    (hnew : key ∉ (({} : Build).after done).tags.keys) (tag : TagReference) (b' : Build)
    (hdeclare : node.declareTag (({} : Build).after done) = .ok tag b') :
    ∃ t : TagConstant, b'.tags.entries = (({} : Build).after done).tags.entries ++ [(key, t)] ∧
      b'.staticTags.entries = (({} : Build).after done).staticTags.entries ++ [(key, t)] ∧
      tag.symbol = t.root.text ∧ t.initialiser = String.join t.statements ∧
      (node.isFlag = false → ∃ type n, tag.symbol = fieldName type n ∧ t.IsField type n) ∧
      (node.isFlag = true → (∀ type n, ¬ t.IsField type n) ∧ t.initialiser = "" ∧
        ∃ holds, t.declaration = "private static final ByteTag " ++ (TagTerm.boolean holds).text ++ ";\n") ∧
      ∀ later, (b'.after later).tags.entries.Pairwise fun entry entry' =>
        (entry.2.root.text = entry'.2.root.text ↔
          ∃ holds, entry.2.root = .boolean holds ∧ entry'.2.root = .boolean holds) := by
  obtain ⟨hextends, hsound⟩ := Build.sound_empty.after_extends done
  obtain ⟨t, n, hlower, rfl, hb'⟩ := declareTag_ok_of_new htext hnew hdeclare
  have hnext : (Request.tag node).next (({} : Build).after done) = b' := by
    rw [Request.next, Request.run, lastState_map, hdeclare, lastState_ok]
  have hstatic : key ∉ (({} : Build).after done).staticTags.keys := by
    rw [(Build.inStep_after done).1]
    exact hnew
  refine ⟨t, ?_, ?_, rfl, rfl, fun hflag => ?_, fun hflag => ?_, fun later => ?_⟩
  · rw [hb', Registry.entries_set_of_absent t hnew]
  · rw [hb', Registry.entries_set_of_absent t hstatic]
  · obtain ⟨type, hroot, hfield⟩ := isField_of_lowerTag hlower hflag
    exact ⟨type, _, congrArg TagTerm.text hroot, hfield⟩
  · obtain ⟨holds, rfl⟩ := boolean_of_lowerTag hlower hflag
    exact ⟨TagConstant.not_isField_boolean rfl, rfl, holds, rfl⟩
  · -- The build is one that requests lead to, so all tags in it come from nodes and all numbers are different.
    have hstep := (Request.tag node).next_extends hsound
    rw [hnext] at hstep
    have hall := (hextends.trans hstep.1).trans (hstep.2.after_extends later).1
    exact Build.tags_pairwise (hall.derived derived_empty) (hall.counts.numbered Build.numbered_empty)

def glint : Node := .tagFlag "true" (.inl true)

/-- A compound that holds a boolean, after the boolean itself has been declared. -/
theorem compound_field_declared :
    ∃ tag b' t type n,
      (Node.tagCompound "\x7bglint:true\x7d" [("glint", glint)]).declareTag (({} : Build).after [.tag glint]) =
        .ok tag b' ∧
      b'.tags.entries = (({} : Build).after [.tag glint]).tags.entries ++ [("\x7bglint:true\x7d", t)] ∧
      b'.staticTags.entries = (({} : Build).after [.tag glint]).staticTags.entries ++ [("\x7bglint:true\x7d", t)] ∧
      tag.symbol = fieldName type n ∧ t.IsField type n := by
  have hnew : "\x7bglint:true\x7d" ∉ (({} : Build).after [.tag glint]).tags.keys := by decide
  obtain ⟨tag, b', hdeclare⟩ : ∃ tag b', (Node.tagCompound "\x7bglint:true\x7d" [("glint", glint)]).declareTag
      (({} : Build).after [.tag glint]) = .ok tag b' := ⟨_, _, rfl⟩
  obtain ⟨t, hentries, hstatic, -, -, hfield, -⟩ := tag_field_unless_boolean [.tag glint] _ _ rfl hnew tag b' hdeclare
  obtain ⟨type, n, hsymbol, hfield⟩ := hfield rfl
  exact ⟨tag, b', t, type, n, hdeclare, hentries, hstatic, hsymbol, hfield⟩

/-- A component with a boolean value declares it; another spelling of the boolean declares the same. -/
theorem booleans_declared_alike :
    let b := ({} : Build).after [.patch [.itemComponent "glint=true" (.location ⟨"glint", false, none, "glint"⟩) glint],
      .tag (.tagFlag "1b" (.inr 1))]
    b.tags.keys = ["true", "1b"] ∧
      b.declarations .tags = ["private static final ByteTag ByteTag.valueOf(true);\n",
        "private static final ByteTag ByteTag.valueOf(true);\n"] ∧
      (b.initialisers .tags).map Initialiser.code = ["", ""] :=
  ⟨rfl, rfl, rfl⟩

end PackToMod
