import PackToMod.Proofs.Declarations

/-!
# Names of location constants

A location is registered by its text, and its constant is named after its domain and path: the two are joined
by an underscore, and slashes and points are spelled out. The name tells neither a tag from what is no tag nor
where the domain ends, so the constants of different locations may have one name. This module says which ones
do; for these the generated class declares a constant twice.
-/

namespace PackToMod

open Build

/-! ## Texts with an underscore between two parts -/

lemma Text.respell_append (spelling : Char → String) (s t : String) :
    respell spelling (s ++ t) = respell spelling s ++ respell spelling t := by
  unfold respell
  rw [String.toList_append, List.flatMap_append, String.ofList_append]

/-- Two lists of characters that are parted by the same character are the same if they are parted at the same
place, or one of them further to the right. -/
lemma append_cons_eq_iff {c : Char} {d d' p p' : List Char} :
    d ++ c :: p = d' ++ c :: p' ↔ d = d' ∧ p = p' ∨ (∃ middle, d' = d ++ c :: middle ∧ p = middle ++ c :: p') ∨
      ∃ middle, d = d' ++ c :: middle ∧ p' = middle ++ c :: p := by
  constructor
  · intro h
    rcases List.append_eq_append_iff.mp h with ⟨between, hd, hp⟩ | ⟨between, hd, hp⟩
    · cases between with
      | nil => exact .inl ⟨by simpa using hd.symm, by simpa using hp⟩
      | cons first middle =>
        obtain ⟨rfl, rfl⟩ := List.cons.inj hp
        exact .inr (.inl ⟨middle, hd, rfl⟩)
    · cases between with
      | nil => exact .inl ⟨by simpa using hd, by simpa using hp.symm⟩
      | cons first middle =>
        obtain ⟨rfl, rfl⟩ := List.cons.inj hp
        exact .inr (.inr ⟨middle, hd, rfl⟩)
  · rintro (⟨rfl, rfl⟩ | ⟨middle, rfl, rfl⟩ | ⟨middle, rfl, rfl⟩)
    · rfl
    · simp
    · simp

lemma underscored_eq_iff {d d' p p' : String} :
    d ++ "_" ++ p = d' ++ "_" ++ p' ↔ d = d' ∧ p = p' ∨
      (∃ middle, d' = d ++ "_" ++ middle ∧ p = middle ++ "_" ++ p') ∨
      ∃ middle, d = d' ++ "_" ++ middle ∧ p' = middle ++ "_" ++ p := by
  have htoList (s t : String) : (s ++ "_" ++ t).toList = s.toList ++ '_' :: t.toList := by simp
  have hmiddle {P : List Char → Prop} : (∃ middle, P middle) ↔ ∃ middle : String, P middle.toList := by
    constructor
    · rintro ⟨middle, h⟩
      exact ⟨String.ofList middle, by rwa [String.toList_ofList]⟩
    · rintro ⟨middle, h⟩
      exact ⟨middle.toList, h⟩
  simp only [← String.toList_inj, htoList, append_cons_eq_iff, hmiddle]

/-! ## Locations of which the constants have one name -/

namespace ResourceLocation

/-- A text as it stands in the name of a constant. -/
def spelled (s : String) : String :=
  Text.respell spelling s

/-- The name of a constant after its fixed beginning. -/
def ownName (l : ResourceLocation) : String :=
  match l.domain with
  | none => spelled l.path
  | some domain => spelled domain ++ "_" ++ spelled l.path

lemma symbol_eq (l : ResourceLocation) : l.symbol = "ResourceLocation_" ++ l.ownName := by
  unfold symbol ownName
  cases l.domain with
  | none => rfl
  | some domain =>
    have hunderscore : Text.respell spelling "_" = "_" := by decide
    simp only [Text.respell_append, hunderscore, spelled]

/-- The same location, whatever it is written as. -/
def Same (l l' : ResourceLocation) : Prop :=
  l.isTag = l'.isTag ∧ l.domain = l'.domain ∧ l.path = l'.path

/-- How the names of two different locations come to be the same. -/
inductive Overlaps (l l' : ResourceLocation) : Prop
  /-- The parts are spelled the same: one is a tag and the other is not, or one holds what a slash or a point is
  spelled as. -/
  | alike (hother : ¬ l.Same l') (hdomain : l.domain.map spelled = l'.domain.map spelled)
    (hpath : spelled l.path = spelled l'.path)
  /-- The path of a location without domain begins with the domain of the other one. -/
  | inPath {domain : String} (hdomain : l.domain = some domain) (hdomain' : l'.domain = none)
    (hpath' : spelled l'.path = spelled domain ++ "_" ++ spelled l.path)
  /-- One domain reaches into the path of the other location. -/
  | beyond {domain domain' middle : String} (hdomain : l.domain = some domain) (hdomain' : l'.domain = some domain')
    (hmiddle : spelled domain' = spelled domain ++ "_" ++ middle)
    (hpath : spelled l.path = middle ++ "_" ++ spelled l'.path)

/-- The constants of two different locations have one name. -/
def Clashes (l l' : ResourceLocation) : Prop :=
  l.Overlaps l' ∨ l'.Overlaps l

lemma Overlaps.ownName_eq {l l' : ResourceLocation} (h : l.Overlaps l') : l.ownName = l'.ownName := by
  cases h with
  | alike _ hdomain hpath =>
    unfold ownName
    cases hd : l.domain with
    | none =>
      cases hd' : l'.domain with
      | none => exact hpath
      | some domain' => simp [hd, hd'] at hdomain
    | some domain =>
      cases hd' : l'.domain with
      | none => simp [hd, hd'] at hdomain
      | some domain' =>
        have hspelled : spelled domain = spelled domain' := by simpa [hd, hd'] using hdomain
        simp only [hpath, hspelled]
  | inPath hdomain hdomain' hpath' => simp [ownName, hdomain, hdomain', hpath']
  | beyond hdomain hdomain' hmiddle hpath =>
    simp [ownName, hdomain, hdomain', hmiddle, hpath, String.append_assoc]

lemma clashes_of_ownName_eq {l l' : ResourceLocation} (hother : ¬ l.Same l') (h : l.ownName = l'.ownName) :
    l.Clashes l' := by
  have hother' : ¬ l'.Same l := fun hsame => hother ⟨hsame.1.symm, hsame.2.1.symm, hsame.2.2.symm⟩
  unfold ownName at h
  cases hd : l.domain with
  | none =>
    cases hd' : l'.domain with
    | none =>
      rw [hd, hd'] at h
      exact .inl (.alike hother (by rw [hd, hd']) h)
    | some domain' =>
      rw [hd, hd'] at h
      exact .inr (.inPath hd' hd h)
  | some domain =>
    cases hd' : l'.domain with
    | none =>
      rw [hd, hd'] at h
      exact .inl (.inPath hd hd' h.symm)
    | some domain' =>
      rw [hd, hd'] at h
      rcases underscored_eq_iff.mp h with ⟨hdomain, hpath⟩ | ⟨middle, hmiddle, hpath⟩ | ⟨middle, hmiddle, hpath⟩
      · exact .inl (.alike hother (by rw [hd, hd', Option.map_some, Option.map_some, hdomain]) hpath)
      · exact .inl (.beyond hd hd' hmiddle hpath)
      · exact .inr (.beyond hd' hd hmiddle hpath)

lemma symbol_eq_iff {l l' : ResourceLocation} (hother : ¬ l.Same l') : l.symbol = l'.symbol ↔ l.Clashes l' := by
  rw [symbol_eq, symbol_eq, String.append_right_inj]
  constructor
  · exact clashes_of_ownName_eq hother
  · rintro (h | h)
    · exact h.ownName_eq
    · exact h.ownName_eq.symm

/-! ## Locations with names of their own -/

/-- There is no capital letter in the text. Slashes and points are spelled with capital letters. -/
def isLower (s : String) : Bool :=
  s.toList.all fun c => !c.isUpper

lemma head?_spelling (c : Char) (rest : List Char) :
    ((spelling c).toList ++ rest).head? = some (if c = '/' then 'S' else if c = '.' then 'D' else c) := by
  unfold spelling
  split_ifs with hslash hpoint
  · rfl
  · rfl
  · simp

/-- The first letter of a spelling tells which character is spelled, among those that are no capital letters. -/
lemma spelling_inj {c c' : Char} (hc : c.isUpper = false) (hc' : c'.isUpper = false) {rest rest' : List Char}
    (h : (spelling c).toList ++ rest = (spelling c').toList ++ rest') : c = c' ∧ rest = rest' := by
  have hlower {d : Char} (hd : d.isUpper = false) : d ≠ 'S' ∧ d ≠ 'D' := by
    refine ⟨?_, ?_⟩ <;> rintro rfl <;> exact absurd hd (by decide)
  have hhead := congrArg List.head? h
  rw [head?_spelling, head?_spelling, Option.some_inj] at hhead
  obtain rfl : c = c' := by grind
  exact ⟨rfl, List.append_cancel_left h⟩

lemma flatMap_spelling_inj {cs cs' : List Char} (hcs : ∀ c ∈ cs, c.isUpper = false)
    (hcs' : ∀ c ∈ cs', c.isUpper = false)
    (h : (cs.flatMap fun c => (spelling c).toList) = cs'.flatMap fun c => (spelling c).toList) : cs = cs' := by
  have hnonempty (c : Char) (rest : List Char) : (spelling c).toList ++ rest ≠ [] := by
    intro hnil
    have hhead := head?_spelling c rest
    rw [hnil] at hhead
    cases hhead
  induction cs generalizing cs' with
  | nil =>
    cases cs' with
    | nil => rfl
    | cons c' cs' => exact absurd h.symm (hnonempty c' _)
  | cons c cs ih =>
    cases cs' with
    | nil => exact absurd h (hnonempty c _)
    | cons c' cs' =>
      rw [List.forall_mem_cons] at hcs hcs'
      obtain ⟨rfl, hrest⟩ := spelling_inj hcs.1 hcs'.1 h
      rw [ih hcs.2 hcs'.2 hrest]

lemma spelled_inj {s s' : String} (hs : isLower s = true) (hs' : isLower s' = true)
    (h : spelled s = spelled s') : s = s' := by
  unfold isLower at hs hs'
  simp only [List.all_eq_true, Bool.not_eq_true'] at hs hs'
  rw [← String.toList_inj]
  exact flatMap_spelling_inj hs hs' (String.ofList_inj.mp h)

lemma notMem_spelled {s : String} (h : '_' ∉ s.toList) : '_' ∉ (spelled s).toList := by
  unfold spelled Text.respell
  rw [String.toList_ofList, List.mem_flatMap]
  rintro ⟨c, hc, hmem⟩
  unfold spelling at hmem
  split_ifs at hmem with hslash hpoint
  · exact absurd hmem (by decide)
  · exact absurd hmem (by decide)
  · have heq : '_' = c := by simpa using hmem
    exact h (heq ▸ hc)

/-- A location in lower case that is no tag and has a domain without underscores. -/
structure IsPlain (l : ResourceLocation) : Prop where
  notTag : l.isTag = false
  domain : ∃ domain, l.domain = some domain ∧ isLower domain = true ∧ '_' ∉ domain.toList
  path : isLower l.path = true

lemma IsPlain.not_overlaps {l l' : ResourceLocation} (h : l.IsPlain) (h' : l'.IsPlain) : ¬ l.Overlaps l' := by
  obtain ⟨domain, hdomain, hlower, -⟩ := h.domain
  obtain ⟨domain', hdomain', hlower', hunderscore⟩ := h'.domain
  intro hoverlaps
  cases hoverlaps with
  | alike hother hspelled hpath =>
    rw [hdomain, hdomain', Option.map_some, Option.map_some, Option.some_inj] at hspelled
    refine hother ⟨h.notTag.trans h'.notTag.symm, ?_, spelled_inj h.path h'.path hpath⟩
    rw [hdomain, hdomain', spelled_inj hlower hlower' hspelled]
  | inPath _ hnone _ =>
    rw [hdomain'] at hnone
    cases hnone
  | beyond _ hsome hmiddle _ =>
    obtain rfl : domain' = _ := Option.some_inj.mp (hdomain'.symm.trans hsome)
    refine notMem_spelled hunderscore ?_
    rw [hmiddle]
    simp

end ResourceLocation

/-! ## All requests -/

/-- Among the nodes in `U`, two locations have the same text just if they are the same. -/
def WrittenApart (U : Node → Prop) : Prop :=
  ∀ l l', U (.location l) → U (.location l') → (l.text = l'.text ↔ l.Same l')

lemma distinct_empty : Distinct {} := by
  refine ⟨List.nodup_nil, fun sort => ?_⟩
  cases sort with
  | doubles => exact List.nodup_nil
  | ints => exact List.nodup_nil

/-- No two registered locations are the same. -/
lemma registered_pairwise {rs : List Request} (hwritten : WrittenApart (Occurs rs)) :
    (({} : Build).after rs).locations.entries.Pairwise fun entry entry' => ¬ entry.2.Same entry'.2 := by
  have hsourced := ((extends_after rs).sourced sourced_empty).1
  have hkeys := ((extends_after rs).distinct distinct_empty).1
  rw [Registry.keys, List.Nodup, List.pairwise_map] at hkeys
  refine hkeys.imp_of_mem fun {entry entry'} hentry hentry' hne hsame => hne ?_
  obtain ⟨htext, hoccurs⟩ := hsourced entry hentry
  obtain ⟨htext', hoccurs'⟩ := hsourced entry' hentry'
  rw [← htext, ← htext']
  exact (hwritten _ _ hoccurs hoccurs').mpr hsame

/-- After any requests, if a text stands for one location and is the only one that does: a name is declared for
every entry, and no name is declared twice just if no two of the registered locations clash. In lower case, and
apart from tags and from domains that are missing or have an underscore, they never do. -/
theorem location_names_distinct_iff (rs : List Request) (hwritten : WrittenApart (Occurs rs)) :
    let b := ({} : Build).after rs
    List.Forall₂ Table.locations.Declares (b.declarations .locations) (b.symbols .locations) ∧
      ((b.symbols .locations).Nodup ↔
        b.locations.entries.Pairwise fun entry entry' => ¬ entry.2.Clashes entry'.2) ∧
      ((∀ entry ∈ b.locations.entries, entry.2.IsPlain) → (b.symbols .locations).Nodup) := by
  intro b
  have hdeclares : List.Forall₂ Table.locations.Declares (b.declarations .locations) (b.symbols .locations) := by
    unfold Build.declarations Build.symbols
    rw [List.forall₂_map_left_iff, List.forall₂_map_right_iff, List.forall₂_same]
    exact fun entry _ => entry.2.declares
  have hnodup : (b.symbols .locations).Nodup ↔
      b.locations.entries.Pairwise fun entry entry' => ¬ entry.2.Clashes entry'.2 := by
    have hother := registered_pairwise hwritten
    unfold Build.symbols List.Nodup
    rw [List.pairwise_map]
    constructor
    · intro h
      refine h.imp₂ (fun entry entry' hne hother hclashes => ?_) hother
      exact hne ((ResourceLocation.symbol_eq_iff hother).mpr hclashes)
    · intro h
      refine h.imp₂ (fun entry entry' hclashes hother heq => ?_) hother
      exact hclashes ((ResourceLocation.symbol_eq_iff hother).mp heq)
  refine ⟨hdeclares, hnodup, fun hplain => hnodup.mpr ?_⟩
  refine (registered_pairwise hwritten).imp_of_mem fun {entry entry'} hentry hentry' _ => ?_
  exact not_or.mpr ⟨(hplain entry hentry).not_overlaps (hplain entry' hentry'),
    (hplain entry' hentry').not_overlaps (hplain entry hentry)⟩

/-! ## Two blocks, and a block and a tag -/

def testedPosition : Node :=
  .vector3 "0 64 0" (.coordinate "0" ⟨.absolute, .integer 0⟩) (.coordinate "64" ⟨.absolute, .integer 64⟩)
    (.coordinate "0" ⟨.absolute, .integer 0⟩)

def plainBlock (l : ResourceLocation) : Node :=
  .block l.text (.location l) [] .absent

def testForBlock (l : ResourceLocation) : Node :=
  .command ("if block 0 64 0 " ++ l.text) "execute:if:block:pos:block" [testedPosition, plainBlock l] ""

def blockTests (l l' : ResourceLocation) : List Request :=
  [.compile [] (testForBlock l), .compile [] (testForBlock l')]

lemma writtenApart_blockTests {l l' : ResourceLocation} (htext : l.text ≠ l'.text) (hother : ¬ l.Same l') :
    WrittenApart (Occurs (blockTests l l')) := by
  have hlocation {m : ResourceLocation} (h : Occurs (blockTests l l') (.location m)) : m = l ∨ m = l' := by
    have hmem := mem_of_occurs (S := [.absent, testedPosition, .coordinate "0" ⟨.absolute, .integer 0⟩,
      .coordinate "64" ⟨.absolute, .integer 64⟩, testForBlock l, plainBlock l, .location l, testForBlock l',
      plainBlock l', .location l']) (by simp [blockTests, Request.nodes])
      (by simp [testForBlock, plainBlock, testedPosition, Node.children]) h
    simpa [testForBlock, plainBlock, testedPosition] using hmem
  have hsymm {m m' : ResourceLocation} : m.Same m' ↔ m'.Same m := by
    unfold ResourceLocation.Same
    tauto
  intro m m' hm hm'
  rcases hlocation hm with rfl | rfl <;> rcases hlocation hm' with rfl | rfl
  · simp [ResourceLocation.Same]
  · simp [htext, hother]
  · simp [htext.symm, hsymm.not.mp hother]
  · simp [ResourceLocation.Same]

def sand : ResourceLocation := ⟨"minecraft:sand", false, some "minecraft", "sand"⟩

def redSand : ResourceLocation := ⟨"minecraft:red_sand", false, some "minecraft", "red_sand"⟩

/-- Two blocks with names of their own. -/
theorem sands_named_apart :
    (({} : Build).after (blockTests sand redSand)).symbols .locations =
        ["ResourceLocation_minecraft_sand", "ResourceLocation_minecraft_red_sand"] ∧
      ((({} : Build).after (blockTests sand redSand)).symbols .locations).Nodup := by
  have hwritten : WrittenApart (Occurs (blockTests sand redSand)) :=
    writtenApart_blockTests (by decide) (by unfold ResourceLocation.Same; decide)
  have hentries : (({} : Build).after (blockTests sand redSand)).locations.entries =
      [("minecraft:sand", sand), ("minecraft:red_sand", redSand)] := rfl
  refine ⟨rfl, (location_names_distinct_iff _ hwritten).2.2 ?_⟩
  rw [hentries, List.forall_mem_cons, List.forall_mem_singleton]
  have hplain (l : ResourceLocation) (htag : l.isTag = false) (hdomain : l.domain = some "minecraft")
      (hpath : ResourceLocation.isLower l.path = true) : l.IsPlain :=
    ⟨htag, ⟨"minecraft", hdomain, by decide, by decide⟩, hpath⟩
  exact ⟨hplain sand rfl rfl (by decide), hplain redSand rfl rfl (by decide)⟩

def sandTag : ResourceLocation := ⟨"#minecraft:sand", true, some "minecraft", "sand"⟩

/-- A block and a tag of blocks, with texts of their own and one name. -/
theorem sand_declared_twice :
    WrittenApart (Occurs (blockTests sand sandTag)) ∧
      (({} : Build).after (blockTests sand sandTag)).symbols .locations =
        ["ResourceLocation_minecraft_sand", "ResourceLocation_minecraft_sand"] := by
  refine ⟨writtenApart_blockTests (by decide) ?_, rfl⟩
  unfold ResourceLocation.Same
  decide

end PackToMod
