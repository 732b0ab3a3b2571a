import PackToMod.Proofs.RegionComparisons
import PackToMod.Proofs.TagPrograms

/-!
# Names in code

A text mentions a name if the name stands in it with no further character of a name on either side. The texts that
commands become are made of literals and pieces; a literal that starts and ends apart keeps the names of its neighbours
apart, so what a text mentions is what its pieces mention. Positions and constants are followed in this way: they
mention none of the local variables that conditions use.
-/

namespace PackToMod

open TagProgram

/-- The names in a text, in order: the longest runs of characters that names are made of. -/
def namesIn (s : List Char) : List (List Char) :=
  (s.splitOnP fun c => !isNamePart c).filter (· ≠ [])

def Mentions (code name : String) : Prop :=
  name.toList ∈ namesIn code.toList

instance (code name : String) : Decidable (Mentions code name) :=
  inferInstanceAs (Decidable (_ ∈ _))

lemma namesIn_nil : namesIn [] = [] := by
  unfold namesIn
  rw [List.splitOnP_nil]
  rfl

/-- A character that is in no name separates the names before it from those after it. -/
lemma namesIn_append_cons (s t : List Char) {c : Char} (hc : isNamePart c = false) :
    namesIn (s ++ c :: t) = namesIn s ++ namesIn t := by
  unfold namesIn
  rw [List.splitOnP_append_cons s t (by simp [hc]), List.filter_append]

lemma namesIn_of_isName {s : List Char} (hs : s.all isNamePart = true) (hne : s ≠ []) : namesIn s = [s] := by
  unfold namesIn
  rw [List.splitOnP_eq_singleton fun c hc => by simp [List.all_eq_true.mp hs c hc]]
  simp [hne]

/-- All characters of a name are in the text. -/
lemma subset_of_mem_namesIn {s name : List Char} (h : name ∈ namesIn s) : name ⊆ s := by
  have hpiece {s piece : List Char} (hmem : piece ∈ s.splitOnP fun c => !isNamePart c) : piece ⊆ s := by
    induction s generalizing piece with
    | nil =>
      rw [List.splitOnP_nil, List.mem_singleton] at hmem
      rw [hmem]
      exact List.Subset.refl _
    | cons c s ih =>
      rw [List.splitOnP_cons_eq_if_modifyHead] at hmem
      obtain ⟨first, others, hsplit⟩ := List.exists_cons_of_ne_nil (List.splitOnP_ne_nil (fun c => !isNamePart c) s)
      rw [hsplit] at ih
      split_ifs at hmem with hc
      · rcases List.mem_cons.mp hmem with rfl | hmem
        · exact List.nil_subset _
        · exact List.Subset.trans (ih (hsplit ▸ hmem)) (List.subset_cons_self c s)
      · rw [hsplit, List.modifyHead_cons] at hmem
        rcases List.mem_cons.mp hmem with rfl | hmem
        · exact List.cons_subset_cons c (ih List.mem_cons_self)
        · exact List.Subset.trans (ih (List.mem_cons_of_mem _ hmem)) (List.subset_cons_self c s)
  exact hpiece (List.mem_filter.mp h).1

/-- A text starts with a character that is in no name. -/
def startsApart (s : List Char) : Bool :=
  s.head?.any (!isNamePart ·)

/-- A text ends with a character that is in no name. -/
def endsApart (s : List Char) : Bool :=
  s.getLast?.any (!isNamePart ·)

lemma startsApart_append {s : List Char} (h : startsApart s = true) (t : List Char) : startsApart (s ++ t) = true := by
  obtain ⟨c, hhead, hc⟩ := (Option.any_eq_true _ _).mp h
  unfold startsApart
  rw [List.head?_append, hhead]
  exact hc

lemma namesIn_append_of_endsApart {s : List Char} (h : endsApart s = true) (t : List Char) :
    namesIn (s ++ t) = namesIn s ++ namesIn t := by
  obtain ⟨c, hlast, hc⟩ := (Option.any_eq_true _ _).mp h
  obtain ⟨before, rfl⟩ := List.getLast?_eq_some_iff.mp hlast
  rw [Bool.not_eq_true'] at hc
  rw [List.append_assoc, List.singleton_append, namesIn_append_cons _ _ hc, namesIn_append_cons _ _ hc, namesIn_nil,
    List.append_nil]

lemma namesIn_append_of_startsApart (s : List Char) {t : List Char} (h : startsApart t = true) :
    namesIn (s ++ t) = namesIn s ++ namesIn t := by
  obtain ⟨c, hhead, hc⟩ := (Option.any_eq_true _ _).mp h
  obtain ⟨rest, rfl⟩ := List.head?_eq_some_iff.mp hhead
  rw [Bool.not_eq_true'] at hc
  have hcons := namesIn_append_cons [] rest hc
  rw [List.nil_append, namesIn_nil, List.nil_append] at hcons
  rw [namesIn_append_cons _ _ hc, hcons]

lemma mentions_literal {l : List Char} {name : String} (hl : name.toList ∈ namesIn l) (hend : endsApart l = true)
    (rest : String) : Mentions (String.ofList l ++ rest) name := by
  unfold Mentions
  rw [String.toList_append, String.toList_ofList, namesIn_append_of_endsApart hend]
  exact List.mem_append_left _ hl

/-! ## Local variables -/

/-- The local variables that conditions use. -/
def conditionLocals : List String :=
  ["blockpos", "exists", "totalMatches", "totalBlocks"]

/-- The only local variables of conditions in a text are the given ones. -/
def UsesOnly (allowed : List String) (code : String) : Prop :=
  ∀ v ∈ conditionLocals, Mentions code v → v ∈ allowed

/-- The check of this for a text that is given by its characters. -/
def usesOnly (allowed : List String) (l : List Char) : Bool :=
  conditionLocals.all fun v => !(namesIn l).contains v.toList || allowed.contains v

/-! A text is taken apart into literals, which are computed with, and other pieces. A name is all in one of them, since
the literals start and end apart. As in `Shaped`, a literal is `String.ofList` of its characters to the unifier. -/

namespace UsesOnly

variable {allowed : List String} {s t : String} {l : List Char}

lemma mono {allowed' : List String} (h : UsesOnly allowed s) (hsubset : allowed ⊆ allowed') : UsesOnly allowed' s :=
  fun v hv hmentions => hsubset (h v hv hmentions)

lemma of_nil (h : UsesOnly [] s) : UsesOnly allowed s :=
  h.mono (List.nil_subset _)

lemma of_namesIn (h : namesIn (s.toList ++ t.toList) = namesIn s.toList ++ namesIn t.toList)
    (hs : UsesOnly allowed s) (ht : UsesOnly allowed t) : UsesOnly allowed (s ++ t) := by
  intro v hv hmentions
  rw [Mentions, String.toList_append, h, List.mem_append] at hmentions
  exact hmentions.elim (hs v hv) (ht v hv)

/-- A literal by itself. -/
lemma ofList (h : usesOnly allowed l = true) : UsesOnly allowed (String.ofList l) := by
  intro v hv hmentions
  have hcheck := List.all_eq_true.mp h v hv
  rw [Mentions, String.toList_ofList] at hmentions
  simpa [hmentions] using hcheck

/-- A literal and what follows it. -/
lemma literal (hl : UsesOnly allowed (String.ofList l)) (hend : endsApart l = true) (ht : UsesOnly allowed t) :
    UsesOnly allowed (String.ofList l ++ t) := by
  refine of_namesIn ?_ hl ht
  rw [String.toList_ofList, namesIn_append_of_endsApart hend]

/-- Any text before a literal at the end. -/
lemma last (hs : UsesOnly allowed s) (hstart : startsApart l = true) (hl : UsesOnly allowed (String.ofList l)) :
    UsesOnly allowed (s ++ String.ofList l) := by
  refine of_namesIn ?_ hs hl
  rw [String.toList_ofList, namesIn_append_of_startsApart _ hstart]

/-- Any text before a literal that more follows. -/
lemma before (hs : UsesOnly allowed s) (hstart : startsApart l = true) (ht : UsesOnly allowed (String.ofList l ++ t)) :
    UsesOnly allowed (s ++ (String.ofList l ++ t)) := by
  refine of_namesIn ?_ hs ht
  rw [String.toList_append, String.toList_ofList, namesIn_append_of_startsApart _ (startsApart_append hstart _)]

end UsesOnly

/-- All of the local variables have an `s`. -/
lemma usesOnly_nil_of_notMem {code : String} (h : 's' ∉ code.toList) : UsesOnly [] code := by
  have hletter : ∀ v ∈ conditionLocals, 's' ∈ v.toList := by decide
  exact fun v hv hmentions => absurd (subset_of_mem_namesIn hmentions (hletter v hv)) h

lemma usesOnly_of_areParts {code : String} (h : Decimal.AreParts code.toList) : UsesOnly [] code := by
  refine usesOnly_nil_of_notMem fun hmem => ?_
  have hpart := h 's' hmem
  exact absurd hpart (by decide)

/-! ## Positions and constants -/

/-- A vector, if the node is one, is of three coordinates. -/
def Node.IsMeasured (node : Node) : Prop :=
  ∀ text x y z, node = .vector3 text x y z → node.HasCoordinates

lemma Coordinate.usesOnly_valueText {c : Coordinate} {whole : Bool} {text : String}
    (h : c.valueText whole = .ok text) : UsesOnly [] text := by
  unfold Coordinate.valueText at h
  split_ifs at h
  · split at h
    · cases h
      exact usesOnly_of_areParts (areParts_integer _)
    · cases h
  · cases h
    exact usesOnly_of_areParts (Number.text_areParts _)

lemma Coordinate.usesOnly_sum {c : Coordinate} {axis text : String} (haxis : UsesOnly [] axis)
    (h : c.sum true sourcePosition axis = .ok text) : UsesOnly [] text := by
  unfold Coordinate.sum at h
  split at h
  · obtain ⟨value, hvalue, h⟩ := Percent.exists_of_bind_eq_ok h
    cases h
    exact .last (usesOnly_valueText hvalue) (by decide) (.ofList (by decide))
  · obtain ⟨value, hvalue, h⟩ := Percent.exists_of_bind_eq_ok h
    cases h
    simp only [if_true, String.append_assoc]
    iterate 3 refine .literal (.ofList (by decide)) (by decide) ?_
    exact .before haxis (by decide) (.literal (.ofList (by decide)) (by decide) (usesOnly_valueText hvalue))
  · cases h

lemma Node.usesOnly_sum {node : Node} {axis text : String} (haxis : UsesOnly [] axis)
    (h : node.sum true sourcePosition axis = .ok text) : UsesOnly [] text := by
  obtain ⟨c, -, h⟩ := Percent.exists_of_bind_eq_ok h
  exact c.usesOnly_sum haxis h

lemma Node.usesOnly_valueText {node : Node} {text : String} (hnode : ∃ c, node.coordinate? = some c)
    (h : node.valueText = .ok text) : UsesOnly [] text := by
  obtain ⟨c, hc⟩ := hnode
  cases node with
  | coordinate text value =>
    cases h
    exact usesOnly_of_areParts (Number.text_areParts _)
  | _ => cases hc

lemma usesOnly_facingVector {x y z : String} (hx : UsesOnly [] x) (hy : UsesOnly [] y) (hz : UsesOnly [] z) :
    UsesOnly [] (facingVector true sourcePosition sourceRotation x y z) := by
  unfold facingVector
  simp only [if_true, String.append_assoc]
  iterate 5 refine .literal (.ofList (by decide)) (by decide) ?_
  refine .before hx (by decide) (.literal (.ofList (by decide)) (by decide) ?_)
  refine .before hy (by decide) (.literal (.ofList (by decide)) (by decide) ?_)
  exact .before hz (by decide) (.literal (.ofList (by decide)) (by decide) (.ofList (by decide)))

/-- The expression for a position has numbers and parts of the command source in it, and no local variable. -/
lemma Node.usesOnly_position {node : Node} (hnode : node.IsMeasured) {text : String}
    (h : node.position true sourcePosition sourceRotation = .ok text) : UsesOnly [] text := by
  cases node with
  | vector3 _ x y z =>
    obtain ⟨hx, hy, hz⟩ := hnode _ _ _ _ rfl
    unfold Node.position at h
    obtain ⟨c, -, h⟩ := Percent.exists_of_bind_eq_ok h
    by_cases hfacing : c.origin = .facing
    · rw [if_pos hfacing] at h
      obtain ⟨xText, hxText, h⟩ := Percent.exists_of_bind_eq_ok h
      obtain ⟨yText, hyText, h⟩ := Percent.exists_of_bind_eq_ok h
      obtain ⟨zText, hzText, h⟩ := Percent.exists_of_bind_eq_ok h
      cases h
      exact usesOnly_facingVector (x.usesOnly_valueText hx hxText) (y.usesOnly_valueText hy hyText)
        (z.usesOnly_valueText hz hzText)
    · rw [if_neg hfacing] at h
      obtain ⟨xText, hxText, h⟩ := Percent.exists_of_bind_eq_ok h
      obtain ⟨yText, hyText, h⟩ := Percent.exists_of_bind_eq_ok h
      obtain ⟨zText, hzText, h⟩ := Percent.exists_of_bind_eq_ok h
      cases h
      have hx := x.usesOnly_sum (.ofList (by decide)) hxText
      have hy := y.usesOnly_sum (.ofList (by decide)) hyText
      have hz := z.usesOnly_sum (.ofList (by decide)) hzText
      have hopening : "new Vec3" ++ (if true then "i" else "") ++ "(" = "new Vec3i(" := by decide
      rw [hopening]
      simp only [String.append_assoc]
      refine .literal (.ofList (by decide)) (by decide) ?_
      refine .before hx (by decide) (.literal (.ofList (by decide)) (by decide) ?_)
      refine .before hy (by decide) (.literal (.ofList (by decide)) (by decide) ?_)
      exact .last hz (by decide) (.ofList (by decide))
  | vector2 _ x y =>
    unfold Node.position at h
    obtain ⟨c, -, h⟩ := Percent.exists_of_bind_eq_ok h
    split_ifs at h
    obtain ⟨xText, -, h⟩ := Percent.exists_of_bind_eq_ok h
    obtain ⟨yText, -, h⟩ := Percent.exists_of_bind_eq_ok h
    cases h
  | _ => cases h

lemma usesOnly_blockPredicateSymbol (n : Nat) : UsesOnly [] (blockPredicateSymbol n) := by
  have hname : (blockPredicateSymbol n).toList.all isNamePart = true := isNamePart_numbered (by decide) n
  have hfirst : (blockPredicateSymbol n).toList.head? = some 'B' := by
    unfold blockPredicateSymbol
    rw [String.toList_append]
    rfl
  have hlocals : ∀ v ∈ conditionLocals, v.toList.head? ≠ some 'B' := by decide
  intro v hv hmentions
  rw [Mentions, namesIn_of_isName hname (by intro hnil; rw [hnil] at hfirst; cases hfirst),
    List.mem_singleton] at hmentions
  exact absurd (hmentions ▸ hfirst) (hlocals v hv)

/-- The local variables that a name happens to mention. -/
def localsIn (code : String) : List String :=
  conditionLocals.filter fun v => Mentions code v

lemma usesOnly_localsIn (code : String) : UsesOnly (localsIn code) code :=
  fun v hv hmentions => List.mem_filter.mpr ⟨hv, by simpa using hmentions⟩

end PackToMod
