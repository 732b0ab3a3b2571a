import PackToMod.Proofs.TagPrograms

/-!
# Assignments in a text

A text assigns a name where ` = ` comes after it. The constants of a build have numbered names, which makes it easy to
see that a literal does not assign one: no ` = ` in it comes after a digit. A text is taken apart into literals and
pieces that are known not to assign the name. The literals are read character by character, and a piece is let pass
only where nothing has been read that it could go on with. A statement that assigns the name in no other place than
its front does so once, and in statements that end their lines every assignment stands in one of them.
-/

namespace PackToMod

-- The literals of the longest templates are computed with one step for each character.
set_option maxRecDepth 2000

open TagProgram

variable {name s t : String} {l read : List Char}

/-- Nowhere in the text does ` = ` come after the name. -/
class Unassigning (name s : String) : Prop where
  ne : ∀ before after, s ≠ before ++ name ++ " = " ++ after

/-- A name with a digit at its end. -/
class IsNumbered (name : String) : Prop where
  parts : ∀ c ∈ name.toList, isNamePart c = true
  digit : ∃ head d, d.isDigit = true ∧ name.toList = head ++ [d]

lemma isNumbered {head : String} (h : head.toList.all isNamePart = true) (n : Nat) :
    IsNumbered (head ++ toString n) where
  parts := List.all_eq_true.mp (isNamePart_numbered h n)
  digit := by
    have hne : Nat.toDigits 10 n ≠ [] := Nat.toDigits_ne_nil
    have hdigit := Nat.isDigit_of_mem_toDigits (by omega) (by omega) (List.getLast_mem hne)
    refine ⟨head.toList ++ (Nat.toDigits 10 n).dropLast, (Nat.toDigits 10 n).getLast hne, hdigit, ?_⟩
    rw [toList_numbered, List.append_assoc, List.dropLast_append_getLast]

/-- The name with ` = ` after it. -/
def assignment (name : String) : List Char :=
  name.toList ++ [' ', '=', ' ']

lemma unassigning_iff : Unassigning name s ↔ ¬assignment name <:+: s.toList := by
  have hplace (before after : String) :
      before.toList ++ assignment name ++ after.toList = (before ++ name ++ " = " ++ after).toList := by
    simp [assignment]
  constructor
  · rintro ⟨h⟩ ⟨before, after, heq⟩
    refine h (String.ofList before) (String.ofList after) (String.toList_inj.mp ?_)
    rw [← hplace, String.toList_ofList, String.toList_ofList, heq]
  · refine fun h => ⟨fun before after heq => h ⟨before.toList, after.toList, ?_⟩⟩
    rw [hplace, heq]

lemma Unassigning.of_notMem (h : '=' ∉ s.toList) : Unassigning name s := by
  rw [unassigning_iff]
  intro hplace
  exact h (hplace.subset (by simp [assignment]))

/-- Where an assignment may be broken off: after a part of the name, or in the sign. -/
lemma assignment_cases [hname : IsNumbered name] {p : List Char} {c : Char} (h : p ++ [c] <+: assignment name) :
    isNamePart c = true ∨ c = ' ' ∧ (p = name.toList ∨ p = name.toList ++ [' ', '=']) ∨
      c = '=' ∧ p = name.toList ++ [' '] := by
  have hsplit : assignment name = name.toList ++ [' '] ++ ['='] ++ [' '] := by simp [assignment]
  rw [hsplit, List.prefix_concat_iff, List.prefix_concat_iff, List.prefix_concat_iff] at h
  rcases h with h | h | h | h
  · obtain ⟨rfl, hc⟩ := List.append_inj' h rfl
    exact .inr (.inl ⟨List.singleton_inj.mp hc, .inr (by simp)⟩)
  · obtain ⟨rfl, hc⟩ := List.append_inj' h rfl
    exact .inr (.inr ⟨List.singleton_inj.mp hc, rfl⟩)
  · obtain ⟨rfl, hc⟩ := List.append_inj' h rfl
    exact .inr (.inl ⟨List.singleton_inj.mp hc, .inl rfl⟩)
  · exact .inl (hname.parts c (h.subset (by simp)))

/-! ## Reading a text -/

/-- What an assignment could go on with at the end of what has been read: nothing, a part of a name that is not
numbered yet, or anything. -/
inductive SignState where
  | nothing
  | inside
  | unknown

namespace SignState

/-- A further character, unless it may be one of the sign. -/
def next : SignState → Char → Option SignState
  | unknown, ' ' | unknown, '=' => none
  | _, c => some (if c.isDigit then unknown else if isNamePart c then inside else nothing)

/-- A character of a literal, or a piece between literals, of which any part may be the end. -/
def pass : SignState → Option Char → Option SignState
  | state, some c => state.next c
  | nothing, none => some unknown
  | _, none => none

/-- The text ends as the state says. -/
def Ends (name : String) (read : List Char) : SignState → Prop
  | nothing => ∀ p, p ≠ [] → p <+: assignment name → ¬p <:+ read
  | inside => ∃ before c, read = before ++ [c] ∧ isNamePart c = true ∧ c.isDigit = false
  | unknown => True

lemma next_eq {state state' : SignState} {c : Char} (h : state.next c = some state') :
    state' = if c.isDigit then unknown else if isNamePart c then inside else nothing := by
  unfold next at h
  split at h
  · cases h
  · cases h
  · exact (Option.some.inj h).symm

/-- What ends as the state says does not go on with a character of the sign. -/
lemma Ends.not_open [hname : IsNumbered name] {state state' : SignState} {c : Char} (h : state.Ends name read)
    (hnext : state.next c = some state') (hc : isNamePart c = false) {p : List Char}
    (hp : p ++ [c] <+: assignment name) : ¬p <:+ read := by
  obtain ⟨head, d, hd, hlast⟩ := hname.digit
  intro hsuffix
  have hsign : c = ' ' ∧ (p = name.toList ∨ p = name.toList ++ [' ', '=']) ∨ c = '=' ∧ p = name.toList ++ [' '] := by
    refine (assignment_cases hp).resolve_left ?_
    rw [hc]
    exact Bool.false_ne_true
  cases state with
  | nothing =>
    refine h p ?_ ((List.prefix_append p [c]).trans hp) hsuffix
    rcases hsign with ⟨-, rfl | rfl⟩ | ⟨-, rfl⟩ <;> simp [hlast]
  | inside =>
    obtain ⟨before, c', rfl, hpart, hdigit⟩ := h
    rw [List.suffix_concat_iff] at hsuffix
    -- The last character of what has been read is neither a digit nor one of the sign.
    have hend : p.getLast? = some c' := by
      rcases hsuffix with rfl | ⟨q, rfl, -⟩
      · rcases hsign with ⟨-, h | h⟩ | ⟨-, h⟩ <;> simp [hlast] at h
      · simp
    rcases hsign with ⟨-, rfl | rfl⟩ | ⟨-, rfl⟩
    · simp only [hlast, List.getLast?_concat, Option.some.injEq] at hend
      rw [← hend, hd] at hdigit
      cases hdigit
    · simp only [List.getLast?_append, List.getLast?_cons_cons, List.getLast?_singleton, Option.some_or,
        Option.some.injEq] at hend
      rw [← hend] at hpart
      exact absurd hpart (by decide)
    · simp only [List.getLast?_concat, Option.some.injEq] at hend
      rw [← hend] at hpart
      exact absurd hpart (by decide)
  | unknown =>
    rcases hsign with ⟨rfl, -⟩ | ⟨rfl, -⟩ <;> cases hnext

end SignState

/-- What has been read does not assign the name, and ends as the state says. -/
structure Reads (name : String) (read : List Char) (state : SignState) : Prop where
  unassigned : ¬assignment name <:+: read
  ends : state.Ends name read

lemma Reads.next [IsNumbered name] {state state' : SignState} {c : Char} (h : Reads name read state)
    (hnext : state.next c = some state') : Reads name (read ++ [c]) state' := by
  constructor
  · rw [List.infix_concat_iff, not_or]
    refine ⟨fun hsuffix => ?_, h.unassigned⟩
    have hlast : assignment name = name.toList ++ [' ', '='] ++ [' '] := by simp [assignment]
    rw [List.suffix_concat_iff] at hsuffix
    rcases hsuffix with hnil | ⟨p, hp, hsuffix⟩
    · simp [assignment] at hnil
    · rw [hlast] at hp
      obtain ⟨rfl, hc⟩ := List.append_inj' hp rfl
      obtain rfl : ' ' = c := List.singleton_inj.mp hc
      exact h.ends.not_open hnext (by decide) (by rw [hlast]) hsuffix
  · rw [SignState.next_eq hnext]
    split_ifs with hdigit hpart
    · trivial
    · exact ⟨read, c, rfl, hpart, Bool.eq_false_iff.mpr hdigit⟩
    · intro p hne hp hsuffix
      rw [List.suffix_concat_iff] at hsuffix
      obtain ⟨q, rfl, hq⟩ := hsuffix.resolve_left hne
      exact h.ends.not_open hnext (Bool.eq_false_iff.mpr hpart) hp hq

/-- Where nothing has been read that it could go on with, a piece makes no assignment. -/
lemma Reads.piece (h : Reads name read .nothing) (hs : Unassigning name s) :
    Reads name (read ++ s.toList) .unknown where
  unassigned := by
    rw [List.infix_append_iff_ne_nil]
    rintro (hread | hpiece | ⟨p, q, hp, -, hsplit, hsuffix, -⟩)
    · exact h.unassigned hread
    · exact unassigning_iff.mp hs hpiece
    · exact h.ends p hp ⟨q, hsplit.symm⟩ hsuffix
  ends := trivial

lemma reads_nil : Reads name [] .nothing where
  unassigned := by simp [assignment]
  ends := by
    rintro p hne - hsuffix
    exact hne (List.suffix_nil.mp hsuffix)

/-! ## Texts with unassigning pieces -/

open SignState in
/-- The text can be read wherever its literals and pieces can be passed. -/
class Passes (name s : String) (l : outParam (List (Option Char))) : Prop where
  reads : ∀ read state state', l.foldlM pass state = some state' → Reads name read state →
    Reads name (read ++ s.toList) state'

open SignState in
instance [IsNumbered name] : Passes name (no_index (String.ofList l)) (l.map some) where
  reads read state state' hpass h := by
    rw [String.toList_ofList]
    induction l generalizing read state with
    | nil =>
      obtain rfl : state = state' := Option.some.inj hpass
      rwa [List.append_nil]
    | cons c l ih =>
      rw [List.map_cons, List.foldlM_cons] at hpass
      obtain ⟨state₁, hnext, hrest⟩ := Option.bind_eq_some_iff.mp hpass
      rw [List.append_cons]
      exact ih (read ++ [c]) state₁ hrest (h.next hnext)

open SignState in
instance [hs : Unassigning name s] : Passes name s [none] where
  reads read state state' hpass h := by
    cases state with
    | nothing =>
      obtain rfl : unknown = state' := Option.some.inj hpass
      exact h.piece hs
    | inside | unknown => cases hpass

open SignState in
instance {l m : List (Option Char)} [hs : Passes name s l] [ht : Passes name t m] :
    Passes name (s ++ t) (l ++ m) where
  reads read state state' hpass h := by
    rw [List.foldlM_append] at hpass
    obtain ⟨state₁, hl, hm⟩ := Option.bind_eq_some_iff.mp hpass
    rw [String.toList_append, ← List.append_assoc]
    exact ht.reads _ state₁ state' hm (hs.reads read state state₁ hl h)

lemma Passes.unassigning {l : List (Option Char)} [h : Passes name s l]
    (hl : (l.foldlM SignState.pass .nothing).isSome = true) : Unassigning name s := by
  obtain ⟨state, hstate⟩ := Option.isSome_iff_exists.mp hl
  exact unassigning_iff.mpr (h.reads [] .nothing state hstate reads_nil).unassigned

/-! ## Where a name is assigned -/

/-- The symbol is assigned at the beginning of a line of the code, so it is no local variable. -/
def AssignedIn (symbol code : String) : Prop :=
  ∃ lines value, code = lines ++ symbol ++ " = " ++ value ∧ (lines = "" ∨ ∃ l, lines = l ++ "\n")

/-- In one place of the code ` = ` comes after the symbol, and there the symbol stands at the beginning of a line, so
it is no local variable. -/
def AssignedOnceIn (symbol code : String) : Prop :=
  ∃ lines value, code = lines ++ symbol ++ " = " ++ value ∧ (lines = "" ∨ ∃ l, lines = l ++ "\n") ∧
    ∀ before after, code = before ++ symbol ++ " = " ++ after → before = lines

/-- If the text does not assign the name from the first ` = ` on, the name stands before it or is not assigned. -/
lemma Unassigning.eq_front [hname : IsNumbered name] {head rest : String} (h : Unassigning name (" = " ++ rest))
    (hhead : '=' ∉ head.toList) {before after : String}
    (heq : head ++ " = " ++ rest = before ++ name ++ " = " ++ after) : head = before ++ name := by
  have hchars : head.toList ++ ' ' :: '=' :: ' ' :: rest.toList =
      before.toList ++ (name.toList ++ ' ' :: '=' :: ' ' :: after.toList) := by
    simpa using congrArg String.toList heq
  rw [← String.toList_inj, String.toList_append]
  rcases List.append_eq_append_iff.mp hchars with ⟨z, hz, hrest⟩ | ⟨z, hz, hrest⟩
  · -- The name comes after the head.
    refine absurd ⟨z, after.toList, ?_⟩ (unassigning_iff.mp h)
    simpa [assignment] using hrest.symm
  · rcases List.append_eq_append_iff.mp hrest with ⟨w, hw, hsign⟩ | ⟨w, hw, hsign⟩
    · -- The name ends in the head, so the sign after it begins there.
      rcases w with _ | ⟨c, _ | ⟨c', w⟩⟩
      · rw [hz, hw, List.append_nil]
      · simp at hsign
      · simp only [List.cons_append, List.cons.injEq] at hsign
        rw [hz, hw, ← hsign.2.1] at hhead
        simp at hhead
    · -- The name ends later, which leaves the blank in it.
      rcases w with _ | ⟨c, w⟩
      · rw [hz, hw, List.append_nil]
      · simp only [List.cons_append, List.cons.injEq] at hsign
        have hblank := hname.parts ' ' (by rw [hw, hsign.1]; simp)
        exact absurd hblank (by decide)

/-! ## Statements that end their lines -/

/-- A text without a line break that stands in some statements stands in one of them. -/
lemma exists_of_join {statements : List String} (hends : ∀ s ∈ statements, ∃ line, s = line ++ "\n") {text : String}
    (htext : '\n' ∉ text.toList) (hne : text ≠ "") {before after : String}
    (h : String.join statements = before ++ text ++ after) :
    ∃ ss s ss' front back, statements = ss ++ s :: ss' ∧ s = front ++ text ++ back ∧
      before = String.join ss ++ front := by
  induction statements generalizing before with
  | nil =>
    have hempty := congrArg String.toList h
    simp [hne] at hempty
  | cons s statements ih =>
    obtain ⟨⟨line, hline⟩, hrest⟩ := List.forall_mem_cons.mp hends
    have hlater {front : String} (hfront : String.join statements = front ++ text ++ after)
        (hbefore : before = s ++ front) :
        ∃ ss s' ss' front back, s :: statements = ss ++ s' :: ss' ∧ s' = front ++ text ++ back ∧
          before = String.join ss ++ front := by
      obtain ⟨ss, s', ss', front', back, rfl, hs', rfl⟩ := ih hrest hfront
      exact ⟨s :: ss, s', ss', front', back, rfl, hs', by simp [hbefore, String.append_assoc]⟩
    have hhere {w : List Char} (hw : line.toList = before.toList ++ (text.toList ++ w)) :
        ∃ ss s' ss' front back, s :: statements = ss ++ s' :: ss' ∧ s' = front ++ text ++ back ∧
          before = String.join ss ++ front := by
      refine ⟨[], s, statements, before, String.ofList w ++ "\n", rfl, ?_, by simp⟩
      rw [hline, ← String.toList_inj]
      simp [hw]
    have hchars : line.toList ++ '\n' :: (String.join statements).toList =
        before.toList ++ (text.toList ++ after.toList) := by
      simpa [hline] using congrArg String.toList h
    rcases List.append_eq_append_iff.mp hchars with ⟨z, hz, hafter⟩ | ⟨z, hz, hafter⟩
    · rcases z with _ | ⟨c, z⟩
      · -- The text would begin with the line break.
        rw [List.nil_append] at hafter
        obtain ⟨c, rest, hcons⟩ := List.exists_cons_of_ne_nil (mt String.toList_eq_nil_iff.mp hne)
        rw [hcons, List.cons_append, List.cons.injEq] at hafter
        rw [hcons, ← hafter.1] at htext
        exact absurd List.mem_cons_self htext
      · rw [List.cons_append, List.cons.injEq] at hafter
        obtain ⟨rfl, hafter⟩ := hafter
        refine @hlater (String.ofList z) ?_ ?_
        · rw [← String.toList_inj]
          simp [hafter]
        · rw [← String.toList_inj]
          simp [hline, hz]
    · rcases List.append_eq_append_iff.mp hafter with ⟨w, hw, -⟩ | ⟨w, hw, hbreak⟩
      · exact @hhere w (by rw [hz, hw])
      · rcases w with _ | ⟨c, w⟩
        · exact @hhere [] (by simp [hz, hw])
        · rw [List.cons_append, List.cons.injEq] at hbreak
          rw [hw, ← hbreak.1] at htext
          simp at htext

lemma lines_join {statements : List String} (hends : ∀ s ∈ statements, ∃ line, s = line ++ "\n") :
    String.join statements = "" ∨ ∃ l, String.join statements = l ++ "\n" := by
  rcases statements.eq_nil_or_concat with rfl | ⟨ss, s, rfl⟩
  · exact .inl rfl
  · obtain ⟨line, rfl⟩ := hends s (by simp)
    exact .inr ⟨String.join ss ++ line, by simp [String.append_assoc]⟩

lemma assignedIn_join {ss : List String} (hends : ∀ s ∈ ss, ∃ line, s = line ++ "\n") (ss' : List String)
    (symbol value : String) : AssignedIn symbol (String.join (ss ++ (symbol ++ " = " ++ value) :: ss')) :=
  ⟨String.join ss, value ++ String.join ss', by simp [String.append_assoc], lines_join hends⟩

/-- If one statement begins by assigning the symbol, and nowhere else in the statements it is assigned, then it is
assigned once in all of them. -/
lemma assignedOnceIn_join (ss : List String) {ss' : List String} {symbol value : String} [hsymbol : IsNumbered symbol]
    (hends : ∀ s ∈ ss ++ (symbol ++ " = " ++ value) :: ss', ∃ line, s = line ++ "\n")
    (hfront : Unassigning symbol (" = " ++ value)) (hothers : ∀ s ∈ ss ++ ss', Unassigning symbol s) :
    AssignedOnceIn symbol (String.join (ss ++ (symbol ++ " = " ++ value) :: ss')) := by
  have hlines := lines_join fun s hs => hends s (List.mem_append_left _ hs)
  refine ⟨String.join ss, value ++ String.join ss', by simp [String.append_assoc], hlines, fun before after h => ?_⟩
  have hplace (opening closing : String) :
      opening ++ symbol ++ " = " ++ closing = opening ++ (symbol ++ " = ") ++ closing := by
    simp only [String.append_assoc]
  have hpart {c : Char} (hc : isNamePart c = false) : c ∉ symbol.toList := fun hmem => by
    rw [hsymbol.parts c hmem] at hc
    cases hc
  have hsign : '\n' ∉ (symbol ++ " = ").toList := by simpa using hpart (c := '\n') (by decide)
  have hne : symbol ++ " = " ≠ "" := fun heq => by simpa using congrArg String.toList heq
  obtain ⟨ts, s, ts', front, back, hstatements, hs, rfl⟩ := exists_of_join hends hsign hne (h.trans (hplace _ _))
  rw [← hplace] at hs
  have hhere (hs : symbol ++ " = " ++ value = front ++ symbol ++ " = " ++ back) : front = "" := by
    have heq := congrArg String.toList (hfront.eq_front (hpart (by decide)) hs)
    rwa [String.toList_append, List.self_eq_append_left, String.toList_eq_nil_iff] at heq
  rcases List.append_eq_append_iff.mp hstatements with ⟨z, rfl, hz⟩ | ⟨z, rfl, hz⟩
  · rcases z with _ | ⟨s', z⟩
    · obtain ⟨rfl, -⟩ := List.cons.inj hz
      rw [hhere hs]
      simp
    · obtain ⟨-, rfl⟩ := List.cons.inj hz
      exact absurd hs ((hothers s (by simp)).ne front back)
  · rcases z with _ | ⟨s', z⟩
    · obtain ⟨rfl, -⟩ := List.cons.inj hz
      rw [hhere hs]
      simp
    · obtain ⟨rfl, -⟩ := List.cons.inj hz
      exact absurd hs ((hothers s (by simp)).ne front back)

end PackToMod
