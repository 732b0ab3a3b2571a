import Mathlib.Data.List.DropRight
import PackToMod.Proofs.Registries

/-!
# What a registry lists

However often its texts are set, a registry holds each of them once: where it came first, with what was set
last. Its listing joins these entries. Putting the separator after every entry and cutting the last one off
gives the same text, whatever the separator and the entries are made of.
-/

namespace PackToMod.Registry

variable {α : Type}

/-! ## Setting many texts -/

/-- The registry after some texts have been set, one after the other. -/
def setAll (r : Registry α) (sets : List (String × α)) : Registry α :=
  sets.foldl (fun r s => r.set s.1 s.2) r

lemma setAll_concat (r : Registry α) (sets : List (String × α)) (s : String × α) :
    r.setAll (sets ++ [s]) = (r.setAll sets).set s.1 s.2 :=
  List.foldl_concat ..

/-- What was set last under a text. -/
def lastSet? (sets : List (String × α)) (key : String) : Option α :=
  sets.reverse.lookup key

lemma lastSet?_concat (sets : List (String × α)) (s : String × α) (key : String) :
    lastSet? (sets ++ [s]) key = if key = s.1 then some s.2 else lastSet? sets key := by
  unfold lastSet?
  rw [List.reverse_concat, List.lookup_cons]
  by_cases h : key = s.1
  · rw [if_pos h, beq_iff_eq.mpr h]
  · rw [if_neg h, beq_eq_false_iff_ne.mpr h]

lemma get?_setAll (sets : List (String × α)) (key : String) :
    (({} : Registry α).setAll sets).get? key = lastSet? sets key := by
  induction sets using List.reverseRecOn with
  | nil => rfl
  | append_singleton sets s ih =>
    rw [setAll_concat, lastSet?_concat]
    by_cases h : key = s.1
    · rw [if_pos h, h, get?_set_self]
    · rw [if_neg h, get?_set_of_ne _ _ h, ih]

/-- The texts stand in the order in which they were first set. -/
lemma keys_setAll (sets : List (String × α)) :
    (({} : Registry α).setAll sets).keys = (sets.map Prod.fst).eraseDups := by
  induction sets using List.reverseRecOn with
  | nil => rfl
  | append_singleton sets s ih =>
    rw [setAll_concat, keys_set, ih, List.map_append, List.eraseDups_append, List.map_singleton]
    by_cases h : s.1 ∈ sets.map Prod.fst
    · have hknown : [s.1].removeAll (sets.map Prod.fst) = [] := by simp [List.removeAll, h]
      rw [if_pos (List.mem_eraseDups.mpr h), hknown, List.eraseDups_nil, List.append_nil]
    · have hnew : [s.1].removeAll (sets.map Prod.fst) = [s.1] := by simp [List.removeAll, h]
      rw [if_neg (mt List.mem_eraseDups.mp h), hnew]
      rfl

lemma nodup_keys_setAll (sets : List (String × α)) : (({} : Registry α).setAll sets).keys.Nodup := by
  induction sets using List.reverseRecOn with
  | nil => exact List.nodup_nil
  | append_singleton sets s ih =>
    rw [setAll_concat]
    exact nodup_keys_set ih _ _

/-- Without double texts, a registry is given by its texts and what stands under them. -/
lemma entries_eq {r : Registry α} (h : r.keys.Nodup) :
    r.entries = r.keys.filterMap fun key => (r.get? key).map (key, ·) := by
  obtain ⟨entries⟩ := r
  unfold keys get? at *
  dsimp only at *
  induction entries with
  | nil => rfl
  | cons entry rest ih =>
    obtain ⟨text, value⟩ := entry
    rw [List.map_cons, List.nodup_cons] at h
    have hfirst : ((text, value) :: rest).lookup text = some value := by simp
    -- No later text is the first one, so the first entry is in nobody's way.
    have hrest : ∀ key ∈ rest.map Prod.fst,
        (((text, value) :: rest).lookup key).map (key, ·) = (rest.lookup key).map (key, ·) := by
      intro key hkey
      have hne : (key == text) = false := beq_eq_false_iff_ne.mpr fun heq => h.1 (heq ▸ hkey)
      rw [List.lookup_cons, hne]
    rw [List.map_cons, List.filterMap_cons, hfirst, List.filterMap_congr hrest, ← ih h.2]
    rfl

/-- Every text that was set, once and where it came first, with what was set last under it. -/
def settled (sets : List (String × α)) : List (String × α) :=
  (sets.map Prod.fst).eraseDups.filterMap fun key => (lastSet? sets key).map (key, ·)

lemma entries_setAll (sets : List (String × α)) : (({} : Registry α).setAll sets).entries = settled sets := by
  rw [entries_eq (nodup_keys_setAll sets), keys_setAll]
  simp only [get?_setAll]
  rfl

/-! ## Joining entries -/

lemma flatMap_intersperse (separator : String) (texts : List String) :
    (texts.intersperse separator).flatMap String.toList = (separator.intercalate texts).toList := by
  induction texts with
  | nil => simp
  | cons text texts ih =>
    cases texts with
    | nil => simp
    | cons next rest =>
      rw [List.intersperse_cons_cons, List.flatMap_cons, List.flatMap_cons, ih, String.intercalate_cons_cons,
        String.toList_append, String.toList_append, List.append_assoc]

lemma listing_eq_join (render : α → String) (separator : String) (r : Registry α) :
    r.listing render separator =
      String.ofList (Text.trimEnd (separator.intercalate (r.entries.map (commented render))).toList) := by
  unfold listing
  dsimp only
  rw [flatMap_intersperse]

/-- With the separator after every text there is one separator too many, unless there is no text. -/
lemma flatMap_separated {texts : List String} (h : texts ≠ []) (separator : String) :
    (texts.flatMap fun text => (text ++ separator).toList) =
      (separator.intercalate texts).toList ++ separator.toList := by
  induction texts with
  | nil => exact absurd rfl h
  | cons text texts ih =>
    cases texts with
    | nil => simp
    | cons next rest =>
      rw [List.flatMap_cons, ih (List.cons_ne_nil _ _), String.intercalate_cons_cons]
      simp

lemma rdrop_flatMap_separated (texts : List String) (separator : String) :
    (texts.flatMap fun text => (text ++ separator).toList).rdrop separator.length =
      (separator.intercalate texts).toList := by
  cases texts with
  | nil => simp
  | cons text texts =>
    rw [flatMap_separated (List.cons_ne_nil _ _), ← String.length_toList, List.rdrop_append_length]

/-- Blanks are cut off at the end, and nothing else is. -/
lemma trimEnd_spec (s : List Char) :
    ∃ blanks, (∀ c ∈ blanks, Text.isBlank c = true) ∧ s = Text.trimEnd s ++ blanks ∧
      ∀ c ∈ (Text.trimEnd s).getLast?, Text.isBlank c = false := by
  have htrim : Text.trimEnd s = s.rdropWhile Text.isBlank := rfl
  rw [htrim]
  refine ⟨s.rtakeWhile Text.isBlank, fun c hc => List.mem_rtakeWhile_imp hc, ?_, fun c hc => ?_⟩
  · exact List.rdropWhile_append_rtakeWhile.symm
  · obtain ⟨hne, rfl⟩ := List.mem_getLast?_eq_getLast hc
    exact Bool.eq_false_iff.mpr (List.rdropWhile_last_not Text.isBlank s hne)

/-! ## Texts, and texts with something to them -/

/-- What is set is a text, or a text with something to it that is not listed. -/
inductive Content (β : Type) where
  | text (s : String)
  | pair (s : String) (other : β)

def Content.listed {β : Type} : Content β → String
  | text s => s
  | pair s _ => s

/-- Whatever was set: a registry answers with what was set last under a text, if anything was, and lists every
text once, in the order in which the texts were first set and with what was set last, with the separator
between neighbours. The blanks at the end are left out and nothing else is. The same comes of putting the separator
after every entry and cutting it off at the end. -/
theorem last_sets_listed_in_order {β : Type} (separator : String) (sets : List (String × Content β)) :
    let r := ({} : Registry (Content β)).setAll sets
    let texts := (settled sets).map fun entry => "// " ++ entry.1 ++ "\n" ++ entry.2.listed
    (∀ key, r.get? key = lastSet? sets key ∧ (r.contains key = true ↔ key ∈ sets.map Prod.fst)) ∧
      (settled sets).map Prod.fst = (sets.map Prod.fst).eraseDups ∧
      (∀ entry ∈ settled sets, lastSet? sets entry.1 = some entry.2) ∧
      r.listing Content.listed separator = String.ofList (Text.trimEnd (separator.intercalate texts).toList) ∧
      (∃ blanks, (∀ c ∈ blanks, Text.isBlank c = true) ∧
        separator.intercalate texts = r.listing Content.listed separator ++ String.ofList blanks ∧
        ∀ c ∈ (r.listing Content.listed separator).toList.getLast?, Text.isBlank c = false) ∧
      r.listing Content.listed separator = String.ofList (Text.trimEnd
        ((texts.flatMap fun text => (text ++ separator).toList).rdrop separator.length)) := by
  intro r texts
  have hentries : r.entries = settled sets := entries_setAll sets
  have hlisting : r.listing Content.listed separator =
      String.ofList (Text.trimEnd (separator.intercalate texts).toList) := by
    rw [listing_eq_join, hentries]
    rfl
  refine ⟨fun key => ⟨get?_setAll sets key, ?_⟩, ?_, fun entry hentry => ?_, hlisting, ?_, ?_⟩
  · rw [contains, Option.isSome_iff_ne_none, ne_eq, get?_eq_none_iff, not_not, keys_setAll, List.mem_eraseDups]
  · rw [← hentries, ← keys_setAll]
    rfl
  · obtain ⟨key, -, hkey⟩ := List.mem_filterMap.mp hentry
    obtain ⟨value, hvalue, rfl⟩ := Option.map_eq_some_iff.mp hkey
    exact hvalue
  · obtain ⟨blanks, hblanks, hcut, hlast⟩ := trimEnd_spec (separator.intercalate texts).toList
    rw [hlisting]
    refine ⟨blanks, hblanks, ?_, ?_⟩
    · rw [← String.ofList_append, ← hcut, String.ofList_toList]
    · rwa [String.toList_ofList]
  · rw [hlisting, rdrop_flatMap_separated]

end PackToMod.Registry
