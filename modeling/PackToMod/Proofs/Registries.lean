import Mathlib.Data.List.Nodup
import Mathlib.Data.List.Perm.Subperm
import PackToMod.Registry

/-!
# Registries as they grow

A text that is not registered yet is registered at the end, so a registry that only takes new texts
keeps its entries as a prefix. A text that is set again keeps its place and loses its entry.
-/

namespace PackToMod

variable {α : Type}

lemma mem_of_lookup {entries : List (String × α)} {key : String} {value : α}
    (h : entries.lookup key = some value) : (key, value) ∈ entries := by
  obtain ⟨before, after, rfl, -⟩ := List.lookup_eq_some_iff.mp h
  simp

namespace Registry

lemma get?_eq_none_iff {r : Registry α} {key : String} : r.get? key = none ↔ key ∉ r.keys := by
  unfold get? keys
  rw [List.lookup_eq_none_iff]
  constructor
  · intro h hmem
    obtain ⟨entry, hentry, rfl⟩ := List.mem_map.mp hmem
    exact absurd (h entry hentry) (by simp)
  · intro h entry hentry
    have hne : key ≠ entry.1 := fun he => h (he ▸ List.mem_map_of_mem hentry)
    simpa using hne

lemma mem_of_get? {r : Registry α} {key : String} {value : α} (h : r.get? key = some value) :
    (key, value) ∈ r.entries :=
  mem_of_lookup h

lemma get?_of_prefix {r r' : Registry α} {key : String} {value : α}
    (h : r.entries <+: r'.entries) (hget : r.get? key = some value) : r'.get? key = some value := by
  obtain ⟨more, hmore⟩ := h
  unfold get? at hget ⊢
  rw [← hmore, List.lookup_append, hget, Option.some_or]

lemma put_append {key : String} (value : α) {entries : List (String × α)}
    (h : key ∉ entries.map Prod.fst) (more : List (String × α)) :
    put key value (entries ++ more) = entries ++ put key value more := by
  induction entries with
  | nil => rfl
  | cons entry rest ih =>
    rw [List.map_cons, List.mem_cons, not_or] at h
    have hne : ¬ entry.1 = key := fun he => h.1 he.symm
    rw [List.cons_append, put, if_neg hne, ih h.2, List.cons_append]

lemma entries_set_of_absent {r : Registry α} {key : String} (value : α) (h : key ∉ r.keys) :
    (r.set key value).entries = r.entries ++ [(key, value)] := by
  have happend := put_append value h []
  rwa [List.append_nil] at happend

/-- Setting a text that an earlier registry does not hold keeps the earlier entries. -/
lemma prefix_set {r r' : Registry α} {key : String} (value : α) (h : r.entries <+: r'.entries)
    (habsent : key ∉ r.keys) : r.entries <+: (r'.set key value).entries := by
  obtain ⟨more, hmore⟩ := h
  unfold set
  rw [← hmore, put_append value habsent]
  exact List.prefix_append _ _

lemma keys_prefix_set (r : Registry α) (key : String) (value : α) :
    r.keys <+: (r.set key value).keys := by
  rw [keys_set]
  split
  · exact List.prefix_rfl
  · exact List.prefix_append _ _

lemma nodup_keys_set {r : Registry α} (h : r.keys.Nodup) (key : String) (value : α) :
    (r.set key value).keys.Nodup := by
  rw [keys_set]
  split
  · exact h
  · next hnew =>
    rw [← List.concat_eq_append]
    exact List.Nodup.concat hnew h

lemma mem_put {key : String} {value : α} {entry : String × α} {entries : List (String × α)}
    (h : entry ∈ put key value entries) : entry = (key, value) ∨ entry ∈ entries := by
  induction entries with
  | nil => exact .inl (List.mem_singleton.mp h)
  | cons first rest ih =>
    by_cases hkey : first.1 = key
    · rw [put, if_pos hkey] at h
      rcases List.mem_cons.mp h with h | h
      · exact .inl h
      · exact .inr (List.mem_cons_of_mem _ h)
    · rw [put, if_neg hkey] at h
      rcases List.mem_cons.mp h with h | h
      · exact .inr (h ▸ List.mem_cons_self)
      · exact (ih h).imp_right (List.mem_cons_of_mem _)

/-- An entry after a text has been set is the new one or an old one. -/
lemma mem_set {r : Registry α} {key : String} {value : α} {entry : String × α}
    (h : entry ∈ (r.set key value).entries) : entry = (key, value) ∨ entry ∈ r.entries :=
  mem_put h

lemma mem_keys_set {r : Registry α} {key other : String} {value : α}
    (h : other ∈ (r.set key value).keys) : other = key ∨ other ∈ r.keys := by
  obtain ⟨entry, hentry, rfl⟩ := List.mem_map.mp h
  rcases mem_set hentry with rfl | hold
  · exact .inl rfl
  · exact .inr (List.mem_map_of_mem hold)

/-- What is read off the entries loses at most what the old entry gave, and gains only what the new
one gives. -/
lemma map_set_subperm {β : Type} (r : Registry α) (key : String) (value : α) (read : String × α → β) :
    ((r.set key value).entries.map read).Subperm (read (key, value) :: r.entries.map read) := by
  unfold set
  dsimp only
  induction r.entries with
  | nil => exact List.Subperm.refl _
  | cons first rest ih =>
    by_cases hkey : first.1 = key
    · rw [put, if_pos hkey, List.map_cons, List.map_cons]
      exact ((List.sublist_cons_self _ _).cons_cons _).subperm
    · rw [put, if_neg hkey, List.map_cons, List.map_cons]
      exact ((List.subperm_cons _).mpr ih).trans (List.Perm.swap _ _ _).subperm

end Registry

end PackToMod
