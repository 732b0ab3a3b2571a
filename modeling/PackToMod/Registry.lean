import PackToMod.Text.Blank

/-!
# Registries

A registry holds entries under texts, in the order in which the texts first came. Setting a text
that is already there replaces its entry in place.
-/

namespace PackToMod

structure Registry (α : Type) where
  entries : List (String × α) := []

namespace Registry

variable {α : Type}

def keys (r : Registry α) : List String :=
  r.entries.map Prod.fst

def size (r : Registry α) : Nat :=
  r.entries.length

def get? (r : Registry α) (key : String) : Option α :=
  r.entries.lookup key

def contains (r : Registry α) (key : String) : Bool :=
  (r.get? key).isSome

/-- Replaces the entry under `key`, or adds one at the end. -/
def put (key : String) (value : α) : List (String × α) → List (String × α)
  | [] => [(key, value)]
  | entry :: rest =>
    if entry.1 = key then (key, value) :: rest else entry :: put key value rest

def set (r : Registry α) (key : String) (value : α) : Registry α :=
  ⟨put key value r.entries⟩

theorem get?_set_self (r : Registry α) (key : String) (value : α) :
    (r.set key value).get? key = some value := by
  unfold get? set
  induction r.entries with
  | nil => simp [put]
  | cons entry rest ih =>
    obtain ⟨text, old⟩ := entry
    by_cases h : text = key
    · simp [put, h]
    · have hk : (key == text) = false := by simpa using fun he => h he.symm
      simpa [put, h, List.lookup_cons, hk] using ih

theorem get?_set_of_ne (r : Registry α) {key other : String} (value : α) (h : other ≠ key) :
    (r.set key value).get? other = r.get? other := by
  unfold get? set
  have hk : (other == key) = false := by simpa using h
  induction r.entries with
  | nil => simp [put, List.lookup_cons, hk]
  | cons entry rest ih =>
    obtain ⟨text, old⟩ := entry
    by_cases he : text = key
    · simp [put, he, List.lookup_cons, hk]
    · simp only [put, he, if_false, List.lookup_cons]
      cases other == text with
      | true => rfl
      | false => simpa using ih

/-- A new text goes to the end, a known one keeps its place. -/
theorem keys_set (r : Registry α) (key : String) (value : α) :
    (r.set key value).keys = if key ∈ r.keys then r.keys else r.keys ++ [key] := by
  unfold keys set
  induction r.entries with
  | nil => simp [put]
  | cons entry rest ih =>
    by_cases h : entry.1 = key
    · simp [put, h]
    · have hne : key ≠ entry.1 := fun he => h he.symm
      simp only [put, h, if_false, List.map_cons, ih, List.mem_cons, hne, false_or]
      split <;> simp

/-- Changes the entry under `key`, if there is one. -/
def modify (r : Registry α) (key : String) (f : α → α) : Registry α :=
  match r.get? key with
  | none => r
  | some value => r.set key (f value)

/-- An entry below the text it is registered under. -/
def commented (render : α → String) (entry : String × α) : String :=
  "// " ++ entry.1 ++ "\n" ++ render entry.2

/-- All entries in order, a separator between neighbours, without blanks at the end. -/
def listing (render : α → String) (separator : String) (r : Registry α) : String :=
  let body := (r.entries.map (commented render)).intersperse separator
  String.ofList (Text.trimEnd (body.flatMap String.toList))

end Registry

end PackToMod
