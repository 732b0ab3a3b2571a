import PackToMod.Proofs.Outcomes

/-!
# Patches and the values of their components

The value of a component is declared as a tag, and a patch has to know the type of that tag. The type is known to
the use that declares the tag and to no later one. So whether a patch can be declared depends on what else has been
declared before, in the patch and in the whole build: it can only take values with new texts.
-/

namespace PackToMod

open Build

variable {b : Build}

/-! ## Values -/

/-- A declared tag is not declared again, and its type is not at hand. -/
lemma declareTag_known {value : Node} {text : String} (htext : value.text? = some text) (hknown : text ∈ b.tags.keys) :
    ∃ term, value.declareTag b = .ok ⟨term, false⟩ b := by
  cases hget : b.tags.get? text with
  | none => exact absurd hknown (Registry.get?_eq_none_iff.mp hget)
  | some tag => exact ⟨tag.root, by simp [Node.declareTag, Node.key, BuildM.require, htext, hget]⟩

lemma declareTag_new {value : Node} {text : String} (htext : value.text? = some text) (htag : value.IsTag)
    (hnew : text ∉ b.tags.keys) :
    ∃ term b', value.declareTag b = .ok ⟨term, true⟩ b' ∧ b'.tags.keys = b.tags.keys ++ [text] := by
  have hget : b.tags.get? text = none := Registry.get?_eq_none_iff.mpr hnew
  obtain ⟨tag, n, hlower⟩ := htag.lowerTag_ok false (b.counter + 1)
  refine ⟨tag.root,
    { b with counter := n, tags := b.tags.set text tag, staticTags := b.staticTags.set text tag }, ?_, ?_⟩
  · simp [Node.declareTag, Node.key, BuildM.require, htext, hget, BuildM.numbering, hlower]
  · rw [Registry.keys_set, if_neg hnew]

/-- A tag under a new text: what has been registered, and where the counter stands. -/
lemma declareTag_ok_of_new {value : Node} {text : String} {tag : TagReference} {b' : Build}
    (htext : value.text? = some text) (hnew : text ∉ b.tags.keys) (h : value.declareTag b = .ok tag b') :
    ∃ t n, value.lowerTag false (b.counter + 1) = .ok t n ∧ tag = ⟨t.root, true⟩ ∧
      b' = { b with counter := n, tags := b.tags.set text t, staticTags := b.staticTags.set text t } := by
  have hget : b.tags.get? text = none := Registry.get?_eq_none_iff.mpr hnew
  unfold Node.declareTag Node.key at h
  simp only [htext, BuildM.require, run_bind, run_pure, run_get, hget, run_fresh, BuildM.numbering] at h
  cases hlower : value.lowerTag false (b.counter + 1) with
  | error f n =>
    rw [hlower] at h
    cases h
  | ok t n =>
    rw [hlower] at h
    cases h
    exact ⟨t, n, rfl, rfl, rfl⟩

/-- What can be declared under a new text is a tag. -/
lemma isTag_of_declareTag {value : Node} {tag : TagReference} {b' : Build}
    (hnew : ∀ text, value.text? = some text → text ∉ b.tags.keys) (h : value.declareTag b = .ok tag b') :
    ∃ text, value.text? = some text ∧ value.IsTag := by
  cases htext : value.text? with
  | none =>
    unfold Node.declareTag Node.key at h
    rw [htext] at h
    cases h
  | some text =>
    obtain ⟨t, n, hlower, -⟩ := declareTag_ok_of_new htext (hnew text htext) h
    exact ⟨text, rfl, (lowerTag_gives false value).ok hlower⟩

lemma Node.IsTag.exists_text {node : Node} (h : node.IsTag) : ∃ text, node.text? = some text := by
  cases h <;> exact ⟨_, rfl⟩

/-- The text of the value is declared, or all that it holds has a known type. -/
def Build.Refers (b : Build) (value : Node) : Prop :=
  (∃ text ∈ b.tags.keys, value.text? = some text) ∨ value.IsTag

lemma declareTag_ok_iff {value : Node} : (∃ tag b', value.declareTag b = .ok tag b') ↔ b.Refers value := by
  by_cases hknown : ∃ text ∈ b.tags.keys, value.text? = some text
  · obtain ⟨text, hmem, htext⟩ := hknown
    obtain ⟨term, hrun⟩ := declareTag_known htext hmem
    exact iff_of_true ⟨_, b, hrun⟩ (.inl ⟨text, hmem, htext⟩)
  have hnew : ∀ text, value.text? = some text → text ∉ b.tags.keys :=
    fun text htext hmem => hknown ⟨text, hmem, htext⟩
  constructor
  · rintro ⟨tag, b', hrun⟩
    obtain ⟨-, -, htag⟩ := isTag_of_declareTag hnew hrun
    exact .inr htag
  · intro hrefers
    have htag := hrefers.resolve_left hknown
    obtain ⟨text, htext⟩ := htag.exists_text
    obtain ⟨term, b', hrun, -⟩ := declareTag_new htext htag (hnew text htext)
    exact ⟨_, b', hrun⟩

/-! ## Settings -/

/-- A component with a location as its key, and a value that can be declared in an empty build. -/
def Node.IsComponent (node : Node) : Prop :=
  ∃ text l value, node = .itemComponent text (.location l) value ∧ ∃ tag b, value.declareTag {} = .ok tag b

/-- The text that the value of a component is declared under. -/
def Node.tagText? : Node → Option String
  | .itemComponent _ _ value => value.text?
  | _ => none

def tagTexts (components : List Node) : List String :=
  components.filterMap Node.tagText?

/-- No tag is declared under the text of one of the values, and no two values have the same text. -/
structure Build.Takes (b : Build) (components : List Node) : Prop where
  new : ∀ text ∈ tagTexts components, text ∉ b.tags.keys
  nodup : (tagTexts components).Nodup

lemma declareComponent_cases {c : Node} (hc : c.IsComponent) (b : Build) :
    ∃ text, c.tagText? = some text ∧
      (text ∈ b.tags.keys ∧ c.declareComponent b = .error .untypedTag b ∨
        text ∉ b.tags.keys ∧ ∃ setting b', c.declareComponent b = .ok setting b' ∧
          b'.tags.keys = b.tags.keys ++ [text]) := by
  obtain ⟨written, l, value, rfl, tag, b₀, hdeclare⟩ := hc
  obtain ⟨text, htext, htag⟩ := isTag_of_declareTag (fun _ _ => List.not_mem_nil) hdeclare
  refine ⟨text, htext, ?_⟩
  by_cases hknown : text ∈ b.tags.keys
  · obtain ⟨term, hterm⟩ := declareTag_known htext hknown
    refine .inl ⟨hknown, ?_⟩
    simp [Node.declareComponent, hterm, TagReference.type?, BuildM.require]
  · obtain ⟨term, b', hterm, hkeys⟩ := declareTag_new htext htag hknown
    refine .inr ⟨hknown, ⟨l.symbol, term.type, term⟩, { b' with locations := b'.locations.set l.text l }, ?_, hkeys⟩
    simp [Node.declareComponent, hterm, TagReference.type?, BuildM.require, Node.declareLocation, Node.location?,
      PackToMod.declareLocation]

/-- Once the first value is declared, the others have to be new after it. -/
lemma takes_cons_iff {b' : Build} {c : Node} {components : List Node} {text : String} (htext : c.tagText? = some text)
    (hnew : text ∉ b.tags.keys) (hkeys : b'.tags.keys = b.tags.keys ++ [text]) :
    b.Takes (c :: components) ↔ b'.Takes components := by
  have htexts : tagTexts (c :: components) = text :: tagTexts components := List.filterMap_cons_some htext
  constructor
  · rintro ⟨hfree, hnodup⟩
    rw [htexts] at hfree hnodup
    obtain ⟨hother, hnodup⟩ := List.nodup_cons.mp hnodup
    refine ⟨fun other hmem hold => ?_, hnodup⟩
    rw [hkeys, List.mem_append, List.mem_singleton] at hold
    rcases hold with hold | rfl
    · exact hfree other (List.mem_cons_of_mem _ hmem) hold
    · exact hother hmem
  · rintro ⟨hfree, hnodup⟩
    rw [hkeys] at hfree
    refine ⟨?_, ?_⟩
    · rw [htexts, List.forall_mem_cons]
      exact ⟨hnew, fun other hmem hold => hfree other hmem (List.mem_append_left _ hold)⟩
    · rw [htexts, List.nodup_cons]
      exact ⟨fun hmem => hfree text hmem (by simp), hnodup⟩

/-- The settings are declared if all values are new, and the first one that is not ends it. -/
lemma declareSettings_cases {components : List Node} (h : ∀ c ∈ components, c.IsComponent) (b : Build) :
    (b.Takes components ∧ ∃ settings b', declareSettings components b = .ok settings b') ∨
      ¬ b.Takes components ∧ ∃ b', declareSettings components b = .error .untypedTag b' := by
  induction components generalizing b with
  | nil => exact .inl ⟨⟨List.forall_mem_nil _, List.nodup_nil⟩, [], b, rfl⟩
  | cons c components ih =>
    obtain ⟨hc, hcomponents⟩ := List.forall_mem_cons.mp h
    obtain ⟨text, htext, ⟨hknown, hrun⟩ | ⟨hnew, setting, b', hrun, hkeys⟩⟩ := declareComponent_cases hc b
    · refine .inr ⟨fun htakes => htakes.new text ?_ hknown, b, by simp [declareSettings, hrun]⟩
      exact List.mem_filterMap.mpr ⟨c, List.mem_cons_self, htext⟩
    · rw [takes_cons_iff htext hnew hkeys]
      refine (ih hcomponents b').imp ?_ ?_
      · rintro ⟨htakes, settings, b'', hsettings⟩
        exact ⟨htakes, setting :: settings, b'', by simp [declareSettings, hrun, hsettings]⟩
      · rintro ⟨hrefuses, b'', hsettings⟩
        exact ⟨hrefuses, b'', by simp [declareSettings, hrun, hsettings]⟩

/-! ## Patches -/

lemma componentsKey_ok {components : List Node} (h : ∀ c ∈ components, c.IsComponent) :
    ∃ key, ∀ b, componentsKey components b = .ok key b := by
  induction components with
  | nil => exact ⟨"", fun b => rfl⟩
  | cons c components ih =>
    obtain ⟨⟨text, l, value, rfl, -⟩, hcomponents⟩ := List.forall_mem_cons.mp h
    obtain ⟨key, hkey⟩ := ih hcomponents
    refine ⟨text ++ "\t" ++ key, fun b => ?_⟩
    simp [componentsKey, Node.key, Node.text?, BuildM.require, hkey]

/-- What becomes of a list of components: it is found again, declared, or refused for want of a type. -/
lemma declarePatch_cases {components : List Node} (h : ∀ c ∈ components, c.IsComponent) (hne : components ≠ [])
    {key : String} (hkey : componentsKey components b = .ok key b) :
    (∃ p, b.patches.get? key = some p ∧ declarePatch components b = .ok p.symbol b) ∨
      key ∉ b.patches.keys ∧
        (b.Takes components ∧ (∃ p b', b'.patches.get? key = some p ∧ b'.staticPatches.get? key = some p ∧
            declarePatch components b = .ok p.symbol b') ∨
          ¬ b.Takes components ∧ ∃ b', b'.patches = b.patches ∧ b'.staticPatches = b.staticPatches ∧
            declarePatch components b = .error .untypedTag b') := by
  have hisEmpty : components.isEmpty = false := by simpa using hne
  cases hget : b.patches.get? key with
  | some p => exact .inl ⟨p, rfl, by simp [declarePatch, hisEmpty, hkey, hget]⟩
  | none =>
    refine .inr ⟨Registry.get?_eq_none_iff.mp hget, ?_⟩
    have hbasic : Keeps (Basic fun _ => True) (declareSettings components) :=
      declareSettings_keeps downClosed_true fun _ _ => trivial
    have hkept := hbasic { b with counter := b.counter + 1 }
    refine (declareSettings_cases h { b with counter := b.counter + 1 }).imp ?_ ?_
    · rintro ⟨htakes, settings, b', hsettings⟩
      refine ⟨⟨htakes.new, htakes.nodup⟩, ⟨b.counter, settings⟩,
        { b' with
          patches := b'.patches.set key ⟨b.counter, settings⟩
          staticPatches := b'.staticPatches.set key ⟨b.counter, settings⟩ },
        Registry.get?_set_self .., Registry.get?_set_self .., ?_⟩
      simp [declarePatch, hisEmpty, hkey, hget, hsettings]
    · rintro ⟨hrefuses, b', hsettings⟩
      rw [hsettings] at hkept
      refine ⟨fun htakes => hrefuses ⟨htakes.new, htakes.nodup⟩, b', hkept.patches_eq, hkept.staticPatches_eq, ?_⟩
      simp [declarePatch, hisEmpty, hkey, hget, hsettings]

lemma Build.Takes.of_prefix {b' : Build} {components : List Node} (hgrown : b.tags.entries <+: b'.tags.entries)
    (h : b'.Takes components) : b.Takes components :=
  ⟨fun text htext hold => h.new text htext ((hgrown.map Prod.fst).subset hold), h.nodup⟩

/-- A list of components that is refused is refused from then on, unless a patch is registered under its text. -/
lemma refused_again {components : List Node} (h : ∀ c ∈ components, c.IsComponent) (hne : components ≠ [])
    {key : String} (hkey : ∀ b, componentsKey components b = .ok key b) (hb : b.Sound)
    (hrefuses : ¬ b.Takes components) {b' : Build} (hrun : declarePatch components b = .error .untypedTag b')
    (later : List Request) (hlater : key ∉ (b'.after later).patches.keys) :
    ∃ b'', declarePatch components (b'.after later) = .error .untypedTag b'' := by
  have hnext : (Request.patch components).next b = b' := by
    rw [Request.next, Request.run, lastState_map, hrun, lastState_error]
  obtain ⟨hextends, hsound⟩ := (Request.patch components).next_extends hb
  rw [hnext] at hextends hsound
  have hgrown : b.tags.entries <+: (b'.after later).tags.entries :=
    hextends.tags.trans (hsound.after_extends later).1.tags
  obtain ⟨p, hget, -⟩ | ⟨-, ⟨htakes, -⟩ | ⟨-, b'', -, -, hagain⟩⟩ := declarePatch_cases h hne (hkey (b'.after later))
  · exact absurd (List.mem_map_of_mem (Registry.mem_of_get? hget)) hlater
  · exact absurd (htakes.of_prefix hgrown) hrefuses
  · exact ⟨b'', hagain⟩

/-- After any requests, components of which each value can be declared by itself: the patch is returned just if
there are no components, or it is registered, or no tag is declared under the text of a value and no two values
have the same text. Otherwise it is refused, no patch is registered, and so it is refused ever after. A patch that is
returned is declared and has its initialiser. -/
theorem patch_returned_iff (done : List Request) (components : List Node)
    (h : ∀ c ∈ components, c.IsComponent) :
    let b := ({} : Build).after done
    ∃ key, (∀ b, componentsKey components b = .ok key b) ∧
      ((∃ symbol b', declarePatch components b = .ok symbol b') ↔
        components = [] ∨ key ∈ b.patches.keys ∨ b.Takes components) ∧
      (∀ symbol b', declarePatch components b = .ok symbol b' → components = [] ∧ symbol = emptyPatch ∨
        ∃ p, b'.patches.get? key = some p ∧ b'.staticPatches.get? key = some p ∧ symbol = p.symbol) ∧
      ∀ f b', declarePatch components b = .error f b' → f = .untypedTag ∧ b'.patches = b.patches ∧
        b'.staticPatches = b.staticPatches ∧ ∀ later, key ∉ (b'.after later).patches.keys →
          ∃ b'', declarePatch components (b'.after later) = .error .untypedTag b'' := by
  intro b
  obtain ⟨key, hkey⟩ := componentsKey_ok h
  have hsound : b.Sound := (Build.sound_empty.after_extends done).2
  refine ⟨key, hkey, ?_⟩
  by_cases hne : components = []
  · subst hne
    have hempty : declarePatch [] b = .ok emptyPatch b := rfl
    simp [hempty]
  obtain ⟨p, hget, hrun⟩ | ⟨hnew, ⟨htakes, p, b', hget, hstatic, hrun⟩ | ⟨hrefuses, b', hpatches, hstatic, hrun⟩⟩ :=
    declarePatch_cases h hne (hkey b)
  · have hmem : key ∈ b.patches.keys := List.mem_map_of_mem (Registry.mem_of_get? hget)
    have hstep : b.staticPatches = b.patches := (Build.inStep_after done).2.1
    simp [hrun, hmem, hget, hstep, eq_comm]
  · simp [hrun, htakes, hget, hstatic, eq_comm]
  · refine ⟨?_, ?_, ?_⟩
    · simp [hrun, hne, hnew, hrefuses]
    · simp [hrun]
    · intro f b'' hfails
      rw [hrun] at hfails
      cases hfails
      exact ⟨rfl, hpatches, hstatic, refused_again h hne hkey hsound hrefuses hrun⟩

def intComponent (name : String) (n : Nat) : Node :=
  .itemComponent (name ++ "=" ++ toString n) (.location ⟨name, false, none, name⟩) (.tagScalar (toString n) (.int n))

lemma isComponent_intComponent (name : String) (n : Nat) : (intComponent name n).IsComponent :=
  ⟨_, _, _, rfl, _, _, rfl⟩

/-- Two components with new values, in a build that has a patch already. -/
theorem new_values_taken :
    ∃ symbol b', declarePatch [intComponent "damage" 5, intComponent "max_damage" 10]
      (({} : Build).after [.patch [intComponent "damage" 7]]) = .ok symbol b' := by
  have hcomponents : ∀ c ∈ [intComponent "damage" 5, intComponent "max_damage" 10], c.IsComponent := by
    simp [isComponent_intComponent]
  obtain ⟨key, -, hreturned, -⟩ := patch_returned_iff [.patch [intComponent "damage" 7]] _ hcomponents
  refine hreturned.mpr (.inr (.inr ⟨?_, ?_⟩)) <;> decide

/-- The same number for two components, one after the other. -/
theorem repeated_value_refused :
    (intComponent "max_damage" 5).IsComponent ∧
      ∃ b', declarePatch [intComponent "max_damage" 5] (({} : Build).after [.patch [intComponent "damage" 5]]) =
        .error .untypedTag b' :=
  ⟨isComponent_intComponent _ _, _, rfl⟩

end PackToMod
