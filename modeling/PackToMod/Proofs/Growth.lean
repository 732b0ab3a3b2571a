import Mathlib.Order.Defs.Unbundled
import PackToMod.Build.Items
import PackToMod.Build.Selectors
import PackToMod.Proofs.Numbers

/-!
# How a build grows

`Extends U b b'` is everything that work on a build may do to it: entries are only added at the end, a
location may be set again under its text, numbers are taken in order, what is registered comes from
nodes in `U`, and what the static block assigns stays in step with what is declared. `Quiet U` is the part of
it that leaves the methods and the log alone, and `Basic U` the part that registers no more than locations,
ranges and tags. All three can be put one after the other, so `Keeps` passes from the steps of a computation to
the whole.
-/

namespace PackToMod

/-- The nodes that stand directly below a node. -/
def Node.children : Node → List Node
  | .vector2 _ x y => [x, y]
  | .vector3 _ x y z => [x, y, z]
  | .tagList _ elements | .tagArray _ elements => elements
  | .tagCompound _ entries => entries.map Prod.snd
  | .block _ identifier _ data => [identifier, data]
  | .itemStack _ identifier components => identifier :: components
  | .itemComponent _ key value => [key, value]
  | .selector _ _ arguments => arguments.map SelectorArgument.value
  | .scores _ entries => entries.map Prod.snd
  | .advancements _ entries => entries.map Prod.fst
  | .message _ fragments => fragments
  | .tagPath _ components => components
  | .subscript _ index => [index]
  | .command _ _ arguments _ => arguments
  | _ => []

/-- With a node, the nodes below it are in `U`. -/
def DownClosed (U : Node → Prop) : Prop :=
  ∀ node, U node → ∀ child ∈ node.children, U child

lemma downClosed_true : DownClosed fun _ => True :=
  fun _ _ _ _ => trivial

namespace Build

/-- The registered locations and ranges stand under their own texts and come from nodes in `U`. -/
def Sourced (U : Node → Prop) (b : Build) : Prop :=
  (∀ entry ∈ b.locations.entries, entry.2.text = entry.1 ∧ U (.location entry.2)) ∧
  ∀ sort, ∀ entry ∈ (b.ranges sort).entries,
    ∃ r, r.text = entry.1 ∧ U (.range r) ∧ RangeConstant.ofRange r = .ok entry.2

/-- No text has two entries among the locations, and none among the ranges of one sort. -/
def Distinct (b : Build) : Prop :=
  b.locations.keys.Nodup ∧ ∀ sort, (b.ranges sort).keys.Nodup

/-- The registered tags, patches and selectors were made from nodes in `U`, and a tag stands under the text of its
node. -/
def Derived (U : Node → Prop) (b : Build) : Prop :=
  (∀ entry ∈ b.tags.entries, ∃ node n n', U node ∧ node.text? = some entry.1 ∧
    node.lowerTag false n = .ok entry.2 n') ∧
  (∀ entry ∈ b.patches.entries, ∃ components b₀ b₁, (∀ c ∈ components, U c) ∧
    declareSettings components b₀ = .ok entry.2.settings b₁) ∧
  ∀ entry ∈ b.selectors.entries, ∃ node players b₀ b₁, U node ∧
    node.query players b₀ = .ok entry.2.query b₁

/-- The static block assigns the constants that are declared, under the same texts and in the same order. -/
def InStep (b : Build) : Prop :=
  b.staticTags = b.tags ∧ b.staticPatches = b.patches ∧ b.staticSelectors = b.selectors

structure Extends (U : Node → Prop) (b b' : Build) : Prop where
  counts : Counts b b' := by exact Counts.of_numbers_eq le_rfl rfl
  methods : b.methods.entries <+: b'.methods.entries := by exact List.prefix_rfl
  locations : b.locations.keys <+: b'.locations.keys := by exact List.prefix_rfl
  tags : b.tags.entries <+: b'.tags.entries := by exact List.prefix_rfl
  ranges : ∀ sort, (b.ranges sort).entries <+: (b'.ranges sort).entries := by
    exact fun _ => List.prefix_rfl
  patches : b.patches.entries <+: b'.patches.entries := by exact List.prefix_rfl
  selectors : b.selectors.entries <+: b'.selectors.entries := by exact List.prefix_rfl
  blockPredicates : b.blockPredicates.entries <+: b'.blockPredicates.entries := by
    exact List.prefix_rfl
  log : b.log <+: b'.log := by exact List.prefix_rfl
  sourced : Sourced U b → Sourced U b' := by exact fun h => h
  distinct : Distinct b → Distinct b' := by exact fun h => h
  derived : Derived U b → Derived U b' := by exact fun h => h
  inStep : InStep b → InStep b' := by exact fun h => h

structure Quiet (U : Node → Prop) (b b' : Build) : Prop extends Extends U b b' where
  methods_eq : b'.methods = b.methods := by rfl
  log_eq : b'.log = b.log := by rfl

structure Basic (U : Node → Prop) (b b' : Build) : Prop extends Quiet U b b' where
  patches_eq : b'.patches = b.patches := by rfl
  selectors_eq : b'.selectors = b.selectors := by rfl
  staticPatches_eq : b'.staticPatches = b.staticPatches := by rfl
  staticSelectors_eq : b'.staticSelectors = b.staticSelectors := by rfl
  blockPredicates_eq : b'.blockPredicates = b.blockPredicates := by rfl

variable {U : Node → Prop} {b b₁ b₂ : Build}

lemma Extends.trans (h₁ : Extends U b b₁) (h₂ : Extends U b₁ b₂) : Extends U b b₂ where
  counts := h₁.counts.trans h₂.counts
  methods := h₁.methods.trans h₂.methods
  locations := h₁.locations.trans h₂.locations
  tags := h₁.tags.trans h₂.tags
  ranges sort := (h₁.ranges sort).trans (h₂.ranges sort)
  patches := h₁.patches.trans h₂.patches
  selectors := h₁.selectors.trans h₂.selectors
  blockPredicates := h₁.blockPredicates.trans h₂.blockPredicates
  log := h₁.log.trans h₂.log
  sourced h := h₂.sourced (h₁.sourced h)
  distinct h := h₂.distinct (h₁.distinct h)
  derived h := h₂.derived (h₁.derived h)
  inStep h := h₂.inStep (h₁.inStep h)

lemma Quiet.trans (h₁ : Quiet U b b₁) (h₂ : Quiet U b₁ b₂) : Quiet U b b₂ where
  toExtends := h₁.toExtends.trans h₂.toExtends
  methods_eq := h₂.methods_eq.trans h₁.methods_eq
  log_eq := h₂.log_eq.trans h₁.log_eq

lemma Basic.trans (h₁ : Basic U b b₁) (h₂ : Basic U b₁ b₂) : Basic U b b₂ where
  toQuiet := h₁.toQuiet.trans h₂.toQuiet
  patches_eq := h₂.patches_eq.trans h₁.patches_eq
  selectors_eq := h₂.selectors_eq.trans h₁.selectors_eq
  staticPatches_eq := h₂.staticPatches_eq.trans h₁.staticPatches_eq
  staticSelectors_eq := h₂.staticSelectors_eq.trans h₁.staticSelectors_eq
  blockPredicates_eq := h₂.blockPredicates_eq.trans h₁.blockPredicates_eq

instance : IsPreorder Build (Extends U) where
  refl _ := {}
  trans _ _ _ := Extends.trans

instance : IsPreorder Build (Quiet U) where
  refl _ := {}
  trans _ _ _ := Quiet.trans

instance : IsPreorder Build (Basic U) where
  refl _ := {}
  trans _ _ _ := Basic.trans

/-! ## Single steps -/

lemma Basic.counter {n : Nat} (h : b.counter ≤ n) : Basic U b { b with counter := n } where
  counts := Counts.of_numbers_eq h rfl

lemma Basic.location {l : ResourceLocation} (h : U (.location l)) :
    Basic U b { b with locations := b.locations.set l.text l } where
  locations := Registry.keys_prefix_set _ _ _
  sourced hb := by
    refine ⟨fun entry hentry => ?_, hb.2⟩
    rcases Registry.mem_set hentry with rfl | hold
    · exact ⟨rfl, h⟩
    · exact hb.1 entry hold
  distinct hb := ⟨Registry.nodup_keys_set hb.1 _ _, hb.2⟩

lemma Basic.range {sort : RangeSort} {r : Range} {constant : RangeConstant} (hU : U (.range r))
    (hnew : r.text ∉ (b.ranges sort).keys) (hconstant : RangeConstant.ofRange r = .ok constant) :
    Basic U b (b.setRanges sort ((b.ranges sort).set r.text constant)) := by
  have hsourced : Sourced U b → ∀ entry ∈ ((b.ranges sort).set r.text constant).entries,
      ∃ r, r.text = entry.1 ∧ U (.range r) ∧ RangeConstant.ofRange r = .ok entry.2 := by
    intro hb entry hentry
    rcases Registry.mem_set hentry with rfl | hold
    · exact ⟨r, rfl, hU, hconstant⟩
    · exact hb.2 sort entry hold
  have hprefix : (b.ranges sort).entries <+: ((b.ranges sort).set r.text constant).entries :=
    Registry.prefix_set constant List.prefix_rfl hnew
  have hdistinct : Distinct b → ((b.ranges sort).set r.text constant).keys.Nodup :=
    fun hb => Registry.nodup_keys_set (hb.2 sort) _ _
  cases sort with
  | doubles =>
    refine {
      ranges := fun sort => ?_
      sourced := fun hb => ⟨hb.1, fun sort => ?_⟩
      distinct := fun hb => ⟨hb.1, fun sort => ?_⟩ }
    · cases sort with
      | doubles => exact hprefix
      | ints => exact List.prefix_rfl
    · cases sort with
      | doubles => exact hsourced hb
      | ints => exact hb.2 .ints
    · cases sort with
      | doubles => exact hdistinct hb
      | ints => exact hb.2 .ints
  | ints =>
    refine {
      ranges := fun sort => ?_
      sourced := fun hb => ⟨hb.1, fun sort => ?_⟩
      distinct := fun hb => ⟨hb.1, fun sort => ?_⟩ }
    · cases sort with
      | doubles => exact List.prefix_rfl
      | ints => exact hprefix
    · cases sort with
      | doubles => exact hb.2 .doubles
      | ints => exact hsourced hb
    · cases sort with
      | doubles => exact hb.2 .doubles
      | ints => exact hdistinct hb

lemma Basic.tag {key : String} {node : Node} {t : TagConstant} {n n' : Nat} (hU : U node)
    (htext : node.text? = some key) (hlower : node.lowerTag false n = .ok t n') (hnew : key ∉ b.tags.keys)
    (hn : b.counter ≤ n) (hn' : n ≤ n') (hnumbers : t.numbers = List.range' n (n' - n)) :
    Basic U b { b with
      counter := n'
      tags := b.tags.set key t
      staticTags := b.staticTags.set key t } := by
  have hentries := Registry.entries_set_of_absent t hnew
  have hall : ({ b with
      counter := n'
      tags := b.tags.set key t
      staticTags := b.staticTags.set key t } : Build).numbers = b.numbers ++ t.numbers := by
    simp only [numbers, hentries, List.flatMap_append, List.flatMap_singleton, List.append_assoc]
  refine {
    counts := Counts.of_new (hn.trans hn') (.of_eq hall) ?_ ?_
    tags := Registry.prefix_set t List.prefix_rfl hnew
    derived := fun hb => ⟨fun entry hentry => ?_, hb.2⟩
    inStep := fun hb => ⟨congrArg (·.set key t) hb.1, hb.2⟩ }
  · rw [hnumbers]
    exact List.nodup_range'
  · intro k hk
    rw [hnumbers, List.mem_range'_1] at hk
    change b.counter ≤ k ∧ k < n'
    omega
  · rcases Registry.mem_set hentry with rfl | hold
    · exact ⟨node, n, n', hU, htext, hlower⟩
    · exact hb.1 entry hold

/-! ## Steps that introduce a number taken before -/

lemma Quiet.selector {key : String} {c : SelectorConstant} {node : Node} {players : Bool} (hU : U node)
    (hquery : node.query players { b with counter := b.counter + 1 } = .ok c.query b₁)
    (h : Quiet U { b with counter := b.counter + 1 } b₁) (hnew : key ∉ b₁.selectors.keys)
    (hc : c.number = b.counter) :
    Quiet U b { b₁ with
      selectors := b₁.selectors.set key c
      staticSelectors := b₁.staticSelectors.set key c } := by
  have hentries := Registry.entries_set_of_absent c hnew
  have hquiet : Quiet U b b₁ := (Basic.counter (Nat.le_succ _)).toQuiet.trans h
  have hnumbers : ({ b₁ with
      selectors := b₁.selectors.set key c
      staticSelectors := b₁.staticSelectors.set key c } : Build).numbers.Perm (b.counter :: b₁.numbers) := by
    rw [List.perm_iff_count]
    intro n
    simp only [numbers, hentries, List.map_append, List.map_cons, List.map_nil, hc,
      List.count_append, List.count_cons, List.count_nil]
    omega
  refine { hquiet with
    counts := h.counts.reserve rfl hnumbers.subperm
    selectors := hquiet.selectors.trans (Registry.prefix_set c List.prefix_rfl hnew)
    derived := fun hb => ?_
    inStep := fun hb => ?inStep }
  case inStep =>
    obtain ⟨htags, hpatches, hselectors⟩ := hquiet.inStep hb
    exact ⟨htags, hpatches, congrArg (·.set key c) hselectors⟩
  obtain ⟨htags, hpatches, hselectors⟩ := hquiet.derived hb
  refine ⟨htags, hpatches, fun entry hentry => ?_⟩
  rcases Registry.mem_set hentry with rfl | hold
  · exact ⟨node, players, _, b₁, hU, hquery⟩
  · exact hselectors entry hold

lemma Quiet.patch {key : String} {p : PatchConstant} {components : List Node}
    (hU : ∀ c ∈ components, U c)
    (hsettings : declareSettings components { b with counter := b.counter + 1 } = .ok p.settings b₁)
    (h : Quiet U { b with counter := b.counter + 1 } b₁) (hnew : key ∉ b₁.patches.keys)
    (hp : p.number = b.counter) :
    Quiet U b { b₁ with
      patches := b₁.patches.set key p
      staticPatches := b₁.staticPatches.set key p } := by
  have hentries := Registry.entries_set_of_absent p hnew
  have hquiet : Quiet U b b₁ := (Basic.counter (Nat.le_succ _)).toQuiet.trans h
  have hnumbers : ({ b₁ with
      patches := b₁.patches.set key p
      staticPatches := b₁.staticPatches.set key p } : Build).numbers.Perm (b.counter :: b₁.numbers) := by
    rw [List.perm_iff_count]
    intro n
    simp only [numbers, hentries, List.map_append, List.map_cons, List.map_nil, hp,
      List.count_append, List.count_cons, List.count_nil]
    omega
  refine { hquiet with
    counts := h.counts.reserve rfl hnumbers.subperm
    patches := hquiet.patches.trans (Registry.prefix_set p List.prefix_rfl hnew)
    derived := fun hb => ?_
    inStep := fun hb => ?inStep }
  case inStep =>
    obtain ⟨htags, hpatches, hselectors⟩ := hquiet.inStep hb
    exact ⟨htags, congrArg (·.set key p) hpatches, hselectors⟩
  obtain ⟨htags, hpatches, hselectors⟩ := hquiet.derived hb
  refine ⟨htags, fun entry hentry => ?_, hselectors⟩
  rcases Registry.mem_set hentry with rfl | hold
  · exact ⟨components, _, b₁, hU, hsettings⟩
  · exact hpatches entry hold

/-- A block predicate is registered as soon as it has its number. -/
lemma Quiet.blockPredicate {key : String} (hnew : key ∉ b.blockPredicates.keys) :
    Quiet U b { b with
      counter := b.counter + 1
      blockPredicates := b.blockPredicates.set key b.counter } := by
  have hentries := Registry.entries_set_of_absent b.counter hnew
  have hnumbers : ({ b with
      counter := b.counter + 1
      blockPredicates := b.blockPredicates.set key b.counter } : Build).numbers.Perm
      (b.counter :: b.numbers) := by
    rw [List.perm_iff_count]
    intro n
    simp only [numbers, hentries, List.map_append, List.map_cons, List.map_nil,
      List.count_append, List.count_cons, List.count_nil]
    omega
  exact {
    counts := (Counts.refl { b with counter := b.counter + 1 }).reserve rfl hnumbers.subperm
    blockPredicates := Registry.prefix_set b.counter List.prefix_rfl hnew }

/-- A method may replace one that was stored after its own number was taken. -/
lemma Extends.method {text : String} {m : Method}
    (h : Extends U { b with counter := b.counter + 1 } b₁) (hnew : text ∉ b.methods.keys)
    (hm : m.number = b.counter) : Extends U b { b₁ with methods := b₁.methods.set text m } := by
  have hextends : Extends U b b₁ := (Basic.counter (Nat.le_succ _)).toExtends.trans h
  have hnumbers : ({ b₁ with methods := b₁.methods.set text m } : Build).numbers.Subperm
      (b.counter :: b₁.numbers) := by
    have hset := Registry.map_set_subperm b₁.methods text m (·.2.number)
    rw [hm] at hset
    simp only [numbers, List.append_assoc]
    exact (List.subperm_append_right _).mpr hset
  exact { hextends with
    counts := h.counts.reserve rfl hnumbers
    methods := Registry.prefix_set m hextends.methods hnew }

end Build

/-! ## Running computations -/

section

variable {ε σ α β : Type}

@[simp] lemma run_pure (a : α) (s : σ) : (pure a : EStateM ε σ α) s = .ok a s := rfl

@[simp] lemma run_throw (e : ε) (s : σ) : (throw e : EStateM ε σ α) s = .error e s := rfl

@[simp] lemma run_get (s : σ) : (get : EStateM ε σ σ) s = .ok s s := rfl

@[simp] lemma run_modify (f : σ → σ) (s : σ) :
    (modify f : EStateM ε σ PUnit) s = .ok ⟨⟩ (f s) := rfl

@[simp] lemma run_bind (x : EStateM ε σ α) (f : α → EStateM ε σ β) (s : σ) :
    (x >>= f) s = match x s with
      | .ok a s' => f a s'
      | .error e s' => .error e s' := rfl

@[simp] lemma run_map (f : α → β) (x : EStateM ε σ α) (s : σ) :
    (f <$> x) s = match x s with
      | .ok a s' => .ok (f a) s'
      | .error e s' => .error e s' := rfl

lemma run_map_eq_ok {f : α → β} {x : EStateM ε σ α} {s s' : σ} {c : β}
    (h : (f <$> x) s = .ok c s') : ∃ a, x s = .ok a s' ∧ f a = c := by
  rw [run_map] at h
  cases hx : x s with
  | error e s₁ =>
    rw [hx] at h
    exact nomatch h
  | ok a s₁ =>
    rw [hx] at h
    cases h
    exact ⟨a, rfl, rfl⟩

lemma run_bind_eq_ok {x : EStateM ε σ α} {f : α → EStateM ε σ β} {s s' : σ} {c : β}
    (h : (x >>= f) s = .ok c s') : ∃ a s₁, x s = .ok a s₁ ∧ f a s₁ = .ok c s' := by
  rw [run_bind] at h
  cases hx : x s with
  | error e s₁ =>
    rw [hx] at h
    cases h
  | ok a s₁ =>
    rw [hx] at h
    exact ⟨a, s₁, rfl, h⟩

@[simp] lemma run_fresh (b : Build) :
    BuildM.fresh b = .ok b.counter { b with counter := b.counter + 1 } := rfl

/-- The state that a computation ends in, whether it returns or fails. -/
def lastState : EStateM.Result ε σ α → σ
  | .ok _ s => s
  | .error _ s => s

@[simp] lemma lastState_ok (a : α) (s : σ) : lastState (.ok a s : EStateM.Result ε σ α) = s := rfl

@[simp] lemma lastState_error (e : ε) (s : σ) :
    lastState (.error e s : EStateM.Result ε σ α) = s := rfl

lemma lastState_map (f : α → β) (x : EStateM ε σ α) (s : σ) :
    lastState ((f <$> x) s) = lastState (x s) := by
  rw [run_map]
  cases x s with
  | ok a s' => rfl
  | error e s' => rfl

end

/-! ## Computations that keep to a relation -/

/-- Every run leads from its first state to one that `R` allows, whether it returns or fails. -/
def Keeps {σ α : Type} (R : σ → σ → Prop) (x : EStateM Fault σ α) : Prop :=
  ∀ s, R s (lastState (x s))

/-- Every run keeps to `R`, and what it returns fits the state that it ends in. -/
def Runs {σ α : Type} (R : σ → σ → Prop) (Q : α → σ → Prop) (x : EStateM Fault σ α) : Prop :=
  ∀ s, match x s with
    | .ok a s' => R s s' ∧ Q a s'
    | .error _ s' => R s s'

lemma Runs.ok {σ α : Type} {R : σ → σ → Prop} {Q : α → σ → Prop} {x : EStateM Fault σ α} (h : Runs R Q x)
    {s s' : σ} {a : α} (hx : x s = .ok a s') : R s s' ∧ Q a s' := by
  have hs := h s
  rw [hx] at hs
  exact hs

namespace Keeps

variable {σ α β : Type} {R : σ → σ → Prop}

lemma of_runs {Q : α → σ → Prop} {x : EStateM Fault σ α} (h : Runs R Q x) : Keeps R x := by
  intro s
  have hs := h s
  cases hx : x s with
  | ok a s' =>
    rw [hx] at hs
    exact hs.1
  | error f s' =>
    rw [hx] at hs
    exact hs

lemma mono {R' : σ → σ → Prop} {x : EStateM Fault σ α} (h : Keeps R x)
    (hR : ∀ s s', R s s' → R' s s') : Keeps R' x :=
  fun s => hR _ _ (h s)

lemma map {x : EStateM Fault σ α} (h : Keeps R x) (f : α → β) : Keeps R (f <$> x) := by
  intro s
  rw [lastState_map]
  exact h s

variable [IsPreorder σ R]

lemma pure (a : α) : Keeps R (Pure.pure a) :=
  fun s => refl_of R s

lemma throw (f : Fault) : Keeps R (MonadExcept.throw f : EStateM Fault σ α) :=
  fun s => refl_of R s

lemma bind {x : EStateM Fault σ α} {f : α → EStateM Fault σ β} (hx : Keeps R x)
    (hf : ∀ a, Keeps R (f a)) : Keeps R (x >>= f) := by
  intro s
  have hs := hx s
  rw [run_bind]
  cases hxs : x s with
  | ok a s' =>
    rw [hxs] at hs
    exact trans_of R hs (hf a s')
  | error f s' =>
    rw [hxs] at hs
    exact hs

variable {R : Build → Build → Prop} [IsPreorder Build R]

lemma require (f : Fault) (part : Option α) : Keeps R (BuildM.require f part) := by
  cases part with
  | none => exact throw f
  | some a => exact pure a

/-- What follows a required part knows that the part is there. -/
lemma require_bind {f : Fault} {part : Option α} {next : α → BuildM β}
    (h : ∀ a, part = some a → Keeps R (next a)) : Keeps R (BuildM.require f part >>= next) := by
  cases part with
  | none => exact throw f
  | some a => exact h a rfl

lemma ofExcept {ε : Type} (f : ε → Fault) (result : Except ε α) :
    Keeps R (BuildM.ofExcept f result) := by
  cases result with
  | error e => exact throw (f e)
  | ok a => exact pure a

lemma key (node : Node) : Keeps R node.key :=
  require _ _

end Keeps

end PackToMod
