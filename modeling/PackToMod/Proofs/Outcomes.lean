import PackToMod.Proofs.Brackets
import PackToMod.Proofs.UnknownConstructs

/-!
# What declaring returns

`Gives Q x` says what comes out of a computation, whatever state it starts in: a result that satisfies `Q`,
or a fault whose message is balanced. Queries and settings are followed to the nodes that they are made from
once and for all here; what their texts look like is read off `IsOf` later.
-/

namespace PackToMod

open Build Text

/-- The computation returns something that satisfies `Q`, or fails with a balanced message. -/
def Gives {σ α : Type} (Q : α → Prop) (x : EStateM Fault σ α) : Prop :=
  ∀ s, match x s with
    | .ok a _ => Q a
    | .error f _ => Balanced f.message

/-- The same for a result that depends on no state. -/
def Holds {α : Type} (Q : α → Prop) : Except Fault α → Prop
  | .ok a => Q a
  | .error f => Balanced f.message

namespace Gives

variable {σ α β : Type} {Q : α → Prop} {P : β → Prop}

lemma ok {x : EStateM Fault σ α} (h : Gives Q x) {s s' : σ} {a : α} (hx : x s = .ok a s') : Q a := by
  have hs := h s
  rw [hx] at hs
  exact hs

lemma error {x : EStateM Fault σ α} (h : Gives Q x) {s s' : σ} {f : Fault} (hx : x s = .error f s') :
    Balanced f.message := by
  have hs := h s
  rw [hx] at hs
  exact hs

lemma mono {P : α → Prop} {x : EStateM Fault σ α} (h : Gives Q x) (hP : ∀ a, Q a → P a) : Gives P x := by
  intro s
  cases hx : x s with
  | ok a s' => exact hP a (h.ok hx)
  | error f s' => exact h.error hx

lemma pure {a : α} (h : Q a) : Gives Q (Pure.pure a : EStateM Fault σ α) :=
  fun _ => h

lemma throw {f : Fault} (h : Balanced f.message) : Gives Q (MonadExcept.throw f : EStateM Fault σ α) :=
  fun _ => h

lemma bind {x : EStateM Fault σ α} {f : α → EStateM Fault σ β} (hx : Gives Q x)
    (hf : ∀ a, Q a → Gives P (f a)) : Gives P (x >>= f) := by
  intro s
  rw [run_bind]
  cases hxs : x s with
  | ok a s' => exact hf a (hx.ok hxs) s'
  | error e s' => exact hx.error hxs

lemma get : Gives (fun _ => True) (MonadState.get : EStateM Fault σ σ) :=
  fun _ => trivial

lemma modify (f : σ → σ) : Gives (fun _ => True) (modify f : EStateM Fault σ PUnit) :=
  fun _ => trivial

lemma fresh : Gives (fun _ => True) BuildM.fresh :=
  fun _ => trivial

lemma numbering {x : NumberingM α} (h : Gives Q x) : Gives Q (BuildM.numbering x) := by
  intro b
  unfold BuildM.numbering
  cases hx : x b.counter with
  | ok a n => exact h.ok hx
  | error f n => exact h.error hx

lemma require (f : Fault) (hf : Balanced f.message) (part : Option α) :
    Gives (fun a => part = some a) (BuildM.require f part) := by
  cases part with
  | none => exact throw hf
  | some a => exact pure rfl

lemma ofExcept {result : Except Fault α} (h : Holds Q result) : Gives Q (BuildM.ofExcept id result) := by
  cases result with
  | error f => exact throw h
  | ok a => exact pure h

/-- Faults of numbers have no message. -/
lemma ofNumber (result : Except NumberError α) : Gives (fun _ => True) (BuildM.ofExcept .number result) := by
  cases result with
  | error e => exact throw balanced_empty
  | ok a => exact pure trivial

lemma key (node : Node) : Gives (fun text => node.text? = some text) node.key :=
  require .noSuchPart balanced_empty _

end Gives

lemma Holds.bind {α β : Type} {Q : α → Prop} {P : β → Prop} {x : Except Fault α} {f : α → Except Fault β}
    (hx : Holds Q x) (hf : ∀ a, Q a → Holds P (f a)) : Holds P (x >>= f) := by
  cases x with
  | error e => exact hx
  | ok a => exact hf a hx

/-! ## Tags -/

/-- A node that is made into a tag is one, and otherwise the fault has no message. -/
lemma lower_gives :
    (∀ isLocal node, Gives (fun _ => node.IsTag) (Node.lowerTag isLocal node)) ∧
    (∀ target elements, Gives (fun _ => ∀ e ∈ elements, e.IsTag) (lowerElements target elements)) ∧
    ∀ target entries, Gives (fun _ => ∀ e ∈ entries, e.2.IsTag) (lowerEntries target entries) := by
  refine Node.lowerTag.mutual_induct
    (fun isLocal node => Gives (fun _ => node.IsTag) (node.lowerTag isLocal))
    (fun target elements => Gives (fun _ => ∀ e ∈ elements, e.IsTag) (lowerElements target elements))
    (fun target entries => Gives (fun _ => ∀ e ∈ entries, e.2.IsTag) (lowerEntries target entries))
    ?flag ?compound ?list ?unknown ?scalar ?other ?noElements ?element ?noEntries ?entry
  case flag =>
    intro isLocal text value
    unfold Node.lowerTag
    exact .pure (.flag text value)
  case compound =>
    intro isLocal text entries ih
    rw [Node.lowerTag]
    refine .bind (Q := fun _ => True) (fun _ => trivial) fun n _ => ?_
    exact .bind (ih n) fun _ hentries => .pure (.compound text hentries)
  case list =>
    intro isLocal text elements ih
    rw [Node.lowerTag]
    refine .bind (Q := fun _ => True) (fun _ => trivial) fun n _ => ?_
    exact .bind (ih n) fun _ helements => .pure (.list text helements)
  case unknown =>
    intro isLocal text value hvalue
    rw [Node.lowerTag, hvalue]
    exact .throw balanced_empty
  case scalar =>
    intro isLocal text value type hvalue
    rw [Node.lowerTag, hvalue]
    exact fun _ => .scalar text hvalue
  case other =>
    intro isLocal node hflag hcompound hlist hscalar
    rw [Node.lowerTag.eq_def]
    split
    · exact (hflag _ _ rfl).elim
    · exact (hcompound _ _ rfl).elim
    · exact (hlist _ _ rfl).elim
    · exact (hscalar _ _ rfl).elim
    · split
      · exact .throw balanced_empty
      · exact .throw balanced_empty
  case noElements =>
    intro target
    rw [lowerElements]
    exact .pure (List.forall_mem_nil _)
  case element =>
    intro target value elements ihvalue ih
    rw [lowerElements]
    refine .bind ihvalue fun _ hvalue => ?_
    exact .bind ih fun _ helements => .pure (List.forall_mem_cons.mpr ⟨hvalue, helements⟩)
  case noEntries =>
    intro target
    rw [lowerEntries]
    exact .pure (List.forall_mem_nil _)
  case entry =>
    intro target key value entries ihvalue ih
    rw [lowerEntries]
    refine .bind ihvalue fun _ hvalue => ?_
    exact .bind ih fun _ hentries => .pure (List.forall_mem_cons.mpr ⟨hvalue, hentries⟩)

lemma lowerTag_gives (isLocal : Bool) (node : Node) : Gives (fun _ => node.IsTag) (node.lowerTag isLocal) :=
  lower_gives.1 isLocal node

/-- What holds of the steps of all parts, and of the steps between them, holds of all steps. -/
lemma forall_mem_lowerParts {α : Type} {P : TagStep → Prop} {link : α → TagTerm → TagStep} {part : α → Node}
    {as : List α} (hlink : ∀ a ∈ as, ∀ t, P (link a t))
    (hpart : ∀ a ∈ as, ∀ n tag n', (part a).lowerTag true n = .ok tag n' → ∀ step ∈ tag.steps, P step)
    {n n' : Nat} {steps : List TagStep} (h : lowerParts link part as n = .ok steps n') :
    ∀ step ∈ steps, P step := by
  induction as generalizing n steps with
  | nil =>
    cases h
    exact List.forall_mem_nil _
  | cons a as ih =>
    obtain ⟨hlink, hlinks⟩ := List.forall_mem_cons.mp hlink
    obtain ⟨hfirst, hrest⟩ := List.forall_mem_cons.mp hpart
    obtain ⟨tag, n₁, htag, h⟩ := run_bind_eq_ok h
    obtain ⟨rest, n₂, hparts, h⟩ := run_bind_eq_ok h
    cases h
    rw [List.forall_mem_append, List.forall_mem_cons]
    exact ⟨hfirst n tag n₁ htag, hlink _, ih hlinks hrest hparts⟩

lemma declareTag_gives (node : Node) : Gives (fun _ => True) node.declareTag := by
  unfold Node.declareTag
  refine .bind (.key node) fun key _ => .bind .get fun b _ => ?_
  split
  · exact .pure trivial
  · refine .bind .fresh fun _ _ => .bind (.numbering (lowerTag_gives false node)) fun tag _ => ?_
    exact .bind (.modify _) fun _ _ => .bind (.modify _) fun _ _ => .pure trivial

/-! ## Locations and ranges -/

variable {U : Node → Prop}

lemma declareLocation_gives (l : ResourceLocation) : Gives (fun symbol => symbol = l.symbol) (declareLocation l) :=
  fun _ => rfl

/-- The symbol of a location in `U`. -/
def IsLocationSymbol (U : Node → Prop) (symbol : String) : Prop :=
  ∃ l, U (.location l) ∧ symbol = l.symbol

lemma nodeDeclareLocation_gives {node : Node} (h : U node) :
    Gives (IsLocationSymbol U) node.declareLocation := by
  refine .bind (.require .noSuchPart balanced_empty _) fun l hl => ?_
  exact (declareLocation_gives l).mono fun symbol hsymbol => ⟨l, eq_of_location? hl ▸ h, hsymbol⟩

def IsRangeSymbol (sort : RangeSort) (symbol : String) : Prop :=
  ∃ r : Range, symbol = sort.symbol r.min r.max

lemma declareRange_gives (sort : RangeSort) (node : Node) :
    Gives (IsRangeSymbol sort) (node.declareRange sort) := by
  refine .bind (.require .noSuchPart balanced_empty _) fun r _ => ?_
  have hdone : Gives (IsRangeSymbol sort) (pure (sort.symbol r.min r.max) : BuildM String) := .pure ⟨r, rfl⟩
  refine .bind .get fun b _ => ?_
  split
  · exact hdone
  · refine .bind (.ofNumber _) fun constant _ => ?_
    exact .bind (.modify _) fun _ _ => hdone

/-! ## Queries -/

/-- The value of an argument with the given key of a selector in `U`. -/
def IsArgumentValue (U : Node → Prop) (key : SelectorKey) (v : Scalar) : Prop :=
  ∃ text target arguments, U (.selector text target arguments) ∧
    ∃ a ∈ arguments, SelectorKey.ofText? a.key = some key ∧ a.value.value? = some v

/-- The predicates of queries, by the nodes that they are made from. -/
inductive EntityPredicate.IsOf (U : Node → Prop) : EntityPredicate → Prop
  | tag (inverted : Bool) {v : Scalar} (h : IsArgumentValue U .tag v) :
    IsOf U { inverted, test := "entity.getTags().contains(\"" ++ v.render ++ "\")" }
  | xRotation {range : String} (h : IsRangeSymbol .doubles range) :
    IsOf U { test := range ++ ".matches(entity.getXRot())" }
  | yRotation {range : String} (h : IsRangeSymbol .doubles range) :
    IsOf U { test := range ++ ".matches(entity.getYRot())" }
  | type (inverted isTag : Bool) {location : String} (h : IsLocationSymbol U location) :
    IsOf U (typePredicate inverted isTag location)
  | gamemode (inverted : Bool) {v : Scalar} (h : IsArgumentValue U .gamemode v) :
    IsOf U {
      playersOnly := true
      inverted
      test := "entity.gameMode.getGameModeForPlayer() == GameType.byName(\"" ++ v.render ++ "\")" }
  | advancement (test : AdvancementTest) {location : String} (h : IsLocationSymbol U location) :
    IsOf U (advancementPredicate location test)
  | name (inverted : Bool) {v : Scalar} (h : IsArgumentValue U .name v) :
    IsOf U { inverted, test := "entity.getName().getString().equals(\"" ++ v.render ++ "\")" }
  | level {range : String} (h : IsRangeSymbol .doubles range) :
    IsOf U { playersOnly := true, test := range ++ ".matches(entity.experienceLevel)" }
  | nbt (t : TagTerm) :
    IsOf U { test := "nbtMatches(new EntityDataAccessor(entity).getData(), " ++ t.text ++ ")" }
  | score {text objective range : String} {entries : List (String × Node)} (h : U (.scores text entries))
    (hobjective : objective ∈ entries.map Prod.fst) (hrange : IsRangeSymbol .ints range) :
    IsOf U (scorePredicate objective range)
  | team {v : Scalar} (h : IsArgumentValue U .team v) : IsOf U (teamPredicate v)

structure Query.IsOf (U : Node → Prop) (q : Query) : Prop where
  predicates : ∀ p ∈ q.predicates, p.IsOf U
  distance : ∀ range ∈ q.distance, IsRangeSymbol .doubles range
  x : ∀ v ∈ q.x, IsArgumentValue U .x v
  y : ∀ v ∈ q.y, IsArgumentValue U .y v
  z : ∀ v ∈ q.z, IsArgumentValue U .z v
  playerName : ∀ name ∈ q.playerName, ∃ text, U (.word text .playerName name)

namespace Query

lemma IsOf.require {q : Query} (h : q.IsOf U) {p : EntityPredicate} (hp : p.IsOf U) : (q.require p).IsOf U :=
  { h with
    predicates := by
      intro p' hp'
      rcases List.mem_append.mp hp' with hold | hnew
      · exact h.predicates p' hold
      · rw [List.mem_singleton.mp hnew]
        exact hp }

lemma requireAdvancements_gives {entries : List (Node × AdvancementTest)} (h : ∀ entry ∈ entries, U entry.1)
    {q : Query} (hq : q.IsOf U) : Gives (IsOf U) (q.requireAdvancements entries) := by
  induction entries generalizing q with
  | nil => exact .pure hq
  | cons entry entries ih =>
    obtain ⟨hentry, hrest⟩ := List.forall_mem_cons.mp h
    refine .bind (nodeDeclareLocation_gives hentry) fun location hlocation => ?_
    exact ih hrest (hq.require (.advancement entry.2 hlocation))

lemma requireScores_gives {text : String} {all entries : List (String × Node)} (h : U (.scores text all))
    (hentries : entries ⊆ all) {q : Query} (hq : q.IsOf U) : Gives (IsOf U) (q.requireScores entries) := by
  induction entries generalizing q with
  | nil => exact .pure hq
  | cons entry entries ih =>
    obtain ⟨hentry, hrest⟩ := List.cons_subset.mp hentries
    refine .bind (declareRange_gives .ints entry.2) fun range hrange => ?_
    exact ih hrest (hq.require (.score h (List.mem_map_of_mem hentry) hrange))

lemma sortBy_holds {q : Query} (hq : q.IsOf U) (order : Scalar) : Holds (IsOf U) (q.sortBy order) := by
  unfold sortBy
  split
  · exact { hq with }
  · exact { hq with }
  · exact { hq with }
  · exact { hq with }
  · exact (Shaped.balanced (by decide) : Balanced "No active exception to reraise")

lemma applyKey_gives (hU : DownClosed U) {text target : String} {arguments : List (SelectorArgument Node)}
    (h : U (.selector text target arguments)) {a : SelectorArgument Node} (ha : a ∈ arguments)
    {key : SelectorKey} (hkey : SelectorKey.ofText? a.key = some key) {q : Query} (hq : q.IsOf U) :
    Gives (IsOf U) (q.applyKey a key) := by
  have hvalue : U a.value := hU _ h _ (List.mem_map_of_mem ha)
  have hscalar : Gives (IsArgumentValue U key) a.scalar :=
    (Gives.require .noSuchPart balanced_empty _).mono fun v hv => ⟨text, target, arguments, h, a, ha, hkey, hv⟩
  have hrange := declareRange_gives .doubles a.value
  cases key with
  | x =>
    refine .bind hscalar fun v hv => .pure { hq with x := fun v' hv' => ?_ }
    exact Option.mem_some_iff.mp hv' ▸ hv
  | y =>
    refine .bind hscalar fun v hv => .pure { hq with y := fun v' hv' => ?_ }
    exact Option.mem_some_iff.mp hv' ▸ hv
  | z =>
    refine .bind hscalar fun v hv => .pure { hq with z := fun v' hv' => ?_ }
    exact Option.mem_some_iff.mp hv' ▸ hv
  | dx | dy | dz => exact .bind hscalar fun _ _ => .pure { hq with }
  | tag => exact .bind hscalar fun v hv => .pure (hq.require (.tag a.inverted hv))
  | distance =>
    refine .bind hrange fun range hrange => .pure { hq with distance := fun range' hrange' => ?_ }
    exact Option.mem_some_iff.mp hrange' ▸ hrange
  | xRotation => exact .bind hrange fun _ hrange => .pure (hq.require (.xRotation hrange))
  | yRotation => exact .bind hrange fun _ hrange => .pure (hq.require (.yRotation hrange))
  | type =>
    refine .bind (.require .noSuchPart balanced_empty _) fun l hl => ?_
    split
    · exact .pure { hq with }
    · refine .bind (declareLocation_gives l) fun symbol hsymbol => .pure (hq.require (.type _ _ ?_))
      exact ⟨l, eq_of_location? hl ▸ hvalue, hsymbol⟩
  | gamemode => exact .bind hscalar fun v hv => .pure (hq.require (.gamemode a.inverted hv))
  | advancements =>
    rw [applyKey]
    split
    · next text' entries hentries =>
      refine requireAdvancements_gives (fun entry hentry => hU _ hvalue _ ?_) hq
      rw [hentries]
      exact List.mem_map_of_mem hentry
    · exact .throw balanced_empty
  | predicate =>
    exact .throw (Shaped.balanced (by decide) :
      Balanced "predicates are not yet implemented (and probably never will be)")
  | name => exact .bind hscalar fun v hv => .pure (hq.require (.name a.inverted hv))
  | level => exact .bind hrange fun _ hrange => .pure (hq.require (.level hrange))
  | sort => exact .bind hscalar fun order _ => .ofExcept (sortBy_holds hq order)
  | nbt => exact .bind (declareTag_gives a.value) fun tag _ => .pure (hq.require (.nbt tag.term))
  | scores =>
    rw [applyKey]
    split
    · next text' entries hentries =>
      rw [hentries] at hvalue
      exact requireScores_gives hvalue (List.Subset.refl _) hq
    · exact .throw balanced_empty
  | team => exact .bind hscalar fun v hv => .pure (hq.require (.team hv))

lemma applyArguments_gives (hU : DownClosed U) {text target : String} {all arguments : List (SelectorArgument Node)}
    (h : U (.selector text target all)) (harguments : arguments ⊆ all) {q : Query} (hq : q.IsOf U) :
    Gives (IsOf U) (q.applyArguments arguments) := by
  induction arguments generalizing q with
  | nil => exact .pure hq
  | cons a rest ih =>
    obtain ⟨ha, hrest⟩ := List.cons_subset.mp harguments
    refine .bind (.bind (.require (.unknownSelectorKey _) balanced_empty _) fun key hkey => ?_)
      fun q' hq' => ih hrest hq'
    exact applyKey_gives hU h ha hkey hq

/-- A query without predicates and positions. -/
lemma isOf_ofVariable (players : Bool) (name : String) : (ofVariable players name).IsOf U := by
  unfold ofVariable
  split_ifs <;> constructor <;> simp

end Query

lemma query_gives (hU : DownClosed U) {node : Node} (h : U node) (players : Bool) :
    Gives (Query.IsOf U) (node.query players) := by
  unfold Node.query
  split
  · exact Query.applyArguments_gives hU h (List.Subset.refl _) (Query.isOf_ofVariable _ _)
  · next text name =>
    refine .pure ?_
    constructor <;> simp
    exact ⟨text, h⟩
  · refine .pure ?_
    constructor <;> simp
  · exact .throw balanced_empty

lemma box_holds (q : Query) : Holds (fun _ => True) q.box := by
  have hextent (value : Option Scalar) : Holds (fun _ => True) (Query.extent value) := by
    unfold Query.extent
    split
    · trivial
    · split
      · exact balanced_empty
      · split
        · trivial
        · exact balanced_empty
  unfold Query.box
  split
  · trivial
  · refine .bind (hextent _) fun x _ => .bind (hextent _) fun y _ => .bind (hextent _) fun z _ => ?_
    trivial

/-! ## Settings of patches -/

/-- The key of a setting is a location in `U`. -/
def PatchSetting.IsOf (U : Node → Prop) (s : PatchSetting) : Prop :=
  IsLocationSymbol U s.location

lemma declareComponent_gives (hU : DownClosed U) {node : Node} (h : U node) :
    Gives (PatchSetting.IsOf U) node.declareComponent := by
  unfold Node.declareComponent
  split
  · next text key value =>
    refine .bind (declareTag_gives value) fun tag _ => .bind (.require .untypedTag balanced_empty _) fun type _ => ?_
    exact .bind (nodeDeclareLocation_gives (hU _ h _ List.mem_cons_self)) fun _ hlocation => .pure hlocation
  · exact .throw balanced_empty

lemma declareSettings_gives (hU : DownClosed U) {components : List Node} (h : ∀ c ∈ components, U c) :
    Gives (fun settings => ∀ s ∈ settings, PatchSetting.IsOf U s) (declareSettings components) := by
  induction components with
  | nil => exact .pure (List.forall_mem_nil _)
  | cons c cs ih =>
    obtain ⟨hc, hcs⟩ := List.forall_mem_cons.mp h
    refine .bind (declareComponent_gives hU hc) fun setting hsetting => ?_
    exact .bind (ih hcs) fun _ hrest => .pure (List.forall_mem_cons.mpr ⟨hsetting, hrest⟩)

end PackToMod
