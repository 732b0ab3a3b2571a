import PackToMod.Proofs.SelectorMeaning

/-!
# Constraints that are lost

A constraint of a selector can be inverted, and an advancement can be asked for by its criteria. The inversion of a tag,
a type, a mode or a name is written into the predicate of the constraint. That of a team or of a tag of data is not, and
neither are the criteria of an advancement, so selectors for opposite entities find the same ones.

Two selectors that differ in an inversion are compared by running them in step. Their predicates differ, and so may the
locations that they declare, but nothing that decides whether a later argument can be used.
-/

namespace PackToMod

open Build

/-! ## Runs in step -/

/-- The builds agree on everything but their locations. -/
def Build.Alike (b b' : Build) : Prop :=
  ∃ locations, b' = { b with locations := locations }

/-- The queries agree on everything but who may be found. -/
def Query.Alike (q q' : Query) : Prop :=
  ∃ predicates includesEntities, q' = { q with predicates := predicates, includesEntities := includesEntities }

lemma Query.Alike.box_eq {q q' : Query} (h : q.Alike q') : q'.box = q.box := by
  obtain ⟨predicates, includesEntities, rfl⟩ := h
  rfl

/-- Two computations both return, with results that fit `R`, or both fail, from any builds that are alike. -/
def InStep {α : Type} (R : α → α → Prop) (x y : BuildM α) : Prop :=
  ∀ b b', b.Alike b' →
    (∃ a a' b₁ b₁', x b = .ok a b₁ ∧ y b' = .ok a' b₁' ∧ R a a' ∧ b₁.Alike b₁') ∨
    ∃ f f' b₁ b₁', x b = .error f b₁ ∧ y b' = .error f' b₁'

namespace InStep

variable {α β : Type} {R : α → α → Prop} {S : β → β → Prop} {x y : BuildM α} {f g : α → BuildM β}

lemma pure {a a' : α} (h : R a a') : InStep R (Pure.pure a) (Pure.pure a') :=
  fun b b' hb => .inl ⟨a, a', b, b', rfl, rfl, h, hb⟩

lemma throw (e e' : Fault) : InStep R (MonadExcept.throw e) (MonadExcept.throw e') :=
  fun b b' _ => .inr ⟨e, e', b, b', rfl, rfl⟩

lemma bind (hx : InStep R x y) (hf : ∀ a a', R a a' → InStep S (f a) (g a')) : InStep S (x >>= f) (y >>= g) := by
  intro b b' hb
  obtain ⟨a, a', b₁, b₁', hxb, hyb, ha, hb₁⟩ | ⟨e, e', b₁, b₁', hxb, hyb⟩ := hx b b' hb
  · rw [run_bind, run_bind, hxb, hyb]
    exact hf a a' ha b₁ b₁' hb₁
  · refine .inr ⟨e, e', b₁, b₁', ?_, ?_⟩
    · rw [run_bind, hxb]
    · rw [run_bind, hyb]

/-- What follows is the same for both results if they are equal. -/
lemma bind_eq (hx : InStep Eq x y) (hf : ∀ a, InStep S (f a) (g a)) : InStep S (x >>= f) (y >>= g) :=
  hx.bind fun a _ ha => ha ▸ hf a

lemma require (fault : Fault) (part : Option α) :
    InStep Eq (BuildM.require fault part) (BuildM.require fault part) := by
  cases part with
  | none => exact throw fault fault
  | some a => exact pure rfl

lemma declareLocation (l : ResourceLocation) : InStep Eq (declareLocation l) (PackToMod.declareLocation l) := by
  rintro b _ ⟨locations, rfl⟩
  exact .inl ⟨_, _, _, _, rfl, rfl, rfl, _, rfl⟩

lemma nodeDeclareLocation (node : Node) : InStep Eq node.declareLocation node.declareLocation :=
  (require _ _).bind_eq declareLocation

lemma rangeDeclare (sort : RangeSort) (r : Range) : InStep Eq (r.declare sort) (r.declare sort) := by
  rintro b _ ⟨locations, rfl⟩
  unfold Range.declare
  have hranges : ({ b with locations := locations } : Build).ranges sort = b.ranges sort := by cases sort <;> rfl
  simp only [run_bind, run_get, hranges]
  cases (b.ranges sort).contains r.text with
  | true => exact .inl ⟨_, _, _, _, rfl, rfl, rfl, locations, rfl⟩
  | false =>
    cases RangeConstant.ofRange r with
    | error e => exact .inr ⟨_, _, _, _, rfl, rfl⟩
    | ok constant =>
      refine .inl ⟨_, _, _, _, rfl, rfl, rfl, locations, ?_⟩
      cases sort <;> rfl

lemma declareRange (sort : RangeSort) (node : Node) : InStep Eq (node.declareRange sort) (node.declareRange sort) :=
  (require _ _).bind_eq fun r => rangeDeclare sort r

lemma declareTag (node : Node) : InStep Eq node.declareTag node.declareTag := by
  refine (require _ _).bind_eq fun text => ?_
  rintro b _ ⟨locations, rfl⟩
  simp only [run_bind, run_get]
  cases b.tags.get? text with
  | some t => exact .inl ⟨_, _, _, _, rfl, rfl, rfl, locations, rfl⟩
  | none =>
    simp only [run_bind, run_fresh, BuildM.numbering]
    cases node.lowerTag false (b.counter + 1) with
    | ok t n => exact .inl ⟨_, _, _, _, rfl, rfl, rfl, locations, rfl⟩
    | error e n => exact .inr ⟨_, _, _, _, rfl, rfl⟩

end InStep

namespace Query

variable {q q' : Query}

lemma Alike.require (h : q.Alike q') (p p' : EntityPredicate) : (q.require p).Alike (q'.require p') := by
  obtain ⟨predicates, includesEntities, rfl⟩ := h
  exact ⟨_, _, rfl⟩

lemma requireAdvancements_inStep (h : q.Alike q') (entries : List (Node × AdvancementTest)) :
    InStep Alike (q.requireAdvancements entries) (q'.requireAdvancements entries) := by
  induction entries generalizing q q' with
  | nil => exact .pure h
  | cons entry entries ih => exact (InStep.nodeDeclareLocation _).bind_eq fun symbol => ih (h.require _ _)

lemma requireScores_inStep (h : q.Alike q') (entries : List (String × Node)) :
    InStep Alike (q.requireScores entries) (q'.requireScores entries) := by
  induction entries generalizing q q' with
  | nil => exact .pure h
  | cons entry entries ih => exact (InStep.declareRange _ _).bind_eq fun symbol => ih (h.require _ _)

lemma sortBy_inStep (h : q.Alike q') (order : Scalar) :
    InStep Alike (BuildM.ofExcept id (q.sortBy order)) (BuildM.ofExcept id (q'.sortBy order)) := by
  obtain ⟨predicates, includesEntities, rfl⟩ := h
  unfold sortBy
  split
  case h_5 => exact .throw _ _
  all_goals exact .pure ⟨_, _, rfl⟩

/-- Whether an argument is inverted or not, it changes the query alike. -/
lemma applyKey_inStep (h : q.Alike q') (a : SelectorArgument Node) (inverted : Bool) (key : SelectorKey) :
    InStep Alike (q.applyKey a key) (q'.applyKey { a with inverted := inverted } key) := by
  cases key with
  | x | y | z | dx | dy | dz =>
    refine (InStep.require _ _).bind_eq fun value => .pure ?_
    obtain ⟨predicates, includesEntities, rfl⟩ := h
    exact ⟨_, _, rfl⟩
  | distance =>
    refine (InStep.declareRange _ _).bind_eq fun symbol => .pure ?_
    obtain ⟨predicates, includesEntities, rfl⟩ := h
    exact ⟨_, _, rfl⟩
  | tag | gamemode | name | team => exact (InStep.require _ _).bind_eq fun value => .pure (h.require _ _)
  | xRotation | yRotation | level => exact (InStep.declareRange _ _).bind_eq fun symbol => .pure (h.require _ _)
  | nbt => exact (InStep.declareTag _).bind_eq fun tag => .pure (h.require _ _)
  | sort => exact (InStep.require _ _).bind_eq fun order => sortBy_inStep h order
  | predicate => exact .throw _ _
  | type =>
    refine (InStep.require _ _).bind_eq fun l => ?_
    rintro b _ ⟨locations, rfl⟩
    obtain ⟨predicates, includesEntities, rfl⟩ := h
    split <;> split
    all_goals exact .inl ⟨_, _, _, _, rfl, rfl, ⟨_, _, rfl⟩, _, rfl⟩
  | advancements =>
    cases hvalue : a.value with
    | advancements text entries =>
      simp only [applyKey, hvalue]
      exact requireAdvancements_inStep h entries
    | _ =>
      simp only [applyKey, hvalue]
      exact .throw _ _
  | scores =>
    cases hvalue : a.value with
    | scores text entries =>
      simp only [applyKey, hvalue]
      exact requireScores_inStep h entries
    | _ =>
      simp only [applyKey, hvalue]
      exact .throw _ _

lemma applyArguments_inStep {arguments arguments' : List (SelectorArgument Node)} (h : q.Alike q')
    (hsame : List.Forall₂ (fun a a' => ∃ inverted, a' = { a with inverted := inverted }) arguments arguments') :
    InStep Alike (q.applyArguments arguments) (q'.applyArguments arguments') := by
  induction hsame generalizing q q' with
  | nil => exact .pure h
  | cons hhead _ ih =>
    obtain ⟨inverted, rfl⟩ := hhead
    refine InStep.bind ?_ fun q₁ q₁' h₁ => ih h₁
    exact (InStep.require _ _).bind_eq fun key => applyKey_inStep h _ inverted key

end Query

/-! ## Texts of predicates -/

lemma Text.sepBy_cons {sep text : String} {texts : List String} (h : texts ≠ []) :
    sepBy sep (text :: texts) = text ++ sep ++ sepBy sep texts := by
  cases texts with
  | nil => exact absurd rfl h
  | cons next rest => rfl

/-- Texts that are put together differ if one of them does. -/
lemma Text.sepBy_replace_inj {sep text text' : String} (before after : List String) :
    sepBy sep (before ++ text :: after) = sepBy sep (before ++ text' :: after) ↔ text = text' := by
  induction before with
  | nil =>
    cases after with
    | nil => rfl
    | cons next rest =>
      rw [List.nil_append, List.nil_append, sepBy_cons (List.cons_ne_nil _ _), sepBy_cons (List.cons_ne_nil _ _)]
      simp only [String.append_left_inj]
  | cons first before ih =>
    rw [List.cons_append, List.cons_append, sepBy_cons (by simp), sepBy_cons (by simp), String.append_right_inj, ih]

lemma Text.length_sepBy_cons_le (sep text : String) (texts : List String) :
    (sepBy sep (text :: texts)).length ≤ text.length + sep.length + (sepBy sep texts).length := by
  cases texts with
  | nil =>
    simp only [sepBy]
    omega
  | cons next rest => rw [sepBy_cons (List.cons_ne_nil _ _), String.length_append, String.length_append]

/-- One more text makes them longer. -/
lemma Text.length_sepBy_lt {sep text : String} (htext : 0 < text.length) (before after : List String) :
    (sepBy sep (before ++ after)).length < (sepBy sep (before ++ text :: after)).length := by
  induction before with
  | nil =>
    cases after with
    | nil => exact htext
    | cons next rest =>
      rw [List.nil_append, List.nil_append, sepBy_cons (List.cons_ne_nil _ _), String.length_append,
        String.length_append]
      omega
  | cons first before ih =>
    calc (sepBy sep (first :: (before ++ after))).length
        ≤ first.length + sep.length + (sepBy sep (before ++ after)).length := length_sepBy_cons_le _ _ _
      _ < first.length + sep.length + (sepBy sep (before ++ text :: after)).length := by omega
      _ = (sepBy sep (first :: (before ++ text :: after))).length := by
        rw [sepBy_cons (by simp), String.length_append, String.length_append]

namespace EntityPredicate

def listText (predicates : List EntityPredicate) : String :=
  Text.sepBy ", " (predicates.map text)

/-- An inverted test is written with one more sign. -/
lemma text_inverted_ne (p : EntityPredicate) : { p with inverted := !p.inverted }.text ≠ p.text := by
  have hsign (i : Bool) : (if !i then "!" else "") ≠ (if i then "!" else "") := by
    cases i <;> decide
  unfold text
  cases p.playersOnly with
  | true =>
    simp only [if_true, ne_eq, String.append_right_inj, String.append_left_inj]
    exact hsign p.inverted
  | false =>
    simp only [Bool.false_eq_true, if_false, ne_eq, String.append_right_inj, String.append_left_inj]
    exact hsign p.inverted

lemma length_text_pos (p : EntityPredicate) : 0 < p.text.length := by
  unfold text
  cases p.playersOnly with
  | true =>
    rw [if_pos rfl, String.length_append]
    exact Nat.add_pos_right _ (by decide)
  | false =>
    rw [if_neg Bool.false_ne_true, String.length_append]
    exact Nat.add_pos_left (by decide) _

lemma listText_insert_ne (p : EntityPredicate) (before after : List EntityPredicate) :
    listText (before ++ after) ≠ listText (before ++ p :: after) := by
  intro heq
  have hlonger : (Text.sepBy ", " (before.map text ++ after.map text)).length <
      (Text.sepBy ", " (before.map text ++ p.text :: after.map text)).length :=
    Text.length_sepBy_lt p.length_text_pos _ _
  rw [← List.map_append, ← List.map_cons, ← List.map_append] at hlonger
  exact absurd (congrArg String.length heq) hlonger.ne

lemma listText_invert_ne (p : EntityPredicate) (before after : List EntityPredicate) :
    listText (before ++ p :: after) ≠ listText (before ++ { p with inverted := !p.inverted } :: after) := by
  unfold listText
  rw [List.map_append, List.map_append, List.map_cons, List.map_cons, ne_eq, Text.sepBy_replace_inj]
  exact p.text_inverted_ne.symm

end EntityPredicate

/-! ## Variations of an argument -/

/-- Two arguments that differ in one thing: whether a constraint is inverted, or one criterion of an advancement. -/
inductive SelectorArgument.Varies : SelectorArgument Node → SelectorArgument Node → Prop
  | inversion {key : String} (hkey : key ∈ ["tag", "type", "gamemode", "name", "team", "nbt"]) (inverted : Bool)
      (value : Node) : Varies ⟨key, inverted, value⟩ ⟨key, !inverted, value⟩
  | criterion (inverted : Bool) (text text' : String) (before after : List (Node × AdvancementTest)) (location : Node)
      (first rest : List (String × Bool)) {criterion criterion' : String × Bool} (h : criterion ≠ criterion') :
      Varies
        ⟨"advancements", inverted,
          .advancements text (before ++ (location, .criteria (first ++ criterion :: rest)) :: after)⟩
        ⟨"advancements", inverted,
          .advancements text' (before ++ (location, .criteria (first ++ criterion' :: rest)) :: after)⟩

/-- The argument with its inversion turned round. -/
def SelectorArgument.turned (a : SelectorArgument Node) : SelectorArgument Node :=
  { a with inverted := !a.inverted }

/-- The keys of arguments whose inversion is written. -/
def invertedKeys : List String := ["tag", "type", "gamemode", "name"]

lemma requireAdvancements_criteria (q : Query) (before after : List (Node × AdvancementTest)) (location : Node)
    (criteria criteria' : List (String × Bool)) :
    q.requireAdvancements (before ++ (location, .criteria criteria) :: after) =
      q.requireAdvancements (before ++ (location, .criteria criteria') :: after) := by
  induction before generalizing q with
  | nil => rfl
  | cons entry before ih =>
    simp only [List.cons_append, Query.requireAdvancements]
    congr 1
    funext symbol
    exact ih _

section

variable {a a' : SelectorArgument Node}

/-- An inversion that is not written makes no difference to the query, and neither does a criterion. -/
lemma SelectorArgument.Varies.applyArgument_eq (h : a.Varies a') (hkey : a.key ∉ invertedKeys) (q : Query) :
    q.applyArgument a' = q.applyArgument a := by
  cases h with
  | criterion inverted text text' before after location first rest h =>
    have hname : SelectorKey.ofText? "advancements" = some .advancements := by decide
    simp only [Query.applyArgument, hname, BuildM.require, pure_bind, Query.applyKey]
    exact requireAdvancements_criteria q before after location _ _
  | @inversion key hmem inverted value =>
    have hdropped : key = "team" ∨ key = "nbt" := by
      simp only [invertedKeys, List.mem_cons, List.not_mem_nil, or_false] at hkey hmem
      tauto
    obtain rfl | rfl := hdropped
    · have hname : SelectorKey.ofText? "team" = some .team := by decide
      simp only [Query.applyArgument, hname, BuildM.require, pure_bind, Query.applyKey]
      rfl
    · have hname : SelectorKey.ofText? "nbt" = some .nbt := by decide
      simp only [Query.applyArgument, hname, BuildM.require, pure_bind, Query.applyKey]

lemma SelectorArgument.Varies.eq_turned (h : a.Varies a') (hkey : a.key ∈ invertedKeys) : a' = a.turned := by
  cases h with
  | inversion hmem inverted value => rfl
  | criterion => simp [invertedKeys] at hkey

variable {tags : Registry TagConstant}

lemma predicate?_turned (hkey : a.key ∈ invertedKeys) {p : EntityPredicate} (h : a.predicate? tags = some p) :
    a.turned.predicate? tags = some { p with inverted := !p.inverted } := by
  have hturned : a.turned.key = a.key := rfl
  simp only [invertedKeys, List.mem_cons, List.not_mem_nil, or_false] at hkey
  obtain hname | hname | hname | hname := hkey
  all_goals
    simp only [SelectorArgument.predicate?, hturned, hname] at h ⊢
    obtain ⟨value, hvalue, rfl⟩ := Option.map_eq_some_iff.mp h
    exact Option.map_eq_some_iff.mpr ⟨value, hvalue, rfl⟩

/-- Only a type that is not inverted can stand for players. -/
lemma isForPlayers_turned (h : a.isForPlayers = true) : a.turned.isForPlayers = false := by
  unfold SelectorArgument.isForPlayers SelectorArgument.asksForPlayers at *
  cases hlocation : a.value.location? with
  | none => simp [hlocation] at h
  | some l =>
    have hinverted : a.inverted = false := by
      simp only [hlocation, Option.any_some, Bool.and_eq_true, Bool.not_eq_true'] at h
      exact h.2.1.1
    simp [SelectorArgument.turned, hlocation, hinverted]

lemma constraints_of_mem_invertedKeys (hkey : a.key ∈ invertedKeys) :
    a.constraints = if a.isForPlayers then [] else [.argument a] := by
  have hkeys : ∀ key ∈ invertedKeys, key ≠ "advancements" ∧ key ≠ "scores" ∧ key ∈ constraintKeys := by decide
  obtain ⟨hadvancements, hscores, hconstraint⟩ := hkeys a.key hkey
  rw [SelectorArgument.constraints, if_neg hadvancements, if_neg hscores]
  cases a.isForPlayers <;> simp [hconstraint]

lemma writtenAs_eq {constraints : List Constraint} {ps : List EntityPredicate}
    (h : List.Forall₂ (Constraint.WrittenAs tags) constraints ps) :
    ps = constraints.filterMap (Constraint.predicate? tags) ∧
      ∀ c ∈ constraints, ∃ p, c.predicate? tags = some p := by
  induction h with
  | nil => simp
  | cons hp _ ih =>
    obtain ⟨rfl, hall⟩ := ih
    rw [Constraint.WrittenAs] at hp
    refine ⟨by rw [List.filterMap_cons_some hp], ?_⟩
    intro c hc
    obtain rfl | hc := List.mem_cons.mp hc
    · exact ⟨_, hp⟩
    · exact hall c hc

/-- The predicates change with the inversion of an argument, whatever stands before and after them. -/
lemma listText_turned_ne (hkey : a.key ∈ invertedKeys) (hplain : ∀ c ∈ a.constraints, ∃ p, c.predicate? tags = some p)
    (hturned : ∀ c ∈ a.turned.constraints, ∃ p, c.predicate? tags = some p) (before after : List EntityPredicate) :
    EntityPredicate.listText (before ++ (a.constraints.filterMap (Constraint.predicate? tags) ++ after)) ≠
      EntityPredicate.listText (before ++ (a.turned.constraints.filterMap (Constraint.predicate? tags) ++ after)) := by
  have hturnedKey : a.turned.key ∈ invertedKeys := hkey
  rw [constraints_of_mem_invertedKeys hkey] at hplain ⊢
  rw [constraints_of_mem_invertedKeys hturnedKey] at hturned ⊢
  -- The type of players has no predicate, but all other entities have one: then a predicate is added or left out.
  cases hfor : a.isForPlayers with
  | true =>
    rw [isForPlayers_turned hfor] at hturned ⊢
    obtain ⟨p, hp⟩ := hturned _ List.mem_cons_self
    simpa [hp] using EntityPredicate.listText_insert_ne p before after
  | false =>
    rw [hfor] at hplain
    obtain ⟨p, hp⟩ := hplain _ List.mem_cons_self
    cases hforTurned : a.turned.isForPlayers with
    | true => simpa [hp] using (EntityPredicate.listText_insert_ne p before after).symm
    | false =>
      have hpTurned : (Constraint.argument a.turned).predicate? tags = some { p with inverted := !p.inverted } :=
        predicate?_turned hkey hp
      simpa [hp, hpTurned] using EntityPredicate.listText_invert_ne p before after

end

/-! ## Selectors that differ in one argument -/

lemma forall₂_turned (before after : List (SelectorArgument Node)) (a : SelectorArgument Node) :
    List.Forall₂ (fun a a' => ∃ inverted, a' = { a with inverted := inverted }) (before ++ a :: after)
      (before ++ a.turned :: after) := by
  have hsame (arguments : List (SelectorArgument Node)) :
      List.Forall₂ (fun a a' => ∃ inverted, a' = { a with inverted := inverted }) arguments arguments :=
    List.forall₂_same.mpr fun a _ => ⟨a.inverted, rfl⟩
  exact List.rel_append (hsame before) (.cons ⟨!a.inverted, rfl⟩ (hsame after))

/-- A query is made with an argument turned round just if it is made with the argument, and not with the same
predicates. -/
lemma applyArguments_turned {q q' : Query} {b b' : Build} {before after : List (SelectorArgument Node)}
    {a : SelectorArgument Node} (hkey : a.key ∈ invertedKeys)
    (h : q.applyArguments (before ++ a :: after) b = .ok q' b') :
    ∃ q'' b'', q.applyArguments (before ++ a.turned :: after) b = .ok q'' b'' ∧ q'.Alike q'' ∧
      EntityPredicate.listText q'.predicates ≠ EntityPredicate.listText q''.predicates := by
  have hq : q.Alike q := ⟨q.predicates, q.includesEntities, rfl⟩
  obtain ⟨q₁, q₂, b₁, b₂, h₁, h₂, hqueries, hbuilds⟩ | ⟨f, f', b₁, b₂, h₁, -⟩ :=
    Query.applyArguments_inStep hq (forall₂_turned before after a) b b ⟨b.locations, rfl⟩
  · obtain ⟨rfl, rfl⟩ : q₁ = q' ∧ b₁ = b' := by
      rw [h] at h₁
      cases h₁
      exact ⟨rfl, rfl⟩
    refine ⟨q₂, b₂, h₂, hqueries, ?_⟩
    -- Both lists are read off the arguments, with tags that are the same.
    obtain ⟨locations, rfl⟩ := hbuilds
    obtain ⟨ps, rfl, hps⟩ := applyArguments_refined h
    obtain ⟨ps', rfl, hps'⟩ := applyArguments_refined h₂
    obtain ⟨rfl, hplain⟩ := writtenAs_eq hps
    obtain ⟨rfl, hturned⟩ := writtenAs_eq hps'
    simp only [Query.refined, List.flatMap_append, List.flatMap_cons, List.filterMap_append]
    have hne := listText_turned_ne hkey (fun c hc => hplain c (List.mem_flatMap.mpr ⟨a, by simp, hc⟩))
      (fun c hc => hturned c (List.mem_flatMap.mpr ⟨a.turned, by simp, hc⟩))
      (q.predicates ++ (before.flatMap SelectorArgument.constraints).filterMap (Constraint.predicate? b₁.tags))
      ((after.flatMap SelectorArgument.constraints).filterMap (Constraint.predicate? b₁.tags))
    rwa [List.append_assoc, List.append_assoc] at hne
  · rw [h] at h₁
    cases h₁

lemma applyArguments_varied {before after : List (SelectorArgument Node)} {a a' : SelectorArgument Node}
    (h : a.Varies a') (hkey : a.key ∉ invertedKeys) (q : Query) :
    q.applyArguments (before ++ a' :: after) = q.applyArguments (before ++ a :: after) := by
  induction before generalizing q with
  | nil => simp only [List.nil_append, Query.applyArguments, h.applyArgument_eq hkey]
  | cons first before ih => simp only [List.cons_append, Query.applyArguments, ih]

/-- Two selectors that differ in one argument, in its inversion or in one criterion, from a build that knows neither of
them. One is answered if the other is. They are written with different predicates just if the argument is a tag, a type,
a mode or a name. For a team, a tag of data and a criterion they have the same constant. -/
theorem constraint_written_iff (b b₁ : Build) (text text' target : String)
    (before after : List (SelectorArgument Node)) (a a' : SelectorArgument Node) (single players : Bool)
    (answer : String) (hnew : text ∉ b.selectors.keys) (hnew' : text' ∉ b.selectors.keys) (hvaries : a.Varies a')
    (hfind : (Node.selector text target (before ++ a :: after)).find single players b = .ok answer b₁) :
    ∃ answer' b₂ c c',
      (Node.selector text' target (before ++ a' :: after)).find single players b = .ok answer' b₂ ∧
      b₁.selectors.get? text = some c ∧ b₂.selectors.get? text' = some c' ∧
      b₁.staticSelectors.get? text = some c ∧ b₂.staticSelectors.get? text' = some c' ∧
      c.initialiser = c.fields.initialiser c.symbol ∧ c'.initialiser = c'.fields.initialiser c'.symbol ∧
      (c.fields.predicates ≠ c'.fields.predicates ↔ a.key ∈ ["tag", "type", "gamemode", "name"]) ∧
      (a.key ∈ ["team", "nbt", "advancements"] → c = c') := by
  obtain ⟨q, box, b₀, hquery, hbox, rfl, rfl⟩ := (find_ok_iff_of_new rfl hnew).mp hfind
  have hwritten := SelectorConstant.initialiser_of_query hquery b.counter box
  by_cases hkey : a.key ∈ invertedKeys
  · obtain rfl : a' = a.turned := hvaries.eq_turned hkey
    obtain ⟨q', b', hquery', hqueries, hpredicates⟩ := applyArguments_turned hkey hquery
    have hbox' : q'.box = .ok box := hqueries.box_eq.trans hbox
    have hdisjoint : ∀ key ∈ ["team", "nbt", "advancements"], key ∉ invertedKeys := by decide
    refine ⟨_, _, _, _, (find_ok_iff_of_new rfl hnew').mpr ⟨q', box, b', hquery', hbox', rfl, rfl⟩,
      Registry.get?_set_self _ _ _, Registry.get?_set_self _ _ _, Registry.get?_set_self _ _ _,
      Registry.get?_set_self _ _ _, hwritten, SelectorConstant.initialiser_of_query hquery' b.counter box, ?_, ?_⟩
    · exact iff_of_true hpredicates hkey
    · exact fun hdropped => absurd hkey (hdisjoint _ hdropped)
  · have hquery' := (congrFun (applyArguments_varied hvaries hkey _) _).trans hquery
    refine ⟨_, _, _, _, (find_ok_iff_of_new rfl hnew').mpr ⟨q, box, b₀, hquery', hbox, rfl, rfl⟩,
      Registry.get?_set_self _ _ _, Registry.get?_set_self _ _ _, Registry.get?_set_self _ _ _,
      Registry.get?_set_self _ _ _, hwritten, hwritten, ?_, fun _ => rfl⟩
    exact iff_of_false (not_not.mpr rfl) hkey

/-- Entities that are seen. -/
def seen : SelectorArgument Node := ⟨"tag", false, .word "seen" .string "seen"⟩

/-- Seen entities and unseen ones are told apart. -/
theorem seen_told_from_unseen :
    ∃ b₁ b₂ answer c c',
      (Node.selector "@e[tag=seen]" "e" [seen]).find false false {} = .ok "Selector_0.findEntities(source)" b₁ ∧
      (Node.selector "@e[tag=!seen]" "e" [seen.turned]).find false false {} = .ok answer b₂ ∧
      b₁.selectors.get? "@e[tag=seen]" = some c ∧ b₂.selectors.get? "@e[tag=!seen]" = some c' ∧
      b₁.staticSelectors.get? "@e[tag=seen]" = some c ∧ b₂.staticSelectors.get? "@e[tag=!seen]" = some c' ∧
      c.fields.predicates ≠ c'.fields.predicates := by
  obtain ⟨b₁, hfind⟩ : ∃ b₁, (Node.selector "@e[tag=seen]" "e" ([] ++ seen :: [])).find false false {} =
      .ok "Selector_0.findEntities(source)" b₁ := ⟨_, rfl⟩
  obtain ⟨answer, b₂, c, c', hfind', hget, hget', hstatic, hstatic', -, -, hpredicates, -⟩ :=
    constraint_written_iff {} b₁ "@e[tag=seen]" "@e[tag=!seen]" "e" [] [] seen seen.turned false false _
      List.not_mem_nil List.not_mem_nil (.inversion (by decide) _ _) hfind
  exact ⟨b₁, b₂, answer, c, c', hfind, hfind', hget, hget', hstatic, hstatic', hpredicates.mpr (by decide)⟩

def redTeam : SelectorArgument Node := ⟨"team", false, .team "red" (some "red")⟩

def burning : SelectorArgument Node := ⟨"nbt", false, .tagCompound "\x7bFire:1\x7d" [("Fire", .tagScalar "1" (.int 1))]⟩

/-- A player who has met a criterion of an advancement, or who has not. -/
def traveller (expected : Bool) : SelectorArgument Node :=
  ⟨"advancements", false,
    .advancements "" [(.location ⟨"travel", false, none, "travel"⟩, .criteria [("desert", expected)])]⟩

/-- Selectors with one of the two arguments each have the same constant in an empty build. -/
def HaveSameConstant (a a' : SelectorArgument Node) : Prop :=
  ∃ c b₁ b₂, (Node.selector "@e[one]" "e" [a]).find false false {} = .ok "Selector_0.findEntities(source)" b₁ ∧
    (Node.selector "@e[other]" "e" [a']).find false false {} = .ok "Selector_0.findEntities(source)" b₂ ∧
    b₁.selectors.get? "@e[one]" = some c ∧ b₂.selectors.get? "@e[other]" = some c ∧
    b₁.staticSelectors.get? "@e[one]" = some c ∧ b₂.staticSelectors.get? "@e[other]" = some c

/-- Opposite teams, opposite data and opposite criteria. -/
theorem opposite_constraints_alike :
    HaveSameConstant redTeam redTeam.turned ∧ HaveSameConstant burning burning.turned ∧
      HaveSameConstant (traveller true) (traveller false) :=
  ⟨⟨_, _, _, rfl, rfl, rfl, rfl, rfl, rfl⟩, ⟨_, _, _, rfl, rfl, rfl, rfl, rfl, rfl⟩,
    ⟨_, _, _, rfl, rfl, rfl, rfl, rfl, rfl⟩⟩

end PackToMod
