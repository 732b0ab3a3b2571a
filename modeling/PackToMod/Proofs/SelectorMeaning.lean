import PackToMod.Proofs.SelectorUses
import PackToMod.Proofs.Spelling

/-!
# What the arguments of a selector mean

The arguments of a selector are applied to its query one after the other. Here is what comes of them together. A flag is
raised if any argument raises it, a position and an order are those of the last argument that gives one, and every
constraint becomes one predicate, in the order of the arguments.
-/

namespace PackToMod

open Build

/-! ## The last argument with a key -/

def lastArgument (key : String) (arguments : List (SelectorArgument Node)) : Option (SelectorArgument Node) :=
  arguments.reverse.find? (·.key = key)

/-- What is read off the last argument with a key, if there is one. -/
def lastOf {α : Type} (key : String) (read : SelectorArgument Node → α) (default : α)
    (arguments : List (SelectorArgument Node)) : α :=
  ((lastArgument key arguments).map read).getD default

lemma lastOf_nil {α : Type} (key : String) (read : SelectorArgument Node → α) (default : α) :
    lastOf key read default [] = default :=
  rfl

lemma lastOf_cons {α : Type} (key : String) (read : SelectorArgument Node → α) (default : α)
    (a : SelectorArgument Node) (rest : List (SelectorArgument Node)) :
    lastOf key read default (a :: rest) = lastOf key read (if a.key = key then read a else default) rest := by
  unfold lastOf lastArgument
  rw [List.reverse_cons, List.find?_append]
  cases rest.reverse.find? (·.key = key) with
  | some last => rfl
  | none =>
    by_cases hkey : a.key = key
    · simp [hkey]
    · simp [hkey]

namespace SelectorArgument

/-- The symbol of the range that an argument asks for. -/
def rangeSymbol? (a : SelectorArgument Node) : Option String :=
  a.value.range?.map fun r => RangeSort.doubles.symbol r.min r.max

def scalar? (a : SelectorArgument Node) : Option Scalar :=
  a.value.value?

def extent? (a : SelectorArgument Node) : Option Scalar :=
  a.scalar?.bind Scalar.present?

def sortOrder (a : SelectorArgument Node) : SortOrder :=
  let text? := a.scalar?.bind Scalar.text?
  if text? = some "nearest" then .nearest
  else if text? = some "furthest" then .furthest
  else if text? = some "arbitrary" then .arbitrary
  else if text? = some "random" then .random
  else .unsorted

/-- The argument asks for a place or for an order by distance. -/
def limitsWorld (a : SelectorArgument Node) : Bool :=
  ["x", "y", "z", "dx", "dy", "dz", "distance"].contains a.key
    || a.key = "sort" && [SortOrder.nearest, .furthest].contains a.sortOrder

end SelectorArgument

/-! ## Constraints -/

/-- A constraint that entities have to meet: an argument, or one entry of an argument for advancements or scores. -/
inductive Constraint where
  | argument (a : SelectorArgument Node)
  | advancement (location : Node) (test : AdvancementTest)
  | score (objective : String) (range : Node)

/-- The constraint of an argument that stands for one, as it is written. A tag is written as the constant that is
registered under its text. -/
def SelectorArgument.predicate? (tags : Registry TagConstant) (a : SelectorArgument Node) : Option EntityPredicate :=
  match a.key with
  | "tag" => a.scalar?.map fun name =>
    { inverted := a.inverted, test := "entity.getTags().contains(\"" ++ name.render ++ "\")" }
  | "x_rotation" => a.rangeSymbol?.map fun range => { test := range ++ ".matches(entity.getXRot())" }
  | "y_rotation" => a.rangeSymbol?.map fun range => { test := range ++ ".matches(entity.getYRot())" }
  | "type" => a.value.location?.map fun l =>
    { inverted := a.inverted
      test := "entity.getType().is("
        ++ (if l.isTag then "TagKey.create(Registries.ENTITY_TYPE, " ++ l.symbol ++ ")"
          else "HolderSet.direct(Holder.direct(BuiltInRegistries.ENTITY_TYPE.get(" ++ l.symbol ++ ")))")
        ++ ")" }
  | "gamemode" => a.scalar?.map fun mode =>
    { playersOnly := true
      inverted := a.inverted
      test := "entity.gameMode.getGameModeForPlayer() == GameType.byName(\"" ++ mode.render ++ "\")" }
  | "name" => a.scalar?.map fun name =>
    { inverted := a.inverted, test := "entity.getName().getString().equals(\"" ++ name.render ++ "\")" }
  | "level" => a.rangeSymbol?.map fun range =>
    { playersOnly := true, test := range ++ ".matches(entity.experienceLevel)" }
  | "nbt" => (a.value.text?.bind tags.get?).map fun tag =>
    { test := "nbtMatches(new EntityDataAccessor(entity).getData(), " ++ tag.root.text ++ ")" }
  | "team" => a.scalar?.map fun
    | .missing => { test := "entity.getTeam() == null" }
    | team =>
      { test := "entity.getTeam() != null && entity.getTeam().getName().equals(\"" ++ team.render ++ "\")" }
  | _ => none

namespace Constraint

def predicate? (tags : Registry TagConstant) : Constraint → Option EntityPredicate
  | argument a => a.predicate? tags
  | advancement location test => location.location?.map fun l =>
    let progress := "entity.getAdvancements().getOrStartProgress(Objects.requireNonNull("
      ++ "entity.getServer().getAdvancements().tree().get(" ++ l.symbol ++ ")).holder())"
    match test with
    | .done expected => { playersOnly := true, inverted := expected, test := progress ++ ".isDone()" }
    | .criteria _ =>
      { playersOnly := true
        preparation :=
          "\n                                final boolean[] valid = \x7btrue\x7d;"
            ++ "\n                                var completed = List.of();"
            ++ "\n                                var unfinished = List.of();"
            ++ "\n                                " ++ progress
            ++ ".getCompletedCriteria().forEach(it -> \x7b"
            ++ "\n                                    if (!valid[0]) return;"
            ++ "\n                                    valid[0] = completed.contains(it) || "
            ++ "!unfinished.contains(it);"
            ++ "\n                                \x7d);"
            ++ "\n                                "
        test := "valid" }
  | score objective range => range.range?.map fun r =>
    { test := RangeSort.ints.symbol r.min r.max
        ++ ".matches(entity.getServer().getScoreboard().getPlayerScoreInfo(entity, "
        ++ "entity.getServer().getScoreboard().getObjective(\"" ++ objective ++ "\")).value())" }

/-- The constraint is written as the predicate. -/
def WrittenAs (tags : Registry TagConstant) (c : Constraint) (p : EntityPredicate) : Prop :=
  c.predicate? tags = some p

end Constraint

def Node.advancementConstraints : Node → List Constraint
  | .advancements _ entries => entries.map fun entry => .advancement entry.1 entry.2
  | _ => []

def Node.scoreConstraints : Node → List Constraint
  | .scores _ entries => entries.map fun entry => .score entry.1 entry.2
  | _ => []

/-- The keys of arguments that stand for constraints. -/
def constraintKeys : List String :=
  ["tag", "x_rotation", "y_rotation", "type", "gamemode", "name", "level", "nbt", "team"]

def SelectorArgument.constraints (a : SelectorArgument Node) : List Constraint :=
  if a.key = "advancements" then a.value.advancementConstraints
  else if a.key = "scores" then a.value.scoreConstraints
  else if a.key ∈ constraintKeys ∧ a.isForPlayers = false then [.argument a]
  else []

/-! ## What is read -/

section

variable {b b' : Build}

lemma declareRange_ok {sort : RangeSort} {node : Node} {symbol : String}
    (h : node.declareRange sort b = .ok symbol b') :
    ∃ r, node.range? = some r ∧ symbol = sort.symbol r.min r.max := by
  have hruns : Runs (Basic fun _ => True) _ (node.declareRange sort) := declareRange_runs sort trivial
  obtain ⟨-, r, rfl, hsymbol, -⟩ := hruns.ok h
  exact ⟨r, rfl, hsymbol⟩

lemma rangeSymbol?_of_ok {a : SelectorArgument Node} {symbol : String}
    (h : a.value.declareRange .doubles b = .ok symbol b') : a.rangeSymbol? = some symbol := by
  obtain ⟨r, hr, rfl⟩ := declareRange_ok h
  simp [SelectorArgument.rangeSymbol?, hr]

lemma declareLocation_ok {node : Node} {symbol : String} (h : node.declareLocation b = .ok symbol b') :
    node.location?.map ResourceLocation.symbol = some symbol := by
  have hruns : Runs (Basic fun _ => True) _ node.declareLocation := nodeDeclareLocation_runs trivial
  obtain ⟨-, l, rfl, rfl, -⟩ := hruns.ok h
  rfl

/-- A declared tag is referred to by the constant under its text. -/
lemma declareTag_ok {node : Node} {tag : TagReference} (h : node.declareTag b = .ok tag b') :
    ∃ t, node.text?.bind b'.tags.get? = some t ∧ tag.symbol = t.root.text := by
  unfold Node.declareTag Node.key at h
  obtain ⟨key, b₁, hkey, hdeclare⟩ := run_bind_eq_ok h
  obtain ⟨htext, rfl⟩ := require_ok hkey
  cases hget : b₁.tags.get? key with
  | some t =>
    simp only [run_bind, run_get, hget] at hdeclare
    cases hdeclare
    exact ⟨t, by simp [htext, hget], rfl⟩
  | none =>
    simp only [run_bind, run_get, hget, run_fresh] at hdeclare
    obtain ⟨t, b₂, -, hset⟩ := run_bind_eq_ok hdeclare
    cases hset
    exact ⟨t, by simp [htext, Registry.get?_set_self], rfl⟩

end

/-! ## One argument -/

namespace Query

/-- The query after some arguments, whose constraints are written as the predicates. -/
def refined (q : Query) (arguments : List (SelectorArgument Node)) (predicates : List EntityPredicate) : Query :=
  { q with
    includesEntities := q.includesEntities && !arguments.any SelectorArgument.isForPlayers
    worldLimited := q.worldLimited || arguments.any SelectorArgument.limitsWorld
    predicates := q.predicates ++ predicates
    distance := lastOf "distance" SelectorArgument.rangeSymbol? q.distance arguments
    x := lastOf "x" SelectorArgument.scalar? q.x arguments
    y := lastOf "y" SelectorArgument.scalar? q.y arguments
    z := lastOf "z" SelectorArgument.scalar? q.z arguments
    dx := lastOf "dx" SelectorArgument.extent? q.dx arguments
    dy := lastOf "dy" SelectorArgument.extent? q.dy arguments
    dz := lastOf "dz" SelectorArgument.extent? q.dz arguments
    order := lastOf "sort" SelectorArgument.sortOrder q.order arguments }

lemma refined_nil (q : Query) : q.refined [] [] = q := by
  simp [refined, lastOf_nil]

lemma refined_cons (q : Query) (a : SelectorArgument Node) (rest : List (SelectorArgument Node))
    (ps ps' : List EntityPredicate) : (q.refined [a] ps).refined rest ps' = q.refined (a :: rest) (ps ++ ps') := by
  simp [refined, lastOf_cons, lastOf_nil, Bool.and_assoc, Bool.or_assoc]

/-- The keys of arguments that say where entities are looked for and in which order. -/
def fieldKeys : List String := ["x", "y", "z", "dx", "dy", "dz", "distance", "sort"]

/-- An argument that says neither where entities are looked for nor who they are adds its predicates. -/
lemma refined_of_notMem {a : SelectorArgument Node} (hkey : a.key ∉ fieldKeys) (hplayers : a.isForPlayers = false)
    (q : Query) (ps : List EntityPredicate) : q.refined [a] ps = { q with predicates := q.predicates ++ ps } := by
  simp only [fieldKeys, List.mem_cons, List.not_mem_nil, or_false, not_or] at hkey
  simp [refined, lastOf_cons, lastOf_nil, hkey, hplayers, SelectorArgument.limitsWorld]

end Query

lemma SelectorArgument.isForPlayers_of_ne {a : SelectorArgument Node} (h : a.key ≠ "type") :
    a.isForPlayers = false := by
  simp [isForPlayers, h]

/-- The argument takes `q` to `q'`, and its constraints are written as predicates that refer to the tags. -/
def SelectorArgument.Refines (a : SelectorArgument Node) (q q' : Query) (tags : Registry TagConstant) : Prop :=
  ∃ ps, q' = q.refined [a] ps ∧ List.Forall₂ (Constraint.WrittenAs tags) a.constraints ps

section

variable {q q' : Query} {a : SelectorArgument Node} {tags : Registry TagConstant}

lemma refines_of_constraints {ps : List EntityPredicate} (hkey : a.key ∉ Query.fieldKeys)
    (hplayers : a.isForPlayers = false) (hps : List.Forall₂ (Constraint.WrittenAs tags) a.constraints ps) :
    a.Refines q { q with predicates := q.predicates ++ ps } tags :=
  ⟨ps, (Query.refined_of_notMem hkey hplayers q ps).symm, hps⟩

/-- An argument that stands for a constraint adds its predicate. -/
lemma refines_of_predicate {p : EntityPredicate} (hkey : a.key ∈ constraintKeys) (hplayers : a.isForPlayers = false)
    (hp : a.predicate? tags = some p) : a.Refines q (q.require p) tags := by
  have hother : ∀ key ∈ constraintKeys, key ∉ Query.fieldKeys ∧ key ≠ "advancements" ∧ key ≠ "scores" := by decide
  obtain ⟨hfield, hadvancements, hscores⟩ := hother _ hkey
  refine refines_of_constraints hfield hplayers ?_
  rw [SelectorArgument.constraints, if_neg hadvancements, if_neg hscores, if_pos ⟨hkey, hplayers⟩]
  exact .cons hp .nil

/-- An argument that says where entities are looked for, or in which order, stands for no constraint. -/
lemma refines_of_field (hkey : a.key ∈ Query.fieldKeys) (hq : q' = q.refined [a] []) : a.Refines q q' tags := by
  have hother : ∀ key ∈ Query.fieldKeys, key ≠ "advancements" ∧ key ≠ "scores" ∧ key ∉ constraintKeys := by decide
  obtain ⟨hadvancements, hscores, hconstraint⟩ := hother _ hkey
  refine ⟨[], hq, ?_⟩
  rw [SelectorArgument.constraints, if_neg hadvancements, if_neg hscores, if_neg fun h => hconstraint h.1]
  exact .nil

variable {b b' : Build}

lemma requireAdvancements_ok {entries : List (Node × AdvancementTest)}
    (h : q.requireAdvancements entries b = .ok q' b') (tags : Registry TagConstant) :
    ∃ ps, q' = { q with predicates := q.predicates ++ ps } ∧
      List.Forall₂ (Constraint.WrittenAs tags) (entries.map fun entry => .advancement entry.1 entry.2) ps := by
  induction entries generalizing q b with
  | nil =>
    cases h
    exact ⟨[], by simp, .nil⟩
  | cons entry entries ih =>
    obtain ⟨symbol, b₁, hlocation, hrest⟩ := run_bind_eq_ok h
    obtain ⟨ps, rfl, hps⟩ := ih hrest
    refine ⟨advancementPredicate symbol entry.2 :: ps, by simp [Query.require], .cons ?_ hps⟩
    obtain ⟨l, hl, rfl⟩ := Option.map_eq_some_iff.mp (declareLocation_ok hlocation)
    rw [Constraint.WrittenAs, Constraint.predicate?, hl, Option.map_some]
    cases entry.2 <;> rfl

lemma requireScores_ok {entries : List (String × Node)} (h : q.requireScores entries b = .ok q' b')
    (tags : Registry TagConstant) :
    ∃ ps, q' = { q with predicates := q.predicates ++ ps } ∧
      List.Forall₂ (Constraint.WrittenAs tags) (entries.map fun entry => .score entry.1 entry.2) ps := by
  induction entries generalizing q b with
  | nil =>
    cases h
    exact ⟨[], by simp, .nil⟩
  | cons entry entries ih =>
    obtain ⟨symbol, b₁, hrange, hrest⟩ := run_bind_eq_ok h
    obtain ⟨ps, rfl, hps⟩ := ih hrest
    refine ⟨scorePredicate entry.1 symbol :: ps, by simp [Query.require], .cons ?_ hps⟩
    obtain ⟨r, hr, rfl⟩ := declareRange_ok hrange
    simp [Constraint.WrittenAs, Constraint.predicate?, hr, scorePredicate]

lemma sortBy_ok {order : Scalar} (hkey : a.key = "sort") (hvalue : a.scalar? = some order)
    (h : q.sortBy order = .ok q') : q' = q.refined [a] [] := by
  unfold Query.sortBy at h
  split at h <;> cases h
  all_goals
    simp_all [Query.refined, lastOf_cons, lastOf_nil, SelectorArgument.isForPlayers, SelectorArgument.limitsWorld,
      SelectorArgument.sortOrder]

lemma applyKey_refines {key : SelectorKey} (hkey : a.key = key.text) (h : q.applyKey a key b = .ok q' b') :
    a.Refines q q' b'.tags := by
  cases key with
  | x | y | z | dx | dy | dz =>
    obtain ⟨value, b₁, hvalue, hq⟩ := run_bind_eq_ok h
    have hscalar : a.scalar? = some value := (require_ok hvalue).1
    cases hq
    refine refines_of_field (hkey ▸ by decide) ?_
    simp [Query.refined, lastOf_cons, lastOf_nil, hkey, SelectorKey.text, SelectorArgument.isForPlayers,
      SelectorArgument.limitsWorld, SelectorArgument.extent?, hscalar]
  | distance =>
    obtain ⟨symbol, b₁, hrange, hq⟩ := run_bind_eq_ok h
    cases hq
    refine refines_of_field (hkey ▸ by decide) ?_
    simp [Query.refined, lastOf_cons, lastOf_nil, hkey, SelectorKey.text, SelectorArgument.isForPlayers,
      SelectorArgument.limitsWorld, rangeSymbol?_of_ok hrange]
  | sort =>
    obtain ⟨order, b₁, hvalue, hsort⟩ := run_bind_eq_ok h
    cases hq : q.sortBy order with
    | error f => simp [hq, BuildM.ofExcept] at hsort
    | ok q₁ =>
      rw [hq] at hsort
      cases hsort
      exact refines_of_field (hkey ▸ by decide) (sortBy_ok hkey (require_ok hvalue).1 hq)
  | tag | gamemode | name =>
    obtain ⟨value, b₁, hvalue, hq⟩ := run_bind_eq_ok h
    have hscalar : a.scalar? = some value := (require_ok hvalue).1
    cases hq
    refine refines_of_predicate (hkey ▸ by decide) (SelectorArgument.isForPlayers_of_ne (hkey ▸ by decide)) ?_
    simp [SelectorArgument.predicate?, hkey, SelectorKey.text, hscalar]
  | team =>
    obtain ⟨value, b₁, hvalue, hq⟩ := run_bind_eq_ok h
    have hscalar : a.scalar? = some value := (require_ok hvalue).1
    cases hq
    refine refines_of_predicate (hkey ▸ by decide) (SelectorArgument.isForPlayers_of_ne (hkey ▸ by decide)) ?_
    simp only [SelectorArgument.predicate?, hkey, SelectorKey.text, hscalar, Option.map_some]
    cases value <;> rfl
  | xRotation | yRotation | level =>
    obtain ⟨symbol, b₁, hrange, hq⟩ := run_bind_eq_ok h
    cases hq
    refine refines_of_predicate (hkey ▸ by decide) (SelectorArgument.isForPlayers_of_ne (hkey ▸ by decide)) ?_
    simp [SelectorArgument.predicate?, hkey, SelectorKey.text, rangeSymbol?_of_ok hrange]
  | nbt =>
    obtain ⟨tag, b₁, htag, hq⟩ := run_bind_eq_ok h
    cases hq
    obtain ⟨t, ht, hsymbol⟩ := declareTag_ok htag
    refine refines_of_predicate (hkey ▸ by decide) (SelectorArgument.isForPlayers_of_ne (hkey ▸ by decide)) ?_
    simp [SelectorArgument.predicate?, hkey, SelectorKey.text, ht, hsymbol]
  | type =>
    obtain ⟨l, b₁, hl, hq⟩ := run_bind_eq_ok h
    have hlocation : a.value.location? = some l := (require_ok hl).1
    split at hq
    · next hplayers =>
      cases hq
      have hfor : a.isForPlayers = true := by
        simp [SelectorArgument.isForPlayers, hkey, SelectorKey.text, hlocation, hplayers]
      refine ⟨[], ?_, ?_⟩
      · simp [Query.refined, lastOf_cons, lastOf_nil, hkey, SelectorKey.text, hfor, SelectorArgument.limitsWorld]
      · simp [SelectorArgument.constraints, hkey, SelectorKey.text, hfor]
    · next hplayers =>
      cases hq
      refine refines_of_predicate (hkey ▸ by decide) (by simp [SelectorArgument.isForPlayers, hlocation, hplayers]) ?_
      simp [SelectorArgument.predicate?, hkey, SelectorKey.text, hlocation, typePredicate]
  | advancements =>
    obtain ⟨text, entries, hvalue, hentries⟩ := Query.applyKey_advancements_ok h
    obtain ⟨ps, rfl, hps⟩ := requireAdvancements_ok hentries b'.tags
    refine refines_of_constraints (hkey ▸ by decide) (SelectorArgument.isForPlayers_of_ne (hkey ▸ by decide)) ?_
    simpa [SelectorArgument.constraints, hkey, SelectorKey.text, hvalue, Node.advancementConstraints] using hps
  | scores =>
    obtain ⟨text, entries, hvalue, hentries⟩ := Query.applyKey_scores_ok h
    obtain ⟨ps, rfl, hps⟩ := requireScores_ok hentries b'.tags
    refine refines_of_constraints (hkey ▸ by decide) (SelectorArgument.isForPlayers_of_ne (hkey ▸ by decide)) ?_
    simpa [SelectorArgument.constraints, hkey, SelectorKey.text, hvalue, Node.scoreConstraints] using hps
  | predicate => cases h

/-! ## All arguments -/

lemma SelectorArgument.predicate?_of_prefix {tags' : Registry TagConstant} {p : EntityPredicate}
    (hgrown : tags.entries <+: tags'.entries) (h : a.predicate? tags = some p) : a.predicate? tags' = some p := by
  by_cases hnbt : a.key = "nbt"
  · simp only [predicate?, hnbt] at h ⊢
    obtain ⟨t, ht, rfl⟩ := Option.map_eq_some_iff.mp h
    obtain ⟨text, htext, hget⟩ := Option.bind_eq_some_iff.mp ht
    simp [htext, Registry.get?_of_prefix hgrown hget]
  · rw [← h]
    unfold predicate?
    split
    case h_8 hkey => exact absurd hkey hnbt
    all_goals rfl

/-- A constraint stays written as it is while tags are added. -/
lemma Constraint.WrittenAs.of_prefix {tags' : Registry TagConstant} {c : Constraint} {p : EntityPredicate}
    (hgrown : tags.entries <+: tags'.entries) (h : c.WrittenAs tags p) : c.WrittenAs tags' p := by
  cases c with
  | advancement location test => exact h
  | score objective range => exact h
  | argument a => exact SelectorArgument.predicate?_of_prefix hgrown h

lemma applyArguments_refined {arguments : List (SelectorArgument Node)} (h : q.applyArguments arguments b = .ok q' b') :
    ∃ ps, q' = q.refined arguments ps ∧
      List.Forall₂ (Constraint.WrittenAs b'.tags) (arguments.flatMap SelectorArgument.constraints) ps := by
  induction arguments generalizing q b with
  | nil =>
    cases h
    exact ⟨[], (Query.refined_nil _).symm, .nil⟩
  | cons a rest ih =>
    obtain ⟨q₁, b₁, happly, hrest⟩ := run_bind_eq_ok h
    obtain ⟨key, b₂, hkey, happly⟩ := run_bind_eq_ok happly
    obtain ⟨ps, rfl, hps⟩ := applyKey_refines (SelectorKey.ofText?_eq_some.mp (require_ok hkey).1) happly
    obtain ⟨ps', rfl, hps'⟩ := ih hrest
    refine ⟨ps ++ ps', Query.refined_cons q a rest ps ps', ?_⟩
    have hgrown : b₁.tags.entries <+: b'.tags.entries := by
      have hkeeps : Keeps (Basic fun _ => True) ((q.refined [a] ps).applyArguments rest) :=
        applyArguments_keeps downClosed_true (fun _ _ => trivial) _
      have hlast := hkeeps b₁
      rw [hrest] at hlast
      exact hlast.tags
    exact List.rel_append (hps.imp fun _ _ hp => hp.of_prefix hgrown) hps'

end

/-! ## The first query -/

/-- The order that the variable of a selector stands for. -/
def variableOrder (target : String) : SortOrder :=
  if target = "p" ∨ target = "n" then .nearest else if target = "r" then .random else .unsorted

lemma Query.ofVariable_eq (players : Bool) (target : String) :
    ofVariable players target =
      { singleResult := decide (target = "p" ∨ target = "n")
        includesEntities := !(players || ["a", "p", "r"].contains target)
        worldLimited := decide (target = "p" ∨ target = "n")
        order := variableOrder target
        currentEntity := decide (target = "s")
        usesSelector := true } := by
  unfold ofVariable variableOrder
  dsimp only
  split_ifs <;> simp_all

/-! ## Coordinates -/

/-- What is passed to a new selector, as it is written. -/
@[ext]
structure SelectorFields where
  maxResults : String
  includesEntities : String
  worldLimited : String
  predicates : String
  range : String
  x : String
  y : String
  z : String
  box : String
  order : String
  currentEntity : String

/-- A selector that is given by a variable, so by neither a name nor an identifier nor a type. -/
def SelectorFields.initialiser (symbol : String) (f : SelectorFields) : String :=
  symbol ++ " = new EntitySelector(\n                " ++ f.maxResults ++ ", " ++ f.includesEntities ++ ", "
    ++ f.worldLimited ++ ", List.of(" ++ f.predicates ++ "),\n                " ++ f.range ++ ", old -> new Vec3("
    ++ f.x ++ ", " ++ f.y ++ ", " ++ f.z ++ "), " ++ f.box ++ ", " ++ f.order ++ ", " ++ f.currentEntity
    ++ ",\n                null, null, null, true\n            );\n"

def SelectorConstant.fields (c : SelectorConstant) : SelectorFields where
  maxResults := if c.query.singleResult then "1" else "EntitySelector.INFINITE"
  includesEntities := flagText c.query.includesEntities
  worldLimited := flagText c.query.worldLimited
  predicates := Text.sepBy ", " (c.query.predicates.map EntityPredicate.text)
  range := c.query.distance.getD "MinMaxBounds.Doubles.ANY"
  x := (c.query.x.map Scalar.render).getD "old.x"
  y := (c.query.y.map Scalar.render).getD "old.y"
  z := (c.query.z.map Scalar.render).getD "old.z"
  box := (c.box.map Box.text).getD "null"
  order := c.query.order.text
  currentEntity := flagText c.query.currentEntity

lemma SelectorConstant.initialiser_eq_fields {c : SelectorConstant} (hname : c.query.playerName = none)
    (hid : c.query.entityId = none) (hselector : c.query.usesSelector = true) :
    c.initialiser = c.fields.initialiser c.symbol := by
  have hopening : "),\n                " = "),\n" ++ "                " := by decide
  have hending : ",\n                null, null, null, true\n            );\n" =
      ",\n" ++ ("                " ++ ("null" ++ (", " ++ ("null" ++ (", null, " ++ ("true" ++
        "\n            );\n")))))) := by
    decide
  unfold initialiser SelectorFields.initialiser fields
  simp only [hname, hid, hselector, hopening, hending, String.append_assoc, Option.map_none, Option.getD_none]
  rfl

/-- A selector that is given by a variable is written with nothing but its fields. -/
lemma SelectorConstant.initialiser_of_query {target : String} {arguments : List (SelectorArgument Node)}
    {players : Bool} {q : Query} {b b' : Build}
    (h : (Query.ofVariable players target).applyArguments arguments b = .ok q b') (n : Nat) (box : Option Box) :
    initialiser ⟨n, q, box⟩ = (fields ⟨n, q, box⟩).initialiser (symbol ⟨n, q, box⟩) := by
  obtain ⟨predicates, rfl, -⟩ := applyArguments_refined h
  rw [Query.ofVariable_eq]
  exact initialiser_eq_fields rfl rfl rfl

/-- A predicate as it is written. One for players lets no other entity pass. -/
def EntityPredicate.written (p : EntityPredicate) : String :=
  if p.playersOnly then
    "entity -> \x7b\n            if (entity instanceof ServerPlayer) \x7b\n                " ++ p.preparation
      ++ "\n                return " ++ (if p.inverted then "!" else "") ++ p.test
      ++ ";\n            \x7d\n            return false;\n        \x7d"
  else "entity -> " ++ (if p.inverted then "!" else "") ++ p.test

/-- An order as it is written. -/
def SortOrder.written : SortOrder → String
  | unsorted => "null"
  | nearest => "Sort.NEAREST"
  | furthest => "Sort.FURTHEST"
  | arbitrary => "Sort.ARBITRARY"
  | random => "Sort.RANDOM"

end PackToMod
