import PackToMod.Proofs.Requests

/-!
# Uses of a selector

Commands use a selector to find one entity or all of them, among players or among all entities. The constant
for a selector is registered by its text when it is used first, and found again by all later uses. Its query
leaves out entities that are no players if the first use asks for players, so the first use decides for the
others, unless the selector asks for players itself. What is searched for is decided anew by every use: by the
query in the first one, and by what the use asks for in all others.
-/

namespace PackToMod

open Build

variable {q : Query} {b b' : Build} {node : Node}

/-! ## Queries for players -/

namespace Query

/-- The query as it is when players are asked for. -/
def forUse (players : Bool) (q : Query) : Query :=
  { q with includesEntities := !players && q.includesEntities }

lemma ofVariable_forUse (players : Bool) (name : String) :
    ofVariable players name = (ofVariable false name).forUse players := by
  unfold ofVariable forUse
  dsimp only
  split_ifs <;> simp

lemma requireAdvancements_forUse (players : Bool) (q : Query) (entries : List (Node × AdvancementTest)) :
    (q.forUse players).requireAdvancements entries = forUse players <$> q.requireAdvancements entries := by
  induction entries generalizing q with
  | nil => rfl
  | cons entry entries ih =>
    simp only [requireAdvancements, map_bind]
    congr 1
    funext location
    exact ih (q.require _)

lemma requireScores_forUse (players : Bool) (q : Query) (entries : List (String × Node)) :
    (q.forUse players).requireScores entries = forUse players <$> q.requireScores entries := by
  induction entries generalizing q with
  | nil => rfl
  | cons entry entries ih =>
    simp only [requireScores, map_bind]
    congr 1
    funext range
    exact ih (q.require _)

lemma sortBy_forUse (players : Bool) (q : Query) (order : Scalar) :
    BuildM.ofExcept id ((q.forUse players).sortBy order) = forUse players <$> BuildM.ofExcept id (q.sortBy order) := by
  unfold sortBy
  split <;> rfl

/-- Arguments change what is queried in the same way for all uses. -/
lemma applyKey_forUse (players : Bool) (q : Query) (a : SelectorArgument Node) (key : SelectorKey) :
    (q.forUse players).applyKey a key = forUse players <$> q.applyKey a key := by
  cases key with
  | type =>
    simp only [applyKey, map_bind]
    congr 1
    funext location
    split
    · simp [forUse]
    · rfl
  | advancements =>
    simp only [applyKey]
    split
    · exact requireAdvancements_forUse players q _
    · rfl
  | scores =>
    simp only [applyKey]
    split
    · exact requireScores_forUse players q _
    · rfl
  | sort =>
    simp only [applyKey, map_bind]
    congr 1
    funext order
    exact sortBy_forUse players q order
  | predicate => rfl
  | _ =>
    simp only [applyKey, map_bind]
    rfl

lemma applyArguments_forUse (players : Bool) (q : Query) (arguments : List (SelectorArgument Node)) :
    (q.forUse players).applyArguments arguments = forUse players <$> q.applyArguments arguments := by
  induction arguments generalizing q with
  | nil => rfl
  | cons a arguments ih =>
    have happly : (q.forUse players).applyArgument a = forUse players <$> q.applyArgument a := by
      simp only [applyArgument, applyKey_forUse, map_bind]
    simp only [applyArguments, happly, bind_map_left, ih, map_bind]

end Query

/-- The query of a selector for any use, from the query for a use that asks for all entities. -/
theorem query_forUse (players : Bool) (node : Node) :
    node.query players = Query.forUse players <$> node.query false := by
  unfold Node.query
  split
  · rw [Query.ofVariable_forUse, Query.applyArguments_forUse]
  · simp [Query.forUse]
  · simp [Query.forUse]
  · rfl

/-! ## Selectors that ask for players -/

/-- The argument asks for players by their entity type. -/
def SelectorArgument.isForPlayers (a : SelectorArgument Node) : Bool :=
  a.key = "type" && a.value.location?.any a.asksForPlayers

/-- The selector finds players only, whatever it is used for. -/
def Node.asksForPlayers : Node → Bool
  | .selector _ target arguments => ["a", "p", "r"].contains target || arguments.any SelectorArgument.isForPlayers
  | _ => false

def SelectorKey.text : SelectorKey → String
  | x => "x"
  | y => "y"
  | z => "z"
  | dx => "dx"
  | dy => "dy"
  | dz => "dz"
  | tag => "tag"
  | distance => "distance"
  | xRotation => "x_rotation"
  | yRotation => "y_rotation"
  | type => "type"
  | gamemode => "gamemode"
  | advancements => "advancements"
  | predicate => "predicate"
  | name => "name"
  | level => "level"
  | sort => "sort"
  | nbt => "nbt"
  | scores => "scores"
  | team => "team"

lemma SelectorKey.ofText?_eq_some {s : String} {key : SelectorKey} : ofText? s = some key ↔ s = key.text := by
  constructor
  · intro h
    have hmem : (s, key) ∈ names := mem_of_lookup h
    cases key <;> simpa [names, text] using hmem
  · rintro rfl
    cases key <;> decide

lemma require_ok {α : Type} {f : Fault} {part : Option α} {a : α} (h : BuildM.require f part b = .ok a b') :
    part = some a ∧ b' = b := by
  cases part with
  | none => cases h
  | some a' =>
    cases h
    exact ⟨rfl, rfl⟩

namespace Query

lemma includes_requireAdvancements {entries : List (Node × AdvancementTest)} {q' : Query}
    (h : q.requireAdvancements entries b = .ok q' b') : q'.includesEntities = q.includesEntities := by
  induction entries generalizing q b with
  | nil =>
    cases h
    rfl
  | cons entry entries ih =>
    obtain ⟨location, b₁, -, h⟩ := run_bind_eq_ok h
    rw [ih h]
    rfl

lemma includes_requireScores {entries : List (String × Node)} {q' : Query}
    (h : q.requireScores entries b = .ok q' b') : q'.includesEntities = q.includesEntities := by
  induction entries generalizing q b with
  | nil =>
    cases h
    rfl
  | cons entry entries ih =>
    obtain ⟨range, b₁, -, h⟩ := run_bind_eq_ok h
    rw [ih h]
    rfl

lemma applyKey_advancements_ok {a : SelectorArgument Node} {q' : Query} (h : q.applyKey a .advancements b = .ok q' b') :
    ∃ text entries, a.value = .advancements text entries ∧ q.requireAdvancements entries b = .ok q' b' := by
  unfold applyKey at h
  cases hvalue : a.value with
  | advancements text entries =>
    rw [hvalue] at h
    exact ⟨text, entries, rfl, h⟩
  | _ =>
    rw [hvalue] at h
    cases h

lemma applyKey_scores_ok {a : SelectorArgument Node} {q' : Query} (h : q.applyKey a .scores b = .ok q' b') :
    ∃ text entries, a.value = .scores text entries ∧ q.requireScores entries b = .ok q' b' := by
  unfold applyKey at h
  cases hvalue : a.value with
  | scores text entries =>
    rw [hvalue] at h
    exact ⟨text, entries, rfl, h⟩
  | _ =>
    rw [hvalue] at h
    cases h

/-- Only a type of entities can leave out entities that are no players. -/
lemma includes_applyKey {a : SelectorArgument Node} {key : SelectorKey} {q' : Query}
    (h : q.applyKey a key b = .ok q' b') :
    q'.includesEntities = (q.includesEntities && !(key = .type && a.value.location?.any a.asksForPlayers)) := by
  cases key with
  | type =>
    obtain ⟨l, b₁, hl, h⟩ := run_bind_eq_ok h
    have hlocation : a.value.location? = some l := (require_ok hl).1
    rw [hlocation]
    split at h
    · next hplayers =>
      cases h
      simp [hplayers]
    · next hplayers =>
      obtain ⟨symbol, b₂, -, h⟩ := run_bind_eq_ok h
      cases h
      simp [hplayers, require]
  | advancements =>
    obtain ⟨text, entries, -, hentries⟩ := applyKey_advancements_ok h
    simp [includes_requireAdvancements hentries]
  | scores =>
    obtain ⟨text, entries, -, hentries⟩ := applyKey_scores_ok h
    simp [includes_requireScores hentries]
  | sort =>
    obtain ⟨order, b₁, -, h⟩ := run_bind_eq_ok h
    unfold sortBy at h
    split at h <;> cases h <;> simp
  | predicate => cases h
  | _ =>
    obtain ⟨value, b₁, -, h⟩ := run_bind_eq_ok h
    cases h
    simp [require]

lemma includes_applyArguments {arguments : List (SelectorArgument Node)} {q' : Query}
    (h : q.applyArguments arguments b = .ok q' b') :
    q'.includesEntities = (q.includesEntities && !arguments.any SelectorArgument.isForPlayers) := by
  induction arguments generalizing q b with
  | nil =>
    cases h
    simp
  | cons a arguments ih =>
    obtain ⟨q₁, b₁, happly, h⟩ := run_bind_eq_ok h
    obtain ⟨key, b₂, hkey, happly⟩ := run_bind_eq_ok happly
    have htype : decide (key = .type) = decide (a.key = "type") := by
      rw [SelectorKey.ofText?_eq_some.mp (require_ok hkey).1]
      cases key <;> decide
    rw [ih h, includes_applyKey happly, htype, List.any_cons, Bool.not_or, Bool.and_assoc]
    rfl

end Query

lemma includes_query {q : Query} (h : node.query false b = .ok q b') :
    q.includesEntities = !node.asksForPlayers := by
  unfold Node.query at h
  split at h
  · next text target arguments =>
    have hstart : (Query.ofVariable false target).includesEntities = !(["a", "p", "r"].contains target) := by
      unfold Query.ofVariable
      dsimp only
      split_ifs <;> simp_all
    rw [Query.includes_applyArguments h, hstart]
    simp [Node.asksForPlayers]
  · cases h
    rfl
  · cases h
    rfl
  · cases h

/-! ## What is stored -/

/-- What a command uses a selector for: one entity or all, players or all entities. -/
structure SelectorUse where
  single : Bool
  players : Bool

def SelectorUse.of (u : SelectorUse) (node : Node) : Request :=
  .find u.single u.players node

/-- The constant that is registered under the text of a selector. -/
def Build.stored (b : Build) (node : Node) : Option SelectorConstant :=
  node.text?.bind b.selectors.get?

/-- The constant that the static block assigns under the text of a selector. -/
def Build.initialised (b : Build) (node : Node) : Option SelectorConstant :=
  node.text?.bind b.staticSelectors.get?

lemma SelectorUse.next_eq (u : SelectorUse) (node : Node) (b : Build) :
    (u.of node).next b = lastState (node.find u.single u.players b) :=
  lastState_map _ _ _

lemma find_of_stored {c : SelectorConstant} (h : b.stored node = some c) (single players : Bool) :
    node.find single players b = .ok (c.find single players) b := by
  obtain ⟨key, htext, hget⟩ := Option.bind_eq_some_iff.mp h
  simp [Node.find, Node.key, BuildM.require, htext, hget]

/-- A use of a selector that is registered changes nothing. -/
lemma SelectorUse.next_of_stored {c : SelectorConstant} (h : b.stored node = some c) (u : SelectorUse) :
    (u.of node).next b = b := by
  rw [u.next_eq, find_of_stored h, lastState_ok]

/-- The first use fails for all uses alike, or it registers the same constant up to who is looked for. -/
lemma SelectorUse.next_of_not_stored (h : b.stored node = none) :
    (∃ b', b'.stored node = none ∧ ∀ u : SelectorUse, (u.of node).next b = b') ∨
    ∃ (n : Nat) (q : Query) (box : Option Box), q.includesEntities = !node.asksForPlayers ∧
      ∀ u : SelectorUse, ((u.of node).next b).stored node = some ⟨n, q.forUse u.players, box⟩ ∧
        ((u.of node).next b).initialised node = some ⟨n, q.forUse u.players, box⟩ := by
  cases htext : node.text? with
  | none =>
    refine .inl ⟨b, h, fun u => ?_⟩
    rw [u.next_eq]
    simp [Node.find, Node.key, BuildM.require, htext]
  | some key =>
    have hget : b.selectors.get? key = none := by simpa [Build.stored, htext] using h
    have hfind (u : SelectorUse) : node.find u.single u.players b = (do
        let q ← Query.forUse u.players <$> node.query false
        let constant : SelectorConstant := ⟨b.counter, q, ← BuildM.ofExcept id q.box⟩
        modify fun b => { b with selectors := b.selectors.set key constant }
        modify fun b => { b with staticSelectors := b.staticSelectors.set key constant }
        return constant.find u.single (!q.includesEntities) : BuildM String) { b with counter := b.counter + 1 } := by
      simp only [Node.find, Node.key, BuildM.require, htext, run_bind, run_pure, run_get, hget, run_fresh,
        query_forUse u.players node]
    -- The arguments declare no selectors, so a use that fails leaves the text free.
    have hkept : (lastState (node.query false { b with counter := b.counter + 1 })).stored node = none := by
      have hbasic : Keeps (Basic fun _ => True) (node.query false) := query_keeps downClosed_true trivial false
      rw [Build.stored, (hbasic _).selectors_eq]
      exact h
    cases hquery : node.query false { b with counter := b.counter + 1 } with
    | error f b' =>
      rw [hquery] at hkept
      refine .inl ⟨b', hkept, fun u => ?_⟩
      rw [u.next_eq, hfind]
      simp [hquery]
    | ok q b' =>
      rw [hquery] at hkept
      cases hbox : q.box with
      | error f =>
        have hbox' (players : Bool) : (q.forUse players).box = .error f := hbox
        refine .inl ⟨b', hkept, fun u => ?_⟩
        rw [u.next_eq, hfind]
        simp [hquery, hbox', BuildM.ofExcept]
      | ok box =>
        have hbox' (players : Bool) : (q.forUse players).box = .ok box := hbox
        refine .inr ⟨b.counter, q, box, includes_query hquery, fun u => ?_⟩
        rw [u.next_eq, hfind]
        simp [hquery, hbox', BuildM.ofExcept, Build.stored, Build.initialised, htext, Registry.get?_set_self]

/-! ## Two uses -/

lemma SelectorConstant.initialiser_eq_iff (n : Nat) (q : Query) (box : Option Box) (players players' : Bool) :
    (SelectorConstant.mk n (q.forUse players) box).initialiser =
      (SelectorConstant.mk n (q.forUse players') box).initialiser ↔
    players = players' ∨ q.includesEntities = false := by
  have hflag (e e' : Bool) : flagText e = flagText e' ↔ e = e' := by
    cases e <;> cases e' <;> decide
  unfold initialiser Query.forUse symbol
  simp only [String.append_assoc, String.append_right_inj, String.append_left_inj, hflag]
  cases players <;> cases players' <;> cases q.includesEntities <;> decide

/-- The two orders in which a selector can be used, compared by what they leave under its text. The constant
has the same number in both. Its initialiser is the same just if the uses agree about players, or the selector
asks for players itself, or it was registered before, or it cannot be registered. -/
theorem selector_definition_by_first_use (b : Build) (node : Node) (u v : SelectorUse) :
    let c := b.after [u.of node, v.of node]
    let d := b.after [v.of node, u.of node]
    (c.stored node).map SelectorConstant.number = (d.stored node).map SelectorConstant.number ∧
      ((c.initialised node).map SelectorConstant.initialiser = (d.initialised node).map SelectorConstant.initialiser ↔
        u.players = v.players ∨ node.asksForPlayers = true ∨ (b.stored node).isSome ∨ c.stored node = none) := by
  intro c d
  have htwo (w w' : SelectorUse) : b.after [w.of node, w'.of node] = (w'.of node).next ((w.of node).next b) := rfl
  obtain hb | ⟨constant, hb⟩ := Option.eq_none_or_eq_some (b.stored node)
  · obtain ⟨b', hb', hfirst⟩ | ⟨n, q, box, hincludes, hfirst⟩ := SelectorUse.next_of_not_stored hb
    · -- The first use has failed, and both orders go on from the same build.
      have hc : c = (v.of node).next b' := by simp only [c, htwo, hfirst]
      have hd : d = (u.of node).next b' := by simp only [d, htwo, hfirst]
      obtain ⟨b₂, hb₂, hsecond⟩ | ⟨n, q, box, hincludes, hsecond⟩ := SelectorUse.next_of_not_stored hb'
      · simp [hc, hd, hsecond, hb₂]
      · simp [hc, hd, hsecond, hb, SelectorConstant.initialiser_eq_iff, hincludes, @eq_comm _ v.players u.players]
    · have hc : c = (u.of node).next b := by simp only [c, htwo, SelectorUse.next_of_stored (hfirst u).1]
      have hd : d = (v.of node).next b := by simp only [d, htwo, SelectorUse.next_of_stored (hfirst v).1]
      simp [hc, hd, hfirst, hb, SelectorConstant.initialiser_eq_iff, hincludes]
  · have hc : c = b := by simp only [c, htwo, SelectorUse.next_of_stored hb]
    have hd : d = b := by simp only [d, htwo, SelectorUse.next_of_stored hb]
    simp [hc, hd, hb]

def allEntities : Node := .selector "@e" "e" []

/-- Giving something to all entities before they are killed leaves a selector that finds players only; the
other order leaves one that finds all. -/
theorem player_use_first_narrows_selector :
    (({} : Build).after
        [SelectorUse.of ⟨false, true⟩ allEntities, SelectorUse.of ⟨false, false⟩ allEntities]).initialised
        allEntities = some ⟨0, { includesEntities := false, usesSelector := true }, none⟩ ∧
      (({} : Build).after
        [SelectorUse.of ⟨false, false⟩ allEntities, SelectorUse.of ⟨false, true⟩ allEntities]).initialised
        allEntities = some ⟨0, { includesEntities := true, usesSelector := true }, none⟩ ∧
      (SelectorConstant.mk 0 { includesEntities := false, usesSelector := true } none).initialiser ≠
        (SelectorConstant.mk 0 { includesEntities := true, usesSelector := true } none).initialiser := by
  refine ⟨rfl, rfl, ?_⟩
  decide

/-! ## A selector found again -/

/-- The first use of a text makes a query and registers its constant. -/
lemma find_ok_iff_of_new {text : String} (htext : node.text? = some text) (hnew : text ∉ b.selectors.keys)
    {single players : Bool} {answer : String} :
    node.find single players b = .ok answer b' ↔
      ∃ q box b₁, node.query players { b with counter := b.counter + 1 } = .ok q b₁ ∧ q.box = .ok box ∧
        b' = { b₁ with
          selectors := b₁.selectors.set text ⟨b.counter, q, box⟩
          staticSelectors := b₁.staticSelectors.set text ⟨b.counter, q, box⟩ } ∧
        answer = SelectorConstant.find ⟨b.counter, q, box⟩ single (!q.includesEntities) := by
  unfold Node.find Node.key
  simp only [htext, BuildM.require, run_bind, run_pure, run_get, Registry.get?_eq_none_iff.mpr hnew, run_fresh]
  constructor
  · intro hfind
    obtain ⟨q, b₁, hquery, hbox⟩ := run_bind_eq_ok hfind
    cases hq : q.box with
    | error f => simp [hq, BuildM.ofExcept] at hbox
    | ok box =>
      rw [hq] at hbox
      cases hbox
      exact ⟨q, box, b₁, hquery, hq, rfl, rfl⟩
  · rintro ⟨q, box, b₁, hquery, hbox, rfl, rfl⟩
    simp [hquery, hbox, BuildM.ofExcept]

/-- The first use searches for what its query includes. -/
lemma find_of_not_stored {single players : Bool} {text : String} (h : b.stored node = none)
    (hfind : node.find single players b = .ok text b') :
    ∃ c, b'.stored node = some c ∧ text = c.find single (players || node.asksForPlayers) := by
  cases htext : node.text? with
  | none => simp [Node.find, Node.key, BuildM.require, htext] at hfind
  | some key =>
    have hnew : key ∉ b.selectors.keys := Registry.get?_eq_none_iff.mp (by simpa [Build.stored, htext] using h)
    obtain ⟨q, box, b₁, hquery, -, rfl, rfl⟩ := (find_ok_iff_of_new htext hnew).mp hfind
    rw [query_forUse] at hquery
    obtain ⟨q₀, hquery₀, rfl⟩ := run_map_eq_ok hquery
    have hincludes : (q₀.forUse players).includesEntities = !(players || node.asksForPlayers) := by
      simp [Query.forUse, includes_query hquery₀]
    refine ⟨⟨b.counter, q₀.forUse players, box⟩, ?_, ?_⟩
    · simp [Build.stored, htext, Registry.get?_set_self]
    · rw [hincludes, Bool.not_not]

lemma SelectorConstant.find_eq_iff (c : SelectorConstant) (single players players' : Bool) :
    c.find single players = c.find single players' ↔ players = players' := by
  unfold SelectorConstant.find
  simp only [String.append_right_inj, String.append_left_inj]
  cases single <;> cases players <;> cases players' <;> decide

lemma Build.Extends.stored {U : Node → Prop} {c : SelectorConstant} (h : Extends U b b')
    (hstored : b.stored node = some c) : b'.stored node = some c := by
  obtain ⟨key, htext, hget⟩ := Option.bind_eq_some_iff.mp hstored
  exact Option.bind_eq_some_iff.mpr ⟨key, htext, Registry.get?_of_prefix h.selectors hget⟩

/-- A use of a selector that has been answered once, after any requests, is answered from then on with the same
constant, and the build stays as it is. All later answers are the same. They are what the first answer was just
if the selector had been registered before that, or the use asks for players, or the selector does not. -/
theorem selector_found_again (done : List Request) (node : Node) (single players : Bool) (text : String)
    (b' : Build) (hfind : node.find single players (({} : Build).after done) = .ok text b') :
    let known := ((({} : Build).after done).stored node).isSome
    ∃ c, b'.stored node = some c ∧ text = c.find single (players || !known && node.asksForPlayers) ∧
      (∀ later, node.find single players (b'.after later) = .ok (c.find single players) (b'.after later)) ∧
      (c.find single players = text ↔ known = true ∨ players = true ∨ node.asksForPlayers = false) := by
  intro known
  obtain ⟨c, hstored, htext⟩ : ∃ c, b'.stored node = some c ∧
      text = c.find single (players || !known && node.asksForPlayers) := by
    cases hbefore : (({} : Build).after done).stored node with
    | some c =>
      rw [find_of_stored hbefore] at hfind
      cases hfind
      exact ⟨c, hbefore, by simp [known, hbefore]⟩
    | none =>
      obtain ⟨c, hstored, htext⟩ := find_of_not_stored hbefore hfind
      exact ⟨c, hstored, by simp [known, hbefore, htext]⟩
  have hnext : (Request.find single players node).next (({} : Build).after done) = b' := by
    rw [Request.next, Request.run, lastState_map, hfind, lastState_ok]
  have hsound : b'.Sound := by
    obtain ⟨-, hdone⟩ := Build.sound_empty.after_extends done
    rw [← hnext]
    exact ((Request.find single players node).next_extends hdone).2
  refine ⟨c, hstored, htext, fun later => ?_, ?_⟩
  · exact find_of_stored ((hsound.after_extends later).1.stored hstored) single players
  · rw [htext, SelectorConstant.find_eq_iff]
    cases players <;> cases known <;> cases node.asksForPlayers <;> decide

def everyone : Node := .selector "@a" "a" []

/-- Players are found in the same way after the same selector was used for all entities. -/
theorem players_found_again :
    ∃ b', everyone.find false true (({} : Build).after [SelectorUse.of ⟨false, false⟩ allEntities]) =
        .ok "Selector_1.findPlayers(source)" b' ∧
      everyone.find false true (b'.after [SelectorUse.of ⟨false, false⟩ everyone]) =
        .ok "Selector_1.findPlayers(source)" (b'.after [SelectorUse.of ⟨false, false⟩ everyone]) := by
  obtain ⟨b', hfind⟩ : ∃ b', everyone.find false true
      (({} : Build).after [SelectorUse.of ⟨false, false⟩ allEntities]) =
        .ok "Selector_1.findPlayers(source)" b' := ⟨_, rfl⟩
  obtain ⟨c, -, -, hagain, hsame⟩ := selector_found_again _ _ _ _ _ _ hfind
  refine ⟨b', hfind, ?_⟩
  rw [hagain, hsame.mpr (.inr (.inl rfl))]

/-- Killing everyone asks for all entities. The first use searches for players, which is what the selector is for;
the second one does not. -/
theorem everyone_searched_differently :
    ∃ b', everyone.find false false {} = .ok "Selector_0.findPlayers(source)" b' ∧
      everyone.find false false b' = .ok "Selector_0.findEntities(source)" b' :=
  ⟨_, rfl, rfl⟩

end PackToMod
