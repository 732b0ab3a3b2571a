import PackToMod.Proofs.Execution

/-!
# Changes of a draft that handlers do not notice

A handler reads words and operands and puts text behind what is there. So it does not matter whether a draft is changed
before or after, as long as the change keeps what there is to read and goes on with what is put out: `Ignores T x` says
that `x` does the same with the draft changed by `T`. Such changes are a text in front of the output and another list of
macros. A change to what is there already, before which nothing has changed, shows that a handler leaves it alone.
-/

namespace PackToMod

open DraftM

variable {T : Draft → Draft} {α β : Type}

/-- A change that keeps what is read, and that can be made before as well as after something is read or put out. -/
structure Draft.Unread (T : Draft → Draft) : Prop where
  words (d : Draft) : (T d).words = d.words
  operands (d : Draft) : (T d).operands = d.operands
  compiled (d : Draft) : (T d).compiled = d.compiled
  reading (d : Draft) (words : List String) (operands : List Operand) :
    T { d with words, operands } = { T d with words, operands }
  putting (d d' : Draft) (text : String) :
    T { d with output := d'.output ++ text } = { T d with output := (T d').output ++ text }
  dispatching (d : Draft) : T { d with needsDispatcher := true } = { T d with needsDispatcher := true }

def Frame.changed (T : Draft → Draft) (s : Frame) : Frame :=
  { s with draft := T s.draft }

/-- The same result with the draft changed. -/
def resultChanged (T : Draft → Draft) : EStateM.Result Fault Frame α → EStateM.Result Fault Frame α
  | .ok a s => .ok a (s.changed T)
  | .error f s => .error f (s.changed T)

/-- On a changed draft, `y` does what `x` does on the draft as it was. -/
def Follows (T : Draft → Draft) (x y : DraftM α) : Prop :=
  ∀ s : Frame, y (s.changed T) = resultChanged T (x s)

abbrev Ignores (T : Draft → Draft) (x : DraftM α) : Prop :=
  Follows T x x

lemma Draft.Unread.append (h : Draft.Unread T) (d : Draft) (text : String) : T (d.append text) = (T d).append text :=
  h.putting d d text

namespace Follows

lemma pure (a : α) : Ignores T (Pure.pure a) :=
  fun _ => rfl

lemma bind {x y : DraftM α} {f g : α → DraftM β} (hx : Follows T x y) (hf : ∀ a, Follows T (f a) (g a)) :
    Follows T (x >>= f) (y >>= g) := by
  intro s
  rw [run_bind, run_bind, hx s]
  cases x s with
  | error e s' => rfl
  | ok a s' => exact hf a s'

lemma get {f : Frame → DraftM α} (h : ∀ s : Frame, Follows T (f s) (f (s.changed T))) : Ignores T (get >>= f) :=
  fun s => h s s

lemma onBuild (x : BuildM α) : Ignores T (DraftM.onBuild x) := by
  intro s
  unfold DraftM.onBuild Frame.changed
  cases x s.build with
  | ok a b => rfl
  | error f b => rfl

lemma modifyDraft {p q : Draft → Draft} (h : ∀ d, T (p d) = q (T d)) :
    Follows T (DraftM.modifyDraft p) (DraftM.modifyDraft q) := by
  intro s
  change EStateM.Result.ok PUnit.unit { s with draft := q (T s.draft) } = .ok ⟨⟩ { s with draft := T (p s.draft) }
  rw [h]

variable (hT : Draft.Unread T)

include hT

lemma emit (text : String) : Ignores T (DraftM.emit text) :=
  modifyDraft fun d => hT.append d text

lemma emitOver {x : DraftM String} (hx : Ignores T x) : Ignores T (DraftM.emitOver x) :=
  get fun s => hx.bind fun text => modifyDraft fun d => hT.putting d s.draft text

/-- A handler ignores a change if its action does, on every operand if it takes one. -/
def OfHandler (T : Draft → Draft) : Handler (DraftM α) → Prop
  | .plain x => Ignores T x
  | .operand f => ∀ o, Ignores T (f o)

omit hT in
lemma found {x : DraftM α} (hx : Ignores T x) (s : Frame) :
    (some <$> x) (s.changed T) = resultChanged T ((some <$> x) s) := by
  rw [run_map, run_map, hx s]
  cases x s with
  | ok a s' => rfl
  | error f s' => rfl

/-- Reading a word for which there is no handler that notices. -/
lemma next_at {handlers : Handlers (DraftM α)} {s : Frame}
    (h : ∀ word words handler, s.draft.words = word :: words → handlers.lookup word = some handler →
      OfHandler T handler) : DraftM.next handlers (s.changed T) = resultChanged T (DraftM.next handlers s) := by
  have hwords' : (s.changed T).draft.words = s.draft.words := hT.words s.draft
  have hoperands' : (s.changed T).draft.operands = s.draft.operands := hT.operands s.draft
  -- A word is read before or after the change, alone or with an operand.
  have hread (words : List String) (operands : List Operand) :
      { T s.draft with words, operands } = T { s.draft with words, operands } := (hT.reading ..).symm
  have hreadWord (words : List String) : { T s.draft with words } = T { s.draft with words } := by
    refine Eq.trans ?_ (hread words s.draft.operands)
    rw [← hT.operands s.draft]
  cases hwords : s.draft.words with
  | nil =>
    rw [hwords] at hwords'
    rw [next_nil hwords, next_nil hwords', resultChanged]
  | cons word words =>
    rw [hwords] at hwords'
    cases hlookup : handlers.lookup word with
    | none =>
      rw [next_unknown hwords hlookup, next_unknown hwords' hlookup]
      simp only [resultChanged, Frame.changed, hreadWord]
    | some handler =>
      have hhandler := h word words handler hwords hlookup
      cases handler with
      | plain x =>
        rw [next_plain hwords hlookup, next_plain hwords' hlookup, ← found hhandler]
        simp only [Frame.changed, hreadWord, hT.append]
      | operand run =>
        cases hoperands : s.draft.operands with
        | nil =>
          rw [hoperands] at hoperands'
          rw [next_starved hwords hlookup hoperands, next_starved hwords' hlookup hoperands']
          simp only [resultChanged, Frame.changed, hreadWord]
        | cons o operands =>
          rw [hoperands] at hoperands'
          cases htext : o.node.text? with
          | none =>
            rw [next_blank hwords hlookup hoperands htext, next_blank hwords' hlookup hoperands' htext]
            simp only [resultChanged, Frame.changed, hread]
          | some text =>
            rw [next_operand hwords hlookup hoperands htext, next_operand hwords' hlookup hoperands' htext,
              ← found (hhandler o)]
            simp only [Frame.changed, hread, hT.append]

lemma next {handlers : Handlers (DraftM α)} (h : handlers.Forall fun entry => OfHandler T entry.2) :
    Ignores T (DraftM.next handlers) := by
  refine fun s => next_at hT fun word words handler _ hlookup => ?_
  exact List.forall_iff_forall_mem.mp h (word, handler) (mem_of_lookup hlookup)

lemma operand (word : String) (run : Node → BuildM α) : Ignores T (DraftM.operand word run) :=
  next hT fun _ => onBuild _

end Follows

/-! ## Handlers outside `execute` -/

section

variable (hT : Draft.Unread T)

include hT

lemma faceEntity_ignores (o : Operand) : Ignores T (faceEntity o) :=
  .bind (.onBuild _) fun _ => .bind (.operand hT _ _) fun _ => .emit hT _

lemma face_ignores : Ignores T face := by
  have hentity : Ignores T (DraftM.next [("facingEntity", .operand faceEntity)]) :=
    .next hT fun o => faceEntity_ignores hT o
  refine .bind (.next hT ⟨fun o => ?_, ?_⟩) fun _ => .pure _
  · exact .bind (.onBuild _) fun _ => .emit hT _
  · exact Follows.bind hentity fun _ => .pure _

lemma accessData_ignores : Ignores T accessData := by
  refine .next hT ⟨?_, ?_, ?_⟩
  all_goals exact .bind (.operand hT _ _) fun _ => .pure _

lemma moveTo_ignores (o : Operand) : Ignores T (moveTo o) := by
  refine .bind (.onBuild _) fun _ => .bind (.emit hT _) fun _ => ?_
  exact .bind (.next hT (face_ignores hT)) fun _ => .pure _

lemma moveToEntity_ignores (o : Operand) : Ignores T (moveToEntity o) :=
  .bind (.onBuild _) fun _ => .emit hT _

lemma moveAll_ignores (o : Operand) : Ignores T (moveAll o) := by
  refine .bind (.onBuild _) fun _ => .bind (.emit hT _) fun _ => ?_
  exact .bind (.next hT ⟨moveTo_ignores hT, moveToEntity_ignores hT⟩) fun _ => .pure _

lemma teleport_ignores : Ignores T teleport := by
  refine .bind (.next hT ⟨fun o => ?_, fun o => ?_⟩) fun _ => .emit hT _
  · exact .bind (moveTo_ignores hT o) fun _ => .pure _
  · exact .bind (moveAll_ignores hT o) fun _ => .pure _

lemma kill_ignores : Ignores T kill := by
  refine .bind (.next hT fun o => .bind (.onBuild _) fun _ => .emit hT _) fun selected => ?_
  split
  · exact .emit hT _
  · exact .pure _

lemma give_ignores : Ignores T give := by
  refine .bind (.next hT fun o => .bind (.onBuild _) fun _ => .emit hT _) fun _ => ?_
  refine .bind (.operand hT _ _) fun stack => .bind (.operand hT _ _) fun count => ?_
  exact .bind (.onBuild _) fun _ => .bind (.onBuild _) fun _ => .emit hT _

lemma dataArguments_ignores : Ignores T dataArguments := by
  refine .bind (accessData_ignores hT) fun data => .bind (.operand hT _ _) fun part => ?_
  split
  · exact .pure _
  · exact .pure _

lemma callArguments_ignores : Ignores T callArguments := by
  refine .bind (.next hT ⟨dataArguments_ignores hT, fun o => ?_⟩) fun _ => .pure _
  exact .bind (.onBuild _) fun _ => .pure _

lemma runFunction_ignores : Ignores T runFunction := by
  refine .bind (.next hT fun o => ?_) fun call => ?_
  · refine .get fun s => ?_
    rw [show (s.changed T).draft.compiled = s.draft.compiled from hT.compiled s.draft]
    exact .bind (.onBuild _) fun _ => .bind (callArguments_ignores hT) fun _ => .pure _
  · refine .bind (.onBuild _) fun parts => .bind (.onBuild _) fun code => .bind (.emit hT _) fun _ => ?_
    exact .modifyDraft hT.dispatching

/-- The message takes the place of the output. -/
lemma say_ignores (houtput : ∀ d output, T { d with output } = { T d with output }) : Ignores T say := by
  refine .bind (.operand hT _ _) fun text => ?_
  split
  · exact .modifyDraft fun d => houtput d _
  · exact .pure _

/-! ## Clauses of `execute` -/

lemma fork_ignores (statement : String) : Ignores T (fork statement) :=
  .bind (.emitOver hT (.bind (.operand hT _ _) fun _ => .pure _)) fun _ => .pure _

lemma forkInto_ignores (statement : String) : Ignores T (forkInto statement) :=
  .bind (.operand hT _ _) fun _ => .bind (.emit hT _) fun _ => .pure _

lemma align_ignores : Ignores T align := by
  refine .bind (.operand hT _ _) fun axes => .bind (.onBuild _) fun axes => .bind (.onBuild _) fun a => ?_
  exact .bind (.emit hT _) fun _ => .pure _

lemma anchored_ignores : Ignores T anchored :=
  .bind (.operand hT _ _) fun _ => .bind (.emit hT _) fun _ => .pure _

lemma inDimension_ignores : Ignores T inDimension :=
  .bind (.operand hT _ _) fun _ => .bind (.emit hT _) fun _ => .pure _

lemma relations_ignore : Ignores T (DraftM.next relations) :=
  .next hT ⟨.pure _, .pure _, .pure _, .pure _, .pure _, .pure _, .pure _, .pure _⟩

lemma on_ignores : Ignores T on := by
  refine .get fun s => .bind (relations_ignore hT) fun found => .bind (.onBuild _) fun relation => ?_
  exact .bind (.modifyDraft fun d => hT.putting d s.draft _) fun _ => .pure _

lemma positioned_ignores : Ignores T positioned := by
  refine .bind (.next hT ⟨fun o => ?_, ?_, forkInto_ignores hT _⟩) fun _ => .pure _
  · exact .bind (.onBuild _) fun _ => .bind (.emit hT _) fun _ => .pure _
  · exact .bind (.operand hT _ _) fun _ => .bind (.emit hT _) fun _ => .pure _

lemma rotated_ignores : Ignores T rotated := by
  refine .bind (.next hT ⟨fun o => ?_, forkInto_ignores hT _⟩) fun _ => .pure _
  exact .bind (.onBuild _) fun _ => .bind (.emit hT _) fun _ => .pure _

lemma summon_ignores : Ignores T summon :=
  .bind (.operand hT _ _) fun _ => .bind (.emit hT _) fun _ => .pure _

lemma biomeCondition_ignores : Ignores T biomeCondition := by
  refine .bind (.operand hT _ _) fun position => .bind (.operand hT _ _) fun biome => ?_
  exact .bind (.onBuild _) fun _ => .bind (.emit hT _) fun _ => .pure _

lemma blockCondition_ignores : Ignores T blockCondition := by
  refine .bind (.operand hT _ _) fun position => .bind (.operand hT _ _) fun predicate => ?_
  exact .bind (.onBuild _) fun _ => .pure _

lemma regionsCondition_ignores (affirmed : Bool) : Ignores T (regionsCondition affirmed) := by
  have hmode : Ignores T (DraftM.next [
      ("all", .plain (pure "")),
      ("masked", .plain (pure "if (original_state.isAir()) continue;\n"))]) :=
    .next hT ⟨.pure _, .pure _⟩
  refine .bind (.operand hT _ _) fun start => .bind (.operand hT _ _) fun stop => ?_
  refine .bind (.operand hT _ _) fun destination => ?_
  cases affirmed with
  | true => exact .bind (.emit hT _) fun _ => Follows.bind hmode fun mode => .bind (.onBuild _) fun _ => .pure _
  | false => exact Follows.bind hmode fun mode => .bind (.onBuild _) fun _ => .pure _

lemma dataCondition_ignores (affirmed : Bool) : Ignores T (dataCondition affirmed) := by
  refine .bind (.emitOver hT ?_) fun _ => .pure _
  refine .bind (accessData_ignores hT) fun data => .bind (.operand hT _ _) fun path => ?_
  exact .bind (.onBuild _) fun _ => .bind (.onBuild _) fun _ => .pure _

lemma dimensionCondition_ignores : Ignores T dimensionCondition :=
  .bind (.operand hT _ _) fun _ => .bind (.onBuild _) fun _ => .bind (.onBuild _) fun _ => .pure _

lemma condition_ignores (affirmed : Bool) : Ignores T (condition affirmed) := by
  refine .bind (.next hT ⟨biomeCondition_ignores hT, blockCondition_ignores hT, regionsCondition_ignores hT affirmed,
    dataCondition_ignores hT affirmed, dimensionCondition_ignores hT⟩) fun c => ?_
  exact .bind (.emit hT _) fun _ => .pure _

/-- The clauses of `execute` other than a subcommand. -/
lemma clauses_ofHandler : clauses.tail.Forall fun entry => Follows.OfHandler T entry.2 := by
  refine ⟨align_ignores hT, anchored_ignores hT, fork_ignores hT _, fork_ignores hT _, ?_,
    inDimension_ignores hT, on_ignores hT, positioned_ignores hT, rotated_ignores hT, summon_ignores hT,
    condition_ignores hT true, condition_ignores hT false, .pure _⟩
  exact .bind (face_ignores hT) fun _ => .pure _

lemma clauses_ignore : Ignores T (DraftM.next clauses.tail) :=
  .next hT (clauses_ofHandler hT)

end

end PackToMod
