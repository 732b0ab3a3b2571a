import PackToMod.Compile
import PackToMod.Proofs.Constants

/-!
# What the handlers of a command do to a draft

Apart from compiling a subcommand, a handler declares constants and puts out code. `Walks U Q x` says so:
every run of `x` makes the build grow quietly, takes operands from the front and leaves the way the draft
returns alone; a run that returns has read no word for a subcommand, and its result satisfies `Q`.
-/

namespace PackToMod

open Build DraftM

/-! ## Reading a word -/

section

variable {α : Type} {handlers : Handlers (DraftM α)} {s : Frame} {word : String} {words : List String}

lemma next_nil (hwords : s.draft.words = []) : next handlers s = .ok none s := by
  simp [next, Draft.read, DraftM.modifyDraft, hwords, Reading.outcome]

lemma next_unknown (hwords : s.draft.words = word :: words) (hlookup : handlers.lookup word = none) :
    next handlers s = .error (.unknownWord word) { s with draft := { s.draft with words } } := by
  simp [next, Draft.read, DraftM.modifyDraft, hwords, hlookup, Reading.outcome]

lemma next_plain {x : DraftM α} (hwords : s.draft.words = word :: words)
    (hlookup : handlers.lookup word = some (.plain x)) :
    next handlers s = (some <$> x)
      { s with draft := { s.draft with words }.append (comment word) } := by
  simp [next, Draft.read, DraftM.modifyDraft, hwords, hlookup, Reading.outcome]

variable {run : Operand → DraftM α} {o : Operand} {operands : List Operand}

lemma next_starved (hwords : s.draft.words = word :: words)
    (hlookup : handlers.lookup word = some (.operand run)) (hoperands : s.draft.operands = []) :
    next handlers s = .error .outOfOperands { s with draft := { s.draft with words } } := by
  simp [next, Draft.read, DraftM.modifyDraft, hwords, hlookup, hoperands, Reading.outcome]

lemma next_blank (hwords : s.draft.words = word :: words)
    (hlookup : handlers.lookup word = some (.operand run)) (hoperands : s.draft.operands = o :: operands)
    (htext : o.node.text? = none) :
    next handlers s = .error .noSuchPart { s with draft := { s.draft with words, operands } } := by
  simp [next, Draft.read, DraftM.modifyDraft, hwords, hlookup, hoperands, htext, Reading.outcome]

lemma next_operand {text : String} (hwords : s.draft.words = word :: words)
    (hlookup : handlers.lookup word = some (.operand run)) (hoperands : s.draft.operands = o :: operands)
    (htext : o.node.text? = some text) :
    next handlers s = (some <$> run o)
      { s with draft := { s.draft with words, operands }.append (comment text) } := by
  simp [next, Draft.read, DraftM.modifyDraft, hwords, hlookup, hoperands, htext, Reading.outcome]

/-- Reading an operand of which something is made on the build. -/
lemma operand_ok {make : Node → BuildM α} {text : String} {a : α} {b : Build} (hwords : s.draft.words = word :: words)
    (hoperands : s.draft.operands = o :: operands) (htext : o.node.text? = some text)
    (hmake : make o.node s.build = .ok a b) :
    operand word make s = .ok (some a) ⟨b, { s.draft with words, operands }.append (comment text)⟩ := by
  have hlookup : [(word, Handler.operand fun o : Operand => onBuild (make o.node))].lookup word =
      some (.operand fun o => onBuild (make o.node)) := by
    simp
  rw [operand, next_operand hwords hlookup hoperands htext]
  simp only [run_map, onBuild, hmake]

end

/-! ## Walking through a draft -/

/-- The word at which a command goes on to another command. -/
def subcommandWord : String := "subcommand"

/-- All operands of a draft are in `U`. -/
def Draft.Within (U : Node → Prop) (d : Draft) : Prop :=
  ∀ o ∈ d.operands, U o.node

structure Frame.Passes (U : Node → Prop) (s s' : Frame) : Prop where
  build : Quiet U s.build s'.build
  operands : s'.draft.operands <:+ s.draft.operands
  returns : s'.draft.returns = s.draft.returns

/-- The words read between two frames have none for a subcommand among them. -/
def Frame.Skips (s s' : Frame) : Prop :=
  ∃ used, s.draft.words = used ++ s'.draft.words ∧ subcommandWord ∉ used

/-- What a result has to be after a walk from `s`. -/
def Frame.LeadsTo {α : Type} (U : Node → Prop) (Q : α → Prop) (s : Frame) :
    EStateM.Result Fault Frame α → Prop
  | .ok a s' => s.Passes U s' ∧ s.Skips s' ∧ Q a
  | .error _ s' => s.Passes U s'

def Walks {α : Type} (U : Node → Prop) (Q : α → Prop) (x : DraftM α) : Prop :=
  ∀ s : Frame, s.draft.Within U → s.LeadsTo U Q (x s)

namespace Frame

variable {U : Node → Prop} {s s₁ s₂ : Frame}

lemma Passes.refl (s : Frame) : s.Passes U s :=
  ⟨refl_of (Quiet U) _, List.suffix_rfl, rfl⟩

lemma Passes.trans (h₁ : s.Passes U s₁) (h₂ : s₁.Passes U s₂) : s.Passes U s₂ :=
  ⟨h₁.build.trans h₂.build, h₂.operands.trans h₁.operands, h₂.returns.trans h₁.returns⟩

lemma Passes.within (h : s.Passes U s₁) (hs : s.draft.Within U) : s₁.draft.Within U :=
  fun o ho => hs o (h.operands.subset ho)

lemma LeadsTo.passes {α : Type} {Q : α → Prop} {r : EStateM.Result Fault Frame α}
    (h : s.LeadsTo U Q r) : s.Passes U (lastState r) := by
  cases r with
  | ok a s' => exact h.1
  | error f s' => exact h

lemma Skips.refl (s : Frame) : s.Skips s :=
  ⟨[], rfl, List.not_mem_nil⟩

lemma Skips.trans (h₁ : s.Skips s₁) (h₂ : s₁.Skips s₂) : s.Skips s₂ := by
  obtain ⟨used₁, hwords₁, hnot₁⟩ := h₁
  obtain ⟨used₂, hwords₂, hnot₂⟩ := h₂
  refine ⟨used₁ ++ used₂, ?_, ?_⟩
  · rw [hwords₁, hwords₂, List.append_assoc]
  · rw [List.mem_append, not_or]
    exact ⟨hnot₁, hnot₂⟩

end Frame

namespace Walks

variable {α β : Type} {U : Node → Prop} {Q : α → Prop} {P : β → Prop}

lemma pure {a : α} (h : Q a) : Walks U Q (Pure.pure a) :=
  fun s _ => ⟨.refl s, .refl s, h⟩

lemma bind {x : DraftM α} {f : α → DraftM β} (hx : Walks U Q x) (hf : ∀ a, Q a → Walks U P (f a)) :
    Walks U P (x >>= f) := by
  intro s hs
  have hsx := hx s hs
  rw [run_bind]
  cases hxs : x s with
  | error e s' =>
    rw [hxs] at hsx
    exact hsx
  | ok a s' =>
    rw [hxs] at hsx
    obtain ⟨hpass, hskip, hQ⟩ := hsx
    have hrest := hf a hQ s' (hpass.within hs)
    dsimp only
    cases hfa : f a s' with
    | error e s'' =>
      rw [hfa] at hrest
      exact hpass.trans hrest
    | ok c s'' =>
      rw [hfa] at hrest
      exact ⟨hpass.trans hrest.1, hskip.trans hrest.2.1, hrest.2.2⟩

/-- Nothing is said about the result. -/
abbrev Plain (U : Node → Prop) (x : DraftM α) : Prop := Walks U (fun _ => True) x

lemma plain {x : DraftM α} (h : Walks U Q x) : Plain U x := by
  intro s hs
  have hsx := h s hs
  cases hxs : x s with
  | error e s' =>
    rw [hxs] at hsx
    exact hsx
  | ok a s' =>
    rw [hxs] at hsx
    exact ⟨hsx.1, hsx.2.1, trivial⟩

lemma onBuild {x : BuildM α} (h : Keeps (Quiet U) x) : Plain U (DraftM.onBuild x) := by
  intro s _
  have hbuild := h s.build
  unfold DraftM.onBuild
  cases hx : x s.build with
  | error e b =>
    rw [hx, lastState_error] at hbuild
    exact ⟨hbuild, List.suffix_rfl, rfl⟩
  | ok a b =>
    rw [hx, lastState_ok] at hbuild
    exact ⟨⟨hbuild, List.suffix_rfl, rfl⟩, ⟨[], rfl, List.not_mem_nil⟩, trivial⟩

/-- What follows a required part knows that the part is there. -/
lemma require {f : Fault} {part : Option α} :
    Walks U (fun a => part = some a) (DraftM.onBuild (BuildM.require f part)) := by
  cases part with
  | none => exact fun s _ => .refl s
  | some a => exact pure rfl

lemma get : Plain U (MonadState.get : DraftM Frame) :=
  fun s _ => ⟨.refl s, .refl s, trivial⟩

/-- Changes of a draft other than reading it. -/
lemma modifyDraft {f : Draft → Draft} (hwords : ∀ d, (f d).words = d.words)
    (hoperands : ∀ d, (f d).operands = d.operands) (hreturns : ∀ d, (f d).returns = d.returns) :
    Plain U (DraftM.modifyDraft f) := by
  intro s _
  refine ⟨⟨refl_of (Quiet U) _, ?_, hreturns _⟩, ⟨[], (hwords _).symm, List.not_mem_nil⟩, trivial⟩
  change (f s.draft).operands <:+ s.draft.operands
  simp only [hoperands, List.suffix_rfl]

lemma emit (text : String) : Plain U (DraftM.emit text) :=
  modifyDraft (fun _ => rfl) (fun _ => rfl) fun _ => rfl

lemma emitOver {x : DraftM String} (h : Plain U x) : Plain U (DraftM.emitOver x) := by
  refine bind get fun _ _ => bind h fun _ _ => ?_
  exact modifyDraft (fun _ => rfl) (fun _ => rfl) fun _ => rfl

/-- A handler walks if its action does, on every operand in `U` if it takes one. -/
def OfHandler (U : Node → Prop) (Q : α → Prop) : Handler (DraftM α) → Prop
  | .plain x => Walks U Q x
  | .operand f => ∀ o : Operand, U o.node → Walks U Q (f o)

/-- A handler that runs after a word has been read for it. -/
lemma found {s s₁ : Frame} {x : DraftM α} (h : Walks U Q x) (hs : s.draft.Within U)
    (hpass : s.Passes U s₁) (hskip : s.Skips s₁) :
    s.LeadsTo U (fun r => ∀ a ∈ r, Q a) ((some <$> x) s₁) := by
  have hrun := h s₁ (hpass.within hs)
  rw [run_map]
  cases hx : x s₁ with
  | error e s' =>
    rw [hx] at hrun
    exact hpass.trans hrun
  | ok a s' =>
    rw [hx] at hrun
    refine ⟨hpass.trans hrun.1, hskip.trans hrun.2.1, fun c hc => ?_⟩
    rw [Option.mem_some_iff.mp hc] at hrun
    exact hrun.2.2

/-- Reading a word for which the handlers walk. -/
lemma next {handlers : Handlers (DraftM α)}
    (h : handlers.Forall fun entry => entry.1 ≠ subcommandWord ∧ OfHandler U Q entry.2) :
    Walks U (fun r => ∀ a ∈ r, Q a) (DraftM.next handlers) := by
  intro s hs
  cases hwords : s.draft.words with
  | nil =>
    rw [next_nil hwords]
    exact ⟨.refl s, .refl s, by simp⟩
  | cons word words =>
    cases hlookup : handlers.lookup word with
    | none =>
      rw [next_unknown hwords hlookup]
      exact ⟨refl_of (Quiet U) _, List.suffix_rfl, rfl⟩
    | some handler =>
      obtain ⟨hword, hhandler⟩ := List.forall_iff_forall_mem.mp h _ (mem_of_lookup hlookup)
      have hread : ∃ used, s.draft.words = used ++ words ∧ subcommandWord ∉ used :=
        ⟨[word], hwords, fun hin => hword (List.mem_singleton.mp hin).symm⟩
      cases handler with
      | plain x =>
        rw [next_plain hwords hlookup]
        refine found hhandler hs ?_ ?_
        · exact ⟨refl_of (Quiet U) _, List.suffix_rfl, rfl⟩
        · exact hread
      | operand run =>
        cases hoperands : s.draft.operands with
        | nil =>
          rw [next_starved hwords hlookup hoperands]
          exact ⟨refl_of (Quiet U) _, List.suffix_rfl, rfl⟩
        | cons o operands =>
          have hsuffix : operands <:+ s.draft.operands := by
            rw [hoperands]
            exact List.suffix_cons o operands
          cases htext : o.node.text? with
          | none =>
            rw [next_blank hwords hlookup hoperands htext]
            exact ⟨refl_of (Quiet U) _, hsuffix, rfl⟩
          | some text =>
            have ho : U o.node := by
              refine hs o ?_
              rw [hoperands]
              exact List.mem_cons_self
            rw [next_operand hwords hlookup hoperands htext]
            refine found (hhandler o ho) hs ?_ ?_
            · exact ⟨refl_of (Quiet U) _, hsuffix, rfl⟩
            · exact hread

lemma operand {word : String} (hword : word ≠ subcommandWord) {run : Node → BuildM α}
    (h : ∀ node, U node → Keeps (Quiet U) (run node)) : Plain U (DraftM.operand word run) :=
  plain (next (Q := fun _ => True) ⟨hword, fun o ho => onBuild (h o.node ho)⟩)

/-- An operand that is handed on as it is. -/
lemma operand_pure {word : String} (hword : word ≠ subcommandWord) :
    Walks U (fun r => ∀ node ∈ r, U node) (DraftM.operand word Pure.pure) :=
  next ⟨hword, fun _ ho => pure ho⟩

end Walks

/-! ## Handlers outside `execute` -/

section

variable {U : Node → Prop}

lemma find_keeps (hU : DownClosed U) {node : Node} (h : U node) (single players : Bool) :
    Keeps (Quiet U) (node.find single players) :=
  Keeps.of_runs (find_runs hU h single players)

lemma location_keeps {node : Node} (h : U node) : Keeps (Quiet U) node.declareLocation :=
  quiet_of_basic (Keeps.of_runs (nodeDeclareLocation_runs h))

lemma sourceVector_walks (node : Node) (whole : Bool) :
    Walks.Plain U (onBuild (node.sourceVector whole)) :=
  Walks.onBuild (Keeps.ofExcept _ _)

lemma faceEntity_walks (hU : DownClosed U) {o : Operand} (h : U o.node) :
    Walks.Plain U (faceEntity o) := by
  refine Walks.bind (Walks.onBuild (find_keeps hU h true false)) fun entity _ => ?_
  refine Walks.bind (Walks.operand (by decide) fun node _ => Keeps.ofExcept _ _) fun anchor _ => ?_
  exact Walks.emit _

lemma face_walks (hU : DownClosed U) : Walks.Plain U face := by
  have hentity : Walks.Plain U (next [("facingEntity", .operand faceEntity)]) :=
    Walks.plain (Walks.next (Q := fun _ => True) ⟨by decide, fun o ho => faceEntity_walks hU ho⟩)
  refine Walks.bind (Walks.next (Q := fun _ => True) ⟨⟨by decide, fun o _ => ?_⟩, by decide, ?_⟩)
    fun _ _ => Walks.pure trivial
  · exact Walks.bind (sourceVector_walks o.node false) fun _ _ => Walks.emit _
  · exact Walks.bind hentity fun _ _ => Walks.pure trivial

lemma accessData_walks (hU : DownClosed U) : Walks.Plain U accessData := by
  refine Walks.plain (Walks.next (Q := fun _ => True)
    ⟨⟨by decide, ?_⟩, ⟨by decide, ?_⟩, by decide, ?_⟩)
  · exact Walks.bind (Walks.operand (by decide) fun node _ => Keeps.ofExcept _ _) fun _ _ =>
      Walks.pure trivial
  · exact Walks.bind (Walks.operand (by decide) fun node h => find_keeps hU h true false) fun _ _ =>
      Walks.pure trivial
  · exact Walks.bind (Walks.operand (by decide) fun node h => location_keeps h) fun _ _ =>
      Walks.pure trivial

lemma moveTo_walks (hU : DownClosed U) (o : Operand) : Walks.Plain U (moveTo o) := by
  refine Walks.bind (sourceVector_walks o.node false) fun _ _ => ?_
  refine Walks.bind (Walks.emit _) fun _ _ => ?_
  exact Walks.bind (Walks.next (Q := fun _ => True) ⟨by decide, face_walks hU⟩) fun _ _ =>
    Walks.pure trivial

lemma moveToEntity_walks (hU : DownClosed U) {o : Operand} (h : U o.node) :
    Walks.Plain U (moveToEntity o) :=
  Walks.bind (Walks.onBuild (find_keeps hU h true false)) fun _ _ => Walks.emit _

lemma moveAll_walks (hU : DownClosed U) {o : Operand} (h : U o.node) :
    Walks.Plain U (moveAll o) := by
  refine Walks.bind (Walks.onBuild (find_keeps hU h false false)) fun _ _ => ?_
  refine Walks.bind (Walks.emit _) fun _ _ => ?_
  refine Walks.bind (Walks.next (Q := fun _ => True) ⟨⟨by decide, ?_⟩, by decide, ?_⟩) fun _ _ =>
    Walks.pure trivial
  · exact fun o _ => moveTo_walks hU o
  · exact fun o ho => moveToEntity_walks hU ho

lemma teleport_walks (hU : DownClosed U) : Walks.Plain U teleport := by
  refine Walks.bind (Walks.next (Q := fun _ => True) ⟨⟨by decide, ?_⟩, by decide, ?_⟩) fun _ _ =>
    Walks.emit _
  · exact fun o _ => Walks.bind (moveTo_walks hU o) fun _ _ => Walks.pure trivial
  · exact fun o ho => Walks.bind (moveAll_walks hU ho) fun _ _ => Walks.pure trivial

lemma kill_walks (hU : DownClosed U) : Walks.Plain U kill := by
  refine Walks.bind (Walks.next (Q := fun _ => True) ⟨by decide, fun o ho => ?_⟩) fun selected _ => ?_
  · exact Walks.bind (Walks.onBuild (find_keeps hU ho false false)) fun _ _ => Walks.emit _
  · split
    · exact Walks.emit _
    · exact Walks.pure trivial

lemma give_walks (hU : DownClosed U) : Walks.Plain U give := by
  refine Walks.bind (Walks.next (Q := fun _ => True) ⟨by decide, fun o ho => ?_⟩) fun _ _ => ?_
  · exact Walks.bind (Walks.onBuild (find_keeps hU ho false true)) fun _ _ => Walks.emit _
  · refine Walks.bind (Walks.operand (by decide) fun node h => itemExpression_keeps hU h _)
      fun stack _ => ?_
    refine Walks.bind (Walks.operand (by decide) fun node _ => Keeps.require _ _) fun count _ => ?_
    refine Walks.bind (Walks.onBuild (Keeps.require _ _)) fun stack _ => ?_
    refine Walks.bind (Walks.onBuild (Keeps.ofExcept _ _)) fun stack _ => ?_
    exact Walks.emit _

lemma say_walks : Walks.Plain U say := by
  refine Walks.bind (Walks.operand (by decide) fun node _ => Keeps.ofExcept _ _) fun text _ => ?_
  split
  · exact Walks.modifyDraft (fun _ => rfl) (fun _ => rfl) fun _ => rfl
  · exact Walks.pure trivial

lemma runLine_walks : Walks.Plain U runLine := by
  refine Walks.bind Walks.get fun s _ => ?_
  refine Walks.bind (Walks.onBuild (Keeps.ofExcept _ _)) fun parts _ => ?_
  exact Walks.modifyDraft (fun _ => rfl) (fun _ => rfl) fun _ => rfl

lemma dataArguments_walks (hU : DownClosed U) : Walks.Plain U dataArguments := by
  refine Walks.bind (accessData_walks hU) fun data _ => ?_
  refine Walks.bind (Walks.operand (by decide) fun node h =>
    quiet_of_basic (pathExpression_keeps hU h true _)) fun part _ => ?_
  split
  · exact Walks.pure trivial
  · exact Walks.pure trivial

lemma callArguments_walks (hU : DownClosed U) : Walks.Plain U callArguments := by
  refine Walks.bind (Walks.next (Q := fun _ => True) ⟨⟨by decide, dataArguments_walks hU⟩, by decide,
    fun o ho => ?_⟩) fun _ _ => Walks.pure trivial
  exact Walks.bind (Walks.onBuild (quiet_of_basic (Keeps.of_runs (declareTag_runs ho)))) fun _ _ =>
    Walks.pure trivial

lemma runFunction_walks (hU : DownClosed U) : Walks.Plain U runFunction := by
  refine Walks.bind (Walks.next (Q := fun _ => True) ⟨by decide, fun o ho => ?_⟩) fun call _ => ?_
  · refine Walks.bind Walks.get fun s _ => ?_
    refine Walks.bind (Walks.onBuild (quiet_of_basic (functionCall_keeps ho _ _))) fun call _ => ?_
    exact Walks.bind (callArguments_walks hU) fun _ _ => Walks.pure trivial
  · refine Walks.bind (Walks.onBuild (Keeps.require _ _)) fun parts _ => ?_
    refine Walks.bind (Walks.onBuild (Keeps.ofExcept _ _)) fun code _ => ?_
    refine Walks.bind (Walks.emit _) fun _ _ => ?_
    exact Walks.modifyDraft (fun _ => rfl) (fun _ => rfl) fun _ => rfl

/-! ## Clauses of `execute` -/

/-- Text that closes what a clause has opened. -/
def IsClosing (text : String) : Prop :=
  text = "" ∨ text = forkClosing ∨ text = guardClosing

/-- A clause that leaves the subcommand to what follows it. -/
def Clause.IsOpen (c : Clause) : Prop :=
  c.outcome ≠ .finished ∧ IsClosing c.closing

lemma Clause.isOpen_default : ({} : Clause).IsOpen :=
  ⟨nofun, .inl rfl⟩

lemma Clause.isOpen_fork : ({ closing := forkClosing } : Clause).IsOpen :=
  ⟨nofun, .inr (.inl rfl)⟩

lemma Clause.isOpen_getD {c : Option Clause} (h : ∀ c' ∈ c, c'.IsOpen) : (c.getD {}).IsOpen := by
  cases c with
  | none => exact isOpen_default
  | some c => exact h c rfl

lemma selectTargets_walks (hU : DownClosed U) : Walks.Plain U selectTargets :=
  Walks.operand (by decide) fun _ h => find_keeps hU h false false

lemma fork_walks (hU : DownClosed U) (statement : String) :
    Walks U Clause.IsOpen (fork statement) := by
  refine Walks.bind (Walks.emitOver ?_) fun _ _ => Walks.pure Clause.isOpen_fork
  exact Walks.bind (selectTargets_walks hU) fun _ _ => Walks.pure trivial

lemma forkInto_walks (hU : DownClosed U) (statement : String) :
    Walks U Clause.IsOpen (forkInto statement) := by
  refine Walks.bind (selectTargets_walks hU) fun _ _ => ?_
  exact Walks.bind (Walks.emit _) fun _ _ => Walks.pure Clause.isOpen_fork

lemma align_walks : Walks U Clause.IsOpen align := by
  refine Walks.bind (Walks.operand (by decide) fun _ _ => Keeps.require _ _) fun axes _ => ?_
  refine Walks.bind (Walks.onBuild (Keeps.require _ _)) fun axes _ => ?_
  refine Walks.bind (Walks.onBuild (Keeps.ofExcept _ _)) fun a _ => ?_
  exact Walks.bind (Walks.emit _) fun _ _ => Walks.pure Clause.isOpen_default

lemma anchored_walks : Walks U Clause.IsOpen anchored := by
  refine Walks.bind (Walks.operand (by decide) fun _ _ => Keeps.ofExcept _ _) fun anchor _ => ?_
  exact Walks.bind (Walks.emit _) fun _ _ => Walks.pure Clause.isOpen_default

lemma inDimension_walks : Walks U Clause.IsOpen inDimension := by
  refine Walks.bind (Walks.operand (by decide) fun _ h => location_keeps h) fun location _ => ?_
  exact Walks.bind (Walks.emit _) fun _ _ => Walks.pure Clause.isOpen_default

lemma relations_walk :
    Walks U (fun r => ∀ a ∈ r, IsClosing a.2) (next relations) := by
  have hguard : IsClosing guardClosing := .inr (.inr rfl)
  refine Walks.next ⟨⟨by decide, ?_⟩, ⟨by decide, ?_⟩, ⟨by decide, ?_⟩, ⟨by decide, ?_⟩,
    ⟨by decide, ?_⟩, ⟨by decide, ?_⟩, ⟨by decide, ?_⟩, by decide, ?_⟩
  · exact Walks.pure hguard
  · exact Walks.pure (.inl rfl)
  · exact Walks.pure hguard
  · exact Walks.pure hguard
  · exact Walks.pure hguard
  · exact Walks.pure (.inr (.inl rfl))
  · exact Walks.pure hguard
  · exact Walks.pure (.inl rfl)

lemma on_walks : Walks U Clause.IsOpen on := by
  refine Walks.bind Walks.get fun s _ => ?_
  refine Walks.bind relations_walk fun found hfound => ?_
  refine Walks.bind Walks.require fun relation hrelation => ?_
  refine Walks.bind (Walks.modifyDraft (fun _ => rfl) (fun _ => rfl) fun _ => rfl) fun _ _ => ?_
  exact Walks.pure ⟨nofun, hfound relation hrelation⟩

lemma positioned_walks (hU : DownClosed U) : Walks U Clause.IsOpen positioned := by
  refine Walks.bind (Walks.next ⟨⟨by decide, fun o _ => ?_⟩, ⟨by decide, ?_⟩, by decide,
    forkInto_walks hU _⟩) fun clause hclause => Walks.pure (Clause.isOpen_getD hclause)
  · refine Walks.bind (sourceVector_walks o.node false) fun _ _ => ?_
    exact Walks.bind (Walks.emit _) fun _ _ => Walks.pure Clause.isOpen_default
  · refine Walks.bind (Walks.operand (by decide) fun _ _ => Keeps.ofExcept _ _) fun map _ => ?_
    exact Walks.bind (Walks.emit _) fun _ _ => Walks.pure Clause.isOpen_default

lemma rotated_walks (hU : DownClosed U) : Walks U Clause.IsOpen rotated := by
  refine Walks.bind (Walks.next ⟨⟨by decide, fun o _ => ?_⟩, by decide, forkInto_walks hU _⟩)
    fun clause hclause => Walks.pure (Clause.isOpen_getD hclause)
  refine Walks.bind (Walks.onBuild (Keeps.ofExcept _ _)) fun _ _ => ?_
  exact Walks.bind (Walks.emit _) fun _ _ => Walks.pure Clause.isOpen_default

lemma summon_walks : Walks U Clause.IsOpen summon := by
  refine Walks.bind (Walks.operand (by decide) fun node _ => Keeps.key node) fun type _ => ?_
  exact Walks.bind (Walks.emit _) fun _ _ => Walks.pure Clause.isOpen_default

lemma blockPosition_walks {word : String} (h : word ≠ subcommandWord) :
    Walks.Plain U (blockPosition word) :=
  Walks.operand h fun _ _ => Keeps.ofExcept _ _

lemma biomeCondition_walks : Walks.Plain U biomeCondition := by
  refine Walks.bind (blockPosition_walks (by decide)) fun position _ => ?_
  refine Walks.bind (Walks.operand (by decide) fun node h => ?_) fun biome _ => ?_
  · refine Keeps.require_bind fun l hl => ?_
    have hlocation : Keeps (Quiet U) (declareLocation l) :=
      quiet_of_basic (Keeps.of_runs (declareLocation_runs (eq_of_location? hl ▸ h)))
    exact Keeps.bind hlocation fun _ => Keeps.pure _
  · refine Walks.bind Walks.require fun biome _ => ?_
    exact Walks.bind (Walks.emit _) fun _ _ => Walks.pure trivial

lemma blockCondition_walks (hU : DownClosed U) : Walks.Plain U blockCondition := by
  refine Walks.bind (blockPosition_walks (by decide)) fun position _ => ?_
  refine Walks.bind (Walks.operand (by decide) fun node h =>
    Keeps.of_runs (declareBlockPredicate_runs hU h)) fun predicate _ => ?_
  exact Walks.bind Walks.require fun predicate _ => Walks.pure trivial

lemma regionsCondition_walks (affirmed : Bool) : Walks.Plain U (regionsCondition affirmed) := by
  have hmode : Walks.Plain U (next [
      ("all", .plain (pure "")),
      ("masked", .plain (pure "if (original_state.isAir()) continue;\n"))]) :=
    Walks.plain (Walks.next (Q := fun _ => True)
      ⟨⟨by decide, Walks.pure trivial⟩, by decide, Walks.pure trivial⟩)
  refine Walks.bind (blockPosition_walks (by decide)) fun start _ => ?_
  refine Walks.bind (blockPosition_walks (by decide)) fun stop _ => ?_
  refine Walks.bind (blockPosition_walks (by decide)) fun destination _ => ?_
  cases affirmed with
  | true =>
    refine Walks.bind (Walks.emit _) fun _ _ => ?_
    refine Walks.bind hmode fun mode _ => ?_
    exact Walks.bind Walks.require fun mode _ => Walks.pure trivial
  | false =>
    refine Walks.bind hmode fun mode _ => ?_
    exact Walks.bind Walks.require fun mode _ => Walks.pure trivial

lemma dataCondition_walks (hU : DownClosed U) (affirmed : Bool) :
    Walks.Plain U (dataCondition affirmed) := by
  refine Walks.bind (Walks.emitOver ?_) fun _ _ => Walks.pure trivial
  refine Walks.bind (accessData_walks hU) fun data _ => ?_
  refine Walks.bind (Walks.operand_pure (by decide)) fun found hfound => ?_
  refine Walks.bind Walks.require fun path hpath => ?_
  have hpathU : U path := hfound path hpath
  exact Walks.bind (Walks.onBuild (quiet_of_basic (pathExpression_keeps hU hpathU false _))) fun _ _ =>
    Walks.pure trivial

lemma dimensionCondition_walks : Walks.Plain U dimensionCondition := by
  refine Walks.bind (Walks.operand_pure (by decide)) fun found hfound => ?_
  refine Walks.bind Walks.require fun dimension hdimension => ?_
  have hU : U dimension := hfound dimension hdimension
  exact Walks.bind (Walks.onBuild (location_keeps hU)) fun _ _ => Walks.pure trivial

lemma condition_walks (hU : DownClosed U) (affirmed : Bool) :
    Walks U Clause.IsOpen (condition affirmed) := by
  have hblocks : "blocks" ≠ subcommandWord := by decide
  have hdata : "data" ≠ subcommandWord := by decide
  refine Walks.bind (Walks.next (Q := fun _ => True) ⟨⟨by decide, biomeCondition_walks⟩,
    ⟨by decide, blockCondition_walks hU⟩, ⟨hblocks, regionsCondition_walks affirmed⟩,
    ⟨hdata, dataCondition_walks hU affirmed⟩, by decide, dimensionCondition_walks⟩) fun c _ => ?_
  refine Walks.bind (Walks.emit _) fun _ _ => Walks.pure ⟨?_, .inr (.inr rfl)⟩
  cases hresult : (c.getD {}).result with
  | none => exact nofun
  | some code => exact nofun

/-- The clauses of `execute` other than a subcommand. -/
lemma clauses_walk (hU : DownClosed U) :
    Walks U (fun r => ∀ c ∈ r, c.IsOpen) (next clauses.tail) := by
  refine Walks.next ⟨⟨by decide, align_walks⟩, ⟨by decide, anchored_walks⟩,
    ⟨by decide, fork_walks hU _⟩, ⟨by decide, fork_walks hU _⟩, ⟨by decide, ?_⟩,
    ⟨by decide, inDimension_walks⟩, ⟨by decide, on_walks⟩, ⟨by decide, positioned_walks hU⟩,
    ⟨by decide, rotated_walks hU⟩, ⟨by decide, summon_walks⟩, ⟨by decide, condition_walks hU true⟩,
    ⟨by decide, condition_walks hU false⟩, by decide, Walks.pure Clause.isOpen_default⟩
  exact Walks.bind (face_walks hU) fun _ _ => Walks.pure Clause.isOpen_default

end

end PackToMod
