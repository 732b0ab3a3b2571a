import PackToMod.Proofs.DraftChanges

/-!
# Handlers that only append

A handler that puts its text behind what is there works alike whatever is there: a text in front of the output is a
change that it does not notice. This holds of all handlers of `DraftChanges`, and of subcommands as well, for which
only the needs of the method are taken over; so it holds of `execute` as a whole.
-/

namespace PackToMod

open DraftM

def Draft.prepend (text : String) (d : Draft) : Draft :=
  { d with output := text ++ d.output }

lemma Draft.unread_prepend (text : String) : Draft.Unread (prepend text) where
  words _ := rfl
  operands _ := rfl
  compiled _ := rfl
  reading _ _ _ := rfl
  putting d d' added := by
    simp only [prepend, String.append_assoc]
  dispatching _ := rfl

/-! ## `execute` -/

lemma runSubcommand_prepend (text : String) (o : Operand) : Ignores (Draft.prepend text) (runSubcommand o) := by
  have hT := Draft.unread_prepend text
  -- What the method needs is noted at the end, whether or not its call is put out.
  have hneeds (m : Method) : Ignores (Draft.prepend text) (do
      modifyDraft fun d => { d with needsDispatcher := m.needsDispatcher, needsMacros := m.needsMacros }
      return ({ outcome := .finished } : Clause)) :=
    .bind (.modifyDraft fun _ => rfl) fun _ => .pure _
  refine .bind (.onBuild _) fun m => ?_
  split
  · exact .bind (.emit hT _) fun _ => hneeds m
  · refine .bind (.onBuild _) fun key => .bind (.onBuild _) fun _ => .get fun s => ?_
    rw [show (s.changed (Draft.prepend text)).draft.returns = s.draft.returns from rfl]
    split
    · exact .bind (.emit hT _) fun _ => hneeds m
    · exact hneeds m

lemma finish_prepend (text : String) (outcome : Outcome) : Ignores (Draft.prepend text) (finish outcome) := by
  have hT := Draft.unread_prepend text
  unfold finish
  split
  · exact .pure _
  · refine .bind (.next hT fun o => runSubcommand_prepend text o) fun followed => ?_
    split
    · cases outcome with
      | result code => exact .emit hT _
      | nothing => exact fun s => rfl
      | finished => exact fun s => rfl
    · exact .pure _

lemma execute_prepend (text : String) : Ignores (Draft.prepend text) execute := by
  have hT := Draft.unread_prepend text
  have hclauses : Ignores (Draft.prepend text) (DraftM.next clauses) :=
    .next hT ⟨fun o => runSubcommand_prepend text o, clauses_ofHandler hT⟩
  refine .bind hclauses fun clause => ?_
  exact .bind (finish_prepend text _) fun _ => .emit hT _

/-! ## Starting from an output -/

def Frame.withOutput (s : Frame) (output : String) : Frame :=
  { s with draft := { s.draft with output } }

/-- The result of a run with `text` in front of its output, and nothing else changed. -/
def behind (text : String) : EStateM.Result Fault Frame Unit → EStateM.Result Fault Frame Unit
  | .ok a s => .ok a (s.withOutput (text ++ s.draft.output))
  | .error f s => .error f (s.withOutput (text ++ s.draft.output))

/-- Started with some output, `x` does what it does without, and puts its own output behind. -/
def OnlyAppends (x : DraftM Unit) : Prop :=
  ∀ (s : Frame) (text : String), x (s.withOutput text) = behind text (x (s.withOutput ""))

lemma onlyAppends_of_ignores {x : DraftM Unit} (h : ∀ text, Ignores (Draft.prepend text) x) : OnlyAppends x := by
  intro s text
  have hstart : s.withOutput text = (s.withOutput "").changed (Draft.prepend text) := by
    simp only [Frame.withOutput, Frame.changed, Draft.prepend, String.append_empty]
  rw [hstart, h text]
  cases x (s.withOutput "") with
  | ok a s' => rfl
  | error f s' => rfl

/-- The handlers that teleport, kill, give, face and execute only append to the output, on any words and operands and
from any build: what was put out before changes neither their outcome nor anything else they leave. -/
theorem handlers_only_append :
    OnlyAppends teleport ∧ OnlyAppends kill ∧ OnlyAppends give ∧ OnlyAppends face ∧ OnlyAppends execute := by
  have hT := Draft.unread_prepend
  refine ⟨?_, ?_, ?_, ?_, ?_⟩
  · exact onlyAppends_of_ignores fun text => teleport_ignores (hT text)
  · exact onlyAppends_of_ignores fun text => kill_ignores (hT text)
  · exact onlyAppends_of_ignores fun text => give_ignores (hT text)
  · exact onlyAppends_of_ignores fun text => face_ignores (hT text)
  · exact onlyAppends_of_ignores execute_prepend

end PackToMod
