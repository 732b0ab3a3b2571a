import PackToMod.Proofs.BalancedHandlers
import PackToMod.Proofs.SelectorUses

/-!
# What handlers put out

`Puts U Q x` says of every run of `x` that returns, on operands in `U`, that the output has grown by a text, with `Q`
between the result and the text. What is read is put out as comments, and nothing that was put out is ever lost, except
for what `emitOver` drops.
-/

namespace PackToMod

open DraftM

/-- The output has grown by a text, and what is left to read is no more than before. -/
structure Frame.PutsOut (s s' : Frame) (text : String) : Prop where
  output : s'.draft.output = s.draft.output ++ text
  words : s'.draft.words <:+ s.draft.words
  operands : s'.draft.operands <:+ s.draft.operands
  returns : s'.draft.returns = s.draft.returns

lemma Frame.PutsOut.refl (s : Frame) : s.PutsOut s "" :=
  ⟨(String.append_empty).symm, List.suffix_rfl, List.suffix_rfl, rfl⟩

lemma Frame.PutsOut.trans {s s₁ s₂ : Frame} {text text' : String} (h : s.PutsOut s₁ text) (h' : s₁.PutsOut s₂ text') :
    s.PutsOut s₂ (text ++ text') := by
  refine ⟨?_, h'.words.trans h.words, h'.operands.trans h.operands, h'.returns.trans h.returns⟩
  rw [h'.output, h.output, String.append_assoc]

lemma Frame.PutsOut.within {s s' : Frame} {text : String} (h : s.PutsOut s' text) {U : Node → Prop}
    (hs : s.draft.Within U) : s'.draft.Within U :=
  fun o ho => hs o (h.operands.subset ho)

lemma Frame.putsOut_append (s : Frame) (text : String) :
    s.PutsOut { s with draft := s.draft.append text } text :=
  ⟨rfl, List.suffix_rfl, List.suffix_rfl, rfl⟩

/-- A word that stands alone has been read. -/
lemma Frame.putsOut_word {s : Frame} {word : String} {words : List String} (hwords : s.draft.words = word :: words) :
    s.PutsOut { s with draft := { s.draft with words }.append (comment word) } (comment word) := by
  refine ⟨rfl, ?_, List.suffix_rfl, rfl⟩
  rw [hwords]
  exact List.suffix_cons word words

/-- A word has been read, and an operand for it. -/
lemma Frame.putsOut_operand {s : Frame} {word : String} {words : List String} {o : Operand} {operands : List Operand}
    (hwords : s.draft.words = word :: words) (hoperands : s.draft.operands = o :: operands) (text : String) :
    s.PutsOut { s with draft := { s.draft with words, operands }.append (comment text) } (comment text) := by
  refine ⟨rfl, (s.putsOut_word hwords).words, ?_, rfl⟩
  rw [hoperands]
  exact List.suffix_cons o operands

/-- Whenever `x` returns, it has put out a text, with `Q` between the result and the text. -/
def Puts {α : Type} (U : Node → Prop) (Q : α → String → Prop) (x : DraftM α) : Prop :=
  ∀ s : Frame, s.draft.Within U → ∀ a s', x s = .ok a s' → ∃ text, s.PutsOut s' text ∧ Q a text

/-- The comments on what has been read. -/
def comments (texts : List String) : String :=
  String.join (texts.map comment)

namespace Puts

variable {α β : Type} {U : Node → Prop} {Q : α → String → Prop} {R : β → String → Prop}

lemma pure {a : α} (h : Q a "") : Puts U Q (Pure.pure a) := by
  intro s _ a' s' hrun
  cases hrun
  exact ⟨"", .refl s, h⟩

lemma bind {x : DraftM α} {f : α → DraftM β} (hx : Puts U Q x)
    (hf : ∀ a text, Q a text → Puts U (fun b text' => R b (text ++ text')) (f a)) : Puts U R (x >>= f) := by
  intro s hs b s' hrun
  obtain ⟨a, s₁, hrunx, hrunf⟩ := run_bind_eq_ok hrun
  obtain ⟨text, hout, hQ⟩ := hx s hs a s₁ hrunx
  obtain ⟨text', hout', hR⟩ := hf a text hQ s₁ (hout.within hs) b s' hrunf
  exact ⟨text ++ text', hout.trans hout', hR⟩

lemma mono {x : DraftM α} {Q' : α → String → Prop} (hx : Puts U Q x) (h : ∀ a text, Q a text → Q' a text) :
    Puts U Q' x := by
  intro s hs a s' hrun
  obtain ⟨text, hout, hQ⟩ := hx s hs a s' hrun
  exact ⟨text, hout, h a text hQ⟩

lemma get : Puts U (fun _ text => text = "") (MonadState.get : DraftM Frame) := by
  intro s _ a s' hrun
  cases hrun
  exact ⟨"", .refl _, rfl⟩

lemma onBuild {x : BuildM α} {P : α → Prop} (h : ∀ b a b', x b = .ok a b' → P a) :
    Puts U (fun a text => text = "" ∧ P a) (DraftM.onBuild x) := by
  intro s _ a s' hrun
  unfold DraftM.onBuild at hrun
  cases hx : x s.build with
  | error f b =>
    rw [hx] at hrun
    cases hrun
  | ok a' b =>
    rw [hx] at hrun
    cases hrun
    exact ⟨"", ⟨(String.append_empty).symm, List.suffix_rfl, List.suffix_rfl, rfl⟩, rfl, h _ _ _ hx⟩

lemma require {f : Fault} {part : Option α} :
    Puts U (fun a text => text = "" ∧ part = some a) (DraftM.onBuild (BuildM.require f part)) := by
  exact onBuild fun b a b' hrun => (require_ok hrun).1

lemma emit (text : String) : Puts U (fun _ text' => text' = text) (DraftM.emit text) := by
  intro s _ a s' hrun
  cases hrun
  exact ⟨text, s.putsOut_append text, rfl⟩

/-- A change of what a draft needs. -/
lemma modifyDraft {f : Draft → Draft} (houtput : ∀ d, (f d).output = d.output) (hwords : ∀ d, (f d).words = d.words)
    (hoperands : ∀ d, (f d).operands = d.operands) (hreturns : ∀ d, (f d).returns = d.returns) :
    Puts U (fun _ text => text = "") (DraftM.modifyDraft f) := by
  intro s _ a s' hrun
  cases hrun
  refine ⟨"", ⟨?_, ?_, ?_, hreturns _⟩, rfl⟩
  · rw [String.append_empty]
    exact houtput _
  · change (f s.draft).words <:+ s.draft.words
    rw [hwords]
  · change (f s.draft).operands <:+ s.draft.operands
    rw [hoperands]

/-- What has been put out in between is dropped. -/
lemma emitOver {x : DraftM String} {P : String → Prop} (hx : Puts U (fun text _ => P text) x) :
    Puts U (fun _ text => P text) (DraftM.emitOver x) := by
  intro s hs a s' hrun
  obtain ⟨s₀, s₁, hget, hrun⟩ := run_bind_eq_ok hrun
  cases hget
  obtain ⟨text, s₂, hrunx, hrun⟩ := run_bind_eq_ok hrun
  cases hrun
  obtain ⟨dropped, hout, hP⟩ := hx s hs text s₂ hrunx
  exact ⟨text, ⟨rfl, hout.words, hout.operands, hout.returns⟩, hP⟩

/-- A handler that is run after its word has been read. -/
lemma found {x : DraftM α} (hx : Puts U Q x) {s s₁ s' : Frame} {read : String} {r : Option α}
    (hread : s.PutsOut s₁ (comment read)) (hs : s.draft.Within U) (hrun : (some <$> x) s₁ = .ok r s') :
    ∃ text, s.PutsOut s' text ∧ ((r = none ∧ text = "") ∨
      ∃ read a rest, r = some a ∧ text = comment read ++ rest ∧ Q a rest) := by
  obtain ⟨a, hrunx, rfl⟩ := run_map_eq_ok hrun
  obtain ⟨rest, hout, hQ⟩ := hx s₁ (hread.within hs) a s' hrunx
  exact ⟨comment read ++ rest, hread.trans hout, .inr ⟨read, a, rest, rfl, rfl, hQ⟩⟩

/-- Reading a word leaves a comment if there is the word. -/
lemma next {handlers : Handlers (DraftM α)} (h : handlers.Forall fun entry => entry.2.All U (Puts U Q)) :
    Puts U (fun r text => (r = none ∧ text = "") ∨
      ∃ read a rest, r = some a ∧ text = comment read ++ rest ∧ Q a rest) (DraftM.next handlers) := by
  intro s hs r s' hrun
  cases hwords : s.draft.words with
  | nil =>
    rw [next_nil hwords] at hrun
    cases hrun
    exact ⟨"", .refl s, .inl ⟨rfl, rfl⟩⟩
  | cons word words =>
    cases hlookup : handlers.lookup word with
    | none =>
      rw [next_unknown hwords hlookup] at hrun
      cases hrun
    | some handler =>
      have hhandler := List.forall_iff_forall_mem.mp h _ (mem_of_lookup hlookup)
      cases handler with
      | plain x =>
        rw [next_plain hwords hlookup] at hrun
        exact found hhandler (s.putsOut_word hwords) hs hrun
      | operand run =>
        cases hoperands : s.draft.operands with
        | nil =>
          rw [next_starved hwords hlookup hoperands] at hrun
          cases hrun
        | cons o operands =>
          have ho : U o.node := hs o (by rw [hoperands]; exact List.mem_cons_self)
          cases htext : o.node.text? with
          | none =>
            rw [next_blank hwords hlookup hoperands htext] at hrun
            cases hrun
          | some text =>
            rw [next_operand hwords hlookup hoperands htext] at hrun
            exact found (hhandler o ho) (s.putsOut_operand hwords hoperands text) hs hrun

/-- Reading an operand leaves at most a comment. -/
lemma operand {word : String} {run : Node → BuildM α} {P : α → Prop}
    (h : ∀ node, U node → ∀ b a b', run node b = .ok a b' → P a) :
    Puts U (fun r text => (∃ texts, text = comments texts) ∧ ∀ a ∈ r, P a) (DraftM.operand word run) := by
  refine mono (next (Q := fun a text => text = "" ∧ P a) fun o ho => onBuild (h o.node ho)) fun r text hQ => ?_
  rcases hQ with ⟨rfl, rfl⟩ | ⟨read, a, rest, rfl, rfl, rfl, hP⟩
  · exact ⟨⟨[], rfl⟩, by simp⟩
  · exact ⟨⟨[read], by simp [comments, String.join_cons]⟩, by simpa using hP⟩

end Puts

end PackToMod
