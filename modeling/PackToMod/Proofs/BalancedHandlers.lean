import PackToMod.Proofs.BalancedExpressions
import PackToMod.Proofs.FunctionCalls

/-!
# Handlers write well bracketed code

A handler opens brackets at one place and closes them at another, so what it writes is followed bracket by
bracket: `Writes U σ Q x` says of every run of `x` from a frame whose output has the brackets `σ` open that it
fails with a balanced message, or returns and has some brackets `τ` open then, with `Q` between them and the
result. Computations that leave the open brackets alone are the usual case, `Levels`.
-/

namespace PackToMod

-- The literals of the longest templates are computed with one step for each character.
set_option maxRecDepth 2000

open Build DraftM Text

variable {α β : Type} {U : Node → Prop} {σ τ : List Char} {s : Frame}

/-- A frame with operands in `U` and words without brackets, whose output has the brackets `σ` open. -/
structure Frame.Writing (U : Node → Prop) (σ : List Char) (s : Frame) : Prop where
  operands : s.draft.Within U
  words : ∀ word ∈ s.draft.words, Bracketless word.toList
  output : Nests [] σ s.draft.output

/-- What a run has to end in. -/
def EndsIn (U : Node → Prop) (Q : α → List Char → Prop) : EStateM.Result Fault Frame α → Prop
  | .ok a s => ∃ τ, Q a τ ∧ s.Writing U τ
  | .error f _ => Balanced f.message

def Writes (U : Node → Prop) (σ : List Char) (Q : α → List Char → Prop) (x : DraftM α) : Prop :=
  ∀ s : Frame, s.Writing U σ → EndsIn U Q (x s)

/-- The computation leaves the open brackets as they are, whatever they are. -/
def Levels (U : Node → Prop) (Q : α → Prop) (x : DraftM α) : Prop :=
  ∀ σ, Writes U σ (fun a τ => τ = σ ∧ Q a) x

/-- An action that a handler takes, on any operand in `U` if it takes one. -/
def Handler.All (U : Node → Prop) (P : DraftM α → Prop) : Handler (DraftM α) → Prop
  | .plain x => P x
  | .operand f => ∀ o : Operand, U o.node → P (f o)

lemma EndsIn.mono {Q P : α → List Char → Prop} {r : EStateM.Result Fault Frame α} (h : EndsIn U Q r)
    (hP : ∀ a τ, Q a τ → P a τ) : EndsIn U P r := by
  cases r with
  | error f s => exact h
  | ok a s =>
    obtain ⟨τ, hQ, hs⟩ := h
    exact ⟨τ, hP a τ hQ, hs⟩

lemma EndsIn.bind {Q : α → List Char → Prop} {P : β → List Char → Prop} {x : DraftM α} {f : α → DraftM β}
    (hx : EndsIn U Q (x s)) (hf : ∀ a τ, Q a τ → Writes U τ P (f a)) : EndsIn U P ((x >>= f) s) := by
  rw [run_bind]
  cases hrun : x s with
  | error e s' =>
    rw [hrun] at hx
    exact hx
  | ok a s' =>
    rw [hrun] at hx
    obtain ⟨τ, hQ, hs'⟩ := hx
    exact hf a τ hQ s' hs'

lemma comment_balanced {text : String} (h : Bracketless text.toList) : Balanced (comment text) := by
  have htext := h.balanced
  unfold comment
  exact Shaped.balanced (by decide)

/-- A frame after text has been put out. -/
lemma Frame.Writing.append (hs : s.Writing U σ) {text : String} (h : Nests σ τ text) :
    Frame.Writing U τ { s with draft := s.draft.append text } :=
  { hs with output := hs.output.append h }

/-- Reading a word. Each handler is asked about the words that are left after its own. -/
lemma Frame.Writing.next (hs : s.Writing U σ) (hclean : Unbracketed U) {handlers : Handlers (DraftM α)}
    {Q : Option α → List Char → Prop} (hend : s.draft.words = [] → Q none σ)
    (h : handlers.Forall fun entry => ∀ words, s.draft.words = entry.1 :: words →
      entry.2.All U fun x => ∀ s₁ : Frame, s₁.Writing U σ → s₁.draft.words = words →
        EndsIn U (fun a => Q (some a)) (x s₁)) :
    EndsIn U Q (next handlers s) := by
  have hfound {x : DraftM α} {s₁ : Frame} (hx : EndsIn U (fun a => Q (some a)) (x s₁)) :
      EndsIn U Q ((some <$> x) s₁) := by
    rw [run_map]
    cases hrun : x s₁ with
    | error f s₂ =>
      rw [hrun] at hx
      exact hx
    | ok a s₂ =>
      rw [hrun] at hx
      exact hx
  cases hwords : s.draft.words with
  | nil =>
    rw [next_nil hwords]
    exact ⟨σ, hend hwords, hs⟩
  | cons word words =>
    have hallWords := hs.words
    rw [hwords] at hallWords
    obtain ⟨hword, hrest⟩ := List.forall_mem_cons.mp hallWords
    cases hlookup : handlers.lookup word with
    | none =>
      rw [next_unknown hwords hlookup]
      exact (bracketless_quoted hword).balanced
    | some handler =>
      have hhandler := List.forall_iff_forall_mem.mp h _ (mem_of_lookup hlookup) words hwords
      cases handler with
      | plain x =>
        rw [next_plain hwords hlookup]
        refine hfound (hhandler _ ⟨hs.operands, hrest, ?_⟩ rfl)
        exact hs.output.append ((comment_balanced hword).nests σ)
      | operand run =>
        cases hoperands : s.draft.operands with
        | nil =>
          rw [next_starved hwords hlookup hoperands]
          exact balanced_empty
        | cons o operands =>
          have hwithin := hs.operands
          unfold Draft.Within at hwithin
          rw [hoperands] at hwithin
          obtain ⟨ho, hothers⟩ := List.forall_mem_cons.mp hwithin
          cases htext : o.node.text? with
          | none =>
            rw [next_blank hwords hlookup hoperands htext]
            exact balanced_empty
          | some text =>
            rw [next_operand hwords hlookup hoperands htext]
            refine hfound (hhandler o ho _ ⟨hothers, hrest, ?_⟩ rfl)
            exact hs.output.append ((comment_balanced (hclean.text ho htext)).nests σ)

namespace Writes

variable {Q : α → List Char → Prop} {P : β → List Char → Prop}

lemma pure {a : α} (h : Q a σ) : Writes U σ Q (Pure.pure a) :=
  fun _ hs => ⟨σ, h, hs⟩

lemma bind {x : DraftM α} {f : α → DraftM β} (hx : Writes U σ Q x)
    (hf : ∀ a τ, Q a τ → Writes U τ P (f a)) : Writes U σ P (x >>= f) :=
  fun s hs => (hx s hs).bind hf

lemma get : Writes U σ (fun s τ => τ = σ ∧ s.Writing U σ) (MonadState.get : DraftM Frame) :=
  fun _ hs => ⟨σ, ⟨rfl, hs⟩, hs⟩

lemma emit {text : String} (h : Nests σ τ text) : Writes U σ (fun _ ρ => ρ = τ) (DraftM.emit text) :=
  fun _ hs => ⟨τ, rfl, hs.append h⟩

/-- Output that is put in the place of all output so far. -/
lemma overwrite {f : Draft → Draft} {text : String} (hwords : ∀ d, (f d).words = d.words)
    (hoperands : ∀ d, (f d).operands = d.operands) (houtput : ∀ d, (f d).output = text) (h : Nests [] τ text) :
    Writes U σ (fun _ ρ => ρ = τ) (modifyDraft f) := by
  intro s hs
  refine ⟨τ, rfl, ?_, ?_, ?_⟩
  · intro o ho
    change o ∈ (f s.draft).operands at ho
    rw [hoperands] at ho
    exact hs.operands o ho
  · intro word hword
    change word ∈ (f s.draft).words at hword
    rw [hwords] at hword
    exact hs.words word hword
  · change Nests [] τ (f s.draft).output
    rw [houtput]
    exact h

lemma emitOver {x : DraftM String} (h : Writes U σ (fun text _ => Nests σ τ text) x) :
    Writes U σ (fun _ ρ => ρ = τ) (DraftM.emitOver x) := by
  refine bind get fun s ρ ⟨hρ, hs⟩ => ?_
  subst hρ
  refine bind h fun text _ htext => ?_
  exact overwrite (fun _ => rfl) (fun _ => rfl) (fun _ => rfl) (hs.output.append htext)

lemma next (hclean : Unbracketed U) {handlers : Handlers (DraftM α)} {Q : Option α → List Char → Prop}
    (hend : Q none σ) (h : handlers.Forall fun entry => entry.2.All U (Writes U σ fun a => Q (some a))) :
    Writes U σ Q (DraftM.next handlers) := by
  intro s hs
  refine hs.next hclean (fun _ => hend) (List.Forall.imp (fun entry hentry words _ => ?_) h)
  cases hhandler : entry.2 with
  | plain x =>
    rw [hhandler] at hentry
    exact fun s₁ hs₁ _ => hentry s₁ hs₁
  | operand f =>
    rw [hhandler] at hentry
    exact fun o ho s₁ hs₁ _ => hentry o ho s₁ hs₁

end Writes

namespace Levels

variable {Q : α → Prop} {P : β → Prop}

lemma pure {a : α} (h : Q a) : Levels U Q (Pure.pure a) :=
  fun _ => .pure ⟨rfl, h⟩

/-- What follows a computation that leaves the brackets alone. -/
lemma andThen {P : β → List Char → Prop} {x : DraftM α} {f : α → DraftM β} (hx : Levels U Q x)
    (hf : ∀ a, Q a → Writes U σ P (f a)) : Writes U σ P (x >>= f) := by
  refine .bind (hx σ) fun a τ ⟨hτ, ha⟩ => ?_
  subst hτ
  exact hf a ha

lemma bind {x : DraftM α} {f : α → DraftM β} (hx : Levels U Q x) (hf : ∀ a, Q a → Levels U P (f a)) :
    Levels U P (x >>= f) :=
  fun σ => hx.andThen fun a ha => hf a ha σ

lemma onBuild {x : BuildM α} (h : Gives Q x) : Levels U Q (DraftM.onBuild x) := by
  intro σ s hs
  unfold DraftM.onBuild
  cases hx : x s.build with
  | error e b => exact h.error hx
  | ok a b => exact ⟨σ, ⟨rfl, h.ok hx⟩, hs.operands, hs.words, hs.output⟩

lemma require (f : Fault) (hf : Balanced f.message) (part : Option α) :
    Levels U (fun a => part = some a) (DraftM.onBuild (BuildM.require f part)) :=
  onBuild (.require f hf part)

lemma emit {text : String} (h : Balanced text) : Levels U (fun _ => True) (DraftM.emit text) :=
  fun σ => fun _ hs => ⟨σ, ⟨rfl, trivial⟩, hs.append (h.nests σ)⟩

lemma next (hclean : Unbracketed U) {handlers : Handlers (DraftM α)}
    (h : handlers.Forall fun entry => entry.2.All U (Levels U Q)) :
    Levels U (fun r => ∀ a ∈ r, Q a) (DraftM.next handlers) := by
  intro σ
  have hsome {a : α} {τ : List Char} (ha : τ = σ ∧ Q a) : τ = σ ∧ ∀ a' ∈ some a, Q a' :=
    ⟨ha.1, fun a' ha' => Option.mem_some_iff.mp ha' ▸ ha.2⟩
  refine Writes.next hclean ⟨rfl, by simp⟩ (List.Forall.imp (fun entry hentry => ?_) h)
  cases hhandler : entry.2 with
  | plain x =>
    rw [hhandler] at hentry
    exact fun s hs => (hentry σ s hs).mono fun a τ ha => hsome ha
  | operand f =>
    rw [hhandler] at hentry
    exact fun o ho s hs => (hentry o ho σ s hs).mono fun a τ ha => hsome ha

lemma operand (hclean : Unbracketed U) {word : String} {run : Node → BuildM α}
    (h : ∀ node, U node → Gives Q (run node)) : Levels U (fun r => ∀ a ∈ r, Q a) (DraftM.operand word run) :=
  next hclean (fun o ho => onBuild (h o.node ho) : ∀ o : Operand, U o.node → _)

end Levels

lemma shown_balanced {text : Option String} (h : ∀ s ∈ text, Balanced s) : Balanced (shown text) := by
  cases text with
  | none => exact (Shaped.balanced (by decide) : Balanced "None")
  | some s => exact h s rfl

/-! ## Directions and data -/

section

variable (hclean : Unbracketed U) (hU : DownClosed U)
include hclean hU

lemma faceEntity_levels {o : Operand} (h : U o.node) : Levels U (fun _ => True) (faceEntity o) := by
  refine .bind (.onBuild (find_gives hU h true false)) fun entity hentity => ?_
  refine .bind (.operand hclean fun node hnode => .ofExcept (anchor_holds hclean hnode)) fun anchor hanchor => ?_
  have hanchor : Balanced (anchor.getD "EntityAnchorArgument.Anchor.FEET") := by
    cases anchor with
    | none => decide
    | some text => exact hanchor text rfl
  exact .emit (Shaped.balanced (by decide))

lemma face_levels : Levels U (fun _ => True) face := by
  refine .bind (Levels.next hclean (Q := fun _ => True) ⟨fun o ho => ?_, ?_⟩) fun _ _ => .pure trivial
  · refine .bind (.onBuild (sourceVector_gives hclean hU ho false)) fun vector hvector => ?_
    exact .emit (Shaped.balanced (by decide))
  · refine .bind (Levels.next hclean (Q := fun _ => True) ?_) fun _ _ => .pure trivial
    exact fun o ho => faceEntity_levels hclean hU ho

lemma accessData_levels : Levels U (fun data => ∀ text ∈ data, Balanced text) accessData := by
  refine Levels.next hclean ⟨?_, ?_, ?_⟩
  · refine .bind (.operand hclean fun node hnode => sourceVector_gives hclean hU hnode true) fun position h => ?_
    have hposition := shown_balanced h
    refine .pure ?_
    unfold blockData
    exact Shaped.balanced (by decide)
  · refine .bind (.operand hclean fun node hnode => find_gives hU hnode true false) fun entity h => ?_
    have hentity := shown_balanced h
    exact .pure (Shaped.balanced (by decide))
  · refine .bind (.operand hclean fun node hnode => location_gives hclean hnode) fun storage h => ?_
    have hstorage := shown_balanced h
    exact .pure (Shaped.balanced (by decide))

/-! ## Commands on entities -/

lemma moveTo_levels {o : Operand} (h : U o.node) : Levels U (fun _ => True) (moveTo o) := by
  refine .bind (.onBuild (sourceVector_gives hclean hU h false)) fun vector hvector => ?_
  refine .bind (.emit (Shaped.balanced (by decide))) fun _ _ => ?_
  refine .bind (Levels.next hclean (Q := fun _ => True) ?_) fun _ _ => .pure trivial
  exact face_levels hclean hU

omit hclean in
lemma moveToEntity_levels {o : Operand} (h : U o.node) : Levels U (fun _ => True) (moveToEntity o) := by
  refine .bind (.onBuild (find_gives hU h true false)) fun entity hentity => ?_
  exact .emit (Shaped.balanced (by decide))

/-- The loop over the selected entities is left open. -/
lemma moveAll_writes {o : Operand} (h : U o.node) : Writes U σ (fun _ τ => τ = '}' :: σ) (moveAll o) := by
  refine Levels.andThen (.onBuild (find_gives hU h false false)) fun entities hentities => ?_
  refine .bind (.emit (Shaped.nests (σ := []) (τ := ['}']) (by decide) σ)) fun _ τ hτ => ?_
  subst hτ
  refine Levels.andThen (Levels.next hclean (Q := fun _ => True) ⟨?_, ?_⟩) fun _ _ => .pure rfl
  · exact fun o ho => moveTo_levels hclean hU ho
  · exact fun o ho => moveToEntity_levels hU ho

lemma teleport_levels : Levels U (fun _ => True) teleport := by
  intro σ
  -- The text that is returned closes what has been opened.
  refine .bind (Writes.next hclean (Q := fun closing τ => Nests τ σ (closing.getD "")) ?_ ⟨?_, ?_⟩)
    fun closing τ hclosing => ?_
  · exact balanced_empty.nests σ
  · refine fun o ho => Levels.andThen (moveTo_levels hclean hU ho) fun _ _ => .pure ?_
    exact balanced_empty.nests σ
  · refine fun o ho => .bind (moveAll_writes hclean hU ho) fun _ τ hτ => .pure ?_
    subst hτ
    change Nests ('}' :: σ) σ "\x7d"
    exact Shaped.nests (σ := ['}']) (τ := []) (by decide) σ
  · exact fun s hs => (Writes.emit hclosing s hs).mono fun _ _ h => ⟨h, trivial⟩

lemma kill_levels : Levels U (fun _ => True) kill := by
  refine .bind (Levels.next hclean (Q := fun _ => True) (fun o ho => ?_ : ∀ o : Operand, U o.node → _))
    fun selected _ => ?_
  · refine .bind (.onBuild (find_gives hU ho false false)) fun entities hentities => ?_
    exact .emit (Shaped.balanced (by decide))
  · split
    · exact .emit (Shaped.balanced (by decide))
    · exact .pure trivial

/-! ## Messages and lines -/

omit hclean hU in
-- The literals are long; opened up to the unifier only, they are not compared byte by byte.
seal String.ofList in
lemma sayCode_balanced {text : String} (h : Balanced text) : Balanced (sayCode text) := by
  unfold sayCode
  exact Shaped.balanced (by decide)

/-- All output is replaced. -/
lemma say_writes : Writes U [] (fun _ τ => τ = []) say := by
  refine Levels.andThen (.operand hclean fun node hnode => .ofExcept (messageText_holds hclean hU hnode))
    fun text htext => ?_
  split
  · next text =>
    have hcode := sayCode_balanced (htext text rfl)
    exact .overwrite (fun _ => rfl) (fun _ => rfl) (fun _ => rfl) hcode.nests_nil
  · exact .pure rfl

omit hU in
lemma runLine_writes : Writes U [] (fun _ τ => τ = []) runLine := by
  refine .bind .get fun s τ ⟨hτ, hs⟩ => ?_
  subst hτ
  have hnodes : ∀ node ∈ s.draft.operands.map Operand.node, U node := by
    intro node hnode
    obtain ⟨o, ho, rfl⟩ := List.mem_map.mp hnode
    exact hs.operands o ho
  refine Levels.andThen (.onBuild (.ofExcept (lineTerms_holds hclean hnodes))) fun (terms, names) hterms => ?_
  have hline : Balanced (Text.sepBy " + " terms) := Balanced.sepBy (Shaped.balanced (by decide)) hterms
  have hcode : Balanced ("dispatcher.execute(dispatcher.parse(" ++ Text.sepBy " + " terms ++ ", source));") :=
    Shaped.balanced (by decide)
  exact .overwrite (fun _ => rfl) (fun _ => rfl) (fun _ => rfl) hcode.nests_nil

end

/-! ## Filled templates -/

lemma filter_undoubled {l : List Char} (h : Percent.isDoubled l = true) :
    (Percent.undoubled l).filter isBracket = l.filter isBracket := by
  fun_induction Percent.isDoubled l with
  | case1 => rfl
  | case2 c => rfl
  | case3 d rest ih =>
    obtain ⟨rfl, hrest⟩ : d = '%' ∧ Percent.isDoubled rest = true := by simpa using h
    rw [Percent.undoubled, if_pos rfl]
    exact ih hrest
  | case4 c d rest hc ih =>
    rw [Percent.undoubled, if_neg hc, List.filter_cons, List.filter_cons, ih h]

/-- Percent signs are no brackets, so it does not matter how many there are. -/
lemma balanced_undoubled {s : String} (hs : Balanced s) (h : Percent.isDoubled s.toList = true) :
    Balanced (String.ofList (Percent.undoubled s.toList)) := by
  refine ⟨?_⟩
  rw [Nests, String.toList_ofList, ← nest_filter, filter_undoubled h, nest_filter]
  exact hs.nests_nil

namespace Percent

/-- The directive for an integer. -/
lemma scan_integer (a : Argument) (cs : List Char) :
    scan .text (some a) ('%' :: 'i' :: cs) = (do
      return (← directive {} 'i' a) ++ (← scan .text none cs)) := by
  have hread : read (some a) 'i' .opened = readConversion {} (some a) 'i' := rfl
  rw [scan_sign, scan_cons, hread, readConversion]
  cases directive {} 'i' a with
  | error e => rfl
  | ok text => rfl

lemma scan_integer_none (cs : List Char) : scan .text none ('%' :: 'i' :: cs) = .error .noArgumentLeft := by
  rw [scan_sign, scan_cons]
  rfl

lemma directive_integer {a : Argument} {text : List Char} (h : directive {} 'i' a = .ok text) :
    Bracketless text := by
  cases a with
  | text s => cases h
  | missing => cases h
  | uuid u =>
    cases h
    exact bracketless_nat u.value
  | number n =>
    unfold directive convert at h
    cases hn : n.truncate with
    | error e =>
      simp only [hn] at h
      cases h
    | ok k =>
      simp only [hn] at h
      cases h
      exact bracketless_integer k

end Percent

lemma IsPatchText.notMem {patch : String} (h : IsPatchText patch) : '%' ∉ patch.toList := by
  rcases h with rfl | ⟨p, rfl⟩
  · decide
  · have hnumber : '%' ∉ (toString p.number).toList := by
      intro hmem
      exact absurd (areParts_integer p.number '%' hmem) (by decide)
    unfold PatchConstant.symbol
    rw [String.toList_append, List.mem_append, not_or]
    exact ⟨by decide, hnumber⟩

lemma IsPatchText.balanced {patch : String} (h : IsPatchText patch) : Balanced patch := by
  rcases h with rfl | ⟨p, rfl⟩
  · exact (Shaped.balanced (by decide) : Balanced "DataComponentPatch.EMPTY")
  · have hn := (bracketless_nat p.number).balanced
    unfold PatchConstant.symbol
    exact Shaped.balanced (by decide)

/-- The template of an item can be filled only if the location has its percent signs doubled, for otherwise
they take the count away. -/
lemma IsItemText.fill_balanced (hclean : Unbracketed U) {template : String} (h : IsItemText U "%i" template)
    {a : Percent.Argument} {text : String} (hfill : Percent.fill template a = .ok text) : Balanced text := by
  obtain ⟨location, patch, hlocation, hpatch, rfl⟩ := h
  set opening := "new ItemStack(Holder.direct(BuiltInRegistries.ITEM.get(" with hopening
  have hplain : '%' ∉ opening.toList := by decide
  have hlist : (opening ++ location ++ ")), " ++ "%i" ++ ", " ++ patch ++ ")").toList =
      opening.toList ++ (location.toList ++ ')' :: ("), ".toList ++ '%' :: 'i' ::
        (", ".toList ++ patch.toList ++ ")".toList))) := by
    simp only [String.toList_append, List.append_assoc]
    rfl
  have hend : '%' ∉ ", ".toList ++ patch.toList ++ ")".toList := by
    simp only [List.mem_append, not_or]
    exact ⟨⟨by decide, hpatch.notMem⟩, by decide⟩
  unfold Percent.fill at hfill
  rw [hlist, Percent.scan_append hplain] at hfill
  cases hdoubled : Percent.isDoubled location.toList with
  | false =>
    have hrest : Percent.Starves ("), ".toList ++ '%' :: 'i' ::
        (", ".toList ++ patch.toList ++ ")".toList)) := by
      refine ⟨.noArgumentLeft, ?_⟩
      rw [Percent.scan_append (by decide), Percent.scan_integer_none]
      rfl
    obtain ⟨e, he⟩ := Percent.scan_of_not_isDoubled (b := ')') hdoubled (some a) hrest (by decide)
    rw [he] at hfill
    cases hfill
  | true =>
    rw [Percent.scan_of_isDoubled hdoubled, Percent.scan_plain (by decide), Percent.scan_append (by decide),
      Percent.scan_integer] at hfill
    cases hcount : Percent.directive {} 'i' a with
    | error e =>
      rw [hcount] at hfill
      cases hfill
    | ok count =>
      rw [hcount, Percent.scan_text hend] at hfill
      have htext : text = opening ++ String.ofList (Percent.undoubled location.toList) ++ ")), " ++
          String.ofList count ++ ", " ++ patch ++ ")" := by
        cases hfill
        refine String.toList_injective ?_
        simp only [String.toList_append, String.toList_ofList, List.append_assoc]
        rfl
      have hlocation := balanced_undoubled (hclean.location hlocation).balanced hdoubled
      have hcount : Balanced (String.ofList count) := by
        refine Bracketless.balanced ?_
        rw [String.toList_ofList]
        exact Percent.directive_integer hcount
      have hpatch := hpatch.balanced
      rw [htext, hopening]
      exact Shaped.balanced (by decide)

/-! ## Commands with templates -/

/-- The call at a location is no template, whatever is filled in. -/
lemma functionCall_gives (hclean : Unbracketed U) {node : Node} (h : U node) (compiled : List String) :
    Gives (fun call => ∀ v, Braces.fill call [v] = .error .malformed)
      (node.functionCall fieldOptions compiled) := by
  refine .bind (.require .noSuchPart balanced_empty _) fun l hl => ?_
  refine .bind (declareLocation_gives l) fun symbol hsymbol => .pure fun v => ?_
  have hnode : U (.location l) := eq_of_location? hl ▸ h
  have hlocation : Bracketless symbol.toList := hclean.location ⟨l, hnode, hsymbol⟩
  have hname : Bracketless l.text.toList := hclean _ hnode _ List.mem_cons_self
  exact fill_call_malformed l.isTag compiled hname hlocation

section

variable (hclean : Unbracketed U) (hU : DownClosed U)
include hclean hU

lemma dataArguments_levels : Levels U (fun _ => True) dataArguments := by
  refine .bind (accessData_levels hclean hU) fun data hdata => ?_
  refine .bind (.operand hclean fun node hnode =>
    pathExpression_gives hclean hU hnode (shown_balanced hdata) true) fun part _ => ?_
  split
  · exact .pure trivial
  · exact .pure trivial

lemma callArguments_levels : Levels U (fun _ => True) callArguments := by
  refine .bind (Levels.next hclean (Q := fun _ => True) ⟨dataArguments_levels hclean hU, fun o _ => ?_⟩)
    fun _ _ => .pure trivial
  exact .bind (.onBuild (declareTag_gives o.node)) fun _ _ => .pure trivial

/-- The handler never returns. -/
lemma runFunction_writes : Writes U σ (fun _ _ => False) runFunction := by
  refine Levels.andThen (Levels.next hclean
    (Q := fun parts => ∀ v, Braces.fill parts.1 [v] = .error .malformed) ?_) fun call hcall => ?_
  · intro o ho σ
    refine .bind .get fun s τ ⟨hτ, _⟩ => ?_
    subst hτ
    refine Levels.andThen (.onBuild (functionCall_gives hclean ho _)) fun call hcall => ?_
    exact Levels.andThen (callArguments_levels hclean hU) fun _ _ => .pure ⟨rfl, hcall⟩
  · refine Levels.andThen (.require .noSuchPart balanced_empty call) fun (template, arguments) htemplate => ?_
    have hfill := hcall _ htemplate (.ofOption arguments)
    intro s hs
    simp only [run_bind, onBuild, hfill]
    exact balanced_empty

/-- The loop over the players is opened by the first word. Without it there is nothing to give. -/
lemma give_writes : Writes U σ (fun _ τ => τ = σ) give := by
  intro s hs
  unfold give
  cases hwords : s.draft.words with
  | nil =>
    simp only [DraftM.operand, run_bind, next_nil hwords]
    exact balanced_empty
  | cons word words =>
    have hloop : EndsIn U (fun _ τ => τ = '}' :: σ) (next [("targets", .operand fun o => do
        emit ("for (player in " ++ (← o.node.find false true) ++ ") \x7b\n"))] s) := by
      refine hs.next hclean (fun hnil => by rw [hwords] at hnil; cases hnil) ?_
      intro words _ o ho s₁ hs₁ _
      refine Levels.andThen (.onBuild (find_gives hU ho false true)) (fun players hplayers => ?_) s₁ hs₁
      exact .emit (Shaped.nests (σ := []) (τ := ['}']) (by decide) σ)
    refine hloop.bind fun _ τ hτ => ?_
    subst hτ
    refine Levels.andThen (.operand hclean fun node hnode => itemExpression_gives hU hnode "%i")
      fun stack hstack => ?_
    refine Levels.andThen (.operand hclean (Q := fun _ => True) fun node _ =>
      (Gives.require .noSuchPart balanced_empty node.value?).mono fun _ _ => trivial) fun count _ => ?_
    refine Levels.andThen (.require .noText balanced_empty stack) fun template htemplate => ?_
    have hfill (a : Percent.Argument) :
        Gives Balanced (BuildM.ofExcept Fault.percent (Percent.fill template a)) := by
      cases hresult : Percent.fill template a with
      | error e => exact .throw balanced_empty
      | ok text => exact .pure ((hstack template htemplate).fill_balanced hclean hresult)
    refine Levels.andThen (.onBuild (hfill _)) fun text htext => ?_
    exact .emit (Shaped.nests (σ := ['}']) (τ := []) (by decide) σ)

end

end PackToMod
