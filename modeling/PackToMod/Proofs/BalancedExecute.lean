import PackToMod.Proofs.BalancedHandlers

/-!
# Clauses close what they open

A clause of `execute` may leave brackets open; its closing text is put out after the subcommand and takes
them back to those before the clause. This holds of all clauses but one: the comparison of two regions has
no end where its failure is asked for.
-/

namespace PackToMod

-- The literals of the longest templates are computed with one step for each character.
set_option maxRecDepth 8000

open Build DraftM Text

variable {U : Node → Prop} {σ τ : List Char} {s : Frame}

/-- The closing of a clause takes the brackets `τ` back to `σ`, and the code that it may end with has none
open. -/
structure Clause.Closes (σ : List Char) (c : Clause) (τ : List Char) : Prop where
  closing : Nests τ σ c.closing
  result : ∀ code, c.outcome = .result code → Balanced code

lemma Clause.closes_default (σ : List Char) : ({} : Clause).Closes σ σ :=
  ⟨balanced_empty.nests σ, nofun⟩

lemma forkClosing_nests (σ : List Char) : Nests ('}' :: ')' :: σ) σ forkClosing := by
  unfold forkClosing
  exact Shaped.nests (σ := ['}', ')']) (τ := []) (by decide) σ

lemma guardClosing_nests (σ : List Char) : Nests ('}' :: σ) σ guardClosing := by
  unfold guardClosing
  exact Shaped.nests (σ := ['}']) (τ := []) (by decide) σ

lemma Clause.closes_fork (σ : List Char) : ({ closing := forkClosing } : Clause).Closes σ ('}' :: ')' :: σ) :=
  ⟨forkClosing_nests σ, nofun⟩

lemma forkCode_nests {entities statement : String} (hentities : Balanced entities)
    (hstatement : Balanced statement) (σ : List Char) :
    Nests σ ('}' :: ')' :: σ) (forkCode entities statement) := by
  unfold forkCode
  exact Shaped.nests (σ := []) (τ := ['}', ')']) (by decide) σ

lemma optionalCode_nests {entity : String} (h : Balanced entity) (σ : List Char) :
    Nests σ ('}' :: σ) (optionalCode entity) := by
  unfold optionalCode
  exact Shaped.nests (σ := []) (τ := ['}']) (by decide) σ

lemma dimensionText_balanced {location : String} (h : Balanced location) : Balanced (dimensionText location) := by
  unfold dimensionText
  exact Shaped.balanced (by decide)

lemma roleText_balanced {type getter : String} (htype : Balanced type) (hgetter : Balanced getter) :
    Balanced (roleText type getter) := by
  unfold roleText
  exact Shaped.balanced (by decide)

lemma atEntity_balanced : Balanced atEntity := by
  unfold atEntity
  exact Shaped.balanced (by decide)

lemma atEntityPlace_balanced : Balanced atEntityPlace := by
  unfold atEntityPlace
  exact Shaped.balanced (by decide)

/-! ## Clauses that change the source -/

lemma selectTargets_levels (hclean : Unbracketed U) (hU : DownClosed U) :
    Levels U (fun entities => ∀ text ∈ entities, Balanced text) selectTargets :=
  .operand hclean fun _ hnode => find_gives hU hnode false false

lemma fork_writes (hclean : Unbracketed U) (hU : DownClosed U) {statement : String} (h : Balanced statement) :
    Writes U σ (Clause.Closes σ) (fork statement) := by
  refine .bind (.emitOver (τ := '}' :: ')' :: σ) ?_) fun _ τ hτ => ?_
  · refine Levels.andThen (selectTargets_levels hclean hU) fun entities hentities => ?_
    exact .pure (forkCode_nests (shown_balanced hentities) h σ)
  · subst hτ
    exact .pure (Clause.closes_fork σ)

lemma forkInto_writes (hclean : Unbracketed U) (hU : DownClosed U) {statement : String} (h : Balanced statement) :
    Writes U σ (Clause.Closes σ) (forkInto statement) := by
  refine Levels.andThen (selectTargets_levels hclean hU) fun entities hentities => ?_
  refine .bind (.emit (forkCode_nests (shown_balanced hentities) h σ)) fun _ τ hτ => ?_
  subst hτ
  exact .pure (Clause.closes_fork σ)

/-- Most clauses put out a balanced statement and are done. -/
lemma statement_writes {text : String} (h : Balanced text) :
    Writes U σ (Clause.Closes σ) (do emit text; return {}) :=
  Levels.andThen (.emit h) fun _ _ => .pure (Clause.closes_default σ)

lemma align_writes (hclean : Unbracketed U) : Writes U σ (Clause.Closes σ) align := by
  refine Levels.andThen (.operand hclean (Q := fun v => ∀ s, v.text? = some s → Bracketless s.toList)
    fun node hnode => ?_) fun axes haxes => ?_
  · exact (Gives.require .noSuchPart balanced_empty node.value?).mono fun v hv s hs => hclean.valueText hnode hv hs
  · refine Levels.andThen (.require .noText balanced_empty _) fun text htext => ?_
    obtain ⟨v, hv, htext⟩ := Option.bind_eq_some_iff.mp htext
    have htext : Bracketless text.toList := haxes v hv text htext
    refine Levels.andThen (.onBuild (.ofExcept (Aligned.cutAll_holds htext Aligned.isBalanced_default)))
      fun a ha => ?_
    obtain ⟨hx, hy, hz⟩ := ha
    exact statement_writes (Shaped.balanced (by decide))

lemma anchored_writes (hclean : Unbracketed U) : Writes U σ (Clause.Closes σ) anchored := by
  refine Levels.andThen (.operand hclean fun node hnode => .ofExcept (anchor_holds hclean hnode))
    fun anchor hanchor => ?_
  have hanchor := shown_balanced hanchor
  exact statement_writes (Shaped.balanced (by decide))

lemma inDimension_writes (hclean : Unbracketed U) : Writes U σ (Clause.Closes σ) inDimension := by
  refine Levels.andThen (.operand hclean fun node hnode => location_gives hclean hnode)
    fun location hlocation => ?_
  have hdimension := dimensionText_balanced (shown_balanced hlocation)
  exact statement_writes (Shaped.balanced (by decide))

/-- Code for a related entity, with the text that closes what it opens. -/
def ClosesCode (parts : String × String) : Prop :=
  ∀ σ, ∃ τ, Nests σ τ parts.1 ∧ Nests τ σ parts.2

lemma optionalRole_closes {type getter : String} (htype : Balanced type) (hgetter : Balanced getter) :
    ClosesCode (optionalCode (roleText type getter), guardClosing) :=
  fun σ => ⟨_, optionalCode_nests (roleText_balanced htype hgetter) σ, guardClosing_nests σ⟩

lemma closesCode_of_balanced {code : String} (h : Balanced code) : ClosesCode (code, "") :=
  fun σ => ⟨σ, h.nests σ, balanced_empty.nests σ⟩

lemma relations_level (hclean : Unbracketed U) :
    Levels U (fun r => ∀ parts ∈ r, ClosesCode parts) (next relations) := by
  refine Levels.next hclean ⟨?_, ?_, ?_, ?_, ?_, ?_, ?_, ?_⟩
  · exact .pure (optionalRole_closes (Shaped.balanced (by decide)) (Shaped.balanced (by decide)))
  · exact .pure (closesCode_of_balanced (Shaped.balanced (by decide)))
  · exact .pure (optionalRole_closes (Shaped.balanced (by decide)) (Shaped.balanced (by decide)))
  · exact .pure (optionalRole_closes (Shaped.balanced (by decide)) (Shaped.balanced (by decide)))
  · exact .pure (optionalRole_closes (Shaped.balanced (by decide)) (Shaped.balanced (by decide)))
  · exact .pure fun σ =>
      ⟨_, forkCode_nests (Shaped.balanced (by decide)) atEntity_balanced σ, forkClosing_nests σ⟩
  · exact .pure (optionalRole_closes (Shaped.balanced (by decide)) (Shaped.balanced (by decide)))
  · exact .pure (closesCode_of_balanced (Shaped.balanced (by decide)))

lemma on_writes (hclean : Unbracketed U) : Writes U σ (Clause.Closes σ) on := by
  refine .bind .get fun s τ ⟨hτ, hs⟩ => ?_
  rw [hτ]
  refine Levels.andThen (relations_level hclean) fun found hfound => ?_
  refine Levels.andThen (.require .noText balanced_empty found) fun (code, closing) hparts => ?_
  obtain ⟨ρ, hcode, hclosing⟩ := hfound _ hparts σ
  refine .bind (.overwrite (fun _ => rfl) (fun _ => rfl) (fun _ => rfl) (hs.output.append hcode))
    fun _ τ hτ => ?_
  subst hτ
  exact .pure ⟨hclosing, nofun⟩

lemma positioned_writes (hclean : Unbracketed U) (hU : DownClosed U) :
    Writes U σ (Clause.Closes σ) positioned := by
  refine .bind (Writes.next hclean (Q := fun c => Clause.Closes σ (c.getD {})) ?_ ⟨fun o ho => ?_, ?_, ?_⟩)
    fun _ _ hclause => .pure hclause
  · exact Clause.closes_default σ
  · refine Levels.andThen (.onBuild (sourceVector_gives hclean hU ho false)) fun vector hvector => ?_
    exact statement_writes (Shaped.balanced (by decide))
  · refine Levels.andThen (.operand hclean fun node hnode => .ofExcept (heightmap_holds hclean hnode))
      fun map hmap => ?_
    have hmap := shown_balanced hmap
    exact statement_writes (Shaped.balanced (by decide))
  · exact forkInto_writes hclean hU (Shaped.balanced (by decide))

lemma rotated_writes (hclean : Unbracketed U) (hU : DownClosed U) : Writes U σ (Clause.Closes σ) rotated := by
  refine .bind (Writes.next hclean (Q := fun c => Clause.Closes σ (c.getD {})) ?_ ⟨fun o ho => ?_, ?_⟩)
    fun _ _ hclause => .pure hclause
  · exact Clause.closes_default σ
  · refine Levels.andThen (.onBuild (.ofExcept (rotation_holds o.node))) fun rotation hrotation => ?_
    exact statement_writes (Shaped.balanced (by decide))
  · exact forkInto_writes hclean hU (Shaped.balanced (by decide))

-- The literals are long; opened up to the unifier only, they are not compared byte by byte.
seal String.ofList in
lemma summonCode_balanced {type : String} (h : Balanced type) : Balanced (summonCode type) := by
  unfold summonCode
  exact Shaped.balanced (by decide)

lemma summon_writes (hclean : Unbracketed U) : Writes U σ (Clause.Closes σ) summon := by
  refine Levels.andThen (.operand hclean (Q := Balanced) fun node hnode => ?_) fun type htype => ?_
  · exact (Gives.key node).mono fun text htext => (hclean.text hnode htext).balanced
  · exact statement_writes (summonCode_balanced (shown_balanced htype))

/-! ## Conditions -/

structure Condition.IsBalanced (c : Condition) : Prop where
  test : Balanced c.test
  result : ∀ code ∈ c.result, Balanced code

lemma storeOne_balanced : Balanced storeOne := by
  unfold storeOne
  exact Shaped.balanced (by decide)

lemma storeCount_balanced (affirmed : Bool) {count : String} (h : Balanced count) :
    Balanced (storeCount affirmed count) := by
  unfold storeCount
  split
  · exact Shaped.balanced (by decide)
  · exact storeOne_balanced

lemma Condition.IsBalanced.of_code {test code : String} (htest : Balanced test) (hcode : Balanced code) :
    IsBalanced { test, result := some code } :=
  ⟨htest, fun _ h => Option.mem_some_iff.mp h ▸ hcode⟩

lemma blockPosition_levels (hclean : Unbracketed U) (hU : DownClosed U) (word : String) :
    Levels U (fun position => ∀ text ∈ position, Balanced text) (blockPosition word) :=
  .operand hclean fun _ hnode => sourceVector_gives hclean hU hnode true

lemma biomeCondition_levels (hclean : Unbracketed U) (hU : DownClosed U) :
    Levels U Condition.IsBalanced biomeCondition := by
  refine .bind (blockPosition_levels hclean hU "pos") fun position hposition => ?_
  have hposition := shown_balanced hposition
  refine .bind (.operand hclean (Q := Balanced) fun node hnode => ?_) fun biome hbiome => ?_
  · refine .bind (.require .noSuchPart balanced_empty _) fun l hl => ?_
    refine .bind (declareLocation_gives l) fun symbol hsymbol => .pure ?_
    have hlocation := (hclean.location ⟨l, eq_of_location? hl ▸ hnode, hsymbol⟩).balanced
    split
    · exact Shaped.balanced (by decide)
    · exact hlocation
  · refine .bind (.require .noText balanced_empty biome) fun text htext => ?_
    have htext := hbiome text htext
    refine .bind (.emit (Shaped.balanced (by decide))) fun _ _ => ?_
    exact .pure (.of_code (Shaped.balanced (by decide)) storeOne_balanced)

lemma blockCondition_levels (hclean : Unbracketed U) (hU : DownClosed U) :
    Levels U Condition.IsBalanced blockCondition := by
  refine .bind (blockPosition_levels hclean hU "pos") fun position hposition => ?_
  have hposition := shown_balanced hposition
  refine .bind (.operand hclean fun node hnode => declareBlockPredicate_gives hU hnode) fun predicate h => ?_
  refine .bind (.require .noText balanced_empty predicate) fun text htext => ?_
  have hpredicate := h text htext
  exact .pure (.of_code (Shaped.balanced (by decide)) storeOne_balanced)

lemma dimensionCondition_levels (hclean : Unbracketed U) : Levels U Condition.IsBalanced dimensionCondition := by
  refine .bind (.operand hclean (Q := U) fun node hnode => .pure hnode) fun found hfound => ?_
  refine .bind (.require .noSuchPart balanced_empty found) fun node hnode => ?_
  refine .bind (.onBuild (location_gives hclean (hfound node hnode))) fun location hlocation => ?_
  have hdimension := dimensionText_balanced hlocation
  exact .pure (.of_code (Shaped.balanced (by decide)) storeOne_balanced)

lemma matchesCode_balanced {tags : String} (h : Balanced tags) : Balanced (matchesCode tags) := by
  unfold matchesCode
  exact Shaped.balanced (by decide)

lemma dataCondition_levels (hclean : Unbracketed U) (hU : DownClosed U) (affirmed : Bool) :
    Levels U Condition.IsBalanced (dataCondition affirmed) := by
  intro σ
  refine .bind (.emitOver (τ := σ) ?_) fun _ τ hτ => ?_
  · refine Levels.andThen (accessData_levels hclean hU) fun data hdata => ?_
    refine Levels.andThen (.operand hclean (Q := U) fun node hnode => .pure hnode) fun found hfound => ?_
    refine Levels.andThen (.require .noSuchPart balanced_empty found) fun path hpath => ?_
    refine Levels.andThen (.onBuild (pathExpression_gives hclean hU (hfound path hpath)
      (shown_balanced hdata) false)) fun tags htags => ?_
    exact .pure ((matchesCode_balanced htags).nests σ)
  · subst hτ
    exact .pure
      ⟨rfl, .of_code (Shaped.balanced (by decide)) (storeCount_balanced affirmed (Shaped.balanced (by decide)))⟩

seal String.ofList in
/-- The loop that compares two regions opens brackets that its tail closes. -/
lemma regionsHead_nests {start stop destination : String} (hstart : Balanced start) (hstop : Balanced stop)
    (hdestination : Balanced destination) : Nests [] ['}', '}', ')'] (regionsHead start stop destination) := by
  unfold regionsHead
  exact Shaped.nests (σ := []) (τ := ['}', '}', ')']) (by decide) []

seal String.ofList in
lemma regions_balanced {start stop destination mode : String} (hstart : Balanced start) (hstop : Balanced stop)
    (hdestination : Balanced destination) (hmode : Balanced mode) :
    Balanced (regionsHead start stop destination ++ mode ++ regionsTail) := by
  have hhead := regionsHead_nests hstart hstop hdestination
  have htail : Nests ['}', '}', ')'] [] regionsTail := by
    unfold regionsTail
    exact Shaped.nests (σ := ['}', '}', ')']) (τ := []) (by decide) []
  exact ⟨(hhead.append (hmode.nests _)).append htail⟩

lemma regionsCondition_levels (hclean : Unbracketed U) (hU : DownClosed U) :
    Levels U Condition.IsBalanced (regionsCondition true) := by
  refine .bind (blockPosition_levels hclean hU "start") fun start hstart => ?_
  refine .bind (blockPosition_levels hclean hU "end") fun stop hstop => ?_
  refine .bind (blockPosition_levels hclean hU "destination") fun destination hdestination => ?_
  refine .bind (.emit (Shaped.balanced (by decide))) fun _ _ => ?_
  refine .bind (Levels.next hclean (Q := Balanced) ⟨?_, ?_⟩) fun mode hmode => ?_
  · exact .pure (Shaped.balanced (by decide))
  · exact .pure (Shaped.balanced (by decide))
  · refine .bind (.require .noText balanced_empty mode) fun text htext => ?_
    refine .pure (.of_code ?_ (storeCount_balanced true (Shaped.balanced (by decide))))
    exact regions_balanced (shown_balanced hstart) (shown_balanced hstop) (shown_balanced hdestination)
      (hmode text htext)

/-- The regions of a failing condition are the exception. -/
lemma condition_endsIn (hclean : Unbracketed U) (hU : DownClosed U) (hs : s.Writing U σ) {affirmed : Bool}
    (h : affirmed = true ∨ ∀ words, s.draft.words ≠ "blocks" :: words) :
    EndsIn U (Clause.Closes σ) (condition affirmed s) := by
  unfold condition
  refine EndsIn.bind (Q := fun c τ => τ = σ ∧ (c.getD {}).IsBalanced) ?_ fun c τ ⟨hτ, hc⟩ => ?_
  · refine hs.next hclean (fun _ => ⟨rfl, balanced_empty, nofun⟩) ⟨?_, ?_, ?_, ?_, ?_⟩
    · exact fun _ _ s₁ hs₁ _ => biomeCondition_levels hclean hU σ s₁ hs₁
    · exact fun _ _ s₁ hs₁ _ => blockCondition_levels hclean hU σ s₁ hs₁
    · intro words hwords s₁ hs₁ _
      obtain rfl : affirmed = true := h.resolve_right fun hne => hne words hwords
      exact regionsCondition_levels hclean hU σ s₁ hs₁
    · exact fun _ _ s₁ hs₁ _ => dataCondition_levels hclean hU affirmed σ s₁ hs₁
    · exact fun _ _ s₁ hs₁ _ => dimensionCondition_levels hclean σ s₁ hs₁
  · obtain ⟨htest, hresult⟩ := hc
    have hsign : Balanced (if affirmed then "" else "!") := by
      cases affirmed <;> decide
    rw [hτ]
    refine .bind (.emit (Shaped.nests (σ := []) (τ := ['}']) (by decide) σ)) fun _ τ hτ => ?_
    subst hτ
    refine .pure ⟨guardClosing_nests σ, fun code hcode => ?_⟩
    cases hstored : (c.getD {}).result with
    | none =>
      rw [hstored] at hcode
      cases hcode
    | some code' =>
      rw [hstored] at hcode
      cases hcode
      exact hresult code hstored

/-- The clauses other than a subcommand. -/
lemma clauses_endsIn (hclean : Unbracketed U) (hU : DownClosed U) (hs : s.Writing U σ)
    (h : ¬["unless", "blocks"] <+: s.draft.words) :
    EndsIn U (fun c => Clause.Closes σ (c.getD {})) (next clauses.tail s) := by
  refine hs.next hclean (fun _ => Clause.closes_default σ)
    ⟨?_, ?_, ?_, ?_, ?_, ?_, ?_, ?_, ?_, ?_, ?_, ?_, ?_⟩
  · exact fun _ _ s₁ hs₁ _ => align_writes hclean s₁ hs₁
  · exact fun _ _ s₁ hs₁ _ => anchored_writes hclean s₁ hs₁
  · exact fun _ _ s₁ hs₁ _ => fork_writes hclean hU atEntity_balanced s₁ hs₁
  · exact fun _ _ s₁ hs₁ _ => fork_writes hclean hU atEntityPlace_balanced s₁ hs₁
  · intro _ _ s₁ hs₁ _
    exact Levels.andThen (face_levels hclean hU) (fun _ _ => .pure (Clause.closes_default σ)) s₁ hs₁
  · exact fun _ _ s₁ hs₁ _ => inDimension_writes hclean s₁ hs₁
  · exact fun _ _ s₁ hs₁ _ => on_writes hclean s₁ hs₁
  · exact fun _ _ s₁ hs₁ _ => positioned_writes hclean hU s₁ hs₁
  · exact fun _ _ s₁ hs₁ _ => rotated_writes hclean hU s₁ hs₁
  · exact fun _ _ s₁ hs₁ _ => summon_writes hclean s₁ hs₁
  · exact fun _ _ s₁ hs₁ _ => condition_endsIn hclean hU hs₁ (.inl rfl)
  · intro words hwords s₁ hs₁ hwords₁
    refine condition_endsIn hclean hU hs₁ (.inr fun rest hrest => h ?_)
    rw [hwords, ← hwords₁, hrest]
    exact List.prefix_append ["unless", "blocks"] rest
  · exact fun _ _ s₁ hs₁ _ => Writes.pure (Clause.closes_default σ) s₁ hs₁

/-! ## The command -/

structure Method.IsBalanced (m : Method) : Prop where
  code : Balanced m.code
  statement : Balanced m.statement

/-- All methods of the build are balanced. -/
def Build.Tidy (b : Build) : Prop :=
  ∀ entry ∈ b.methods.entries, entry.2.IsBalanced

lemma Build.Tidy.of_methods_eq {b b' : Build} (hb : b.Tidy) (h : b'.methods = b.methods) : b'.Tidy := by
  unfold Build.Tidy
  rw [h]
  exact hb

/-- The result of a compilation: a balanced method, or a fault with a balanced message. -/
def Build.EndsTidily : EStateM.Result Fault Build Method → Prop
  | .ok m b => m.IsBalanced ∧ b.Tidy
  | .error f b => Balanced f.message ∧ b.Tidy

/-- The result of a handler. -/
def Frame.EndsTidily {α : Type} : EStateM.Result Fault Frame α → Prop
  | .ok _ s => Balanced s.draft.output ∧ s.build.Tidy
  | .error f s => Balanced f.message ∧ s.build.Tidy

/-- The operands compile tidily, from wherever a walk leads. -/
def Frame.CallsTidily (U : Node → Prop) (s : Frame) : Prop :=
  ∀ o ∈ s.draft.operands, ∀ s₁, s.Passes U s₁ → Build.EndsTidily (o.compile s₁.build)

lemma Frame.Passes.tidy {s₁ : Frame} (h : s.Passes U s₁) (hb : s.build.Tidy) : s₁.build.Tidy :=
  hb.of_methods_eq h.build.methods_eq

/-- A handler that compiles nothing leaves the methods as they are. -/
lemma EndsIn.tidy {α : Type} {r : EStateM.Result Fault Frame α} (h : EndsIn U (fun _ τ => τ = []) r)
    (hpass : s.Passes U (lastState r)) (hb : s.build.Tidy) : Frame.EndsTidily r := by
  have hbuild := hpass.tidy hb
  cases r with
  | error f s' => exact ⟨h, hbuild⟩
  | ok a s' =>
    obtain ⟨τ, hτ, hs'⟩ := h
    subst hτ
    exact ⟨⟨hs'.output⟩, hbuild⟩

/-- The call of an operand, inside the brackets that the closing text closes. -/
lemma callOperand_tidy {o : Operand} {closing : String} (hs : s.Writing U σ) (hclosing : Nests σ [] closing)
    (hcompile : Build.EndsTidily (o.compile s.build)) : Frame.EndsTidily (callOperand o closing s) := by
  unfold callOperand
  cases hrun : o.compile s.build with
  | error f b =>
    rw [hrun] at hcompile
    exact hcompile
  | ok m b =>
    rw [hrun] at hcompile
    obtain ⟨hm, hb⟩ := hcompile
    exact ⟨⟨(hs.output.append (hm.statement.nests σ)).append hclosing⟩, hb⟩

/-- Reading the word for a subcommand. -/
lemma subcommand_tidy (hclean : Unbracketed U) {handlers : Handlers (DraftM Clause)} {s₁ : Frame}
    {words : List String} (hwords : s₁.draft.words = subcommandWord :: words)
    (hlookup : handlers.lookup subcommandWord = some (.operand runSubcommand)) (hpass : s.Passes U s₁)
    (hs₁ : s₁.Writing U σ) (hb : s.build.Tidy) (hcalls : s.CallsTidily U) (hreturns : s.NeverReturns U)
    {closing : String} {f : Option Clause → DraftM Unit}
    (hrest : f (some { outcome := .finished }) = emit closing) (hclosing : Nests σ [] closing) :
    Frame.EndsTidily ((next handlers >>= f) s₁) := by
  rcases next_subcommand (U := U) handlers hwords hlookup with
    ⟨e, s₂, hrun, hpass₂, hmessage⟩ | ⟨o, ho, s₂, hpass₂, hrun, hwords₂, text, htext, houtput⟩
  · rw [run_bind, hrun]
    refine ⟨?_, (hpass.trans hpass₂).tidy hb⟩
    rw [Fault.message, hmessage]
    exact balanced_empty
  · have hcompile := hcalls o (hpass.operands.subset ho) s₂ (hpass.trans hpass₂)
    have hs₂ : s₂.Writing U σ := by
      refine ⟨hpass₂.within hs₁.operands, fun word hword => hs₁.words word ?_, ?_⟩
      · rw [hwords, ← hwords₂]
        exact List.mem_cons_of_mem _ hword
      · rw [houtput]
        exact hs₁.output.append ((comment_balanced (hclean.text (hs₁.operands o ho) htext)).nests σ)
    have hnever := hreturns o (hpass.operands.subset ho) s₂ (hpass.trans hpass₂)
    rw [run_bind, hrun, ← run_bind, runSubcommand_bind hnever hrest]
    exact callOperand_tidy hs₂ hclosing hcompile

/-- What follows a clause that leaves the subcommand open. -/
lemma finish_tidy (hclean : Unbracketed U) {s₁ : Frame} {c : Clause} (hopen : c.outcome ≠ .finished)
    (hcloses : c.Closes [] τ) (hpass : s.Passes U s₁) (hs₁ : s₁.Writing U τ) (hb : s.build.Tidy)
    (hcalls : s.CallsTidily U) (hreturns : s.NeverReturns U) :
    Frame.EndsTidily ((finish c.outcome >>= fun _ => emit c.closing) s₁) := by
  have hb₁ := hpass.tidy hb
  simp only [finish, hopen, if_false, bind_assoc]
  cases hwords : s₁.draft.words with
  | nil =>
    rw [run_bind, next_nil hwords]
    dsimp only [Option.isNone_none]
    cases houtcome : c.outcome with
    | nothing => exact ⟨by decide, hb₁⟩
    | finished => exact absurd houtcome hopen
    | result code =>
      have hcode := (hcloses.result code houtcome).nests τ
      exact ⟨⟨(hs₁.output.append hcode).append hcloses.closing⟩, hb₁⟩
  | cons word words =>
    by_cases hword : word = subcommandWord
    · subst hword
      exact subcommand_tidy hclean hwords rfl hpass hs₁ hb hcalls hreturns rfl hcloses.closing
    · have hne : (word == "subcommand") = false := beq_false_of_ne hword
      have hbracketless : Bracketless word.toList := hs₁.words word (hwords ▸ List.mem_cons_self)
      rw [run_bind, next_unknown hwords (by rw [List.lookup_cons, hne]; rfl)]
      exact ⟨(bracketless_quoted hbracketless).balanced, hb₁⟩

theorem execute_tidy (hclean : Unbracketed U) (hU : DownClosed U) (hs : s.Writing U []) (hb : s.build.Tidy)
    (hcalls : s.CallsTidily U) (hreturns : s.NeverReturns U) (hregions : ¬["unless", "blocks"] <+: s.draft.words) :
    Frame.EndsTidily (execute s) := by
  unfold execute
  cases hwords : s.draft.words with
  | nil =>
    rw [run_bind, next_nil hwords]
    exact finish_tidy hclean nofun (Clause.closes_default []) (.refl s) hs hb hcalls hreturns
  | cons word words =>
    by_cases hword : word = subcommandWord
    · subst hword
      exact subcommand_tidy hclean hwords rfl (.refl s) hs hb hcalls hreturns rfl (balanced_empty.nests [])
    · have hwalk := clauses_walk hU s hs.operands
      have hwrites := clauses_endsIn hclean hU hs hregions
      rw [run_bind, next_clauses_of_ne hwords hword]
      cases hclause : next clauses.tail s with
      | error f s' =>
        rw [hclause] at hwalk hwrites
        exact ⟨hwrites, hwalk.tidy hb⟩
      | ok clause s' =>
        rw [hclause] at hwalk hwrites
        obtain ⟨hpass, -, hopen⟩ := hwalk
        obtain ⟨τ, hcloses, hs'⟩ := hwrites
        exact finish_tidy hclean (Clause.isOpen_getD hopen).1 hcloses hpass hs' hb hcalls hreturns

/-! ## All commands -/

lemma commands_endsIn (hclean : Unbracketed U) (hU : DownClosed U) (hs : s.Writing U []) :
    EndsIn U (fun _ τ => τ = []) (next commands.dropLast s) := by
  have hteleport (s₁ : Frame) (hs₁ : s₁.Writing U []) : EndsIn U (fun _ τ => τ = []) (teleport s₁) :=
    (teleport_levels hclean hU [] s₁ hs₁).mono fun _ _ h => h.1
  refine hs.next hclean (fun _ => rfl) ⟨?_, ?_, ?_, ?_, ?_, ?_, ?_⟩
  · exact fun _ _ s₁ hs₁ _ => say_writes hclean hU s₁ hs₁
  · exact fun _ _ s₁ hs₁ _ => runLine_writes hclean s₁ hs₁
  · exact fun _ _ s₁ hs₁ _ => hteleport s₁ hs₁
  · exact fun _ _ s₁ hs₁ _ => hteleport s₁ hs₁
  · exact fun _ _ s₁ hs₁ _ => (kill_levels hclean hU [] s₁ hs₁).mono fun _ _ h => h.1
  · exact fun _ _ s₁ hs₁ _ => give_writes hclean hU s₁ hs₁
  · exact fun _ _ s₁ hs₁ _ => (runFunction_writes hclean hU s₁ hs₁).mono fun _ _ h => h.elim

/-- Every exit of a command's handler. -/
theorem commands_tidy (hclean : Unbracketed U) (hU : DownClosed U) (hs : s.Writing U []) (hb : s.build.Tidy)
    (hcalls : s.CallsTidily U) (hreturns : s.NeverReturns U)
    (hregions : ¬["execute", "unless", "blocks"] <+: s.draft.words) :
    Frame.EndsTidily (next commands s) := by
  cases hwords : s.draft.words with
  | nil =>
    rw [next_nil hwords]
    exact ⟨⟨hs.output⟩, hb⟩
  | cons word words =>
    have hallWords := hs.words
    rw [hwords] at hallWords
    obtain ⟨hbracketless, hrest⟩ := List.forall_mem_cons.mp hallWords
    by_cases hword : word = executeWord
    · subst hword
      rw [next_plain hwords rfl]
      -- The frame in which `execute` starts: its own word is read and put out as a comment.
      set s₀ : Frame := { s with draft := { s.draft with words }.append (comment executeWord) } with hs₀
      have hstart : s.Passes U s₀ := ⟨refl_of (Quiet U) _, List.suffix_rfl, rfl⟩
      have hwriting : s₀.Writing U [] :=
        ⟨hs.operands, hrest, hs.output.append ((comment_balanced hbracketless).nests [])⟩
      have hcalls₀ : s₀.CallsTidily U := fun o ho s₁ hpass => hcalls o ho s₁ (hstart.trans hpass)
      have hreturns₀ : s₀.NeverReturns U := fun o ho s₁ hpass => hreturns o ho s₁ (hstart.trans hpass)
      have hregions₀ : ¬["unless", "blocks"] <+: s₀.draft.words := by
        intro hprefix
        apply hregions
        rw [hwords]
        exact List.cons_prefix_cons.mpr ⟨rfl, hprefix⟩
      have hexecute := execute_tidy hclean hU hwriting hb hcalls₀ hreturns₀ hregions₀
      rw [run_map]
      cases hrun : execute s₀ with
      | error f s' =>
        rw [hrun] at hexecute
        exact hexecute
      | ok a s' =>
        rw [hrun] at hexecute
        exact hexecute
    · rw [next_commands_of_ne hwords hword]
      exact (commands_endsIn hclean hU hs).tidy (commands_walk hU s hs.operands).passes hb

end PackToMod
