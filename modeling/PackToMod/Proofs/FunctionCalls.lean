import PackToMod.Proofs.BraceTemplates
import PackToMod.Proofs.Brackets
import PackToMod.Proofs.Dispatch

/-!
# Calls of functions are never native

The code of a call holds braces of its own and is filled as a brace template nevertheless. No location, no
name of a function and no macro arguments make it a template that can be filled, so the handler of
`function` always ends in a fault. A command that calls a function is left to the dispatcher or is not
compiled at all.
-/

namespace PackToMod

open Build DraftM

/-! ## The templates -/

/-- The options under which a function is called by a command: the macro arguments are a field. -/
def fieldOptions : CallOptions := { macros := "\x7b0\x7d" }

section

variable {expand : Braces.Expansion} {arguments : List Braces.Value}

set_option maxRecDepth 2000 in
/-- A call of all functions of a tag opens a field after the location and finds a brace in its name. If the
location has left an alignment open, the braces after it are balanced and do not close it. -/
lemma tagCall_fails (location : String) :
    Braces.Fails expand arguments .text (tagCall fieldOptions location).toList := by
  unfold tagCall
  simp only [String.append_assoc]
  rw [← String.append_assoc, String.toList_append]
  refine Braces.fails_append (fun mode hmode => ?_) _ trivial
  apply Braces.Fails.of_spells
  · repeat' first
      | exact .literal rfl
      | apply Text.Spells.append
  · cases mode with
    | text | opened | closed | name | exclaimed | converted => exact fun numbering => ⟨_, rfl⟩
    | bracket name => exact Braces.fails_bracket (by decide) name
    | alignment name conversion depth text =>
      obtain ⟨more, rfl⟩ := Nat.exists_eq_add_of_le hmode
      refine Braces.fails_alignment (Braces.depthAfter_add (n := 1) ?_ more) name text conversion
      decide

/-- The end of a call of one function has a brace that closes nothing. If something before it is still
open, that brace closes it, and then what is done with an exception is taken for a field. -/
lemma singleCall_fails (compiled : List String) (name location : String) :
    Braces.Fails expand arguments .text (singleCall fieldOptions compiled name location).toList := by
  unfold singleCall
  simp only [String.append_assoc]
  rw [← String.append_assoc, String.toList_append]
  refine Braces.fails_append (fun mode hmode => ?_) _ trivial
  apply Braces.Fails.of_spells
  · repeat' first
      | exact .literal rfl
      | apply Text.Spells.append
  · have hindent : (List.replicate 12 ' ').all Braces.isNamePart = true := by decide
    cases mode with
    | text | closed | exclaimed | converted => exact fun numbering => ⟨_, rfl⟩
    | opened =>
      refine Braces.fails_of_stay rfl (Braces.fails_name_closed hindent ?_ ['\n'])
      exact fun numbering => ⟨_, rfl⟩
    | name name =>
      refine Braces.fails_of_stay rfl (Braces.fails_name_closed hindent ?_ ('\n' :: name))
      exact fun numbering => ⟨_, rfl⟩
    | bracket name => exact Braces.fails_bracket (by decide) name
    | alignment name conversion depth text =>
      by_cases hdepth : depth = 1
      · refine Braces.fails_alignment_closed (s := '\n' :: List.replicate 12 ' ') ?_ ?_ name text conversion
        · rw [hdepth]
          decide
        · exact fun numbering => ⟨_, rfl⟩
      · have hmore : 2 ≤ depth := by
          have hsound : 1 ≤ depth := hmode
          omega
        obtain ⟨more, rfl⟩ := Nat.exists_eq_add_of_le hmore
        refine Braces.fails_alignment (Braces.depthAfter_add (n := 1) ?_ more) name text conversion
        decide

end

section

variable {expand : Braces.Expansion} {v : Braces.Value}

/-- The first brace of the template opens a field, and the second stands in its name. -/
lemma tagCall_isMalformed {location : String} (h : Bracketless location.toList) :
    Braces.IsMalformed expand [v] (tagCall fieldOptions location).toList := by
  have hopen := h.notMem (c := '{') rfl
  have hclose := h.notMem (c := '}') rfl
  unfold tagCall
  simp only [String.append_assoc]
  rw [← String.append_assoc, String.toList_append]
  refine Braces.IsMalformed.append ?_ ?_ ?_
  · rw [String.toList_append, List.mem_append, not_or]
    exact ⟨by decide, hopen⟩
  · rw [String.toList_append, List.mem_append, not_or]
    exact ⟨by decide, hclose⟩
  · apply Braces.IsMalformed.of_spells
    · repeat' first
        | exact .literal rfl
        | apply Text.Spells.append
    · exact fun numbering => rfl

/-- A call with its field, in front of the brace that closes nothing. -/
lemma isMalformed_call {before separator : String} (hopen : '{' ∉ before.toList) (hclose : '}' ∉ before.toList)
    (hseparator : '{' ∉ separator.toList ∧ '}' ∉ separator.toList) (rest : String) :
    Braces.IsMalformed expand [v] (before ++ (fieldOptions.macros ++ (separator ++
      ("\n            \x7d catch (Exception e) \x7b\n                " ++ rest)))).toList := by
  have hfield : fieldOptions.macros.toList = ['{', '0', '}'] := by decide
  have hcatch : "\n            \x7d catch (Exception e) \x7b\n                ".toList =
      "\n            ".toList ++ '}' :: ' ' :: "catch (Exception e) \x7b\n                ".toList := by
    decide
  simp only [String.toList_append, hfield, hcatch, List.append_assoc, List.cons_append, List.nil_append]
  refine .append hopen hclose (.field (.append hseparator.1 hseparator.2 ?_))
  exact .append (by decide) (by decide) (.closing (by decide))

lemma singleCall_isMalformed (compiled : List String) {name location : String} (hname : Bracketless name.toList)
    (hlocation : Bracketless location.toList) :
    Braces.IsMalformed expand [v] (singleCall fieldOptions compiled name location).toList := by
  have hdoubled (s : String) (h : Braces.IsMalformed expand [v] s.toList) :
      Braces.IsMalformed expand [v] ("int executionResult;\ntry \x7b\x7b\n" ++ s).toList := by
    have hopening : "int executionResult;\ntry \x7b\x7b\n".toList =
        "int executionResult;\ntry ".toList ++ '{' :: '{' :: "\n".toList := by
      decide
    rw [String.toList_append, hopening, List.append_assoc]
    exact .append (by decide) (by decide) (.doubled (.append (by decide) (by decide) h))
  have hcall {before part after : String} (hpart : Bracketless part.toList) {c : Char} (hc : isBracket c = true)
      (hbefore : c ∉ before.toList) (hafter : c ∉ after.toList) : c ∉ (before ++ part ++ after).toList := by
    simp only [String.toList_append, List.mem_append, not_or]
    exact ⟨⟨hbefore, hpart.notMem hc⟩, hafter⟩
  unfold singleCall
  rw [String.append_assoc, String.append_assoc, String.append_assoc, String.append_assoc, String.append_assoc]
  apply hdoubled
  split
  · simp only [String.append_assoc]
    rw [← String.append_assoc, ← String.append_assoc]
    refine isMalformed_call ?_ ?_ ?_ _
    · exact hcall hname rfl (by decide) (by decide)
    · exact hcall hname rfl (by decide) (by decide)
    · decide
  · simp only [String.append_assoc]
    rw [← String.append_assoc, ← String.append_assoc]
    refine isMalformed_call ?_ ?_ ?_ _
    · exact hcall hlocation rfl (by decide) (by decide)
    · exact hcall hlocation rfl (by decide) (by decide)
    · decide

/-- The call at a location is no template, if there are no brackets in its name. -/
lemma fill_call_malformed (isTag : Bool) (compiled : List String) {name location : String}
    (hname : Bracketless name.toList) (hlocation : Bracketless location.toList) :
    Braces.fill (if isTag then tagCall fieldOptions location else singleCall fieldOptions compiled name location) [v] =
      .error .malformed := by
  have hmalformed : Braces.IsMalformed (Braces.expansion [v]) [v] (if isTag then tagCall fieldOptions location else
      singleCall fieldOptions compiled name location).toList := by
    split
    · exact tagCall_isMalformed hlocation
    · exact singleCall_isMalformed compiled hname hlocation
  unfold Braces.fill
  rw [hmalformed .undecided]
  rfl

end

/-- The call at a location cannot be filled, whatever is filled in. -/
lemma functionCall_unfillable {node : Node} {compiled : List String} {call : String} {b b' : Build}
    (h : node.functionCall fieldOptions compiled b = .ok call b') (arguments : List Braces.Value) :
    ∃ e, Braces.fill call arguments = .error e := by
  have hfails : Braces.Fails (Braces.expansion arguments) arguments .text call.toList := by
    unfold Node.functionCall at h
    cases hlocation : node.location? with
    | none =>
      rw [hlocation] at h
      cases h
    | some l =>
      rw [hlocation] at h
      cases h
      split
      · exact tagCall_fails l.symbol
      · exact singleCall_fails compiled l.text l.symbol
  obtain ⟨e, he⟩ := hfails .undecided
  refine ⟨e, ?_⟩
  unfold Braces.fill
  rw [he]
  rfl

/-! ## The handler -/

lemma exists_of_onBuild_eq_ok {α : Type} {x : BuildM α} {s s' : Frame} {a : α}
    (h : onBuild x s = .ok a s') : ∃ b, x s.build = .ok a b := by
  unfold onBuild at h
  cases hx : x s.build with
  | error f b =>
    rw [hx] at h
    cases h
  | ok a' b =>
    rw [hx] at h
    cases h
    exact ⟨b, rfl⟩

/-- What the handler of a word returned, if there was the word. -/
lemma exists_of_next_operand {α : Type} {word : String} {run : Operand → DraftM α} {s s' : Frame} {a : α}
    (h : next [(word, .operand run)] s = .ok (some a) s') : ∃ o s₁, run o s₁ = .ok a s' := by
  cases hwords : s.draft.words with
  | nil =>
    rw [next_nil hwords] at h
    cases h
  | cons word' words =>
    by_cases hword : word' = word
    · have hlookup : ([(word, .operand run)] : Handlers (DraftM α)).lookup word' = some (.operand run) := by
        simp [hword]
      cases hoperands : s.draft.operands with
      | nil =>
        rw [next_starved hwords hlookup hoperands] at h
        cases h
      | cons o operands =>
        cases htext : o.node.text? with
        | none =>
          rw [next_blank hwords hlookup hoperands htext] at h
          cases h
        | some text =>
          rw [next_operand hwords hlookup hoperands htext] at h
          obtain ⟨a', hrun, ha⟩ := run_map_eq_ok h
          obtain rfl : a' = a := Option.some.inj ha
          exact ⟨o, _, hrun⟩
    · have hlookup : ([(word, .operand run)] : Handlers (DraftM α)).lookup word' = none := by
        simp [List.lookup_cons, beq_false_of_ne hword]
      rw [next_unknown hwords hlookup] at h
      cases h

/-- The call that the handler fills is one of `functionCall_unfillable`. -/
lemma runFunction_fails (s : Frame) : ∃ f s', runFunction s = .error f s' := by
  unfold runFunction
  rw [run_bind]
  generalize hcall : next _ s = found
  cases found with
  | error f s' => exact ⟨f, s', rfl⟩
  | ok call s' =>
    cases call with
    | none => exact ⟨.noSuchPart, s', rfl⟩
    | some parts =>
      obtain ⟨call, arguments⟩ := parts
      obtain ⟨o, s₁, hrun⟩ := exists_of_next_operand hcall
      obtain ⟨s₂, s₃, hget, hrun⟩ := run_bind_eq_ok hrun
      obtain ⟨call', s₄, hcall', hrun⟩ := run_bind_eq_ok hrun
      obtain ⟨arguments', s₅, -, hparts⟩ := run_bind_eq_ok hrun
      cases hget
      cases hparts
      obtain ⟨b, hbuild⟩ := exists_of_onBuild_eq_ok hcall'
      obtain ⟨e, he⟩ := functionCall_unfillable hbuild [.ofOption arguments]
      refine ⟨.braces e, s', ?_⟩
      simp [BuildM.require, onBuild, he, BuildM.ofExcept]

/-- A call without macro arguments ends at its braces, if there are none in the location. -/
lemma runFunction_of_location {s : Frame} {o : Operand} {operands : List Operand} {l : ResourceLocation}
    (hwords : s.draft.words = ["name"]) (hoperands : s.draft.operands = o :: operands) (ho : o.node = .location l)
    (hname : Bracketless l.text.toList) (hlocation : Bracketless l.symbol.toList) :
    ∃ s', runFunction s = .error (.braces .malformed) s' := by
  have htext : o.node.text? = some l.text := by rw [ho]; rfl
  have hcall (compiled : List String) (b : Build) : ∃ call b',
      o.node.functionCall fieldOptions compiled b = .ok call b' ∧
        ∀ v, Braces.fill call [v] = .error .malformed := by
    rw [ho]
    exact ⟨_, _, rfl, fun v => fill_call_malformed l.isTag compiled hname hlocation⟩
  obtain ⟨call, b, hrun, hfill⟩ := hcall s.draft.compiled s.build
  unfold runFunction
  rw [run_bind, next_operand hwords rfl hoperands htext]
  have hlift : (liftM : BuildM String → DraftM String) = onBuild := rfl
  unfold fieldOptions at hrun
  simp [hlift, onBuild, Draft.append, hrun, callArguments, next_nil, BuildM.require, BuildM.ofExcept, hfill]

/-! ## The command -/

namespace Compilation

variable {c : Compilation} {f : Fault} {m : Method} {s : Frame} {after : Build}

/-- The first word of the command is `function`. -/
def IsFunctionCall (c : Compilation) : Prop :=
  (Text.splitColons c.identifier).head? = some "function"

/-- The handler of such a command fails before anything is registered. -/
lemma IsFunctionCall.handled_error (h : c.IsFunctionCall) :
    ∃ f s, c.handled = .error f s ∧ s.build.methods = c.before.methods ∧ s.draft.returns = .never := by
  obtain ⟨words, hwords⟩ := List.head?_eq_some_iff.mp h
  have hlookup : commands.lookup "function" = some (.plain runFunction) := rfl
  have hread := next_plain
    (s := startFrame c.compiled (operandsOf c.compiled c.arguments) c.identifier c.before) hwords hlookup
  -- The frame in which the handler starts.
  generalize hstart : Frame.mk _ _ = start at hread
  obtain ⟨f, s, hrun⟩ := runFunction_fails start
  have hpass := runFunction_walks downClosed_true start fun _ _ => trivial
  rw [hrun] at hpass
  refine ⟨f, s, ?_, ?_, ?_⟩
  · rw [handled, hread, run_map, hrun]
  · rw [hpass.build.methods_eq, ← hstart]
    rfl
  · rw [hpass.returns, ← hstart]
    rfl

/-- A method that leaves its command to the dispatcher returns as the handler was to return. -/
lemma returns_of_handled_error (hnew : c.IsNew) (hhandled : c.handled = .error f s)
    (hrun : c.run = .ok m after) : m.returns = s.draft.returns := by
  rw [run_eq] at hrun
  rcases compileWith_faulty c.dump hnew hhandled with ⟨f', hend⟩ | ⟨output, hend⟩
  · rw [hend] at hrun
    cases hrun
  · rw [hend] at hrun
    cases hrun
    rfl

end Compilation

/-- The handler of `function` fails in every frame. A new command that begins with this word is therefore
not compiled, and then nothing is registered, or it is left to the dispatcher, and then the one method that
is registered hands its text over. -/
theorem function_never_native :
    (∀ s : Frame, ∃ f s', runFunction s = .error f s') ∧
    ∀ c : Compilation, c.IsNew → c.IsFunctionCall →
      (∃ f after, c.run = .error f after ∧ after.methods = c.before.methods) ∨
      ∃ f m after, c.Falls f ∧ c.run = .ok m after ∧
        after.methods = c.before.methods.set c.text m ∧ m.Dispatches (thinned (literalOf c.text)) := by
  refine ⟨runFunction_fails, fun c hnew hcall => ?_⟩
  obtain ⟨f, s, hhandled, hmethods, hreturns⟩ := hcall.handled_error
  rcases Compilation.run_of_handled_error hnew hhandled with ⟨f', -, hrun⟩ | ⟨m, hfalls, hrun⟩
  · exact .inl ⟨f', _, hrun, hmethods⟩
  · have hnever := (Compilation.returns_of_handled_error hnew hhandled hrun).trans hreturns
    refine .inr ⟨f, m, _, hfalls, hrun, ?_, hfalls.dispatches_of_returns hnew hrun hnever⟩
    change s.build.methods.set c.text m = c.before.methods.set c.text m
    rw [hmethods]

def stepLocation : ResourceLocation := ⟨"walk:step", false, some "walk", "step"⟩

/-- A call of a function that is not compiled along. -/
def stepCall : Compilation :=
  ⟨[], "function walk:step", "function:name", [.location stepLocation], "AstCommand", {}⟩

lemma stepCall_handled : ∃ s, stepCall.handled = .error (.braces .malformed) s := by
  have hwords : (startFrame [] (operandsOf [] [.location stepLocation]) "function:name" {}).draft.words =
      ["function", "name"] := by
    decide
  have hread : stepCall.handled = _ := next_plain hwords rfl
  -- The frame in which the handler starts.
  generalize hstart : Frame.mk _ _ = start at hread
  obtain ⟨s, hrun⟩ := runFunction_of_location (s := start) (l := stepLocation) (by rw [← hstart]; rfl)
    (by rw [← hstart]; rfl) rfl (by decide) (by decide)
  rw [hread, run_map, hrun]
  exact ⟨s, rfl⟩

/-- The call gets to the braces of its template, and the build is left without a method. -/
theorem step_call_not_compiled :
    stepCall.IsNew ∧ stepCall.IsFunctionCall ∧
      ∃ after, stepCall.run = .error (.braces .malformed) after ∧ after.methods.entries = [] := by
  have hnew : stepCall.IsNew := rfl
  have hcall : stepCall.IsFunctionCall := by
    unfold Compilation.IsFunctionCall
    decide
  obtain ⟨s, hhandled⟩ := stepCall_handled
  refine ⟨hnew, hcall, ?_⟩
  have hfails : stepCall.run = _ := (stepCall.run_eq).trans (compileWith_failing _ hnew hhandled rfl)
  rcases function_never_native.2 stepCall hnew hcall with ⟨f, after, hrun, hmethods⟩ | ⟨f, m, after, hfalls, -⟩
  · rw [hfails] at hrun
    cases hrun
    exact ⟨_, hfails, congrArg Registry.entries hmethods⟩
  · obtain ⟨⟨s', hhandled'⟩, hdispatched⟩ := hfalls
    rw [hhandled] at hhandled'
    cases hhandled'
    cases hdispatched

end PackToMod
