import PackToMod.Proofs.Nesting
import PackToMod.Proofs.PercentSigns

/-!
# Commands left to the dispatcher

The code for such a command comes from a template that holds the message of the fault and the syntax tree
of the command as they are, so it can be filled only if both have their percent signs doubled. The text
of the command is its argument, as a string literal; the blank lines that are thinned out of the code are
none of a literal on one line, and the dispatcher is handed what the command was written as.
-/

namespace PackToMod

open Build DraftM

variable {f : Fault} {text dump : String}

/-! ## The template -/

def literalOf (text : String) : String :=
  String.ofList (Text.Literal.encode text.toList)

/-- The line that hands the text in a literal to the dispatcher. -/
def dispatchLine (literal : String) : String :=
  "            " ++ ("dispatcher.execute(dispatcher.parse(\"" ++ (literal ++ "\", source));"))

/-- The template before the message of the fault. -/
def Fault.opening (f : Fault) : List Char :=
  "\n            // <class '".toList ++ f.kind.label.toList ++ "'>: ".toList

def commentOpening : List Char :=
  "            /*\n".toList

/-- The rest of the comment, and the line up to its literal. -/
def literalOpening : List Char :=
  "            ".toList ++ ("*/\n".toList ++ ("            ".toList ++
    "dispatcher.execute(dispatcher.parse(\"".toList))

def literalClosing : List Char :=
  "\", source));".toList ++ "\n            ".toList

lemma notMem_opening (f : Fault) : '%' ∉ f.opening := by
  have hlabel : '%' ∉ f.kind.label.toList := by
    cases f.kind <;> decide
  unfold Fault.opening
  simp only [List.mem_append, not_or]
  exact ⟨⟨by decide, hlabel⟩, by decide⟩

lemma notMem_literalOpening : '%' ∉ literalOpening := by
  decide

/-- The template with message and dump on lines of their own. -/
lemma dispatchTemplate_toList (f : Fault) (dump : String) :
    (dispatchTemplate f dump).toList = f.opening ++ (f.message.toList ++ '\n' ::
      (commentOpening ++ (dump.toList ++ '\n' :: (literalOpening ++ '%' :: 's' :: literalClosing)))) := by
  have hcomment : "\n            /*\n".toList = '\n' :: commentOpening := by decide
  have hliteral : "\n            */".toList ++
      "\n            dispatcher.execute(dispatcher.parse(\"%s\", source));\n            ".toList =
      '\n' :: (literalOpening ++ '%' :: 's' :: literalClosing) := by
    decide
  unfold dispatchTemplate Fault.opening
  simp only [String.toList_append, List.append_assoc, hcomment, hliteral, List.cons_append]

/-- The code before the line, less the end of the comment. Message and dump have one percent sign in the
place of two. -/
def dispatchComment (f : Fault) (dump : String) : String :=
  String.ofList (f.opening ++ (Percent.undoubled f.message.toList ++ '\n' :: (commentOpening ++
    (Percent.undoubled dump.toList ++ '\n' :: "            ".toList))))

lemma dispatchCode_of_isDoubled (hmessage : Percent.isDoubled f.message.toList = true)
    (hdump : Percent.isDoubled dump.toList = true) :
    dispatchCode f text dump =
      .ok (dispatchComment f dump ++ "*/\n" ++ dispatchLine (literalOf text) ++ "\n            ") := by
  have hscan : Percent.scan .text (some (.text (literalOf text))) (dispatchTemplate f dump).toList =
      .ok (f.opening ++ (Percent.undoubled f.message.toList ++ '\n' :: (commentOpening ++
        (Percent.undoubled dump.toList ++ '\n' ::
          (literalOpening ++ ((literalOf text).toList ++ literalClosing)))))) := by
    rw [dispatchTemplate_toList, Percent.scan_append (notMem_opening f), Percent.scan_of_isDoubled hmessage,
      Percent.scan_plain (by decide), Percent.scan_append (by decide), Percent.scan_of_isDoubled hdump,
      Percent.scan_plain (by decide), Percent.scan_append notMem_literalOpening, Percent.scan_directive,
      Percent.scan_text (by decide)]
    rfl
  unfold dispatchCode Percent.fill
  rw [← literalOf, hscan]
  refine congrArg Except.ok (String.toList_injective ?_)
  unfold dispatchComment dispatchLine literalOpening literalClosing
  simp only [String.toList_append, String.toList_ofList, List.append_assoc, List.cons_append]

/-- Without its argument the template cannot be filled from the comment on. -/
lemma starves_literalOpening :
    Percent.Starves (literalOpening ++ '%' :: 's' :: literalClosing) := by
  refine ⟨.noArgumentLeft, ?_⟩
  rw [Percent.scan_append notMem_literalOpening, Percent.scan_directive_none]
  rfl

lemma dispatchCode_of_single_sign
    (h : ¬(Percent.isDoubled f.message.toList ∧ Percent.isDoubled dump.toList)) (text : String) :
    ∃ e, dispatchCode f text dump = .error e := by
  suffices hscan : ∃ e, Percent.scan .text (some (.text (literalOf text))) (dispatchTemplate f dump).toList =
      .error e by
    obtain ⟨e, he⟩ := hscan
    refine ⟨e, ?_⟩
    unfold dispatchCode Percent.fill
    rw [← literalOf, he]
    rfl
  rw [dispatchTemplate_toList, Percent.scan_append (notMem_opening f)]
  cases hmessage : Percent.isDoubled f.message.toList with
  | false =>
    have hrest : Percent.Starves (commentOpening ++ (dump.toList ++ '\n' ::
        (literalOpening ++ '%' :: 's' :: literalClosing))) := by
      rw [← List.append_assoc]
      exact Percent.scan_of_isSpent (.inl rfl) _ starves_literalOpening (by decide)
    obtain ⟨e, he⟩ := Percent.scan_of_not_isDoubled (b := '\n') hmessage _ hrest (by decide)
    rw [he]
    exact ⟨e, rfl⟩
  | true =>
    have hdump : Percent.isDoubled dump.toList = false :=
      Bool.eq_false_iff.mpr fun hdump => h ⟨hmessage, hdump⟩
    obtain ⟨e, he⟩ := Percent.scan_of_not_isDoubled (b := '\n') hdump _ starves_literalOpening (by decide)
    rw [Percent.scan_of_isDoubled hmessage, Percent.scan_plain (by decide),
      Percent.scan_append (by decide), he]
    exact ⟨e, rfl⟩

/-! ## The body -/

/-- The method hands the text in a literal to the dispatcher, in one line after a comment. -/
structure Method.Dispatches (m : Method) (literal : String) : Prop where
  needsDispatcher : m.needsDispatcher = true
  body : ∃ comment, m.HasBody (comment ++ "*/\n" ++ dispatchLine literal ++ "\n            ")

/-- The line keeps its place and its ends, and only a literal on several lines is thinned. -/
lemma thinned_dispatchCode (comment literal : String) :
    thinned (comment ++ "*/\n" ++ dispatchLine literal ++ "\n            ") =
      thinned comment ++ "*/\n" ++ dispatchLine (thinned literal) ++ "\n            " := by
  have hparts (comment literal : String) : comment ++ "*/\n" ++ dispatchLine literal ++ "\n            " =
      comment ++ ("*/\n            " ++ ("dispatcher.execute(dispatcher.parse(\"" ++ (literal
        ++ "\", source));\n            "))) := by
    have hcomment : "*/\n            " = "*/\n" ++ "            " := by decide
    have hclosing : "\", source));\n            " = "\", source));" ++ "\n            " := by decide
    unfold dispatchLine
    rw [hcomment, hclosing]
    simp only [String.append_assoc]
  have hstar (s : String) : ("*/\n            " ++ s).toList = '*' :: ("/\n            ".toList ++ s.toList) :=
    String.toList_append
  have hword (s : String) : ("dispatcher.execute(dispatcher.parse(\"" ++ s).toList =
      'd' :: ("ispatcher.execute(dispatcher.parse(\"".toList ++ s.toList) :=
    String.toList_append
  have hfirst (s : String) : thinned ("dispatcher.execute(dispatcher.parse(\"" ++ s) =
      "dispatcher.execute(dispatcher.parse(\"" ++ thinned s := by
    unfold thinned
    rw [String.toList_append, Text.thinBlankLines_append_first (by decide), String.ofList_append,
      String.ofList_toList]
  have hcomment : thinned "*/\n            " = "*/\n            " := by decide
  have hclosing : thinned "\", source));\n            " = "\", source));\n            " := by decide
  -- The parts but the literal begin with a character other than a blank.
  rw [hparts, hparts, thinned_append (hstar _) (by decide), thinned_append (hword _) (by decide), hfirst,
    thinned_append (c := '"') rfl (by decide), hcomment, hclosing]

namespace Compilation

variable {c : Compilation} {m : Method} {after : Build}

/-- A command whose handler has a fault for the dispatcher is left to it if the template can be filled. -/
lemma Falls.run_ok (h : c.Falls f) (hnew : c.IsNew) (hmessage : Percent.isDoubled f.message.toList = true)
    (hdump : Percent.isDoubled c.dump.toList = true) : ∃ m after, c.run = .ok m after := by
  obtain ⟨⟨s, hhandled⟩, hf⟩ := h
  rw [run_eq]
  exact ⟨_, _, compileWith_left hnew hhandled hf (dispatchCode_of_isDoubled hmessage hdump)⟩

lemma Falls.run_error (h : c.Falls f) (hnew : c.IsNew)
    (hsign : ¬(Percent.isDoubled f.message.toList ∧ Percent.isDoubled c.dump.toList)) :
    ∃ e after, c.run = .error (.percent e) after := by
  obtain ⟨⟨s, hhandled⟩, hf⟩ := h
  obtain ⟨e, he⟩ := dispatchCode_of_single_sign hsign c.text
  rw [run_eq]
  exact ⟨e, _, compileWith_unfilled hnew hhandled hf he⟩

/-- The method of a command that was left to the dispatcher. -/
lemma Falls.dispatches_of_returns (h : c.Falls f) (hnew : c.IsNew) (hrun : c.run = .ok m after)
    (hreturns : m.returns = .never) : m.Dispatches (thinned (literalOf c.text)) := by
  by_cases hdoubled : Percent.isDoubled f.message.toList ∧ Percent.isDoubled c.dump.toList
  · obtain ⟨⟨s, hhandled⟩, hf⟩ := h
    rw [run_eq, compileWith_left hnew hhandled hf (dispatchCode_of_isDoubled hdoubled.1 hdoubled.2)] at hrun
    cases hrun
    refine ⟨rfl, thinned (dispatchComment f c.dump), ?_⟩
    rw [← thinned_dispatchCode, Draft.method, show s.draft.returns = .never from hreturns]
    exact hasBody_ofOutput ..
  · obtain ⟨e, after', hend⟩ := h.run_error hnew hdoubled
    rw [hend] at hrun
    cases hrun

lemma Falls.dispatches (h : c.Falls f) (hb : c.before.Sound) (hnew : c.IsNew) (hrun : c.run = .ok m after) :
    after.methods.get? c.text = some m ∧ m.Dispatches (thinned (literalOf c.text)) := by
  have hyields := compile_yields_true c.compiled c.command hb
  rw [← run, hrun] at hyields
  have hreturns := hyields.returns
  obtain ⟨-, -, text, htext, hget⟩ := hyields
  obtain rfl : c.text = text := Option.some.inj htext
  exact ⟨hget, h.dispatches_of_returns hnew hrun hreturns⟩

end Compilation

/-- After any requests, a new command whose handler has a fault for the dispatcher is left to it if and only
if the message of the fault and the dump have all their percent signs doubled. Otherwise the compilation
fails and registers nothing. -/
theorem dispatched_iff_signs_doubled (rs : List Request) (compiled : List String) (text identifier : String)
    (arguments : List Node) (dump : String) (f : Fault) :
    let c : Compilation := ⟨compiled, text, identifier, arguments, dump, ({} : Build).after rs⟩
    c.IsNew → c.Falls f →
      (Percent.isDoubled f.message.toList ∧ Percent.isDoubled dump.toList →
        ∃ m after, c.run = .ok m after ∧ after.methods.get? text = some m ∧
          m.Dispatches (thinned (literalOf text))) ∧
      (¬(Percent.isDoubled f.message.toList ∧ Percent.isDoubled dump.toList) →
        ∃ e after, c.run = .error (.percent e) after ∧ after.methods = c.before.methods) := by
  intro c hnew hfalls
  have hsound : c.before.Sound := (Build.sound_empty.after_extends rs).2
  refine ⟨fun hdoubled => ?_, fun hsingle => ?_⟩
  · obtain ⟨m, after, hrun⟩ := hfalls.run_ok hnew hdoubled.1 hdoubled.2
    exact ⟨m, after, hrun, hfalls.dispatches hsound hnew hrun⟩
  · obtain ⟨e, after, hrun⟩ := hfalls.run_error hnew hsingle
    obtain ⟨_, _, hfails⟩ := Compilation.exists_failsAlong hsound hrun
    exact ⟨e, after, hrun, hfails.methods⟩

/-- The first command of an empty build, for which there is no handler. -/
def tellraw (text dump : String) : Compilation :=
  ⟨[], text, "tellraw:targets:message", [], dump, {}⟩

lemma tellraw_falls (text dump : String) : (tellraw text dump).Falls (.unknownWord "tellraw") := by
  have hwords : (startFrame [] (operandsOf [] []) "tellraw:targets:message" {}).draft.words =
      ["tellraw", "targets", "message"] := by
    decide
  exact ⟨⟨_, next_unknown hwords rfl⟩, by decide⟩

/-- A doubled sign in the dump. -/
theorem doubled_sign_dispatched :
    let c := tellraw "tellraw @a \"100%\"" "AstMessage \"100%%\""
    c.IsNew ∧ c.Falls (.unknownWord "tellraw") ∧ ∃ m after, c.run = .ok m after ∧
      m.Dispatches (thinned (literalOf "tellraw @a \"100%\"")) := by
  have hdoubled : Percent.isDoubled (Fault.unknownWord "tellraw").message.toList ∧
      Percent.isDoubled "AstMessage \"100%%\"".toList := by
    decide +kernel
  obtain ⟨m, after, hrun, -, hdispatches⟩ := (dispatched_iff_signs_doubled [] [] "tellraw @a \"100%\""
    "tellraw:targets:message" [] "AstMessage \"100%%\"" (.unknownWord "tellraw") rfl
    (tellraw_falls _ _)).1 hdoubled
  exact ⟨rfl, tellraw_falls _ _, m, after, hrun, hdispatches⟩

/-- A command whose dump has a single percent sign, as any message of chat may, is not left to the
dispatcher. -/
theorem single_sign_not_dispatched :
    let c := tellraw "tellraw @a \"100%\"" "AstMessage \"100%\""
    c.IsNew ∧ c.Falls (.unknownWord "tellraw") ∧
      ∃ e after, c.run = .error (.percent e) after := by
  intro c
  have hfalls : c.Falls (.unknownWord "tellraw") := tellraw_falls _ _
  exact ⟨rfl, hfalls, hfalls.run_error rfl (by decide +kernel)⟩

/-! ## The literal -/

/-- A text with a longer one in the place of every `c`. -/
def Text.replaced (c : Char) (replacement s : List Char) : List Char :=
  s.flatMap fun d => if d = c then replacement else [d]

/-- Backslashes are escaped first, so the second replacement leaves those of the first alone. -/
lemma encode_eq_replaced (s : List Char) :
    Text.Literal.encode s =
      Text.replaced '"' ['\\', '"'] (Text.replaced '\\' ['\\', '\\'] s) := by
  induction s with
  | nil => rfl
  | cons c s ih =>
    unfold Text.replaced at ih ⊢
    rw [List.flatMap_cons, List.flatMap_append, ← ih, Text.Literal.encode]
    by_cases hbackslash : c = '\\'
    · rw [hbackslash]
      rfl
    · by_cases hquote : c = '"'
      · rw [hquote]
        rfl
      · simp [hbackslash, hquote]

lemma notMem_encode {x : Char} {s : List Char} (hx : x ≠ '\\') (hs : x ∉ s) :
    x ∉ Text.Literal.encode s := by
  induction s with
  | nil => exact List.not_mem_nil
  | cons c s ih =>
    rw [List.mem_cons, not_or] at hs
    rw [Text.Literal.encode]
    split
    · simp [hx, hs.1, ih hs.2]
    · simp [hs.1, ih hs.2]

/-- The line with a literal on one line is among those of the whole code. -/
lemma Method.Dispatches.mem_lines {m : Method} {literal : String} (h : m.Dispatches literal)
    (hliteral : '\n' ∉ literal.toList) : (dispatchLine literal).toList ∈ Text.split '\n' m.code.toList := by
  have hline : '\n' ∉ (dispatchLine literal).toList := by
    unfold dispatchLine
    simp only [String.toList_append, List.mem_append, not_or]
    exact ⟨by decide, by decide, hliteral, by decide⟩
  have hend : "*/\n".toList = "*/".toList ++ ['\n'] := by decide
  have hindent : "\n            ".toList = '\n' :: "            ".toList := by decide
  obtain ⟨comment, hbody⟩ := h.body
  rw [hbody]
  simp only [String.toList_append, hend, hindent, List.append_assoc, List.cons_append, List.nil_append]
  simp only [← List.append_assoc]
  exact Text.mem_split hline _ _

/-- After any requests, a new command on one line that is left to the dispatcher has a method with a line
that hands over a literal, and the literal reads back as the text of the command. -/
theorem dispatched_line_reads_back (rs : List Request) (compiled : List String) (text identifier : String)
    (arguments : List Node) (dump : String) (f : Fault) (m : Method) (after : Build)
    (htext : '\n' ∉ text.toList) :
    let c : Compilation := ⟨compiled, text, identifier, arguments, dump, ({} : Build).after rs⟩
    c.IsNew → c.Falls f → c.run = .ok m after →
      after.methods.get? text = some m ∧ ∃ literal : String, m.Dispatches literal ∧
        (dispatchLine literal).toList ∈ Text.split '\n' m.code.toList ∧
        literal.toList = Text.replaced '"' ['\\', '"'] (Text.replaced '\\' ['\\', '\\'] text.toList) ∧
        Text.Literal.decode literal.toList = some text.toList := by
  intro c hnew hfalls hrun
  obtain ⟨hget, hdispatches⟩ := hfalls.dispatches (Build.sound_empty.after_extends rs).2 hnew hrun
  have hliteral : '\n' ∉ (literalOf text).toList := by
    rw [literalOf, String.toList_ofList]
    exact notMem_encode (by decide) htext
  have hthinned : thinned (literalOf text) = literalOf text := by
    rw [thinned, Text.thinBlankLines_of_notMem hliteral, String.ofList_toList]
  rw [hthinned] at hdispatches
  refine ⟨hget, literalOf text, hdispatches, hdispatches.mem_lines hliteral, ?_, ?_⟩
  · rw [literalOf, String.toList_ofList]
    exact encode_eq_replaced text.toList
  · rw [literalOf, String.toList_ofList]
    exact Text.Literal.decode_encode text.toList

/-- A command with quotes and a backslash in its text. -/
theorem escaped_line_reads_back :
    let c := tellraw "tellraw @a \"C:\\\"" ""
    '\n' ∉ c.text.toList ∧ c.IsNew ∧ c.Falls (.unknownWord "tellraw") ∧ ∃ m after, c.run = .ok m after ∧
      ∃ literal : String, m.Dispatches literal ∧
        (dispatchLine literal).toList ∈ Text.split '\n' m.code.toList ∧
        Text.Literal.decode literal.toList = some "tellraw @a \"C:\\\"".toList := by
  intro c
  have htext : '\n' ∉ c.text.toList := by decide
  have hfalls : c.Falls (.unknownWord "tellraw") := tellraw_falls _ _
  obtain ⟨m, after, hrun⟩ := hfalls.run_ok rfl (by decide +kernel) (by decide)
  obtain ⟨-, literal, hdispatches, hline, -, hdecode⟩ := dispatched_line_reads_back [] [] _
    "tellraw:targets:message" [] "" (.unknownWord "tellraw") m after htext rfl hfalls hrun
  exact ⟨htext, rfl, hfalls, m, after, hrun, literal, hdispatches, hline, hdecode⟩

end PackToMod
