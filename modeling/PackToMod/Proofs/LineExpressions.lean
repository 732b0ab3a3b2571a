import PackToMod.Proofs.CallLines
import PackToMod.Proofs.StringLiterals

/-!
# What the expression of a line computes

A line with variables is handed to the dispatcher as a sum of texts: a literal for each text of the line and a look-up
for each variable. `TextExpression` reads such a sum and evaluates it for given values of the variables. The result is
the line with the values in the place of the variables, as long as no part of it needs an escape.
-/

namespace PackToMod

open DraftM Text

/-! ## Text expressions -/

/-- An operand of a text expression. -/
inductive TextTerm where
  | literal (value : List Char)
  /-- The text of a macro argument. -/
  | lookUp (name : List Char)
  deriving DecidableEq, Repr

namespace TextTerm

def value (assignment : String → String) : TextTerm → List Char
  | literal value => value
  | lookUp name => (assignment (String.ofList name)).toList

/-- Reads a call that looks up a macro argument. -/
def readLookUp? (s : List Char) : Option (TextTerm × List Char) :=
  (s.dropPrefix? "marcos.get(\"".toList).bind fun s =>
    (Literal.read? s).bind fun (name, s) =>
      (s.dropPrefix? ").toString()".toList).map fun rest => (lookUp name, rest)

/-- Reads an operand, and gives it with what follows. -/
def read? : List Char → Option (TextTerm × List Char)
  | '"' :: s => (Literal.read? s).map (Prod.map literal id)
  | s => readLookUp? s

end TextTerm

lemma length_le_of_dropPrefix? {s opening rest : List Char} (h : s.dropPrefix? opening = some rest) :
    rest.length ≤ s.length := by
  obtain ⟨before, rfl, -⟩ := List.dropPrefix?_eq_some_iff.mp h
  rw [List.length_append]
  omega

lemma TextTerm.length_lt_of_readLookUp? {s rest : List Char} {term : TextTerm}
    (h : readLookUp? s = some (term, rest)) : rest.length < s.length := by
  obtain ⟨s₁, hopening, h⟩ := Option.bind_eq_some_iff.mp h
  obtain ⟨⟨name, s₂⟩, hname, h⟩ := Option.bind_eq_some_iff.mp h
  obtain ⟨s₃, hclosing, hrest⟩ := Option.map_eq_some_iff.mp h
  cases hrest
  calc rest.length ≤ s₂.length := length_le_of_dropPrefix? hclosing
    _ < s₁.length := Literal.length_lt_of_read? hname
    _ ≤ s.length := length_le_of_dropPrefix? hopening

lemma TextTerm.length_lt_of_read? {s rest : List Char} {term : TextTerm} (h : read? s = some (term, rest)) :
    rest.length < s.length := by
  unfold read? at h
  split at h
  · next s =>
    obtain ⟨⟨value, rest'⟩, hread, hrest⟩ := Option.map_eq_some_iff.mp h
    cases hrest
    exact Nat.lt_succ_of_lt (Literal.length_lt_of_read? hread)
  · exact length_lt_of_readLookUp? h

namespace TextExpression

/-- The operands of a sum. -/
def read? (s : List Char) : Option (List TextTerm) :=
  match _hterm : TextTerm.read? s with
  | none => none
  | some (term, rest) =>
    if rest = [] then some [term]
    else match _hplus : rest.dropPrefix? " + ".toList with
      | none => none
      | some rest => (read? rest).map (term :: ·)
termination_by s.length
decreasing_by
  have hlt := TextTerm.length_lt_of_read? ‹_›
  have hle := length_le_of_dropPrefix? ‹_›
  omega

/-- The text that a sum computes. -/
def evaluate (assignment : String → String) (s : List Char) : Option (List Char) :=
  (read? s).map (List.flatMap (TextTerm.value assignment))

lemma read?_single {s : List Char} {term : TextTerm} (h : TextTerm.read? s = some (term, [])) :
    read? s = some [term] := by
  rw [read?]
  split
  · next hnone => exact absurd (h.symm.trans hnone) (by simp)
  · next term' rest hsome =>
    rw [h] at hsome
    cases hsome
    rw [if_pos rfl]

lemma read?_plus {s rest : List Char} {term : TextTerm}
    (h : TextTerm.read? s = some (term, " + ".toList ++ rest)) : read? s = (read? rest).map (term :: ·) := by
  have hplus : (" + ".toList ++ rest).dropPrefix? " + ".toList = some rest :=
    List.dropPrefix?_append_of_beq rest (beq_self_eq_true _)
  rw [read?]
  split
  · next hnone => exact absurd (h.symm.trans hnone) (by simp)
  · next term' rest' hsome =>
    rw [h] at hsome
    cases hsome
    rw [if_neg (by simp)]
    split
    · next hnone => exact absurd (hplus.symm.trans hnone) (by simp)
    · next rest'' hsome =>
      rw [hplus] at hsome
      cases hsome
      rfl

end TextExpression

/-! ## Lines -/

/-- A part of a line, with the text it was written as. -/
inductive LinePart where
  | text (written value : String)
  | placeholder (written name : String)

namespace LinePart

def node : LinePart → Node
  | text written value => .word written .lineText value
  | placeholder written name => .word written .lineVariable name

/-- What stands between quotes in the code for a part. -/
def quoted : LinePart → String
  | text _ value => value
  | placeholder _ name => name

/-- The variable of a part. -/
def name? : LinePart → Option String
  | text .. => none
  | placeholder _ name => some name

/-- The code for a part. -/
def code : LinePart → String
  | text _ value => "\"" ++ value ++ "\""
  | placeholder _ name => "marcos.get(\"" ++ name ++ "\").toString()"

def term : LinePart → TextTerm
  | text _ value => .literal value.toList
  | placeholder _ name => .lookUp name.toList

/-- A part with the values of the variables filled in. -/
def filled (assignment : String → String) : LinePart → String
  | text _ value => value
  | placeholder _ name => assignment name

/-- Nothing in the part needs an escape. -/
def IsPlain (part : LinePart) : Prop :=
  Literal.IsPlain part.quoted.toList ∧ Literal.IsOneLine part.quoted.toList

instance (part : LinePart) : Decidable part.IsPlain :=
  inferInstanceAs (Decidable (_ ∧ _))

lemma value_term (assignment : String → String) (part : LinePart) :
    part.term.value assignment = (part.filled assignment).toList := by
  cases part with
  | text written value => rfl
  | placeholder written name => simp only [term, TextTerm.value, filled, String.ofList_toList]

/-- The code for a part is read as its term, whatever follows. -/
lemma read?_code {part : LinePart} (h : part.IsPlain) (rest : List Char) :
    TextTerm.read? (part.code.toList ++ rest) = some (part.term, rest) := by
  obtain ⟨hplain, hline⟩ := h
  cases part with
  | text written value =>
    have hcode : (text written value).code.toList ++ rest = '"' :: (value.toList ++ '"' :: rest) := by
      simp [code]
    have hread : Literal.read? (value.toList ++ '"' :: rest) = _ := Literal.read?_plain hplain hline rest
    rw [hcode, TextTerm.read?, hread]
    rfl
  | placeholder written name =>
    have hcode : (placeholder written name).code.toList ++ rest =
        "marcos.get(\"".toList ++ (name.toList ++ '"' :: (").toString()".toList ++ rest)) := by
      simp [code]
    have hread : Literal.read? (name.toList ++ '"' :: (").toString()".toList ++ rest)) = _ :=
      Literal.read?_plain hplain hline _
    rw [hcode, TextTerm.read?]
    · rw [TextTerm.readLookUp?, List.dropPrefix?_append_of_beq _ (beq_self_eq_true _), Option.bind_some, hread,
        Option.bind_some]
      dsimp only
      rw [List.dropPrefix?_append_of_beq _ (beq_self_eq_true _)]
      rfl
    · simp

end LinePart

/-- The sum of the codes for the parts of a line. -/
def lineExpression (parts : List LinePart) : String :=
  sepBy " + " (parts.map LinePart.code)

/-- A line with the values of its variables filled in. -/
def filledLine (assignment : String → String) (parts : List LinePart) : String :=
  String.join (parts.map (LinePart.filled assignment))

lemma read?_lineExpression {parts : List LinePart} (hne : parts ≠ []) (h : ∀ part ∈ parts, part.IsPlain) :
    TextExpression.read? (lineExpression parts).toList = some (parts.map LinePart.term) := by
  induction parts with
  | nil => exact absurd rfl hne
  | cons part parts ih =>
    obtain ⟨hpart, hparts⟩ := List.forall_mem_cons.mp h
    cases parts with
    | nil =>
      have hread := LinePart.read?_code hpart []
      rw [List.append_nil] at hread
      exact TextExpression.read?_single hread
    | cons next parts =>
      have hsum : (lineExpression (part :: next :: parts)).toList =
          part.code.toList ++ (" + ".toList ++ (lineExpression (next :: parts)).toList) := by
        simp only [lineExpression, List.map_cons, sepBy, String.toList_append, List.append_assoc]
      rw [hsum, TextExpression.read?_plus (LinePart.read?_code hpart _), ih (List.cons_ne_nil _ _) hparts]
      rfl

lemma flatMap_value_terms (assignment : String → String) (parts : List LinePart) :
    (parts.map LinePart.term).flatMap (TextTerm.value assignment) = (filledLine assignment parts).toList := by
  induction parts with
  | nil => rfl
  | cons part parts ih =>
    rw [filledLine] at ih ⊢
    rw [List.map_cons, List.flatMap_cons, ih, List.map_cons, String.join_cons, String.toList_append,
      LinePart.value_term]

/-- The expression of a line computes the line. -/
lemma evaluate_lineExpression {parts : List LinePart} (hne : parts ≠ []) (h : ∀ part ∈ parts, part.IsPlain)
    (assignment : String → String) :
    TextExpression.evaluate assignment (lineExpression parts).toList = some (filledLine assignment parts).toList := by
  rw [TextExpression.evaluate, read?_lineExpression hne h, Option.map_some, flatMap_value_terms]

/-! ## Running a line -/

lemma lineTerms_nodes (parts : List LinePart) :
    lineTerms (parts.map LinePart.node) = .ok (parts.map LinePart.code, parts.filterMap LinePart.name?) := by
  induction parts with
  | nil => rfl
  | cons part parts ih =>
    cases part with
    | text written value =>
      rw [List.map_cons, LinePart.node, lineTerms, ih]
      rfl
    | placeholder written name =>
      rw [List.map_cons, LinePart.node, lineTerms, ih]
      rfl

/-- A line has no other fault than a part that is neither text nor variable, wherever it stands. -/
lemma lineTerms_error {nodes : List Node} (h : ∃ node ∈ nodes, ¬node.IsLinePart) :
    lineTerms nodes = .error .notALinePart := by
  induction nodes with
  | nil =>
    obtain ⟨node, hnode, -⟩ := h
    exact absurd hnode List.not_mem_nil
  | cons node nodes ih =>
    by_cases hnode : node.IsLinePart
    · have hrest : ∃ node ∈ nodes, ¬node.IsLinePart := by
        obtain ⟨other, hmem, hother⟩ := h
        rcases List.mem_cons.mp hmem with rfl | hmem
        · exact absurd hnode hother
        · exact ⟨other, hmem, hother⟩
      obtain ⟨written, value, rfl | rfl⟩ := hnode
      · rw [lineTerms, ih hrest]
        rfl
      · rw [lineTerms, ih hrest]
        rfl
    · rw [lineTerms]
      · exact fun written value heq => hnode ⟨written, value, .inl heq⟩
      · exact fun written value heq => hnode ⟨written, value, .inr heq⟩

/-- A line of texts and variables that need no escapes is handed over as a sum with one operand for each part, which
computes the line with the variables filled in, and its variables are kept in order. With any other part in it the
line fails, and the draft stays as it was. -/
theorem line_expression_computes_line (s : Frame) :
    (∀ parts : List LinePart, s.draft.operands.map Operand.node = parts.map LinePart.node → parts ≠ [] →
      (∀ part ∈ parts, part.IsPlain) →
      ∃ expression : String,
        runLine s = .ok ⟨⟩ { s with draft := { s.draft with
          output := "dispatcher.execute(dispatcher.parse(" ++ expression ++ ", source));"
          macros := parts.filterMap LinePart.name?
          needsMacros := true
          needsDispatcher := true } } ∧
        expression = " + ".intercalate (parts.map LinePart.code) ∧
        TextExpression.read? expression.toList = some (parts.map LinePart.term) ∧
        ∀ assignment, TextExpression.evaluate assignment expression.toList =
          some (filledLine assignment parts).toList) ∧
    ((∃ node ∈ s.draft.operands.map Operand.node, ¬node.IsLinePart) →
      runLine s = .error .notALinePart s ∧ Fault.notALinePart.kind.label = "ValueError") := by
  refine ⟨fun parts hparts hne hplain => ⟨lineExpression parts, ?_, ?_, ?_, ?_⟩, fun hother => ⟨?_, rfl⟩⟩
  · exact runLine_ok (by rw [hparts, lineTerms_nodes])
  · rw [lineExpression, sepBy_eq_intercalate]
  · exact read?_lineExpression hne hplain
  · exact evaluate_lineExpression hne hplain
  · exact runLine_error (lineTerms_error hother)

/-- A draft of a line. -/
def lineFrame (nodes : List Node) : Frame :=
  ⟨{}, { words := [], operands := operandsOf [] nodes }⟩

/-- A line with a variable that occurs twice, and with a text that looks like a sum. -/
def greetingParts : List LinePart :=
  [.text "say " "say ", .placeholder "$(who)" "who", .text " + " " + ", .placeholder "$(who)" "who"]

theorem greeting_line_computed :
    (∀ part ∈ greetingParts, part.IsPlain) ∧
    (∃ expression s', runLine (lineFrame (greetingParts.map LinePart.node)) = .ok ⟨⟩ s' ∧
      s'.draft.output = "dispatcher.execute(dispatcher.parse(" ++ expression ++ ", source));" ∧
      s'.draft.macros = ["who", "who"] ∧
      TextExpression.evaluate (fun _ => "Ann") expression.toList = some "say Ann + Ann".toList) ∧
    runLine (lineFrame [.word "say " .lineText "say ", .other ""]) =
      .error .notALinePart (lineFrame [.word "say " .lineText "say ", .other ""]) := by
  have hplain : ∀ part ∈ greetingParts, part.IsPlain := by decide
  refine ⟨hplain, ?_, ?_⟩
  · obtain ⟨expression, hrun, -, -, hevaluate⟩ :=
      (line_expression_computes_line (lineFrame (greetingParts.map LinePart.node))).1 greetingParts
        (map_node_operandsOf _ _) (by decide) hplain
    exact ⟨expression, _, hrun, rfl, rfl, hevaluate fun _ => "Ann"⟩
  · refine ((line_expression_computes_line _).2 ⟨.other "", ?_, ?_⟩).1
    · rw [lineFrame, map_node_operandsOf]
      simp
    · rintro ⟨written, value, heq | heq⟩
      · cases heq
      · cases heq

end PackToMod
