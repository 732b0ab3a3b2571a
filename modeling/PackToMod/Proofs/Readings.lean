import PackToMod.Proofs.Output

/-!
# Runs of readings

Reading goes on after a fault: a word is used up by every reading that is not refused, and an operand by every reading
that comes to a handler which takes one. So what the readings of a run come to can be said without following the run.
The word of a reading is found by counting the readings before it that were not refused, and its operand by counting
those of them that came to a handler with an operand. `readEach_eq` is this description, and the run of any tables is
taken apart at its last reading to prove it.
-/

namespace PackToMod

variable {α : Type}

/-- Reads a word for each of the tables, and goes on whatever comes of it. -/
def Draft.readEach (standing : Handlers α) : List (Handlers α) → Draft → List (Except Fault (Option α)) × Draft
  | [], d => ([], d)
  | table :: tables, d =>
    let first := d.readOver standing table
    let rest := readEach standing tables first.2
    (first.1.outcome :: rest.1, rest.2)

/-! ## What a reading comes to -/

/-- Readings with this table are not refused. -/
def isAccepted (table : Handlers α) : Bool :=
  (table.lookup Draft.ownName).isNone

/-- The handler for a word; a standing one goes first. -/
def handlerFor (standing table : Handlers α) (word : String) : Option (Handler α) :=
  (standing.lookup word).or (table.lookup word)

def Handler.takesOperand : Handler α → Bool
  | operand _ => true
  | plain _ => false

def wordsRead (tables : List (Handlers α)) : Nat :=
  tables.countP isAccepted

/-- The handlers that readings come to: the first accepted table is asked for the first word, and so on. -/
def dispatched (standing : Handlers α) (tables : List (Handlers α)) (words : List String) : List (Option (Handler α)) :=
  List.zipWith (handlerFor standing) (tables.filter isAccepted) words

/-- The operands that readings use up, if there are as many. -/
def operandsTaken (standing : Handlers α) (tables : List (Handlers α)) (words : List String) : Nat :=
  (dispatched standing tables words).countP fun handler => handler.any Handler.takesOperand

/-- The outcome of a reading, and the text of the comment that it leaves if a handler is run. -/
structure Response (α : Type) where
  outcome : Except Fault (Option α)
  comment? : Option String := none

/-- What comes of a word, by its handler and the operand that is next. -/
def respond (word : String) (operand : Option Operand) : Option (Handler α) → Response α
  | none => { outcome := .error (.unknownWord word) }
  | some (.plain value) => { outcome := .ok (some value), comment? := some word }
  | some (.operand run) =>
    match operand with
    | none => { outcome := .error .outOfOperands }
    | some o =>
      match o.node.text? with
      | none => { outcome := .error .noSuchPart }
      | some text => { outcome := .ok (some (run o)), comment? := some text }

/-- What comes of the reading with `table` after the readings with the tables `before`. -/
def Draft.response (standing : Handlers α) (d : Draft) (before : List (Handlers α)) (table : Handlers α) : Response α :=
  if isAccepted table then
    match d.words[wordsRead before]? with
    | none => { outcome := .ok none }
    | some word => respond word d.operands[operandsTaken standing before d.words]? (handlerFor standing table word)
  else { outcome := .error .reservedName }

/-- What comes of the readings of a run. -/
def Draft.responses (standing : Handlers α) (d : Draft) (tables : List (Handlers α)) : List (Response α) :=
  tables.mapIdx fun i table => d.response standing (tables.take i) table

/-- The draft after the readings with the given tables. -/
def Draft.afterReadings (standing : Handlers α) (d : Draft) (tables : List (Handlers α)) : Draft :=
  { d with
    words := d.words.drop (wordsRead tables)
    operands := d.operands.drop (operandsTaken standing tables d.words)
    output := d.output ++ comments ((d.responses standing tables).filterMap Response.comment?) }

/-! ## One reading -/

lemma lookup_eq_handlerFor (standing table : Handlers α) (word : String) :
    (standing ++ table).lookup word = handlerFor standing table word :=
  List.lookup_append

variable {standing table : Handlers α} {tables : List (Handlers α)} {d : Draft}

/-- Reading a word. -/
lemma read_cons (handlers : Handlers α) {word : String} {words : List String} (hwords : d.words = word :: words) :
    (d.read handlers).1.outcome = (respond word d.operands[0]? (handlers.lookup word)).outcome ∧
      (d.read handlers).2 = { d with
        words
        operands := d.operands.drop (if (handlers.lookup word).any Handler.takesOperand then 1 else 0)
        output := d.output ++ comments (respond word d.operands[0]? (handlers.lookup word)).comment?.toList } := by
  cases hlookup : handlers.lookup word with
  | none => simp [Draft.read, hwords, hlookup, respond, Reading.outcome, comments]
  | some handler =>
    cases handler with
    | plain value =>
      simp [Draft.read, hwords, hlookup, respond, Reading.outcome, comments, Draft.append, Handler.takesOperand,
        String.join_cons]
    | operand run =>
      cases hoperands : d.operands with
      | nil => simp [Draft.read, hwords, hlookup, hoperands, respond, Reading.outcome, comments, Handler.takesOperand]
      | cons o operands =>
        cases htext : o.node.text? with
        | none =>
          simp [Draft.read, hwords, hlookup, hoperands, htext, respond, Reading.outcome, comments, Handler.takesOperand]
        | some text =>
          simp [Draft.read, hwords, hlookup, hoperands, htext, respond, Reading.outcome, comments, Draft.append,
            Handler.takesOperand, String.join_cons]

lemma readOver_refused (h : isAccepted table = false) : d.readOver standing table = (.refused, d) := by
  rw [isAccepted, Option.isNone_eq_false_iff] at h
  rw [Draft.readOver, if_pos h]

lemma readOver_accepted (h : isAccepted table = true) : d.readOver standing table = d.read (standing ++ table) := by
  rw [isAccepted, Option.isNone_iff_eq_none] at h
  rw [Draft.readOver, h, if_neg (by simp)]

lemma filterMap_comment?_single (r : Response α) : [r].filterMap Response.comment? = r.comment?.toList := by
  cases h : r.comment? with
  | none => simp [h]
  | some text => simp [h]

/-- A reading does what the first of a run does. -/
lemma readOver_eq (standing table : Handlers α) (d : Draft) :
    (d.readOver standing table).1.outcome = (d.response standing [] table).outcome ∧
      (d.readOver standing table).2 = d.afterReadings standing [table] := by
  have hresponses : d.responses standing [table] = [d.response standing [] table] := rfl
  unfold Draft.afterReadings
  rw [hresponses]
  cases haccepted : isAccepted table with
  | false =>
    rw [readOver_refused haccepted]
    simp [Draft.response, haccepted, wordsRead, operandsTaken, dispatched, comments, Reading.outcome]
  | true =>
    rw [readOver_accepted haccepted]
    cases hwords : d.words with
    | nil =>
      have hresponse : d.response standing [] table = { outcome := .ok none } := by
        simp [Draft.response, haccepted, hwords]
      have hread : d.read (standing ++ table) = (.exhausted, d) := by
        rw [Draft.read, hwords]
      have hrest (n : Nat) : List.drop n [] = d.words := by rw [List.drop_nil, hwords]
      rw [hresponse, hread, hrest]
      exact ⟨rfl, by simp [operandsTaken, dispatched, comments]⟩
    | cons word words =>
      have hresponse : d.response standing [] table = respond word d.operands[0]? (handlerFor standing table word) := by
        simp [Draft.response, haccepted, hwords, wordsRead, operandsTaken, dispatched]
      have htaken : operandsTaken standing [table] (word :: words) =
          if (handlerFor standing table word).any Handler.takesOperand then 1 else 0 := by
        simp [operandsTaken, dispatched, haccepted, List.countP_cons]
      obtain ⟨houtcome, hdraft⟩ := read_cons (standing ++ table) hwords
      rw [lookup_eq_handlerFor] at houtcome hdraft
      rw [houtcome, hdraft, hresponse, htaken, filterMap_comment?_single]
      simp [wordsRead, haccepted]

/-! ## One more reading -/

lemma zipWith_append_left {β γ δ : Type} (f : β → γ → δ) (l l' : List β) (m : List γ) :
    List.zipWith f (l ++ l') m = List.zipWith f l m ++ List.zipWith f l' (m.drop l.length) := by
  induction l generalizing m with
  | nil => rfl
  | cons b l ih =>
    cases m with
    | nil => simp
    | cons c m => simp [ih]

lemma dispatched_append (standing : Handlers α) (tables tables' : List (Handlers α)) (words : List String) :
    dispatched standing (tables ++ tables') words =
      dispatched standing tables words ++ dispatched standing tables' (words.drop (wordsRead tables)) := by
  rw [dispatched, List.filter_append, zipWith_append_left, wordsRead, List.countP_eq_length_filter]
  rfl

lemma operandsTaken_append (standing : Handlers α) (tables tables' : List (Handlers α)) (words : List String) :
    operandsTaken standing (tables ++ tables') words =
      operandsTaken standing tables words + operandsTaken standing tables' (words.drop (wordsRead tables)) := by
  rw [operandsTaken, dispatched_append, List.countP_append]
  rfl

/-- The word and the operand of a reading are the first ones of what the readings before it leave. -/
lemma response_afterReadings (standing : Handlers α) (d : Draft) (tables : List (Handlers α)) (table : Handlers α) :
    (d.afterReadings standing tables).response standing [] table = d.response standing tables table := by
  have hword : (d.afterReadings standing tables).words[wordsRead ([] : List (Handlers α))]? =
      d.words[wordsRead tables]? := by
    simp [Draft.afterReadings, wordsRead]
  have hoperand (words : List String) : (d.afterReadings standing tables).operands[operandsTaken standing [] words]? =
      d.operands[operandsTaken standing tables d.words]? := by
    simp [Draft.afterReadings, operandsTaken, dispatched]
  rw [Draft.response, Draft.response, hword, hoperand]

lemma responses_concat (standing : Handlers α) (d : Draft) (tables : List (Handlers α)) (table : Handlers α) :
    d.responses standing (tables ++ [table]) = d.responses standing tables ++ [d.response standing tables table] := by
  -- A table is counted for the readings after it only.
  have hearlier : tables.mapIdx (fun i earlier => d.response standing ((tables ++ [table]).take i) earlier) =
      d.responses standing tables := by
    refine List.mapIdx_eq_mapIdx_iff.mpr fun i hi => ?_
    rw [List.take_append_of_le_length hi.le]
  rw [Draft.responses, List.mapIdx_concat, hearlier, List.take_left]

lemma comments_append (texts texts' : List String) :
    comments (texts ++ texts') = comments texts ++ comments texts' := by
  rw [comments, comments, comments, List.map_append, String.join_append]

lemma afterReadings_concat (standing : Handlers α) (d : Draft) (tables : List (Handlers α)) (table : Handlers α) :
    (d.afterReadings standing tables).afterReadings standing [table] =
      d.afterReadings standing (tables ++ [table]) := by
  have hwords : (d.words.drop (wordsRead tables)).drop (wordsRead [table]) =
      d.words.drop (wordsRead (tables ++ [table])) := by
    rw [List.drop_drop, wordsRead, wordsRead, wordsRead, List.countP_append]
  have hoperands : (d.operands.drop (operandsTaken standing tables d.words)).drop
      (operandsTaken standing [table] (d.words.drop (wordsRead tables))) =
      d.operands.drop (operandsTaken standing (tables ++ [table]) d.words) := by
    rw [List.drop_drop, operandsTaken_append]
  have houtput : (d.afterReadings standing tables).output ++
      comments (((d.afterReadings standing tables).responses standing [table]).filterMap Response.comment?) =
      d.output ++ comments ((d.responses standing (tables ++ [table])).filterMap Response.comment?) := by
    have hlast : (d.afterReadings standing tables).responses standing [table] = [d.response standing tables table] := by
      rw [← response_afterReadings]
      rfl
    rw [hlast, responses_concat, List.filterMap_append, comments_append, ← String.append_assoc]
    rfl
  unfold Draft.afterReadings at houtput ⊢
  simp only [hwords, hoperands, houtput]

/-! ## Runs -/

lemma readEach_concat (standing : Handlers α) (d : Draft) (tables : List (Handlers α)) (table : Handlers α) :
    d.readEach standing (tables ++ [table]) =
      ((d.readEach standing tables).1 ++ [((d.readEach standing tables).2.readOver standing table).1.outcome],
        ((d.readEach standing tables).2.readOver standing table).2) := by
  induction tables generalizing d with
  | nil => rfl
  | cons first tables ih =>
    rw [List.cons_append, Draft.readEach, ih, Draft.readEach]
    rfl

/-- A run of readings in closed form. -/
lemma readEach_eq (standing : Handlers α) (d : Draft) (tables : List (Handlers α)) :
    d.readEach standing tables =
      ((d.responses standing tables).map Response.outcome, d.afterReadings standing tables) := by
  induction tables using List.reverseRecOn with
  | nil => simp [Draft.readEach, Draft.responses, Draft.afterReadings, wordsRead, operandsTaken, dispatched, comments]
  | append_singleton tables table ih =>
    obtain ⟨houtcome, hdraft⟩ := readOver_eq standing table (d.afterReadings standing tables)
    rw [readEach_concat, ih, houtcome, hdraft, response_afterReadings, afterReadings_concat, responses_concat,
      List.map_append]
    rfl

/-! ## When a reading ends how -/

section

variable {word : String} {operand : Option Operand} {handler : Option (Handler α)} {before : List (Handlers α)}

lemma respond_ne_none : (respond word operand handler).outcome ≠ .ok none := by
  fun_cases respond word operand handler <;> simp

lemma respond_ne_refused : (respond word operand handler).outcome ≠ .error .reservedName := by
  fun_cases respond word operand handler <;> simp

/-- A comment is left for a handler that is run, and for nothing else. -/
lemma respond_comment?_iff :
    (respond word operand handler).comment?.isSome ↔ ∃ a, (respond word operand handler).outcome = .ok (some a) := by
  fun_cases respond word operand handler <;> simp

lemma respond_unknown_iff {other : String} :
    (respond word operand handler).outcome = .error (.unknownWord other) ↔ word = other ∧ handler = none := by
  fun_cases respond word operand handler <;> simp

lemma respond_starved_iff :
    (respond word operand handler).outcome = .error .outOfOperands ↔
      (∃ run, handler = some (.operand run)) ∧ operand = none := by
  fun_cases respond word operand handler <;> simp

/-- A reading is refused, or there is no word for it, or it comes to what its word does. -/
lemma response_cases (standing table : Handlers α) (before : List (Handlers α)) (d : Draft) :
    (isAccepted table = false ∧ d.response standing before table = { outcome := .error .reservedName }) ∨
    (isAccepted table = true ∧ d.words[wordsRead before]? = none ∧
      d.response standing before table = { outcome := .ok none }) ∨
    ∃ word, isAccepted table = true ∧ d.words[wordsRead before]? = some word ∧
      d.response standing before table =
        respond word d.operands[operandsTaken standing before d.words]? (handlerFor standing table word) := by
  cases haccepted : isAccepted table with
  | false =>
    refine .inl ⟨rfl, ?_⟩
    rw [Draft.response, haccepted, if_neg Bool.false_ne_true]
  | true =>
    cases hword : d.words[wordsRead before]? with
    | none =>
      refine .inr (.inl ⟨rfl, rfl, ?_⟩)
      rw [Draft.response, if_pos haccepted, hword]
    | some word =>
      refine .inr (.inr ⟨word, rfl, rfl, ?_⟩)
      rw [Draft.response, if_pos haccepted, hword]

lemma response_refused_iff :
    (d.response standing before table).outcome = .error .reservedName ↔ isAccepted table = false := by
  rcases response_cases standing table before d with ⟨haccepted, h⟩ | ⟨haccepted, -, h⟩ | ⟨word, haccepted, -, h⟩
  · simp [h, haccepted]
  · simp [h, haccepted]
  · simp [h, haccepted, respond_ne_refused]

lemma response_comment?_iff : (d.response standing before table).comment?.isSome ↔
    ∃ a, (d.response standing before table).outcome = .ok (some a) := by
  rcases response_cases standing table before d with ⟨-, h⟩ | ⟨-, -, h⟩ | ⟨word, -, -, h⟩
  · simp [h]
  · simp [h]
  · rw [h, respond_comment?_iff]

lemma response_none_iff : (d.response standing before table).outcome = .ok none ↔
    isAccepted table = true ∧ d.words[wordsRead before]? = none := by
  rcases response_cases standing table before d with
    ⟨haccepted, h⟩ | ⟨haccepted, hword, h⟩ | ⟨word, haccepted, hword, h⟩
  · simp [h, haccepted]
  · simp [h, haccepted, hword]
  · simp [h, hword, respond_ne_none]

lemma response_unknown_iff :
    (d.response standing before table).outcome = .error (.unknownWord word) ↔
      isAccepted table = true ∧ d.words[wordsRead before]? = some word ∧ handlerFor standing table word = none := by
  rcases response_cases standing table before d with
    ⟨haccepted, h⟩ | ⟨haccepted, hword, h⟩ | ⟨other, haccepted, hword, h⟩
  · simp [h, haccepted]
  · simp [h, hword]
  · rw [h, respond_unknown_iff, haccepted, hword, Option.some.injEq, eq_self, true_and]
    refine and_congr_right fun hother => ?_
    rw [hother]

lemma response_starved_iff :
    (d.response standing before table).outcome = .error .outOfOperands ↔
      isAccepted table = true ∧ d.operands[operandsTaken standing before d.words]? = none ∧
        ∃ word run, d.words[wordsRead before]? = some word ∧ handlerFor standing table word = some (.operand run) := by
  rcases response_cases standing table before d with
    ⟨haccepted, h⟩ | ⟨haccepted, hword, h⟩ | ⟨word, haccepted, hword, h⟩
  · simp [h, haccepted]
  · simp [h, hword]
  · rw [h, respond_starved_iff, haccepted, hword]
    simp [and_comm]

end

/-- In any run of readings, with any standing handlers and any tables, each reading that is not refused is for the next
word, whatever came of those before it, and its handler gets the next operand if it takes one. The run uses up that
many words and operands and leaves one comment for each handler that is run, in order, and changes nothing else. A
reading is refused exactly if its table uses the draft's own name, comes to nothing exactly if the words are used up,
to an unknown word exactly if neither the standing handlers nor the table have it, and lacks an operand exactly if its
handler takes one and they are used up. -/
theorem readings_keep_in_step (standing : Handlers α) (tables : List (Handlers α)) (d : Draft) :
    let responses := tables.mapIdx fun i table => d.response standing (tables.take i) table
    d.readEach standing tables = (responses.map Response.outcome, { d with
      words := d.words.drop (wordsRead tables)
      operands := d.operands.drop (operandsTaken standing tables d.words)
      output := d.output ++ comments (responses.filterMap Response.comment?) }) ∧
    (∀ (before : List (Handlers α)) (table : Handlers α),
      let response := d.response standing before table
      (response.comment?.isSome ↔ ∃ a, response.outcome = .ok (some a)) ∧
      (response.outcome = .error .reservedName ↔ isAccepted table = false) ∧
      (response.outcome = .ok none ↔ isAccepted table = true ∧ d.words[wordsRead before]? = none) ∧
      (∀ word, response.outcome = .error (.unknownWord word) ↔
        isAccepted table = true ∧ d.words[wordsRead before]? = some word ∧ handlerFor standing table word = none) ∧
      (response.outcome = .error .outOfOperands ↔
        isAccepted table = true ∧ d.operands[operandsTaken standing before d.words]? = none ∧
          ∃ word run, d.words[wordsRead before]? = some word ∧
            handlerFor standing table word = some (.operand run))) ∧
    Fault.reservedName.logLine = "TypeError" ∧ Fault.outOfOperands.logLine = "StopIteration" ∧
    ∀ word, (Fault.unknownWord word).logLine = "KeyError: " ++ Text.Quoted.encode word := by
  refine ⟨readEach_eq standing d tables, fun before table => ?_, rfl, rfl, fun word => rfl⟩
  exact ⟨response_comment?_iff, response_refused_iff, response_none_iff, fun _ => response_unknown_iff,
    response_starved_iff⟩

/-- Two words and a table for each of them, the first with the draft's own name beside its word: the first word is left
for the second table. -/
theorem own_name_leaves_word :
    let d : Draft := { words := ["a", "b"], operands := [] }
    let tables : List (Handlers Nat) := [[("a", .plain 1), (Draft.ownName, .plain 0)], [("b", .plain 2)]]
    d.readEach [] tables = ([.error .reservedName, .error (.unknownWord "a")], { d with words := ["b"] }) ∧
      (d.readEach [] tables).1 ≠ [.ok (some 1), .ok (some 2)] := by
  intro d tables
  have hrun : d.readEach [] tables =
      ([.error .reservedName, .error (.unknownWord "a")], { d with words := ["b"] }) := rfl
  refine ⟨hrun, ?_⟩
  rw [hrun]
  simp

end PackToMod
