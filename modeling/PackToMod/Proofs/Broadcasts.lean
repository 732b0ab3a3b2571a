import PackToMod.Proofs.Nesting
import PackToMod.Proofs.Spelling
import PackToMod.Proofs.StringLiterals

/-!
# What a message is broadcast as

The code for `say` has the text of the first fragment between quotes, on two lines, as it is. Whatever the text is, a
literal of the code lies between two quotes of one of these lines, so it is no longer than the text. It reads as the
whole message only if it is all of the text, nothing in it needs an escape, and the other fragments are empty.
-/

namespace PackToMod

open Build DraftM Text

/-! ## Texts that are quoted twice -/

section

variable {opening closing s left right raw : List Char}

lemma length_le_of_first_quote {u v : List Char} (hopening : '"' ∉ opening)
    (h : opening ++ '"' :: u = left ++ '"' :: v) : opening.length ≤ left.length := by
  rcases List.append_eq_append_iff.mp h with ⟨more, rfl, -⟩ | ⟨more, rfl, hmore⟩
  · simp
  · cases more with
    | nil => simp
    | cons c more =>
      cases hmore
      simp at hopening

lemma length_le_of_last_quote {u v : List Char} (hclosing : '"' ∉ closing)
    (h : u ++ '"' :: closing = v ++ '"' :: right) : closing.length ≤ right.length := by
  rcases List.append_eq_append_iff.mp h with ⟨more, rfl, hmore⟩ | ⟨more, rfl, hmore⟩
  · cases more with
    | nil =>
      cases hmore
      exact Nat.le_refl _
    | cons c more =>
      cases hmore
      simp at hclosing
  · have hlength := congrArg List.length hmore
    simp only [List.length_cons, List.length_append] at hlength
    omega

/-- Between two quotes of a text in which one part is quoted there is no more than this part. -/
lemma length_le_quoted (hopening : '"' ∉ opening) (hclosing : '"' ∉ closing)
    (h : opening ++ '"' :: (s ++ '"' :: closing) = left ++ '"' :: (raw ++ '"' :: right)) :
    raw.length ≤ s.length ∧ (s.length ≤ raw.length → raw = s) := by
  have hleft : opening.length ≤ left.length := length_le_of_first_quote hopening h
  have hright : closing.length ≤ right.length := by
    refine length_le_of_last_quote (u := opening ++ '"' :: s) (v := left ++ '"' :: raw) hclosing ?_
    simpa using h
  have hlength := congrArg List.length h
  simp only [List.length_append, List.length_cons] at hlength
  refine ⟨by omega, fun hlong => ?_⟩
  have hrest := (List.append_inj h (by omega)).2
  rw [List.cons_inj_right] at hrest
  exact (List.append_inj hrest (by omega)).1.symm

/-- A stretch without a certain character lies before it or after it. -/
lemma stretch_on_one_side {c : Char} {u v : List Char} (hc : c ∉ s) (h : u ++ c :: v = left ++ (s ++ right)) :
    (∃ right', u = left ++ (s ++ right')) ∨ ∃ left', v = left' ++ (s ++ right) := by
  rcases List.append_eq_append_iff.mp h with ⟨more, rfl, hmore⟩ | ⟨more, rfl, hmore⟩
  · cases more with
    | nil =>
      cases s with
      | nil => exact .inl ⟨[], by simp⟩
      | cons d s =>
        cases hmore
        simp at hc
    | cons d more =>
      cases hmore
      exact .inr ⟨more, rfl⟩
  · rcases List.append_eq_append_iff.mp hmore with ⟨rest, rfl, -⟩ | ⟨rest, rfl, hrest⟩
    · exact .inl ⟨rest, rfl⟩
    · cases rest with
      | nil => exact .inl ⟨[], by simp⟩
      | cons d rest =>
        cases hrest
        simp at hc

end

/-- Code in which a text stands between quotes as it is, at two places with a line break between them, and in which
there are no other quotes. -/
def QuotesTwice (text code : List Char) : Prop :=
  ∃ head middle tail, '"' ∉ head ∧ '"' ∉ middle ∧ '"' ∉ tail ∧ '\n' ∈ middle ∧
    code = head ++ '"' :: (text ++ '"' :: (middle ++ '"' :: (text ++ '"' :: tail)))

namespace QuotesTwice

variable {text code opening closing value : List Char}

lemma wrapped (h : QuotesTwice text code) (hopening : '"' ∉ opening) (hclosing : '"' ∉ closing) :
    QuotesTwice text (opening ++ (code ++ closing)) := by
  obtain ⟨head, middle, tail, hhead, hmiddle, htail, hbreak, rfl⟩ := h
  refine ⟨opening ++ head, middle, tail ++ closing, ?_, hmiddle, ?_, hbreak, by simp⟩
  · simp [hopening, hhead]
  · simp [hclosing, htail]

lemma literals_eq (h : QuotesTwice text code) (hplain : Literal.IsPlain text) (hline : Literal.IsOneLine text) :
    Literal.literals code = [text, text] := by
  obtain ⟨head, middle, tail, hhead, hmiddle, htail, -, rfl⟩ := h
  have hend : Literal.literals tail = [] := by
    have h := Literal.literals_append htail []
    rwa [List.append_nil, Literal.literals_nil] at h
  rw [Literal.literals_append hhead, Literal.literals_quote (Literal.read?_plain hplain hline _),
    Literal.literals_append hmiddle, Literal.literals_quote (Literal.read?_plain hplain hline _), hend]

/-- A literal that reads as something at least as long as the text is the text, and nothing in it is escaped. -/
lemma of_mem_literals (h : QuotesTwice text code) (hmem : value ∈ Literal.literals code)
    (hlong : text.length ≤ value.length) : value = text ∧ Literal.IsPlain text := by
  obtain ⟨head, middle, tail, hhead, hmiddle, htail, hbreak, hcode⟩ := h
  obtain ⟨left, raw, right, hraw, hdecode, hline⟩ := Literal.exists_of_mem_literals hmem
  obtain ⟨hshort, hplain⟩ := Literal.length_le_of_decode hdecode
  -- The literal is on one side of the line break.
  obtain ⟨m, m', rfl⟩ := List.append_of_mem hbreak
  rw [List.mem_append, List.mem_cons, not_or, not_or] at hmiddle
  have hstretch : '\n' ∉ '"' :: (raw ++ ['"']) := by
    have hnone : '\n' ∉ raw := Literal.IsOneLine.newline_notMem hline
    simp [hnone]
  have hsides : (head ++ '"' :: (text ++ '"' :: m)) ++ '\n' :: (m' ++ '"' :: (text ++ '"' :: tail)) =
      left ++ ('"' :: (raw ++ ['"']) ++ right) := by
    rw [hcode] at hraw
    simpa using hraw
  have hquoted : raw.length ≤ text.length ∧ (text.length ≤ raw.length → raw = text) := by
    rcases stretch_on_one_side hstretch hsides with ⟨right', hleft⟩ | ⟨left', hright⟩
    · exact length_le_quoted hhead hmiddle.1 (by simpa using hleft)
    · exact length_le_quoted hmiddle.2.2 htail (by simpa using hright)
  obtain rfl : raw = text := hquoted.2 (by omega)
  have htext : Literal.IsPlain raw := hplain (by omega)
  rw [Literal.decode_of_isPlain htext, Option.some.injEq] at hdecode
  exact ⟨hdecode.symm, htext⟩

end QuotesTwice

/-! ## The code of a message -/

def sayOpening : String :=
  "\n        PlayerChatMessage chatMessage;\n        if (source.isPlayer())"
    ++ "\n            chatMessage = PlayerChatMessage.unsigned("
    ++ "Objects.requireNonNull(source.getPlayer()).getUUID(), \""

def sayBetween : String :=
  "\");\n        else\n            chatMessage = PlayerChatMessage.system(\""

def sayClosing : String :=
  "\");\n        PlayerList playerList = source.getServer().getPlayerList();"
    ++ "\n        playerList.broadcastChatMessage(chatMessage, source, "
    ++ "ChatType.bind(ChatType.SAY_COMMAND, source));\n    "

lemma sayCode_eq (text : String) :
    sayCode text = sayOpening ++ (text ++ (sayBetween ++ (text ++ sayClosing))) := by
  unfold sayCode sayOpening sayBetween sayClosing
  simp only [String.append_assoc]

/-- Fixed code from which nothing is thinned out. -/
def IsKept (code : List Char) : Prop :=
  thinBlankLines code = code

instance (code : List Char) : Decidable (IsKept code) :=
  inferInstanceAs (Decidable (_ = _))

lemma sayOpening_spelled : ∃ head, sayOpening.toList = head ++ ['"'] ∧ '"' ∉ head ∧ IsKept head := by
  have hspells : Spells sayOpening _ := ((Spells.literal rfl).append (.literal rfl)).append (.literal rfl)
  rw [hspells]
  exact ⟨_, (List.dropLast_append_getLast (by simp)).symm, by decide +kernel, by decide +kernel⟩

lemma sayBetween_spelled : ∃ middle, sayBetween.toList = '"' :: (middle ++ ['"']) ∧ '"' ∉ middle ∧ '\n' ∈ middle ∧
    IsKept ('"' :: middle) := by
  have hspells : Spells sayBetween _ := .literal rfl
  rw [hspells]
  exact ⟨_, congrArg _ (List.dropLast_append_getLast (by simp)).symm, by decide +kernel, by decide +kernel,
    by decide +kernel⟩

lemma sayClosing_spelled : ∃ tail, sayClosing.toList = '"' :: tail ∧ '"' ∉ tail ∧ IsKept ('"' :: tail) := by
  have hspells : Spells sayClosing _ := ((Spells.literal rfl).append (.literal rfl)).append (.literal rfl)
  rw [hspells]
  exact ⟨_, rfl, by decide +kernel, by decide +kernel⟩

lemma sayCode_spelled : ∃ head middle tail,
    ('"' ∉ head ∧ '"' ∉ middle ∧ '"' ∉ tail ∧ '\n' ∈ middle) ∧
    (IsKept head ∧ IsKept ('"' :: middle) ∧ IsKept ('"' :: tail)) ∧
    ∀ text, (sayCode text).toList =
      head ++ '"' :: (text.toList ++ '"' :: (middle ++ '"' :: (text.toList ++ '"' :: tail))) := by
  obtain ⟨head, hopening, hhead, hhead'⟩ := sayOpening_spelled
  obtain ⟨middle, hbetween, hmiddle, hbreak, hmiddle'⟩ := sayBetween_spelled
  obtain ⟨tail, hclosing, htail, htail'⟩ := sayClosing_spelled
  refine ⟨head, middle, tail, ⟨hhead, hmiddle, htail, hbreak⟩, ⟨hhead', hmiddle', htail'⟩, fun text => ?_⟩
  rw [sayCode_eq]
  simp only [String.toList_append, hopening, hbetween, hclosing]
  simp

lemma quotesTwice_sayCode (text : String) : QuotesTwice text.toList (sayCode text).toList := by
  obtain ⟨head, middle, tail, ⟨hhead, hmiddle, htail, hbreak⟩, -, hcode⟩ := sayCode_spelled
  exact ⟨head, middle, tail, hhead, hmiddle, htail, hbreak, hcode text⟩

/-- Nothing is thinned out of the code for a message on one line. -/
lemma thinned_sayCode {text : String} (hline : '\n' ∉ text.toList) : thinned (sayCode text) = sayCode text := by
  obtain ⟨head, middle, tail, -, ⟨hhead, hmiddle, htail⟩, hcode⟩ := sayCode_spelled
  have hblank : isBlank '"' = false := by decide
  have hquoted : '\n' ∉ '"' :: text.toList := by simp [hline]
  -- The text is on its line with the quote before it, and the code is cut at the quotes.
  have hcut (rest : List Char) :
      thinBlankLines ('"' :: (text.toList ++ rest)) = '"' :: (text.toList ++ thinBlankLines rest) :=
    thinBlankLines_append_first hquoted rest
  have hpieces : (sayCode text).toList =
      head ++ '"' :: (text.toList ++ ('"' :: middle ++ '"' :: (text.toList ++ '"' :: tail))) := hcode text
  rw [thinned, hpieces, thinBlankLines_append hblank, hcut, thinBlankLines_append hblank, hcut, hhead, hmiddle, htail,
    ← hpieces, String.ofList_toList]

/-! ## Messages of text -/

/-- A fragment of a message that is text, with the text it was written as. -/
structure TextFragment where
  written : String
  value : String

def TextFragment.node (fragment : TextFragment) : Node :=
  .word fragment.written .messageText fragment.value

/-- The text of a whole message. -/
def wholeText (fragments : List TextFragment) : String :=
  String.join (fragments.map TextFragment.value)

/-- Words of the command. -/
def sayWord : String := "say"

def messageWord : String := "message"

/-- The output of `say` is the code for the first fragment, whatever has been put out before. -/
lemma next_say {s : Frame} {words : List String} {o : Operand} {operands : List Operand} {written : String}
    {first : TextFragment} {rest : List Node} (hwords : s.draft.words = sayWord :: messageWord :: words)
    (hoperands : s.draft.operands = o :: operands) (hmessage : o.node = .message written (first.node :: rest)) :
    next commands s = .ok (some ⟨⟩)
      { s with draft := { s.draft with words, operands, output := sayCode first.value } } := by
  have htext : o.node.text? = some written := by rw [hmessage]; rfl
  have hvalue : BuildM.ofExcept id o.node.messageText s.build = .ok first.value s.build := by rw [hmessage]; rfl
  let s₁ : Frame := { s with draft := { s.draft with words := messageWord :: words }.append (comment sayWord) }
  have hread : operand messageWord (fun node => BuildM.ofExcept id node.messageText) s₁ = _ :=
    operand_ok rfl hoperands htext hvalue
  have hrun : say s₁ = .ok ⟨⟩ { s with draft := { s.draft with words, operands, output := sayCode first.value } } := by
    change (operand messageWord _ >>= _) s₁ = _
    rw [run_bind, hread]
    rfl
  have hnext : next commands s = (some <$> say) s₁ := next_plain hwords rfl
  rw [hnext, run_map, hrun]

/-- A new command with a message is compiled to the code for the first fragment. -/
lemma compile_say {c : Compilation} {words : List String} {written : String} {first : TextFragment}
    {rest others : List Node} (hwords : splitColons c.identifier = sayWord :: messageWord :: words)
    (harguments : c.arguments = .message written (first.node :: rest) :: others) (hnew : c.IsNew)
    (hline : '\n' ∉ first.value.toList) :
    ∃ m after, c.run = .ok m after ∧ after.methods.get? c.text = some m ∧ m.HasBody (sayCode first.value) := by
  have hoperands : (startFrame c.compiled (operandsOf c.compiled c.arguments) c.identifier c.before).draft.operands =
      operandsOf c.compiled (.message written (first.node :: rest) :: others) := by
    rw [harguments]
    rfl
  rw [operandsOf] at hoperands
  have hrun := compileWith_native c.dump hnew (next_say hwords hoperands rfl)
  rw [← Compilation.run_eq] at hrun
  have hbody := hasBody_ofOutput c.before.counter c.text (sayCode first.value) [] false false
  rw [thinned_sayCode hline] at hbody
  exact ⟨_, _, hrun, Registry.get?_set_self .., hbody⟩

/-! ## The literals of a message -/

lemma quotesTwice_code {m : Method} {text : String} (h : m.HasBody (sayCode text)) :
    QuotesTwice text.toList m.code.toList := by
  have hsymbol : '"' ∉ ("private static int command_" ++ toString m.number).toList :=
    notMem_numbered m.number (by decide) (by decide)
  have hdispatcher :
      '"' ∉ (if m.needsDispatcher then ", CommandDispatcher<CommandSourceStack> dispatcher" else "").toList := by
    cases m.needsDispatcher <;> decide
  have hmacros : '"' ∉ (if m.needsMacros then ", CompoundTag marcos" else "").toList := by
    cases m.needsMacros <;> decide
  have hopening : '"' ∉ ("private static int command_" ++ toString m.number ++ "(CommandSourceStack source"
      ++ (if m.needsDispatcher then ", CommandDispatcher<CommandSourceStack> dispatcher" else "")
      ++ (if m.needsMacros then ", CompoundTag marcos" else "")
      ++ ") throws CommandSyntaxException \x7b\n            int result = 0;\n            ").toList := by
    rw [String.toList_append, String.toList_append, String.toList_append, String.toList_append]
    simp only [List.mem_append, not_or]
    exact ⟨⟨⟨⟨hsymbol, by decide⟩, hdispatcher⟩, hmacros⟩, by decide⟩
  rw [h, String.toList_append, String.toList_append, List.append_assoc]
  exact (quotesTwice_sayCode text).wrapped hopening (by decide)

lemma wholeText_cons (fragment : TextFragment) (rest : List TextFragment) :
    (wholeText (fragment :: rest)).toList = fragment.value.toList ++ (wholeText rest).toList := by
  rw [wholeText, List.map_cons, String.join_cons, String.toList_append]
  rfl

lemma wholeText_eq_nil_iff {fragments : List TextFragment} :
    (wholeText fragments).toList = [] ↔ ∀ fragment ∈ fragments, fragment.value = "" := by
  induction fragments with
  | nil => simp [wholeText]
  | cons fragment fragments ih =>
    rw [wholeText_cons, List.append_eq_nil_iff, ih, List.forall_mem_cons, String.toList_eq_nil_iff]

/-- Two literals of the code read as the whole message exactly if the first fragment needs no escapes and there is
nothing in the others. -/
lemma QuotesTwice.whole_iff {first : TextFragment} {rest : List TextFragment} {code : List Char}
    (h : QuotesTwice first.value.toList code) (hline : Literal.IsOneLine first.value.toList) :
    2 ≤ (Literal.literals code).count (wholeText (first :: rest)).toList ↔
      Literal.IsPlain first.value.toList ∧ ∀ fragment ∈ rest, fragment.value = "" := by
  rw [wholeText_cons, ← wholeText_eq_nil_iff]
  constructor
  · intro hcount
    have hmem := List.count_pos_iff.mp (Nat.lt_of_lt_of_le Nat.two_pos hcount)
    obtain ⟨heq, hplain⟩ := h.of_mem_literals hmem (by simp)
    exact ⟨hplain, List.append_right_eq_self.mp heq⟩
  · rintro ⟨hplain, hrest⟩
    rw [h.literals_eq hplain hline, hrest, List.append_nil]
    simp

/-- A new command with a message of text is compiled to the code for its first fragment, when this is on one line. Two
literals of the code read as the whole message exactly if nothing in this fragment needs an escape and nothing is in
the others. -/
theorem broadcast_whole_iff {c : Compilation} {words : List String} {written : String} {first : TextFragment}
    {rest : List TextFragment} {others : List Node}
    (hwords : splitColons c.identifier = sayWord :: messageWord :: words)
    (harguments : c.arguments = .message written ((first :: rest).map TextFragment.node) :: others) (hnew : c.IsNew)
    (hline : Literal.IsOneLine first.value.toList) :
    ∃ m after, c.run = .ok m after ∧ after.methods.get? c.text = some m ∧ m.HasBody (sayCode first.value) ∧
      (2 ≤ (Literal.literals m.code.toList).count (wholeText (first :: rest)).toList ↔
        Literal.IsPlain first.value.toList ∧ ∀ fragment ∈ rest, fragment.value = "") := by
  obtain ⟨m, after, hrun, hget, hbody⟩ := compile_say hwords harguments hnew hline.newline_notMem
  exact ⟨m, after, hrun, hget, hbody, (quotesTwice_code hbody).whole_iff hline⟩

/-- The first command of a build, with a message of these fragments. -/
def broadcast (fragments : List TextFragment) : Compilation where
  compiled := []
  text := "say " ++ wholeText fragments
  identifier := "say:message"
  arguments := [.message (wholeText fragments) (fragments.map TextFragment.node)]
  dump := ""
  before := {}

lemma broadcast_words (fragments : List TextFragment) :
    splitColons (broadcast fragments).identifier = [sayWord, messageWord] := by
  change splitColons "say:message" = _
  decide

/-- A text without quotes that is all of its message. -/
def helloFragments : List TextFragment :=
  [⟨"Hello, it's me!", "Hello, it's me!"⟩, ⟨"", ""⟩]

theorem hello_broadcast_whole :
    (broadcast helloFragments).IsNew ∧ ∃ m after, (broadcast helloFragments).run = .ok m after ∧
      after.methods.get? "say Hello, it's me!" = some m ∧
      2 ≤ (Literal.literals m.code.toList).count "Hello, it's me!".toList := by
  have hnew : (broadcast helloFragments).IsNew := rfl
  obtain ⟨m, after, hrun, hget, -, hwhole⟩ :=
    broadcast_whole_iff (broadcast_words helloFragments) rfl hnew (by decide)
  exact ⟨hnew, m, after, hrun, hget, hwhole.mpr (by decide)⟩

lemma broadcast_quotesTwice (first : TextFragment) (rest : List TextFragment)
    (hline : Literal.IsOneLine first.value.toList) :
    ∃ m after, (broadcast (first :: rest)).run = .ok m after ∧ QuotesTwice first.value.toList m.code.toList := by
  obtain ⟨m, after, hrun, -, hbody⟩ := compile_say (broadcast_words (first :: rest)) rfl rfl hline.newline_notMem
  exact ⟨m, after, hrun, quotesTwice_code hbody⟩

def quotedFragment : TextFragment :=
  ⟨"He said \"hi\"", "He said \"hi\""⟩

/-- A quote in a message ends its literals, and what is in a second fragment is not in them. -/
theorem quoted_and_split_broadcasts_not_whole :
    (∃ m after, (broadcast [quotedFragment]).run = .ok m after ∧
      ¬2 ≤ (Literal.literals m.code.toList).count (wholeText [quotedFragment]).toList) ∧
    (∃ m after, (broadcast [⟨"Hello ", "Hello "⟩, ⟨"World", "World"⟩]).run = .ok m after ∧
      ¬2 ≤ (Literal.literals m.code.toList).count
        (wholeText [⟨"Hello ", "Hello "⟩, ⟨"World", "World"⟩]).toList) := by
  constructor
  · obtain ⟨m, after, hrun, hquotes⟩ := broadcast_quotesTwice quotedFragment [] (by decide)
    refine ⟨m, after, hrun, fun hwhole => ?_⟩
    exact absurd ((hquotes.whole_iff (by decide)).mp hwhole) (by decide)
  · obtain ⟨m, after, hrun, hquotes⟩ :=
      broadcast_quotesTwice ⟨"Hello ", "Hello "⟩ [⟨"World", "World"⟩] (by decide)
    refine ⟨m, after, hrun, fun hwhole => ?_⟩
    exact absurd ((hquotes.whole_iff (by decide)).mp hwhole) (by decide)

end PackToMod
