import PackToMod.Proofs.BalancedCode

/-!
# Comparing two regions

`execute if blocks` and `execute unless blocks` read the same words and nodes, and are meant to test a condition
and its negation. The condition is a loop over all blocks. Where its failure is asked for, the text of the loop
ends before the blocks are compared: it lacks all of `regionsTail` and not only the statement that counts, so that
two braces and a parenthesis stay open.
-/

namespace PackToMod

open DraftM

/-- A vector of three coordinates. -/
def Node.HasCoordinates : Node → Prop
  | .vector3 _ x y z => (∃ c, x.coordinate? = some c) ∧ (∃ c, y.coordinate? = some c) ∧ ∃ c, z.coordinate? = some c
  | _ => False

/-- An operand that is a position, with the expression for the block it is in. -/
structure BlockPosition where
  operand : Operand
  text : String
  expression : String
  hasText : operand.node.text? = some text
  isVector : operand.node.HasCoordinates
  isAt : operand.node.position true sourcePosition sourceRotation = .ok expression

inductive RegionMode where
  | all
  | masked

namespace RegionMode

def word : RegionMode → String
  | all => "all"
  | masked => "masked"

/-- The code that leaves out a block. -/
def skip : RegionMode → String
  | all => ""
  | masked => "if (original_state.isAir()) continue;\n"

end RegionMode

/-- Two regions to compare: the corners of one and the place of the other. -/
structure Comparison where
  start : BlockPosition
  stop : BlockPosition
  destination : BlockPosition
  mode : RegionMode

namespace Comparison

/-- The words of a comparison, with those that follow it. -/
def words (c : Comparison) (rest : List String) : List String :=
  "blocks" :: "start" :: "end" :: "destination" :: c.mode.word :: rest

def operands (c : Comparison) (rest : List Operand) : List Operand :=
  c.start.operand :: c.stop.operand :: c.destination.operand :: rest

/-- The text of the condition. -/
def test (c : Comparison) (affirmed : Bool) : String :=
  regionsHead c.start.expression c.stop.expression c.destination.expression ++ c.mode.skip
    ++ if affirmed then regionsTail else ""

/-- The comments on what a comparison reads. The counter of the blocks is declared only where they are counted. -/
def lead (c : Comparison) (affirmed : Bool) : String :=
  comment c.start.text ++ comment c.stop.text ++ comment c.destination.text
    ++ (if affirmed then "int totalBlocks = 0;" else "") ++ comment c.mode.word

end Comparison

/-! ## What is put out -/

/-- The frame with other words and operands to read, and with some text put out. -/
def Frame.past (s : Frame) (words : List String) (operands : List Operand) (text : String) : Frame :=
  { s with draft := { s.draft with words, operands, output := s.draft.output ++ text } }

section

variable (s : Frame) (words words' : List String) (operands operands' : List Operand) (text text' : String)

@[simp] lemma Frame.past_words : (s.past words operands text).draft.words = words := rfl

@[simp] lemma Frame.past_operands : (s.past words operands text).draft.operands = operands := rfl

@[simp] lemma Frame.past_past :
    (s.past words operands text).past words' operands' text' = s.past words' operands' (text ++ text') := by
  unfold past
  simp only [String.append_assoc]

lemma emit_past : emit text' (s.past words operands text) = .ok ⟨⟩ (s.past words operands (text ++ text')) := by
  rw [← Frame.past_past s words words operands operands]
  rfl

/-- Reading a word that stands alone. -/
lemma next_past_plain {α : Type} {handlers : Handlers (DraftM α)} {word : String} {x : DraftM α}
    (hlookup : handlers.lookup word = some (.plain x)) :
    next handlers (s.past (word :: words) operands text) =
      (some <$> x) (s.past words operands (text ++ comment word)) := by
  rw [next_plain rfl hlookup, ← Frame.past_past s words words operands operands]
  rfl

lemma blockPosition_past (word : String) (p : BlockPosition) :
    blockPosition word (s.past (word :: words) (p.operand :: operands) text) =
      .ok (some p.expression) (s.past words operands (text ++ comment p.text)) := by
  have hlookup : [(word, Handler.operand fun o : Operand => onBuild (o.node.sourceVector true))].lookup word =
      some (.operand fun o => onBuild (o.node.sourceVector true)) := by
    simp
  have hvector : p.operand.node.sourceVector true = pure p.expression := by
    rw [Node.sourceVector, p.isAt]
    rfl
  rw [blockPosition, operand, next_operand rfl hlookup rfl p.hasText, hvector,
    ← Frame.past_past s words words operands operands]
  rfl

lemma mode_past (mode : RegionMode) :
    next [("all", .plain (pure "")), ("masked", .plain (pure "if (original_state.isAir()) continue;\n"))]
      (s.past (mode.word :: words) operands text) =
        .ok (some mode.skip) (s.past words operands (text ++ comment mode.word)) := by
  cases mode with
  | all =>
    rw [RegionMode.word, next_past_plain (x := pure "") _ _ _ _ rfl]
    rfl
  | masked =>
    rw [RegionMode.word, next_past_plain (x := pure RegionMode.masked.skip) _ _ _ _ rfl]
    rfl

end

section

variable (c : Comparison) (affirmed : Bool) (s : Frame) (rest : List String) (operands : List Operand) (text : String)

/-- The words that ask for a condition and for its failure. -/
def conditionWord : String :=
  if affirmed then "if" else "unless"

/-- The head of a guard for a condition or for its failure. -/
def guardCode (test : String) : String :=
  "if (" ++ (if affirmed then "" else "!") ++ "(" ++ test ++ ")) \x7b\n"

lemma regionsCondition_run :
    regionsCondition affirmed (s.past ("start" :: "end" :: "destination" :: c.mode.word :: rest)
      (c.operands operands) text) = .ok ⟨c.test affirmed, some (storeCount affirmed "totalBlocks")⟩
        (s.past rest operands (text ++ c.lead affirmed)) := by
  have hrequire (skip : String) : onBuild (BuildM.require .noText (some skip)) = pure skip := rfl
  unfold regionsCondition Comparison.operands
  rw [run_bind, blockPosition_past]
  dsimp only
  rw [run_bind, blockPosition_past]
  dsimp only
  rw [run_bind, blockPosition_past]
  dsimp only [shown, Option.getD_some]
  cases affirmed with
  | true =>
    rw [if_pos rfl, run_bind, emit_past]
    dsimp only
    rw [run_bind, mode_past]
    dsimp only
    rw [hrequire, pure_bind, run_pure]
    simp [Comparison.test, Comparison.lead, String.append_assoc]
  | false =>
    rw [if_neg Bool.false_ne_true, run_bind, mode_past]
    dsimp only
    rw [hrequire, pure_bind, run_pure]
    simp [Comparison.test, Comparison.lead, String.append_assoc]

lemma condition_regions :
    condition affirmed (s.past (c.words rest) (c.operands operands) text) =
      .ok ⟨guardClosing, .result (storeCount affirmed "totalBlocks")⟩ (s.past rest operands
        (text ++ comment "blocks" ++ c.lead affirmed ++ guardCode affirmed (c.test affirmed))) := by
  unfold condition Comparison.words
  rw [run_bind, next_past_plain (x := regionsCondition affirmed) _ _ _ _ rfl, run_map, regionsCondition_run]
  dsimp only [Option.getD_some]
  rw [run_bind, emit_past]
  rfl

/-- `execute` at a comparison, up to what follows it. -/
lemma execute_regions :
    execute (s.past (conditionWord affirmed :: c.words rest) (c.operands operands) text) =
      (finish (.result (storeCount affirmed "totalBlocks")) >>= fun _ => emit guardClosing)
        (s.past rest operands (text ++ comment (conditionWord affirmed) ++ comment "blocks" ++ c.lead affirmed
          ++ guardCode affirmed (c.test affirmed))) := by
  have hlookup : clauses.lookup (conditionWord affirmed) = some (.plain (condition affirmed)) := by
    cases affirmed <;> rfl
  unfold execute
  rw [run_bind, next_past_plain _ _ _ _ hlookup, run_map, condition_regions]
  rfl

end

/-! ## The loop and its end -/

lemma RegionMode.skip_balanced (mode : RegionMode) : Balanced mode.skip := by
  cases mode <;> decide

lemma Node.valueText_of_coordinate {node : Node} {c : Coordinate} (h : node.coordinate? = some c) :
    Holds Balanced node.valueText := by
  cases node with
  | coordinate text value => exact (bracketless_number value.value).balanced
  | _ => cases h

lemma BlockPosition.balanced (p : BlockPosition) : Balanced p.expression := by
  have hvector := p.isVector
  have hposition := p.isAt
  cases hnode : p.operand.node with
  | vector3 text x y z =>
    rw [hnode] at hvector hposition
    obtain ⟨⟨_, hx⟩, ⟨_, hy⟩, ⟨_, hz⟩⟩ := hvector
    have hholds := vector3_holds text (x.valueText_of_coordinate hx) (y.valueText_of_coordinate hy)
      (z.valueText_of_coordinate hz) true sourcePosition_balanced sourceRotation_balanced
    rwa [hposition] at hholds
  | _ =>
    rw [hnode] at hvector
    cases hvector

/-- A text without the statement that counts a block. -/
def uncounted (test : String) : String :=
  String.ofList (Text.replaceFirst "totalBlocks++;".toList [] test.toList)

lemma Text.length_le_replaceFirst (old new l : List Char) :
    l.length ≤ (replaceFirst old new l).length + old.length := by
  fun_induction replaceFirst old new l with
  | case1 | case2 => simp
  | case3 c cs h =>
    simp only [List.length_append, List.length_drop]
    omega
  | case4 c cs h ih =>
    simp only [List.length_cons]
    omega

lemma length_regionsTail : "totalBlocks++;".toList.length < regionsTail.toList.length := by
  have hfirst : "totalBlocks++;".toList.length <
      "\n                            var compare_state = ".toList.length := by decide
  unfold regionsTail
  simp only [String.toList_append, List.length_append]
  omega

namespace Comparison

variable (c : Comparison)

lemma test_true : c.test true = c.test false ++ regionsTail := by
  unfold test
  simp

lemma test_ne_uncounted : c.test false ≠ uncounted (c.test true) := by
  intro heq
  have hlength : (c.test false).toList.length = (uncounted (c.test true)).toList.length := by rw [← heq]
  have hle := Text.length_le_replaceFirst "totalBlocks++;".toList [] (c.test true).toList
  have htail := length_regionsTail
  rw [uncounted, String.toList_ofList] at hlength
  rw [c.test_true, String.toList_append, List.length_append] at hle
  rw [c.test_true, String.toList_append] at hlength
  omega

/-- Where the failure of the condition is asked for, what the head of the loop opens stays open. -/
lemma test_false_nests : Nests [] ['}', '}', ')'] (c.test false) := by
  have hhead := regionsHead_nests c.start.balanced c.stop.balanced c.destination.balanced
  unfold test
  rw [if_neg Bool.false_ne_true, String.append_empty]
  exact hhead.append (c.mode.skip_balanced.nests _)

lemma test_true_balanced : Balanced (c.test true) := by
  unfold test
  exact regions_balanced c.start.balanced c.stop.balanced c.destination.balanced c.mode.skip_balanced

/-- A guard for the failure closes its own parenthesis where a brace of the loop is open. No brackets around it
make up for that. -/
lemma nest_guard_false (σ : List Char) : nest σ (guardCode false (c.test false)).toList = none := by
  have hopening : Nests σ (')' :: ')' :: σ) "if (!(" :=
    Shaped.nests (σ := []) (τ := [')', ')']) (by decide) σ
  have htest : Nests (')' :: ')' :: σ) ('}' :: '}' :: ')' :: ')' :: ')' :: σ) (c.test false) :=
    nest_frame c.test_false_nests (')' :: ')' :: σ)
  have hopened := hopening.append htest
  have hguard : guardCode false (c.test false) = "if (!(" ++ c.test false ++ ")) \x7b\n" := by
    unfold guardCode
    rfl
  rw [hguard, String.toList_append, nest_append, hopened]
  rfl

/-- The code of a comparison that no subcommand follows. -/
def output (affirmed : Bool) : String :=
  comment "execute" ++ comment (conditionWord affirmed) ++ comment "blocks" ++ c.lead affirmed
    ++ guardCode affirmed (c.test affirmed) ++ storeCount affirmed "totalBlocks" ++ guardClosing

lemma nest_output_false (σ : List Char) : nest σ (c.output false).toList = none := by
  unfold output
  simp only [String.toList_append, nest_append, c.nest_guard_false, Option.bind_none, Option.bind_fun_none]

end Comparison

/-- Two regions, in either mode, with whatever follows and from any state: `execute if blocks` and `execute unless
blocks` go on in the same way below their guards. The guard of the former has the whole loop in it. The guard of
the latter negates what its text holds, but that is not the loop without the statement that counts: it is the
loop without its tail, what the loop opens is not closed, and no code that such a guard stands in is balanced. -/
theorem unless_regions_cut_short (c : Comparison) (s : Frame) (rest : List String) (operands : List Operand) :
    (∀ affirmed, execute (s.past (conditionWord affirmed :: c.words rest) (c.operands operands) "") =
      (finish (.result (storeCount affirmed "totalBlocks")) >>= fun _ => emit guardClosing)
        (s.past rest operands (comment (conditionWord affirmed) ++ comment "blocks" ++ c.lead affirmed
          ++ guardCode affirmed (c.test affirmed)))) ∧
    c.test true = c.test false ++ regionsTail ∧ c.test false ≠ uncounted (c.test true) ∧
    Balanced (c.test true) ∧ Nests [] ['}', '}', ')'] (c.test false) ∧
    ∀ opening closing, ¬Balanced (opening ++ guardCode false (c.test false) ++ closing) := by
  refine ⟨fun affirmed => ?_, c.test_true, c.test_ne_uncounted, c.test_true_balanced, c.test_false_nests, ?_⟩
  · rw [execute_regions, String.empty_append]
  · intro opening closing hbalanced
    have hnest := hbalanced.nests_nil
    unfold Nests at hnest
    simp only [String.toList_append, nest_append, c.nest_guard_false, Option.bind_fun_none, Option.bind_none] at hnest
    cases hnest

/-! ## A comparison and its failure, compiled -/

/-- Without words left the code of the result is put out. -/
lemma finish_past (s : Frame) (operands : List Operand) (text code closing : String) :
    (finish (.result code) >>= fun _ => emit closing) (s.past [] operands text) =
      .ok ⟨⟩ (s.past [] operands (text ++ code ++ closing)) := by
  unfold finish
  rw [if_neg nofun, run_bind, run_bind, next_nil rfl]
  dsimp only [Option.isNone_none]
  rw [if_pos rfl, emit_past]
  dsimp only
  rw [emit_past]

lemma Comparison.handled (c : Comparison) (affirmed : Bool) (compiled : List String) {identifier : String}
    (b : Build) (hwords : Text.splitColons identifier = "execute" :: conditionWord affirmed :: c.words []) :
    next commands (startFrame compiled (c.operands []) identifier b) =
      .ok (some ⟨⟩) ((startFrame compiled (c.operands []) identifier b).past [] [] (c.output affirmed)) := by
  set s := startFrame compiled (c.operands []) identifier b with hs
  have hstart : s = s.past ("execute" :: conditionWord affirmed :: c.words []) (c.operands []) "" := by
    rw [hs, startFrame, startDraft, hwords]
    rfl
  rw [hstart, next_past_plain (x := execute) _ _ _ _ rfl, run_map, execute_regions, finish_past, String.empty_append]
  rfl

/-- The method of a comparison that no subcommand follows. -/
def Comparison.method (c : Comparison) (affirmed : Bool) (number : Nat) (text : String) : Method :=
  .ofOutput number text (c.output affirmed) [] false false .never

lemma Comparison.compileWith_eq (c : Comparison) (affirmed : Bool) (compiled : List String)
    {identifier text : String} (dump : String) {b : Build} (hnew : b.methods.get? text = none)
    (hwords : Text.splitColons identifier = "execute" :: conditionWord affirmed :: c.words []) :
    ∃ after, compileWith compiled (c.operands []) text identifier dump b =
      .ok (c.method affirmed b.counter text) after := by
  have hmethod : ((startFrame compiled (c.operands []) identifier b).past [] [] (c.output affirmed)).draft.method
      b.counter text = c.method affirmed b.counter text := by
    simp only [Frame.past, startFrame, startDraft, Draft.method, Comparison.method, String.empty_append]
  rw [compileWith_native dump hnew (c.handled affirmed compiled b hwords), hmethod]
  exact ⟨_, rfl⟩

lemma Comparison.method_false_unbalanced (c : Comparison) (number : Nat) (text : String) :
    ¬Balanced (c.method false number text).code := by
  intro hbalanced
  have hnest := hbalanced.nests_nil
  unfold method Method.ofOutput methodCode Nests at hnest
  simp only [String.toList_append, String.toList_ofList, nest_append, nest_thinBlankLines, c.nest_output_false,
    Option.bind_fun_none, Option.bind_none] at hnest
  cases hnest

/-- The position of a block whose coordinates are the same number. -/
def diagonalBlock (text : String) (n : Int) : Node :=
  .vector3 (text ++ " " ++ text ++ " " ++ text) (.coordinate text ⟨.absolute, .integer n⟩)
    (.coordinate text ⟨.absolute, .integer n⟩) (.coordinate text ⟨.absolute, .integer n⟩)

def diagonalPosition (text : String) (n : Int) : BlockPosition where
  operand := ⟨diagonalBlock text n, (diagonalBlock text n).compile []⟩
  text := text ++ " " ++ text ++ " " ++ text
  expression := "new Vec3i(" ++ (toString n ++ " + 0") ++ ", " ++ (toString n ++ " + 0") ++ ", "
    ++ (toString n ++ " + 0") ++ ")"
  hasText := rfl
  isVector := ⟨⟨_, rfl⟩, ⟨_, rfl⟩, _, rfl⟩
  isAt := rfl

/-- The blocks from the origin on, and those two blocks further along the diagonal. -/
def diagonalRegions : Comparison :=
  ⟨diagonalPosition "0" 0, diagonalPosition "1" 1, diagonalPosition "2" 2, .all⟩

def compareRegions (affirmed : Bool) : Node :=
  .command ("execute " ++ conditionWord affirmed ++ " blocks 0 0 0 1 1 1 2 2 2 all")
    ("execute:" ++ conditionWord affirmed ++ ":blocks:start:end:destination:all")
    [diagonalBlock "0" 0, diagonalBlock "1" 1, diagonalBlock "2" 2] ""

lemma compareRegions_compile (affirmed : Bool) : ∃ after, (compareRegions affirmed).compile [] {} =
    .ok (diagonalRegions.method affirmed 0 ("execute " ++ conditionWord affirmed ++ " blocks 0 0 0 1 1 1 2 2 2 all"))
      after :=
  diagonalRegions.compileWith_eq affirmed [] "" rfl (by cases affirmed <;> decide)

lemma diagonalRegions_output_balanced : Balanced (diagonalRegions.output true) := by
  have htest := diagonalRegions.test_true_balanced
  have hlead : Balanced (diagonalRegions.lead true) := by decide
  have hexecute : Balanced (comment "execute") := by decide
  have hword : Balanced (comment (conditionWord true)) := by decide
  have hblocks : Balanced (comment "blocks") := by decide
  have hresult : Balanced (storeCount true "totalBlocks") := by decide
  unfold Comparison.output guardCode guardClosing
  rw [if_pos rfl]
  exact Shaped.balanced (by decide)

/-- The same regions are compared and tested for a difference: the former method is balanced, the latter is not. -/
theorem unless_blocks_unclosed :
    ∃ m b m' b', (compareRegions true).compile [] {} = .ok m b ∧ (compareRegions false).compile [] {} = .ok m' b' ∧
      Balanced m.code ∧ ¬Balanced m'.code := by
  obtain ⟨b, hmethod⟩ := compareRegions_compile true
  obtain ⟨b', hmethod'⟩ := compareRegions_compile false
  have htext : Balanced ("execute " ++ conditionWord true ++ " blocks 0 0 0 1 1 1 2 2 2 all") := by decide
  exact ⟨_, b, _, b', hmethod, hmethod', (isBalanced_ofOutput htext diagonalRegions_output_balanced ..).code,
    diagonalRegions.method_false_unbalanced _ _⟩

end PackToMod
