import Mathlib.Logic.Function.Basic
import PackToMod.Constant.Tag
import PackToMod.Proofs.BinaryText
import PackToMod.Proofs.BlankLines
import PackToMod.Proofs.Symbols

/-!
# Programs that build tags

The initialiser of a tag is text. Here is the language it is in: statements of one line each, a reader for
them, and what they do to a store of named values. Putting a value into a container takes it out of the
store, so a program that runs to its end has used no value twice and changed none after it was put somewhere;
it makes no difference then whether a container holds a value or refers to it.
-/

namespace PackToMod

/-- A tag that has been built. A compound has at most one value under a key. -/
inductive TagValue where
  | byte (n : Int)
  | short (n : Int)
  | int (n : Int)
  | long (n : Int)
  | float (x : Binary64)
  | double (x : Binary64)
  | string (s : String)
  | list (elements : List TagValue)
  | compound (entries : String → Option TagValue)

def TagValue.ofBool (b : Bool) : TagValue :=
  .byte (if b then 1 else 0)

namespace TagProgram

/-- The values of the names that have one. -/
abbrev Store := String → Option TagValue

/-- A value that is put into a container: that of a name, or a boolean written in place. -/
inductive Argument where
  | name (s : String)
  | flag (b : Bool)

inductive Statement where
  | assign (isLocal : Bool) (name : String) (value : TagValue)
  | put (name key : String) (argument : Argument)
  | add (name : String) (argument : Argument)

/-! ## Running programs -/

/-- The value of an argument, which is not in the store afterwards. -/
def Argument.take (store : Store) : Argument → Option (TagValue × Store)
  | name s => (store s).map fun v => (v, Function.update store s none)
  | flag b => some (.ofBool b, store)

/-- A statement fails that assigns a name a second time, reads a name without a value, or puts something
into a value that is no such container. -/
def Statement.run (store : Store) : Statement → Option Store
  | assign _ name value =>
    if (store name).isSome then none else some (Function.update store name (some value))
  | put name key argument => do
    let (v, store) ← argument.take store
    match store name with
    | some (.compound entries) =>
      some (Function.update store name (some (.compound (Function.update entries key (some v)))))
    | _ => none
  | add name argument => do
    let (v, store) ← argument.take store
    match store name with
    | some (.list elements) => some (Function.update store name (some (.list (elements ++ [v]))))
    | _ => none

def run : List Statement → Store → Option Store
  | [], store => some store
  | statement :: program, store => (statement.run store).bind (run program)

lemma run_append (p q : List Statement) (store : Store) :
    run (p ++ q) store = (run p store).bind (run q) := by
  induction p generalizing store with
  | nil => rfl
  | cons statement p ih =>
    rw [List.cons_append, run, run, Option.bind_assoc]
    congr 1
    funext store
    exact ih store

/-- The name that a statement assigns, with the mark of a local one. -/
def Statement.assigned? : Statement → Option (Bool × String)
  | assign isLocal name _ => some (isLocal, name)
  | _ => none

def assigned (program : List Statement) : List (Bool × String) :=
  program.filterMap Statement.assigned?

/-! ## Reading programs -/

/-- What stands between the two ends of a text. -/
def between? (opening closing s : List Char) : Option (List Char) :=
  (s.dropPrefix? opening).bind (·.dropSuffix? closing)

def isNamePart (c : Char) : Bool :=
  c.isAlphanum || c == '_'

/-- A name and what follows it. -/
def readName (s : List Char) : String × List Char :=
  (String.ofList (s.takeWhile isNamePart), s.dropWhile isNamePart)

def readFlag? (s : List Char) : Option Bool :=
  if s = "true".toList then some true else if s = "false".toList then some false else none

def readArgument? (s : List Char) : Option Argument :=
  if s.all isNamePart then some (.name (String.ofList s))
  else ((between? "ByteTag.valueOf(".toList [')'] s).bind readFlag?).map .flag

def readInt? : List Char → Option Int
  | '-' :: s => (Decimal.readDigits? s).map fun n : Nat => -(n : Int)
  | s => (Decimal.readDigits? s).map fun n : Nat => (n : Int)

/-- A text in which nothing is escaped. -/
def readString? (s : List Char) : Option String :=
  if '"' ∈ s ∨ '\\' ∈ s then none else some (String.ofList s)

/-- What stands in the brackets of a literal of the given type. -/
def readLiteral? (type : TagType) (s : List Char) : Option TagValue :=
  match type with
  | .byte => ((between? "(byte) ".toList [] s).bind readInt?).map .byte
  | .short => ((between? [] ['s'] s).bind readInt?).map .short
  | .int => (readInt? s).map .int
  | .long => ((between? [] ['L'] s).bind readInt?).map .long
  | .float => ((between? [] ['f'] s).bind Binary64.read?).map .float
  | .double => (Binary64.read? s).map .double
  | .string => ((between? ['"'] ['"'] s).bind readString?).map .string
  | .list | .compound => none

def tagTypes : List TagType :=
  [.byte, .short, .int, .long, .float, .double, .string, .list, .compound]

/-- An empty container or a literal. -/
def readExpression? (s : List Char) : Option TagValue :=
  if s = "new CompoundTag()".toList then some (.compound fun _ => none)
  else if s = "new ListTag()".toList then some (.list [])
  else (tagTypes.find? (·.name = (readName s).1)).bind fun type =>
    (between? ".valueOf(".toList [')'] (readName s).2).bind (readLiteral? type)

def readAssignment? (isLocal : Bool) (s : List Char) : Option Statement :=
  ((between? " = ".toList [';'] (readName s).2).bind readExpression?).map (.assign isLocal (readName s).1)

/-- A key and an argument, or an argument alone. -/
def readInsertion? (s : List Char) : Option Statement :=
  match between? ".put(\"".toList ");".toList (readName s).2 with
  | some entry =>
    ((between? "\", ".toList [] (entry.dropWhile (· ≠ '"'))).bind readArgument?).map
      (.put (readName s).1 (String.ofList (entry.takeWhile (· ≠ '"'))))
  | none =>
    ((between? ".add(".toList ");".toList (readName s).2).bind readArgument?).map (.add (readName s).1)

/-- The statement on a line. -/
def readStatement? (line : List Char) : Option Statement :=
  match line.dropPrefix? "var ".toList with
  | some s => readAssignment? true s
  | none => readAssignment? false line <|> readInsertion? line

/-- The statements of a text, one on each line. The last line is ended too. -/
def readLines? : List (List Char) → Option (List Statement)
  | [] => none
  | [rest] => if rest = [] then some [] else none
  | line :: lines => (readStatement? line).bind fun statement => (readLines? lines).map (statement :: ·)

def read? (text : String) : Option (List Statement) :=
  readLines? (Text.split '\n' text.toList)

lemma between?_append (opening closing s : List Char) :
    between? opening closing (opening ++ (s ++ closing)) = some s := by
  unfold between?
  rw [List.dropPrefix?_append_of_beq _ (beq_self_eq_true opening), Option.bind_some,
    List.dropSuffix?_eq_some_iff.mpr ⟨closing, rfl, beq_self_eq_true closing⟩]

lemma between?_suffix (closing s : List Char) : between? [] closing (s ++ closing) = some s :=
  between?_append [] closing s

/-- The name at the front of a text, if what follows cannot go on with it. -/
lemma readName_append {name : String} {rest : List Char} {c : Char}
    (hname : name.toList.all isNamePart = true) (hc : isNamePart c = false) :
    readName (name.toList ++ c :: rest) = (name, c :: rest) := by
  unfold readName
  rw [List.all_eq_true] at hname
  rw [List.takeWhile_append_of_pos hname, List.dropWhile_append_of_pos hname]
  simp [hc]

end TagProgram

open TagProgram

/-! ## Terms -/

lemma TagType.isNamePart_name (type : TagType) : type.name.toList.all isNamePart = true := by
  cases type <;> decide

lemma TagType.isNamePart_head (type : TagType) : (type.name ++ "_").toList.all isNamePart = true := by
  rw [String.toList_append, List.all_append, type.isNamePart_name]
  rfl

lemma TagTerm.text_variable (type : TagType) (n : Nat) :
    (TagTerm.variable type n).text.toList = type.name.toList ++ '_' :: Nat.toDigits 10 n := by
  unfold TagTerm.text
  rw [toList_numbered, String.toList_append, List.append_assoc]
  rfl

/-- A name with a number at its end is a name. -/
lemma isNamePart_numbered {head : String} (hhead : head.toList.all isNamePart = true) (n : Nat) :
    (head ++ toString n).toList.all isNamePart = true := by
  have hdigits : (Nat.toDigits 10 n).all isNamePart = true := by
    rw [List.all_eq_true]
    intro c hc
    have hdigit := Nat.isDigit_of_mem_toDigits (by omega) (by omega) hc
    simp [isNamePart, Char.isAlphanum, hdigit]
  rw [toList_numbered, List.all_append, hhead, hdigits]
  rfl

lemma isNamePart_variable (type : TagType) (n : Nat) :
    (TagTerm.variable type n).text.toList.all isNamePart = true :=
  isNamePart_numbered type.isNamePart_head n

/-- How a term is read as an argument. -/
def TagTerm.argument : TagTerm → Argument
  | .variable type n => .name (TagTerm.variable type n).text
  | .boolean b => .flag b

lemma readArgument?_text (t : TagTerm) : readArgument? t.text.toList = some t.argument := by
  unfold readArgument?
  rcases t with ⟨type, n⟩ | b
  · rw [if_pos (isNamePart_variable type n), String.ofList_toList]
    rfl
  · have hparen : (TagTerm.boolean b).text.toList.all isNamePart = false := by
      cases b <;> decide
    have hflag : readFlag? (if b then "true" else "false").toList = some b := by
      cases b <;> rfl
    rw [hparen, if_neg Bool.false_ne_true]
    unfold TagTerm.text
    rw [String.toList_append, String.toList_append, List.append_assoc]
    change ((between? "ByteTag.valueOf(".toList [')'] ("ByteTag.valueOf(".toList ++ (_ ++ [')']))).bind _).map _ = _
    rw [between?_append, Option.bind_some, hflag]
    rfl

/-! ## Literals -/

/-- The value of a literal, if it has a type that tags have. -/
def TagScalar.value? : TagScalar → Option TagValue
  | byte n => some (.byte n)
  | short n => some (.short n)
  | int n => some (.int n)
  | long n => some (.long n)
  | float x => some (.float (Binary64.ofFloat x))
  | double x => some (.double (Binary64.ofFloat x))
  | string s => some (.string s)
  | unknown _ => none

/-- Text that means the same between quotes, and stays on its line. -/
def IsPlainText (s : String) : Prop :=
  '"' ∉ s.toList ∧ '\\' ∉ s.toList ∧ '\n' ∉ s.toList

/-- The text of a value is one that can stand between quotes. -/
def TagScalar.IsPlain : TagScalar → Prop
  | string s => IsPlainText s
  | _ => True

lemma readDigits?_toDigits (n : Nat) : Decimal.readDigits? (Nat.toDigits 10 n) = some n := by
  rw [Decimal.readDigits?_of_areDigits (Decimal.areDigits_toDigits n) Nat.toDigits_ne_nil,
    Nat.ofDigitChars_ten_toDigits]

lemma readInt?_text (n : Int) : readInt? (toString n).toList = some n := by
  cases n with
  | ofNat n =>
    change readInt? n.repr.toList = _
    rw [Nat.toList_repr]
    unfold readInt?
    split
    · next s hs =>
      -- No digit is a sign.
      have hsign := Decimal.areDigits_toDigits n '-' (hs ▸ List.mem_cons_self)
      exact absurd hsign (by decide)
    · rw [readDigits?_toDigits]
      rfl
  | negSucc n =>
    change readInt? ("-" ++ (n + 1).repr).toList = _
    rw [String.toList_append, Nat.toList_repr]
    change (Decimal.readDigits? (Nat.toDigits 10 (n + 1))).map _ = _
    rw [readDigits?_toDigits]
    rfl

lemma readBinary64?_text (x : Float) : Binary64.read? (Number.real x).text.toList = some (Binary64.ofFloat x) := by
  rw [Number.text, String.toList_ofList]
  exact Binary64.read?_text_ofFloat x

/-- What a literal has in its brackets. -/
def TagScalar.inner : TagScalar → List Char
  | byte n => "(byte) ".toList ++ (toString n).toList
  | short n => (toString n).toList ++ ['s']
  | int n => (toString n).toList
  | long n => (toString n).toList ++ ['L']
  | float x => (Number.real x).text.toList ++ ['f']
  | double x => (Number.real x).text.toList
  | string s => '"' :: (s.toList ++ ['"'])
  | unknown s => s.toList

lemma TagScalar.literal_toList {value : TagScalar} {type : TagType} (h : value.type? = some type) :
    value.literal.toList = type.name.toList ++ (".valueOf(".toList ++ (value.inner ++ [')'])) := by
  cases value with
  | unknown s => cases h
  | _ =>
    cases h
    unfold TagScalar.literal TagScalar.inner
    simp only [String.toList_append, List.append_assoc, List.cons_append]
    rfl

lemma readLiteral?_inner {value : TagScalar} {type : TagType} (h : value.type? = some type)
    (hplain : value.IsPlain) : readLiteral? type value.inner = value.value? := by
  cases value with
  | unknown s => cases h
  | string s =>
    cases h
    have hread : between? ['"'] ['"'] ('"' :: (s.toList ++ ['"'])) = some s.toList :=
      between?_append ['"'] ['"'] s.toList
    obtain ⟨hquote, hbackslash, -⟩ := hplain
    unfold readLiteral? TagScalar.inner TagScalar.value?
    rw [hread, Option.bind_some, readString?, if_neg (not_or.mpr ⟨hquote, hbackslash⟩), String.ofList_toList]
    rfl
  | byte n =>
    cases h
    have hread := between?_append "(byte) ".toList [] (toString n).toList
    rw [List.append_nil] at hread
    unfold readLiteral? TagScalar.inner TagScalar.value?
    rw [hread, Option.bind_some, readInt?_text]
    rfl
  | short n | long n =>
    cases h
    unfold readLiteral? TagScalar.inner TagScalar.value?
    rw [between?_suffix, Option.bind_some, readInt?_text]
    rfl
  | int n =>
    cases h
    unfold readLiteral? TagScalar.inner TagScalar.value?
    rw [readInt?_text]
    rfl
  | float x =>
    cases h
    unfold readLiteral? TagScalar.inner TagScalar.value?
    rw [between?_suffix, Option.bind_some, readBinary64?_text]
    rfl
  | double x =>
    cases h
    unfold readLiteral? TagScalar.inner TagScalar.value?
    rw [readBinary64?_text]
    rfl

/-! ## Statements -/

/-- What a variable starts as. -/
def TagExpression.value? : TagExpression → Option TagValue
  | newCompound => some (.compound fun _ => none)
  | newList => some (.list [])
  | literal value => value.value?

def TagExpression.IsPlain : TagExpression → Prop
  | literal value => value.IsPlain
  | _ => True

lemma TagScalar.exists_type {value : TagScalar} {v : TagValue} (h : value.value? = some v) :
    ∃ type, value.type? = some type := by
  cases value with
  | unknown s => cases h
  | _ => exact ⟨_, rfl⟩

/-- The first letter of a type is none that a keyword begins with. -/
lemma TagType.exists_first (type : TagType) :
    ∃ c rest, type.name.toList = c :: rest ∧ c ≠ 'n' ∧ c ≠ 'v' := by
  cases type <;> exact ⟨_, _, rfl, by decide, by decide⟩

lemma find_tagType (type : TagType) : tagTypes.find? (·.name = type.name) = some type := by
  cases type <;> decide

lemma readExpression?_text {e : TagExpression} {v : TagValue} (hv : e.value? = some v) (hplain : e.IsPlain) :
    readExpression? e.text.toList = some v := by
  cases e with
  | newCompound =>
    cases hv
    exact if_pos rfl
  | newList =>
    cases hv
    exact (if_neg (by decide)).trans (if_pos rfl)
  | literal value =>
    obtain ⟨type, htype⟩ := TagScalar.exists_type hv
    obtain ⟨c, rest, hname, hc, -⟩ := type.exists_first
    have hnew {keyword : List Char} (hkeyword : keyword.head? = some 'n') :
        type.name.toList ++ (".valueOf(".toList ++ (value.inner ++ [')'])) ≠ keyword := by
      rintro rfl
      rw [hname] at hkeyword
      exact hc (Option.some.inj hkeyword)
    have hdot : ".valueOf(".toList = '.' :: "valueOf(".toList := rfl
    have hread : readName (type.name.toList ++ (".valueOf(".toList ++ (value.inner ++ [')']))) =
        (type.name, ".valueOf(".toList ++ (value.inner ++ [')'])) := by
      rw [hdot, List.cons_append]
      exact readName_append type.isNamePart_name rfl
    change readExpression? value.literal.toList = _
    rw [TagScalar.literal_toList htype]
    unfold readExpression?
    rw [if_neg (hnew rfl), if_neg (hnew rfl), hread, find_tagType, Option.bind_some, between?_append,
      Option.bind_some, readLiteral?_inner htype hplain]
    exact hv

lemma readName_variable (type : TagType) (n : Nat) {c : Char} (hc : isNamePart c = false) (rest : List Char) :
    readName ((TagTerm.variable type n).text.toList ++ c :: rest) =
      ((TagTerm.variable type n).text, c :: rest) :=
  readName_append (isNamePart_variable type n) hc

lemma readAssignment?_line (isLocal : Bool) (type : TagType) (n : Nat) {e : TagExpression} {v : TagValue}
    (hv : e.value? = some v) (hplain : e.IsPlain) :
    readAssignment? isLocal ((TagTerm.variable type n).text.toList ++ (" = ".toList ++ (e.text.toList ++ [';']))) =
      some (.assign isLocal (TagTerm.variable type n).text v) := by
  have hspace : " = ".toList = ' ' :: "= ".toList := rfl
  have hread := readName_variable type n (c := ' ') rfl ("= ".toList ++ (e.text.toList ++ [';']))
  rw [← List.cons_append, ← hspace] at hread
  unfold readAssignment?
  rw [hread, between?_append, Option.bind_some, readExpression?_text hv hplain]
  rfl

lemma readInsertion?_put (type : TagType) (n : Nat) {key : String} (hkey : IsPlainText key) (t : TagTerm) :
    readInsertion? ((TagTerm.variable type n).text.toList ++ (".put(\"".toList ++
      ((key.toList ++ ("\", ".toList ++ t.text.toList)) ++ ");".toList))) =
      some (.put (TagTerm.variable type n).text key t.argument) := by
  have hdot : ".put(\"".toList = '.' :: "put(\"".toList := rfl
  have hread := readName_variable type n (c := '.') rfl
    ("put(\"".toList ++ ((key.toList ++ ("\", ".toList ++ t.text.toList)) ++ ");".toList))
  rw [← List.cons_append, ← hdot] at hread
  have hquote : ∀ c ∈ key.toList, decide (c ≠ '"') = true := by
    intro c hc
    exact decide_eq_true fun h => hkey.1 (h ▸ hc)
  have htake : (key.toList ++ ("\", ".toList ++ t.text.toList)).takeWhile (· ≠ '"') = key.toList := by
    rw [List.takeWhile_append_of_pos hquote]
    exact List.append_nil _
  have hdrop : (key.toList ++ ("\", ".toList ++ t.text.toList)).dropWhile (· ≠ '"') =
      "\", ".toList ++ (t.text.toList ++ []) := by
    rw [List.dropWhile_append_of_pos hquote, List.append_nil]
    rfl
  unfold readInsertion?
  rw [hread, between?_append]
  dsimp only
  rw [htake, hdrop, between?_append, Option.bind_some, readArgument?_text, String.ofList_toList]
  rfl

lemma readInsertion?_add (type : TagType) (n : Nat) (t : TagTerm) :
    readInsertion? ((TagTerm.variable type n).text.toList ++ (".add(".toList ++ (t.text.toList ++ ");".toList))) =
      some (.add (TagTerm.variable type n).text t.argument) := by
  have hdot : ".add(".toList = '.' :: "add(".toList := rfl
  have hread := readName_variable type n (c := '.') rfl ("add(".toList ++ (t.text.toList ++ ");".toList))
  rw [← List.cons_append, ← hdot] at hread
  have hput : between? ".put(\"".toList ");".toList (".add(".toList ++ (t.text.toList ++ ");".toList)) = none :=
    rfl
  unfold readInsertion?
  rw [hread, hput, between?_append]
  dsimp only
  rw [Option.bind_some, readArgument?_text]
  rfl

/-! ## Lines -/

/-- A step is one line, which is read as the statement. -/
def TagStep.ReadsAs (step : TagStep) (statement : Statement) : Prop :=
  ∃ line, step.text.toList = line ++ ['\n'] ∧ '\n' ∉ line ∧ readStatement? line = some statement

section

variable (type : TagType) (n : Nat)

lemma readStatement?_variable (rest : List Char) :
    readStatement? ((TagTerm.variable type n).text.toList ++ rest) =
      (readAssignment? false ((TagTerm.variable type n).text.toList ++ rest) <|>
        readInsertion? ((TagTerm.variable type n).text.toList ++ rest)) := by
  obtain ⟨c, name, hname, -, hc⟩ := type.exists_first
  have hvar : "var ".toList = 'v' :: "ar ".toList := rfl
  have hnone : ((TagTerm.variable type n).text.toList ++ rest).dropPrefix? "var ".toList = none := by
    rw [TagTerm.text_variable, hname, hvar]
    simp [List.dropPrefix?, hc]
  unfold readStatement?
  rw [hnone]

lemma readStatement?_insertion (rest : List Char) :
    readStatement? ((TagTerm.variable type n).text.toList ++ '.' :: rest) =
      readInsertion? ((TagTerm.variable type n).text.toList ++ '.' :: rest) := by
  have hassignment : readAssignment? false ((TagTerm.variable type n).text.toList ++ '.' :: rest) = none := by
    unfold readAssignment?
    rw [readName_variable type n rfl]
    rfl
  rw [readStatement?_variable, hassignment]
  rfl

lemma notMem_variable : '\n' ∉ (TagTerm.variable type n).text.toList := by
  intro hmem
  have hpart := List.all_eq_true.mp (isNamePart_variable type n) _ hmem
  exact absurd hpart (by decide)

lemma TagTerm.notMem_text (t : TagTerm) : '\n' ∉ t.text.toList := by
  rcases t with ⟨type, n⟩ | b
  · exact notMem_variable type n
  · cases b <;> decide

lemma notMem_of_areParts {s : List Char} (h : Decimal.AreParts s) : '\n' ∉ s := by
  intro hmem
  exact absurd (h _ hmem) (by decide)

lemma TagScalar.notMem_inner {value : TagScalar} {type : TagType} (h : value.type? = some type)
    (hplain : value.IsPlain) : '\n' ∉ value.inner := by
  have hint (n : Int) : '\n' ∉ (toString n).toList := notMem_of_areParts (areParts_integer n)
  have hreal (x : Float) : '\n' ∉ (Number.real x).text.toList :=
    notMem_of_areParts (Number.text_areParts (.real x))
  unfold TagScalar.inner
  cases value with
  | unknown s => cases h
  | string s =>
    have hs : '\n' ∉ s.toList := hplain.2.2
    simp [hs]
  | byte n =>
    rw [List.mem_append, not_or]
    exact ⟨by decide, hint n⟩
  | short n | long n =>
    rw [List.mem_append, not_or]
    exact ⟨hint n, by decide⟩
  | int n => exact hint n
  | float x =>
    rw [List.mem_append, not_or]
    exact ⟨hreal x, by decide⟩
  | double x => exact hreal x

lemma TagExpression.notMem_text {e : TagExpression} {v : TagValue} (hv : e.value? = some v)
    (hplain : e.IsPlain) : '\n' ∉ e.text.toList := by
  cases e with
  | newCompound => decide
  | newList => decide
  | literal value =>
    obtain ⟨type, htype⟩ := TagScalar.exists_type hv
    have hname : '\n' ∉ type.name.toList := by
      cases type <;> decide
    change '\n' ∉ value.literal.toList
    rw [TagScalar.literal_toList htype]
    simp only [List.mem_append, not_or]
    exact ⟨hname, by decide, TagScalar.notMem_inner htype hplain, by decide⟩

lemma assign_readsAs (isLocal : Bool) {e : TagExpression} {v : TagValue} (hv : e.value? = some v)
    (hplain : e.IsPlain) :
    (TagStep.assign isLocal (.variable type n) e).ReadsAs (.assign isLocal (TagTerm.variable type n).text v) := by
  have hread := readAssignment?_line isLocal type n hv hplain
  have hbreak : '\n' ∉ (TagTerm.variable type n).text.toList ++ (" = ".toList ++ (e.text.toList ++ [';'])) := by
    simp only [List.mem_append, not_or]
    exact ⟨notMem_variable type n, by decide, TagExpression.notMem_text hv hplain, by decide⟩
  have hend : ";\n".toList = [';'] ++ ['\n'] := rfl
  cases isLocal with
  | true =>
    refine ⟨"var ".toList ++ ((TagTerm.variable type n).text.toList ++ (" = ".toList ++ (e.text.toList ++ [';']))),
      ?_, ?_, ?_⟩
    · simp only [TagStep.text, String.toList_append, List.append_assoc, if_true, hend]
    · rw [List.mem_append, not_or]
      exact ⟨by decide, hbreak⟩
    · unfold readStatement?
      rw [List.dropPrefix?_append_of_beq _ (beq_self_eq_true _)]
      exact hread
  | false =>
    refine ⟨_, ?_, hbreak, ?_⟩
    · simp only [TagStep.text, Bool.false_eq_true, if_false, String.empty_append, String.toList_append,
        List.append_assoc, hend]
    · rw [readStatement?_variable, hread]
      rfl

lemma put_readsAs {key : String} (hkey : IsPlainText key) (t : TagTerm) :
    (TagStep.put (.variable type n) key t).ReadsAs (.put (TagTerm.variable type n).text key t.argument) := by
  have hdot : ".put(\"".toList = '.' :: "put(\"".toList := rfl
  have hend : ");\n".toList = ");".toList ++ ['\n'] := rfl
  have hread := readInsertion?_put type n hkey t
  rw [hdot, List.cons_append, ← readStatement?_insertion, ← List.cons_append, ← hdot] at hread
  refine ⟨_, ?_, ?_, hread⟩
  · simp only [TagStep.text, String.toList_append, List.append_assoc, hend]
  · simp only [List.mem_append, not_or]
    exact ⟨notMem_variable type n, by decide, ⟨hkey.2.2, by decide, t.notMem_text⟩, by decide⟩

lemma add_readsAs (t : TagTerm) :
    (TagStep.add (.variable type n) t).ReadsAs (.add (TagTerm.variable type n).text t.argument) := by
  have hdot : ".add(".toList = '.' :: "add(".toList := rfl
  have hend : ");\n".toList = ");".toList ++ ['\n'] := rfl
  have hread := readInsertion?_add type n t
  rw [hdot, List.cons_append, ← readStatement?_insertion, ← List.cons_append, ← hdot] at hread
  refine ⟨_, ?_, ?_, hread⟩
  · simp only [TagStep.text, String.toList_append, List.append_assoc, hend]
  · simp only [List.mem_append, not_or]
    exact ⟨notMem_variable type n, by decide, t.notMem_text, by decide⟩

end

/-- Steps that are read one by one are read as a program. -/
lemma read?_steps {steps : List TagStep} {program : List Statement}
    (h : List.Forall₂ TagStep.ReadsAs steps program) :
    TagProgram.read? (String.join (steps.map TagStep.text)) = some program := by
  unfold TagProgram.read?
  induction h with
  | nil => rfl
  | @cons step statement steps program hstep hsteps ih =>
    obtain ⟨line, htext, hline, hread⟩ := hstep
    obtain ⟨first, rest, hsplit⟩ := List.exists_cons_of_ne_nil
      (Text.split_ne_nil '\n' (String.join (steps.map TagStep.text)).toList)
    rw [List.map_cons, String.join_cons, String.toList_append, htext, List.append_assoc, List.singleton_append,
      Text.split_append_cons, Text.split_of_notMem hline, hsplit, List.singleton_append]
    rw [hsplit] at ih
    rw [readLines?, hread, ih]
    · rfl
    · exact List.cons_ne_nil _ _

end PackToMod
