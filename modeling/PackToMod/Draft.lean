import PackToMod.Build

/-!
# Drafts

A draft is a command while it is compiled: the words of its identifier and the operands that are
still unread, and the code and the needs collected so far. Words are read one at a time. Each must
have a handler; a handler either takes the next operand or stands alone, and reading leaves a
comment with the text of what was read.
-/

namespace PackToMod

/-- An argument of a command, with the action that compiles it as a command of its own. -/
structure Operand where
  node : Node
  compile : BuildM Method

structure Draft where
  words : List String
  operands : List Operand
  /-- The functions that are compiled along. -/
  compiled : List String := []
  output : String := ""
  macros : List String := []
  needsDispatcher : Bool := false
  needsMacros : Bool := false
  returns : Returns := .never

/-- What is done at a word. -/
inductive Handler (α : Type) where
  | operand (run : Operand → α)
  | plain (run : α)

abbrev Handlers (α : Type) := List (String × Handler α)

/-- The outcome of reading a word. -/
inductive Reading (α : Type) where
  /-- All words have been read. -/
  | exhausted
  /-- No handler takes the word. -/
  | unknown (word : String)
  /-- The handler wants an operand and there is none. -/
  | starved
  /-- The handler wants an operand and nothing stands at its place. -/
  | blank
  /-- The handlers for the word are not well named; no word has been read. -/
  | refused
  | found (run : α)

def comment (text : String) : String :=
  "\n\t\t\t\t// " ++ text ++ "\n"

namespace Draft

def append (d : Draft) (text : String) : Draft :=
  { d with output := d.output ++ text }

/-- Reads the next word. It is used up in any case, and so is the operand of a handler that wants one.
A comment is left when a handler is found and gets what it wants. -/
def read {α : Type} (handlers : Handlers α) (d : Draft) : Reading α × Draft :=
  match d.words with
  | [] => (.exhausted, d)
  | word :: words =>
    let d := { d with words }
    match handlers.lookup word with
    | none => (.unknown word, d)
    | some (.plain run) => (.found run, d.append (comment word))
    | some (.operand run) =>
      match d.operands with
      | [] => (.starved, d)
      | o :: operands =>
        let d := { d with operands }
        match o.node.text? with
        | none => (.blank, d)
        | some text => (.found (run o), d.append (comment text))

/-- The name that stands for the draft itself among the handlers that are given for one word. -/
def ownName : String := "self"

/-- Reads the next word with handlers given for it and standing ones, which go first. The former may
not use the draft's own name. -/
def readOver {α : Type} (standing handlers : Handlers α) (d : Draft) : Reading α × Draft :=
  if (handlers.lookup ownName).isSome then (.refused, d) else d.read (standing ++ handlers)

end Draft

/-- The handler that a reading has found, if there was a word, or the fault that it ends in. -/
def Reading.outcome {α : Type} : Reading α → Except Fault (Option α)
  | .exhausted => .ok none
  | .found run => .ok (some run)
  | .unknown word => .error (.unknownWord word)
  | .starved => .error .outOfOperands
  | .blank => .error .noSuchPart
  | .refused => .error .reservedName

/-- A build together with the draft at hand. Both keep their changes when a computation fails. -/
structure Frame where
  build : Build
  draft : Draft

abbrev DraftM := EStateM Fault Frame

namespace DraftM

/-- Runs a computation on the build. -/
def onBuild {α : Type} (x : BuildM α) : DraftM α := fun s =>
  match x s.build with
  | .ok a build => .ok a { s with build }
  | .error f build => .error f { s with build }

instance : MonadLift BuildM DraftM := ⟨onBuild⟩

def modifyDraft (f : Draft → Draft) : DraftM Unit :=
  modify fun s => { s with draft := f s.draft }

def emit (text : String) : DraftM Unit :=
  modifyDraft (·.append text)

/-- Puts the text that `x` returns after the output as it was before `x`; what `x` has put out
itself is dropped. -/
def emitOver (x : DraftM String) : DraftM Unit := do
  let before := (← get).draft.output
  let text ← x
  modifyDraft fun d => { d with output := before ++ text }

/-- Reads the next word and runs its handler. The result is `none` after the last word. -/
def next {α : Type} (handlers : Handlers (DraftM α)) : DraftM (Option α) := do
  let (reading, draft) := (← get).draft.read handlers
  modifyDraft fun _ => draft
  match reading.outcome with
  | .error fault => throw fault
  | .ok none => return none
  | .ok (some run) => return some (← run)

/-- Reads a word that takes an operand. -/
def operand {α : Type} (word : String) (run : Node → BuildM α) : DraftM (Option α) :=
  next [(word, .operand fun o => onBuild (run o.node))]

end DraftM

/-- The text of a value that may be missing. -/
def shown (text : Option String) : String :=
  text.getD "None"

end PackToMod
