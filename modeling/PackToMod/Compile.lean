import PackToMod.Command.Chat
import PackToMod.Command.Entities
import PackToMod.Command.Execute
import PackToMod.Command.Function
import PackToMod.Text.Literal

/-!
# Compiling commands

A command is compiled once; later uses of its text find the method again. A command that has no
native form is left to the dispatcher: its method then parses and runs the text of the command.
-/

namespace PackToMod

/-- The commands with a native form, by their first word. -/
def commands : Handlers (DraftM Unit) :=
  [("say", .plain say),
    ("mecha", .plain runLine),
    ("tp", .plain teleport),
    ("teleport", .plain teleport),
    ("kill", .plain kill),
    ("give", .plain give),
    ("function", .plain runFunction),
    ("execute", .plain execute)]

/-- The template for a command that is left to the dispatcher: the fault and the syntax tree as
comments, and a directive for the text. -/
def dispatchTemplate (fault : Fault) (dump : String) : String :=
  "\n            // <class '" ++ fault.kind.label ++ "'>: " ++ fault.message
    ++ "\n            /*\n" ++ dump ++ "\n            */"
    ++ "\n            dispatcher.execute(dispatcher.parse(\"%s\", source));\n            "

/-- The code that leaves a command to the dispatcher. -/
def dispatchCode (fault : Fault) (text dump : String) : Except Percent.Error String :=
  Percent.fill (dispatchTemplate fault dump)
    (.text (String.ofList (Text.Literal.encode text.toList)))

/-- The draft after its first word has been handled or the command left to the dispatcher. Every
fault is logged; one that is not for the dispatcher ends the compilation. -/
def compileDraft (text dump : String) (d : Draft) : BuildM Draft := fun b =>
  match DraftM.next commands ⟨b, d⟩ with
  | .ok _ s => .ok s.draft s.build
  | .error fault s => (do
      BuildM.log fault.logLine
      unless fault.isDispatched do throw fault
      let output ← BuildM.ofExcept .percent (dispatchCode fault text dump)
      return { s.draft with output, needsDispatcher := true } : BuildM Draft) s.build

/-- Compiles a command whose arguments can be compiled in turn. -/
def compileWith (compiled : List String) (operands : List Operand) (text identifier dump : String) :
    BuildM Method := do
  match (← get).methods.get? text with
  | some method => return method
  | none =>
    let n ← BuildM.fresh
    let words := Text.splitColons identifier
    let d ← compileDraft text dump { words, operands, compiled }
    let method := Method.ofOutput n text d.output d.macros d.needsDispatcher d.needsMacros d.returns
    modify fun b => { b with methods := b.methods.set text method }
    return method

/-- A node that is no command has no method, unless a command with its text has one. -/
def compileOther (node : Node) : BuildM Method := do
  match (← get).methods.get? (← node.key) with
  | some method => return method
  | none =>
    let _ ← BuildM.fresh
    throw .noSuchPart

mutual

/-- The method of a command. -/
def Node.compile (compiled : List String) : Node → BuildM Method
  | .command text identifier arguments dump =>
    compileWith compiled (operandsOf compiled arguments) text identifier dump
  | node => compileOther node

/-- Arguments that can be compiled as commands of their own. -/
def operandsOf (compiled : List String) : List Node → List Operand
  | [] => []
  | node :: nodes => ⟨node, node.compile compiled⟩ :: operandsOf compiled nodes

end

end PackToMod
