import PackToMod.Text.BlankLines

/-!
# Methods

Every command becomes a static method of its own, and a statement that calls it. The method takes
the command source, and the dispatcher and the macro arguments where its body needs them.
-/

namespace PackToMod

/-- Whether running a command ends the function that it stands in. -/
inductive Returns where
  | never
  | always
  | maybe
  deriving DecidableEq, Repr

structure Method where
  code : String
  statement : String
  macros : List String
  needsDispatcher : Bool
  needsMacros : Bool
  returns : Returns
  deriving DecidableEq, Repr

structure Parameter where
  type : String
  name : String
  deriving DecidableEq, Repr

def parameters (needsDispatcher needsMacros : Bool) : List Parameter :=
  ⟨"CommandSourceStack", "source"⟩
    :: ((if needsDispatcher then [⟨"CommandDispatcher<CommandSourceStack>", "dispatcher"⟩] else [])
      ++ if needsMacros then [⟨"CompoundTag", "marcos"⟩] else [])

def methodSymbol (number : Nat) : String :=
  "command_" ++ toString number

/-- The name of a method with the parameters it declares. -/
def signature (symbol : String) (ps : List Parameter) : String :=
  symbol ++ "(" ++ Text.sepBy ", " (ps.map fun p => p.type ++ " " ++ p.name) ++ ")"

/-- A call that passes on the parameters under their own names. -/
def call (symbol : String) (ps : List Parameter) : String :=
  symbol ++ "(" ++ Text.sepBy ", " (ps.map Parameter.name) ++ ")"

/-- A body inside its method. -/
def methodCode (signature : String) (returns : Returns) (body : String) : String :=
  "private static " ++ (if returns = .maybe then "MaybeReturn" else "int") ++ " " ++ signature
    ++ " throws CommandSyntaxException \x7b\n            int result = 0;\n            " ++ body
    ++ "\n            return " ++ (if returns = .maybe then "new MaybeReturn(false, " else "(")
    ++ "result);\n        \x7d\n    \n"

/-- The statement that calls a method, with the text of its command as a comment. -/
def callStatement (call : String) (returns : Returns) (text : String) : String :=
  (match returns with
    | .never => call
    | .always => "return " ++ call
    | .maybe => "if (" ++ call ++ ".out() instanceof Integer integer) return integer;")
    ++ "; // " ++ text ++ "\n"

/-- The method of the command written as `text`, from the output collected for it. -/
def Method.ofOutput (number : Nat) (text output : String) (macros : List String)
    (needsDispatcher needsMacros : Bool) (returns : Returns) : Method :=
  let symbol := methodSymbol number
  let ps := parameters needsDispatcher needsMacros
  let body := String.ofList (Text.thinBlankLines output.toList)
  { code := methodCode (signature symbol ps) returns body
    statement := callStatement (call symbol ps) returns text
    macros, needsDispatcher, needsMacros, returns }

end PackToMod
