import PackToMod.Compile
import PackToMod.Pack.EntryPoint
import PackToMod.Pack.Project

/-!
# Building a data pack

The functions of a pack are compiled one after the other, except those that opt out. A compiled
function is left with one line, which runs its compiled form. Only when all are compiled are the
files of the mod written, and only over an existing output directory.
-/

namespace PackToMod

structure FunctionFile where
  name : String
  lines : List String
  commands : List Node

namespace FunctionFile

/-- A function with this line is left as it is. -/
def optOutLine : String := "#no_compile"

def isCompiled (f : FunctionFile) : Bool :=
  !f.lines.contains optOutLine

end FunctionFile

/-- Adds the macros that are not there yet, in order. -/
def addMacros (macros : List String) : List String → List String
  | [] => macros
  | m :: ms => addMacros (if macros.contains m then macros else macros ++ [m]) ms

/-- The statements of a function's commands, and the macros that they use. -/
def compileCommands (compiled : List String) :
    String → List String → List Node → BuildM (String × List String)
  | body, macros, [] => pure (body, macros)
  | body, macros, command :: commands => do
    let method ← command.compile compiled
    compileCommands compiled (body ++ method.statement) (addMacros macros method.macros) commands

/-- The line that runs a compiled function. It passes on every macro, and is a macro line itself if
there are any. -/
def callLine (project name : String) (macros : List String) : String :=
  (if macros.isEmpty then "" else "$") ++ "_function__" ++ project ++ " \"" ++ name ++ "\" \x7b"
    ++ Text.sepBy ", " (macros.map fun m => "\"" ++ m ++ "\": $(" ++ m ++ ")") ++ "\x7d"

/-- A compiled function: its case in the entry point and the line it is left with. -/
def FunctionFile.compile (project : String) (compiled : List String) (f : FunctionFile) :
    BuildM (String × String) := do
  let (body, macros) ← compileCommands compiled "" [] f.commands
  return (EntryPoint.functionCase f.name body, callLine project f.name macros)

/-- The functions of a pack after compilation, the cases of those that were compiled, and the fault
that has stopped it, if one has. -/
structure CompiledFunctions where
  files : List FunctionFile
  cases : String
  fault : Option Fault

/-- Compiles functions until one fails. -/
def compileFiles (project : String) (compiled : List String) :
    List FunctionFile → BuildM CompiledFunctions
  | [] => pure ⟨[], "", none⟩
  | f :: fs =>
    if f.isCompiled then do
      match ← BuildM.attempt (f.compile project compiled) with
      | .error fault => return ⟨f :: fs, "", some fault⟩
      | .ok (functionCase, line) =>
        let rest ← compileFiles project compiled fs
        return ⟨{ f with lines := [line] } :: rest.files, functionCase ++ rest.cases, rest.fault⟩
    else do
      let rest ← compileFiles project compiled fs
      return { rest with files := f :: rest.files }

/-- The files of a mod. -/
structure ModFiles where
  entryPoint : String
  description : String
  deriving DecidableEq, Repr

/-- The names of the compiled functions as they stand in the entry point. -/
def compiledList (compiled : List String) : String :=
  Text.sepBy ",\n" (compiled.map fun name => "\"" ++ name ++ "\"")

/-- Writes the files of the mod once the functions are compiled. -/
def writeMod (p : Project) (compiled : List String) (cases : String) : BuildM ModFiles := do
  if compiled.isEmpty then BuildM.log "WARNING: nothing was compiled"
  return ⟨EntryPoint.text p.id (compiledList compiled) (← get).members cases, p.modDescription⟩

/-- What a build of a pack leaves behind. -/
structure PackResult where
  files : List FunctionFile
  outcome : Except Fault ModFiles

/-- Builds a pack; `hasOutput` tells whether the output directory exists. -/
def buildPack (p : Project) (hasOutput : Bool) (files : List FunctionFile) : BuildM PackResult := do
  let compiled := (files.filter FunctionFile.isCompiled).map FunctionFile.name
  let result ← compileFiles p.id compiled files
  match result.fault with
  | some fault => return ⟨result.files, .error fault⟩
  | none =>
    if hasOutput then return ⟨result.files, .ok (← writeMod p compiled result.cases)⟩
    else return ⟨result.files, .error .noOutputDirectory⟩

end PackToMod
