import Calculator.CommandLine.Options
import Calculator.Files.Store
import Calculator.Number.Reading
import Calculator.Text.Space

/-!
# Commands

The commands of the calculator, and how they are read from the words of a command line.

## Main definitions

* `Command`: what the calculator is asked to do
* `Invocation`: a command and what an empty expression means to it
* `readInvocation`: the invocation that the words of a command line make
-/

namespace Calculator.CommandLine

open Text

/-- Where the variables of a command come from. -/
structure VariableSource where
  /-- The bindings given as options, in order. -/
  given : List (String × Float)
  /-- The file of variables. -/
  file : Option String
  /-- Whether the builtin constants are there. -/
  builtins : Bool

/-- What the calculator is asked to do. -/
inductive Command where
  /-- Show the value of an expression, and its tree if asked for. -/
  | evaluate (expression : String) (source : VariableSource) (showTree : Bool)
  /-- Show an expression with as few brackets as possible. -/
  | format (expression : String)
  /-- Show an expression with its variables replaced, all or those that have a value. -/
  | specialize (expression : String) (source : VariableSource) (leaveUnbound : Bool)
  /-- Show the tree of an expression, as a drawing or as a document. -/
  | tree (expression : String) (asDocument : Bool)
  /-- Show the builtin constants. -/
  | constants
  /-- Run the lines of the standard input, and save the variables at the end. -/
  | interact (source : VariableSource) (saveTo : Option String)
  /-- Show how a command is used. -/
  | help (synopsis : Synopsis) (exitCode : Nat)

/-- A command and the options before it. -/
structure Invocation where
  /-- Whether an empty expression is an error. -/
  strictEmpty : Bool
  /-- The command. -/
  command : Command

/-- The name of the program. -/
def programName : String := "main"

/-- The commands by name. -/
inductive CommandName where
  /-- Evaluate an expression. -/
  | eval
  /-- Format an expression. -/
  | format
  /-- Replace variables. -/
  | specialize
  /-- Show a tree. -/
  | tree
  /-- Show the constants. -/
  | constants
  /-- Run lines. -/
  | repl
deriving DecidableEq, Repr

namespace CommandName

/-- The commands in the order in which they are looked up. -/
def all : List CommandName := [.constants, .eval, .format, .repl, .specialize, .tree]

/-- The word that calls a command. -/
def word : CommandName → String
  | eval => "eval"
  | format => "format"
  | specialize => "specialize"
  | tree => "tree"
  | constants => "constants"
  | repl => "repl"

/-- Whether a command takes an expression. -/
def takesExpression : CommandName → Bool
  | constants | repl => false
  | _ => true

/-- The options of a command. -/
def options : CommandName → List OptionSpec
  | eval => [⟨"--var", true⟩, ⟨"--vars-file", true⟩, ⟨"--no-builtins", false⟩, ⟨"--tree", false⟩,
      ⟨"--help", false⟩]
  | format => [⟨"--help", false⟩]
  | specialize => [⟨"--var", true⟩, ⟨"--vars-file", true⟩, ⟨"--no-builtins", false⟩,
      ⟨"--partial", false⟩, ⟨"--help", false⟩]
  | tree => [⟨"--json", false⟩, ⟨"--help", false⟩]
  | constants => [⟨"--help", false⟩]
  | repl => [⟨"--vars-file", true⟩, ⟨"--save", true⟩, ⟨"--no-builtins", false⟩, ⟨"--help", false⟩]

/-- How a command is used. -/
def synopsis (name : CommandName) : Synopsis :=
  ⟨programName ++ " " ++ name.word,
    if name.takesExpression then "[OPTIONS] EXPRESSION" else "[OPTIONS]"⟩

end CommandName

/-- How the program is used. -/
def programSynopsis : Synopsis := ⟨programName, "[OPTIONS] COMMAND [ARGS]..."⟩

/-- The options in front of the command. -/
def programOptions : List OptionSpec :=
  [⟨"--strict-empty", false⟩, ⟨"--log-level", true⟩, ⟨"--help", false⟩]

/-- The levels of the log, in the form in which messages show them. -/
def logLevels : List String := ["debug", "info", "warning", "error"]

/-- The binding that the value of an option writes: a name, an equals sign and a number. -/
def readBinding (item : String) : Except ValueProblem (String × Float) :=
  match splitValue item with
  | (_, none) => .error (.notBinding item)
  | (name, some raw) =>
    match readNumber? raw.toList with
    | some x => .ok (String.ofList (trim name.toList), x)
    | none => .error (.notNumber raw)

/-- What is wrong with the path of a file; a file that is only written need not exist. -/
def checkPath (store : FileStore) (mustExist : Bool) (path : String) : Except ValueProblem Unit :=
  if path.toList.contains '\x00' then .error (.unusable ⟨.nullCharacter, path⟩)
  else
    match store.nodeAsGiven? path with
    | none => if mustExist then .error (.missingFile path) else .ok ()
    | some .directory => .error (.directory path)
    | some (.file _) => .ok ()

/-- Whether a value is a level of the log, in letters of either case. -/
def checkLevel (value : String) : Except ValueProblem Unit :=
  if logLevels.contains (String.ofList (value.toList.map Char.toLower)) then .ok ()
  else .error (.notChoice value logLevels)

/-- Checks the values of one option. -/
def checkOption (store : FileStore) (w : Words) (name : String) : Except UsageProblem Unit :=
  let checked : Except ValueProblem Unit :=
    match name, w.value? name with
    | "--var", _ => do
      let _ ← (w.valuesOf name).mapM readBinding
      return ()
    | "--vars-file", some path => checkPath store true path
    | "--save", some path => checkPath store false path
    | "--log-level", some value => checkLevel value
    | _, _ => .ok ()
  checked.mapError (.invalidValue name)

/-- Checks the options in the order in which they were given. -/
def checkOptions (store : FileStore) (w : Words) : Except UsageProblem Unit :=
  w.optionNames.forM (checkOption store w)

/-- The variables that the options ask for. -/
def variableSource (w : Words) : VariableSource :=
  { given := (w.valuesOf "--var").filterMap fun item => (readBinding item).toOption
    file := w.value? "--vars-file"
    builtins := !w.has "--no-builtins" }

/-- The expression among the arguments, which must be the only one. -/
def onlyArgument : List String → Except UsageProblem String
  | [] => .error (.missingArgument "EXPRESSION")
  | [expression] => .ok expression
  | _ :: extra => .error (.extraArguments extra)

/-- The command with an expression that some words make. -/
def expressionCommand (name : CommandName) (w : Words) (expression : String) : Command :=
  match name with
  | .eval => .evaluate expression (variableSource w) (w.has "--tree")
  | .specialize => .specialize expression (variableSource w) (w.has "--partial")
  | .tree => .tree expression (w.has "--json")
  | _ => .format expression

/-- The command without an expression that some words make. -/
def plainCommand (name : CommandName) (w : Words) : Command :=
  match name with
  | .repl => .interact (variableSource w) (w.value? "--save")
  | _ => .constants

/-- The command that the words after its name make.  Mistakes in options are reported before those
in arguments. -/
def commandOfWords (store : FileStore) (name : CommandName) (words : List String) :
    Except UsageProblem Command := do
  let w ← readWords name.options true words
  if w.has "--help" then return .help name.synopsis 0
  checkOptions store w
  if name.takesExpression then
    return expressionCommand name w (← onlyArgument w.arguments)
  else
    match w.arguments with
    | [] => return plainCommand name w
    | extra => throw (.extraArguments extra)

/-- Reads the options in front of the command. -/
def readProgramWords (store : FileStore) (words : List String) : Except UsageProblem Words := do
  let w ← readWords programOptions false words
  if !w.has "--help" then checkOptions store w
  return w

/-- The mistake of a command that does not exist. -/
def unknownCommand (word : String) : UsageProblem :=
  .noSuchCommand word (similarWords word (CommandName.all.map CommandName.word))

/-- The invocation that the words of a command line make.  Where a command is missing its word and
those after it may have been meant as options, so mistakes in them are reported first. -/
def readInvocation (store : FileStore) (words : List String) : Except UsageError Invocation :=
  if words = [] then .ok ⟨false, .help programSynopsis 2⟩
  else do
    let readOptions (words : List String) : Except UsageError Words :=
      (readProgramWords store words).mapError (⟨programSynopsis, ·⟩)
    let w ← readOptions words
    if w.has "--help" then return ⟨false, .help programSynopsis 0⟩
    match w.arguments with
    | [] => throw ⟨programSynopsis, .missingCommand⟩
    | word :: rest =>
      match CommandName.all.find? (·.word = word) with
      | none =>
        if (← readOptions (word :: rest)).has "--help" then
          return ⟨false, .help programSynopsis 0⟩
        throw ⟨programSynopsis, unknownCommand word⟩
      | some name =>
        let command ← (commandOfWords store name rest).mapError (⟨name.synopsis, ·⟩)
        return ⟨w.has "--strict-empty", command⟩

end Calculator.CommandLine
