import Calculator.CommandLine.Command
import Calculator.Expr.Document
import Calculator.Repl
import Calculator.Terminal.Markup
import Calculator.VariablesFile

/-!
# Running a command line

What a command line does to the files that it can see, and what it shows.

## Main definitions

* `Outcome`: the exit code, the text shown, the files afterwards, and an error that was not handled
* `runCommand`, `run`: the outcome of a command and of a command line
-/

namespace Calculator.CommandLine

/-- An error that ends a run without being reported. -/
inductive Escape where
  /-- A file cannot be used. -/
  | file (e : FileError)
  /-- The table refuses the assignment of a line. -/
  | table (e : TableError)
  /-- A text to be shown has wrong tags. -/
  | markup (e : MarkupError)
deriving DecidableEq, Repr

/-- The text of the error. -/
def Escape.message : Escape → String
  | file e => e.message
  | table e => e.message
  | markup e => e.message

/-- What a run comes to. -/
structure Outcome where
  /-- Zero if all went well, one for errors in the data, two for mistakes in the command line. -/
  exitCode : Nat
  /-- The text shown. -/
  output : String
  /-- The files afterwards. -/
  store : FileStore
  /-- The error that ended the run without being reported. -/
  escaped : Option Escape

namespace Outcome

/-- A run that went well. -/
def success (store : FileStore) (output : String) : Outcome :=
  ⟨0, output, store, none⟩

/-- A run that reported an error. -/
def failure (store : FileStore) (output : String) : Outcome :=
  ⟨1, output, store, none⟩

end Outcome

/-- Why a command cannot go on. -/
inductive Stop where
  /-- The error is reported with this text. -/
  | reported (text : String)
  /-- The error is not handled. -/
  | escaped (e : Escape)

/-- The outcome of a command that shows a text or stops. -/
def Outcome.ofResult (store : FileStore) : Except Stop String → Outcome
  | .ok text => .success store text
  | .error (.reported text) => .failure store text
  | .error (.escaped e) => ⟨1, "", store, some e⟩

/-- An error that is reported by a short message. -/
def complaint (message : String) : Stop :=
  .reported ("Error: " ++ message ++ "\n")

/-- How an error of loading is reported. -/
def Stop.ofLoadError : LoadError → Stop
  | .file e => .escaped (.file e)
  | e => complaint e.message

/-- The table with the variables of a file, if there is one. -/
def loadFile (store : FileStore) (t : Table) : Option String → Except Stop Table
  | none => .ok t
  | some path =>
    match t.load store (Path.ofString path) with
    | .ok (t, _) => .ok t
    | .error e => .error (.ofLoadError e)

/-- The table that a command asks for: constants, then the variables of the file, then the bindings
in their order. -/
def buildTable (store : FileStore) (source : VariableSource) : Except Stop Table := do
  let t ← loadFile store (Table.start source.builtins) source.file
  (source.given.foldlM (fun (t : Table) (name, x) => t.set name x) t).mapError
    fun (e : TableError) => complaint e.message

/-- The expression of a text, or the stop that reports its error. -/
def parseOrStop (config : ParserConfig) (text : String) : Except Stop Expr :=
  (Expr.parse config text).mapError fun e => .reported (Display.diagnostic e.message)

/-- A result, or the stop that reports a variable without a value. -/
def boundOrStop {α : Type} (r : Except UnboundVariable α) : Except Stop α :=
  r.mapError fun e => .reported (Display.diagnostic e.message)

/-- A line of output. -/
def echo (text : String) : String :=
  text ++ "\n"

/-- Evaluates an expression. -/
def evaluate (store : FileStore) (config : ParserConfig) (expression : String)
    (source : VariableSource) (showTree : Bool) : Outcome :=
  .ofResult store do
    let t ← buildTable store source
    let e ← parseOrStop config expression
    let drawing := if showTree then Display.expressionTree e else ""
    match e.eval t.bindings with
    | .ok x => return drawing ++ Display.result e x
    | .error err => throw (.reported (drawing ++ Display.diagnostic err.message))

/-- Replaces the variables of an expression. -/
def specialize (store : FileStore) (config : ParserConfig) (expression : String)
    (source : VariableSource) (leaveUnbound : Bool) : Outcome :=
  .ofResult store do
    let t ← buildTable store source
    let e ← parseOrStop config expression
    if leaveUnbound then
      return echo (e.substitute fun name => (t.bindings.find? name).map .value).format
    else
      return echo (← boundOrStop (e.resolve t.bindings)).format

/-- The text that reports how many variables were saved.  The path is read as markup. -/
def savedMessage (count : Nat) (path : String) : Except MarkupError String := do
  let marked ← Markup.read
    ("[dim]Saved " ++ toString count ++ " variables to " ++ path ++ "[/dim]").toList
  let lines := Terminal.wrap Terminal.terminalWidth marked.chars
  marked.checkStyles (1 < lines.length)
  return Display.joinLines lines

/-- Saves the variables of a session to a file. -/
def saveSession (store : FileStore) (output : String) (t : Table) (path : String) : Outcome :=
  match t.save store (Path.ofString path) with
  | (store, .error e) => ⟨1, output, store, some (.file e)⟩
  | (store, .ok ()) =>
    match savedMessage t.user.size path with
    | .ok message => .success store (output ++ message)
    | .error e => ⟨1, output, store, some (.markup e)⟩

/-- The end of the interactive loop after some output: the variables are saved if a file is named
for them. -/
def endSession (store : FileStore) (output : String) (t : Table) (saveTo : Option String) :
    Outcome :=
  match saveTo.filter (· ≠ "") with
  | none => .success store output
  | some path => saveSession store output t path

/-- Runs the interactive loop on the lines of an input. -/
def interact (store : FileStore) (source : VariableSource) (saveTo : Option String)
    (input : String) : Outcome :=
  match buildTable store source with
  | .error stop => .ofResult store (.error stop)
  | .ok t =>
    match Repl.run { table := t } (Repl.inputLines input.toList) with
    | (shown, .ok s) => endSession store (Repl.banner ++ shown) s.table saveTo
    | (shown, .error e) => ⟨1, Repl.banner ++ shown, store, some (.table e)⟩

/-- The outcome of a command. -/
def runCommand (store : FileStore) (input : String) (invocation : Invocation) : Outcome :=
  let config : ParserConfig := { allowEmpty := !invocation.strictEmpty }
  match invocation.command with
  | .evaluate expression source showTree => evaluate store config expression source showTree
  | .format expression =>
    .ofResult store do return echo (← parseOrStop config expression).format
  | .specialize expression source leaveUnbound =>
    specialize store config expression source leaveUnbound
  | .tree expression asDocument =>
    .ofResult store do
      let e ← parseOrStop config expression
      return if asDocument then echo (Json.write .ascii e.toJson) else Display.expressionTree e
  | .constants => .success store (Display.variableTable (Table.start true))
  | .interact source saveTo => interact store source saveTo input
  | .help synopsis exitCode => ⟨exitCode, synopsis.usage, store, none⟩

/-- The outcome of a command line. -/
def run (store : FileStore) (words : List String) (input : String) : Outcome :=
  match readInvocation store words with
  | .error e =>
    match e.fileError? with
    | some err => ⟨1, "", store, some (.file err)⟩
    | none => ⟨2, e.render, store, none⟩
  | .ok invocation => runCommand store input invocation

end Calculator.CommandLine
