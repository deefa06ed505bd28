import Calculator.Display
import Calculator.Session
import Calculator.VariablesFile

/-!
# The interactive loop

Lines are read one after the other, with a prompt before each, and what they come to is shown.  The
line `:vars` shows the variables, the line `:quit` ends the loop, and so does the end of the input.

## Main definitions

* `Repl.Turn`: what can become of the loop at a line
* `Repl.step s line`: what becomes of the loop at a line
* `Repl.run s lines`: what a sequence of lines shows and the session after it
-/

namespace Calculator.Repl

open Text

/-- The greeting. -/
def banner : String := "calcparse repl, :quit to leave\n"

/-- The prompt before a line. -/
def prompt : String := "> "

/-- What becomes of the loop at a line. -/
inductive Turn where
  /-- The loop goes on after a text was shown. -/
  | shows (shown : String) (s : Session)
  /-- The line ends the loop. -/
  | quits
  /-- The loop is broken off by an error that it does not report. -/
  | breaks (e : TableError)

/-- The command that a line can be: the line without the white space at its ends. -/
def command (line : String) : String :=
  String.ofList (trim line.toList)

/-- What becomes of the loop at a line.  Errors of the line itself are reported, those of the table
are not. -/
def step (s : Session) (line : String) : Turn :=
  if command line = ":quit" then .quits
  else if command line = ":vars" then .shows (Display.variableTable s.table) s
  else match s.run line with
    | (.error (.parse e), s) => .shows (Display.diagnostic e.message) s
    | (.error (.unbound e), s) => .shows (Display.diagnostic e.message) s
    | (.error (.table e), _) => .breaks e
    | (.ok .blank, s) => .shows "" s
    | (.ok (.expression tree value), s) => .shows (Display.result tree value) s
    | (.ok (.assignment name _ value), s) => .shows (Display.assignment name value) s

/-- What a sequence of lines shows, prompts included, and the session after it unless the loop is
broken off. -/
def run (s : Session) : List String → String × Except TableError Session
  | [] => (prompt ++ "\n", .ok s)
  | line :: lines =>
    match step s line with
    | .quits => (prompt, .ok s)
    | .breaks e => (prompt, .error e)
    | .shows shown s =>
      let (more, result) := run s lines
      (prompt ++ shown ++ more, result)

/-- The lines of an input, whatever breaks them; what follows the last break is a line if it is not
empty. -/
def inputLines (input : List Char) : List String :=
  let lines := splitOn '\n' (VariablesFile.unifyLines input)
  ((if lines.getLast? = some [] then lines.dropLast else lines)).map String.ofList

end Calculator.Repl
