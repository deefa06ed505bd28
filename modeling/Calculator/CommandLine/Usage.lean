import Calculator.Files.Store

/-!
# Usage errors

What can be wrong with the arguments of a command, and how it is reported.

## Main definitions

* `UsageProblem`, `UsageProblem.message`: the kinds of mistakes and their wording
* `Synopsis`: how a command is used
* `UsageError`, `UsageError.render`: a mistake, shown below the synopsis of the command
-/

namespace Calculator.CommandLine

/-- Why the value of an option is refused. -/
inductive ValueProblem where
  /-- A binding has no equals sign. -/
  | notBinding (item : String)
  /-- A binding gives something else than a number. -/
  | notNumber (raw : String)
  /-- A file does not exist. -/
  | missingFile (path : String)
  /-- A directory stands where a file is needed. -/
  | directory (path : String)
  /-- The value is not one of the choices. -/
  | notChoice (value : String) (choices : List String)
  /-- The value is no path at all. -/
  | unusable (e : FileError)
deriving DecidableEq, Repr

/-- The wording of a problem with a value. -/
def ValueProblem.message : ValueProblem → String
  | notBinding item => "expected NAME=VALUE, got " ++ quoted item
  | notNumber raw => quoted raw ++ " is not a number"
  | missingFile path => "File " ++ quoted path ++ " does not exist."
  | directory path => "File " ++ quoted path ++ " is a directory."
  | notChoice value choices =>
    quoted value ++ " is not one of " ++ ", ".intercalate (choices.map quoted) ++ "."
  | unusable e => e.message

/-- What is wrong with the arguments of a command. -/
inductive UsageProblem where
  /-- There is no such option; some options have similar names. -/
  | noSuchOption (name : String) (similar : List String)
  /-- There is no such command; some commands have similar names. -/
  | noSuchCommand (name : String) (similar : List String)
  /-- An option stands at the end without its value. -/
  | valueMissing (option : String)
  /-- A value is given to an option that has none. -/
  | valueUnexpected (option : String)
  /-- The value of an option is refused. -/
  | invalidValue (option : String) (problem : ValueProblem)
  /-- No command is given. -/
  | missingCommand
  /-- An argument is missing. -/
  | missingArgument (name : String)
  /-- There are more arguments than the command takes. -/
  | extraArguments (arguments : List String)
deriving DecidableEq, Repr

namespace UsageProblem

/-- A hint at similar names. -/
def hint : List String → String
  | [] => ""
  | [name] => " Did you mean " ++ quoted name ++ "?"
  | names => " (Did you mean one of: " ++ ", ".intercalate (names.map quoted) ++ "?)"

/-- The wording of a mistake. -/
def message : UsageProblem → String
  | noSuchOption name similar => "No such option " ++ quoted name ++ "." ++ hint similar
  | noSuchCommand name similar => "No such command " ++ quoted name ++ "." ++ hint similar
  | valueMissing option => "Option " ++ quoted option ++ " requires an argument."
  | valueUnexpected option => "Option " ++ quoted option ++ " does not take a value."
  | invalidValue option problem =>
    "Invalid value for '" ++ option ++ "': " ++ problem.message
  | missingCommand => "Missing command."
  | missingArgument name => "Missing argument '" ++ name ++ "'."
  | extraArguments [argument] => "Got unexpected extra argument (" ++ argument ++ ")"
  | extraArguments arguments =>
    "Got unexpected extra arguments (" ++ " ".intercalate arguments ++ ")"

/-- Whether a mistake is shown below the synopsis of its command; one about the value that an option
needs or refuses stands alone. -/
def showsSynopsis : UsageProblem → Bool
  | valueMissing _ => false
  | valueUnexpected _ => false
  | _ => true

end UsageProblem

/-- How a command is used. -/
structure Synopsis where
  /-- The words that call it. -/
  path : String
  /-- What follows them. -/
  arguments : String
deriving DecidableEq, Repr

/-- The line that shows how a command is used. -/
def Synopsis.usage (s : Synopsis) : String :=
  "Usage: " ++ s.path ++ " " ++ s.arguments ++ "\n"

/-- A mistake in the arguments of a command. -/
structure UsageError where
  /-- The command. -/
  synopsis : Synopsis
  /-- The mistake. -/
  problem : UsageProblem
deriving DecidableEq, Repr

/-- The error of a path, if there is one that is not reported as a mistake in the arguments. -/
def UsageError.fileError? (e : UsageError) : Option FileError :=
  match e.problem with
  | .invalidValue _ (.unusable e) => some e
  | _ => none

/-- The text that reports a mistake. -/
def UsageError.render (e : UsageError) : String :=
  (if e.problem.showsSynopsis then
    e.synopsis.usage ++ "Try '" ++ e.synopsis.path ++ " --help' for help.\n\n"
  else "") ++ "Error: " ++ e.problem.message ++ "\n"

end Calculator.CommandLine
