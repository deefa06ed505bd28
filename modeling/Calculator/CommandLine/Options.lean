import Calculator.CommandLine.Similarity
import Calculator.CommandLine.Usage

/-!
# Options

The words after a command are options, which begin with a dash, and arguments.  After a word of two
dashes all words are arguments.

## Main definitions

* `OptionSpec`: the name of an option and whether it takes a value
* `Words`: the options and arguments that were found
* `readWords`: the options and arguments among some words
-/

namespace Calculator.CommandLine

/-- An option of a command. -/
structure OptionSpec where
  /-- The name with its dashes. -/
  name : String
  /-- Whether the option takes a value. -/
  takesValue : Bool
deriving DecidableEq, Repr

/-- The options that were given, in order, with their values, and the arguments. -/
structure Words where
  /-- The options. -/
  options : List (String × String)
  /-- The arguments. -/
  arguments : List String
deriving DecidableEq, Repr

namespace Words

/-- The words with an option in front. -/
def addOption (w : Words) (name value : String) : Words :=
  { w with options := (name, value) :: w.options }

/-- The words with an argument in front. -/
def addArgument (w : Words) (argument : String) : Words :=
  { w with arguments := argument :: w.arguments }

/-- The values of an option, in order. -/
def valuesOf (w : Words) (name : String) : List String :=
  (w.options.filter (·.1 = name)).map (·.2)

/-- The value of an option that counts if it is given more than once: the last. -/
def value? (w : Words) (name : String) : Option String :=
  (w.valuesOf name).getLast?

/-- Whether an option was given. -/
def has (w : Words) (name : String) : Bool :=
  w.options.any (·.1 = name)

/-- The names of the options that were given, each at its first place. -/
def optionNames (w : Words) : List String :=
  (w.options.map (·.1)).eraseDups

end Words

/-- Whether a word is an option: a dash and more. -/
def isOptionWord (word : String) : Bool :=
  match word.toList with
  | '-' :: _ :: _ => true
  | _ => false

/-- A word up to its first equals sign, and what follows the sign. -/
def splitValue (word : String) : String × Option String :=
  let name := word.toList.takeWhile (· != '=')
  match word.toList.drop name.length with
  | [] => (word, none)
  | _ :: value => (String.ofList name, some (String.ofList value))

/-- The mistake of an option that does not exist.  A word with a single dash is taken for options of
one letter, of which the first is reported. -/
def unknownOption (specs : List OptionSpec) (word name : String) : UsageProblem :=
  match word.toList with
  | '-' :: '-' :: _ => .noSuchOption name (similarWords name (specs.map (·.name)))
  | '-' :: c :: _ => .noSuchOption (String.ofList ['-', c]) []
  | _ => .noSuchOption name []

/-- The options and arguments among some words.  An option that takes a value takes it after an
equals sign, or else as the next word, whatever that is.  Unless options may stand among the
arguments, all words from the first argument on are arguments. -/
def readWords (specs : List OptionSpec) (among : Bool) :
    List String → Except UsageProblem Words
  | [] => .ok ⟨[], []⟩
  | word :: rest =>
    if word = "--" then .ok ⟨[], rest⟩
    else if isOptionWord word then
      let (name, value) := splitValue word
      match specs.find? (·.name = name) with
      | none => .error (unknownOption specs word name)
      | some spec =>
        match spec.takesValue, value with
        | false, some _ => .error (.valueUnexpected name)
        | false, none => (readWords specs among rest).map (·.addOption name "")
        | true, some value => (readWords specs among rest).map (·.addOption name value)
        | true, none =>
          match rest with
          | [] => .error (.valueMissing name)
          | value :: rest => (readWords specs among rest).map (·.addOption name value)
    else if among then (readWords specs among rest).map (·.addArgument word)
    else .ok ⟨[], word :: rest⟩

end Calculator.CommandLine
