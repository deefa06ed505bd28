import Calculator.CommandLine.Run
import Mathlib.Data.List.TakeWhile

/-!
# Words of a command

Options may stand before and after the expression, and the value of an option in the next word or
behind an equals sign.  None of this matters to what is read: the options in their order, and the
expression as the only argument.

## Main definitions

* `SourceOption`: an option that says where variables come from
* `SourceOption.words`: how the option is written
* `SourceOption.entry`: the option and value as which it is read
* `TakesSources specs`: the options that say where variables come from are among `specs`

## Main results

* `readWords_argument`, `readWords_flag`, `readWords_value`: arguments, options, and options with a
  value
* `readWords_sources`: options that say where variables come from, around an expression
* `run_of_commandOfWords`: the run of a command
-/

namespace Calculator.CommandLine

/-! ## Arguments -/

/-- A word that does not begin with a dash is an argument. -/
theorem readWords_argument (specs : List OptionSpec) {word : String}
    (h : word.toList.head? ≠ some '-') (rest : List String) :
    readWords specs true (word :: rest) = (readWords specs true rest).map (·.addArgument word) := by
  have hdashes : word ≠ "--" := by
    rintro rfl
    exact h rfl
  have hoption : isOptionWord word = false := by
    rw [isOptionWord]
    split
    · rename_i heq
      rw [heq] at h
      exact absurd rfl h
    · rfl
  rw [readWords, if_neg hdashes, hoption]
  rfl

/-! ## Options -/

theorem splitValue_of_not_mem {name : String} (h : '=' ∉ name.toList) :
    splitValue name = (name, none) := by
  have htake : name.toList.takeWhile (· != '=') = name.toList :=
    List.takeWhile_eq_self_iff.mpr fun c hc => bne_iff_ne.mpr fun heq => h (heq ▸ hc)
  simp only [splitValue, htake, List.drop_length]

/-- An option without a value is a word of its own. -/
theorem readWords_flag {specs : List OptionSpec} {name : String} (hname : isOptionWord name = true)
    (hdashes : name ≠ "--") (hequals : '=' ∉ name.toList)
    (hspec : specs.find? (·.name = name) = some ⟨name, false⟩) (among : Bool) (rest : List String) :
    readWords specs among (name :: rest) =
      (readWords specs among rest).map (·.addOption name "") := by
  rw [readWords, if_neg hdashes, if_pos hname, splitValue_of_not_mem hequals]
  simp only [hspec]

/-! ## Options with a value -/

/-- An option and its value: in two words, or in one with an equals sign between them. -/
def valueWords (name value : String) (joined : Bool) : List String :=
  if joined then [name ++ "=" ++ value] else [name, value]

section Values

variable {name value : String}

theorem splitValue_joined (h : '=' ∉ name.toList) (value : String) :
    splitValue (name ++ "=" ++ value) = (name, some value) := by
  have hword : (name ++ "=" ++ value).toList = name.toList ++ '=' :: value.toList := by
    simp [String.toList_append]
  have htake : (name ++ "=" ++ value).toList.takeWhile (· != '=') = name.toList := by
    rw [hword, List.takeWhile_append_of_pos, List.takeWhile_cons_of_neg (by decide),
      List.append_nil]
    exact fun c hc => bne_iff_ne.mpr fun heq => h (heq ▸ hc)
  simp only [splitValue, htake]
  rw [hword, List.drop_left]
  simp only [String.ofList_toList]

theorem isOptionWord_append (h : isOptionWord name = true) (text : String) :
    isOptionWord (name ++ text) = true := by
  rw [isOptionWord] at h
  split at h
  · rename_i c cs hname
    rw [isOptionWord, String.toList_append, hname]
    rfl
  · cases h

/-- **The value of an option** is what follows it, in the next word or behind an equals sign. -/
theorem readWords_value {specs : List OptionSpec} (hname : isOptionWord name = true)
    (hdashes : name ≠ "--") (hequals : '=' ∉ name.toList)
    (hspec : specs.find? (·.name = name) = some ⟨name, true⟩) (among : Bool) (value : String)
    (joined : Bool) (rest : List String) :
    readWords specs among (valueWords name value joined ++ rest) =
      (readWords specs among rest).map (·.addOption name value) := by
  cases joined with
  | false =>
    show readWords specs among (name :: value :: rest) = _
    rw [readWords, if_neg hdashes, if_pos hname, splitValue_of_not_mem hequals]
    simp only [hspec]
  | true =>
    -- its equals sign tells the word from two dashes
    have hword : name ++ "=" ++ value ≠ "--" := by
      intro heq
      have hmem : '=' ∈ (name ++ "=" ++ value).toList := by simp [String.toList_append]
      rw [heq] at hmem
      exact absurd hmem (by decide)
    have hoption : isOptionWord (name ++ "=" ++ value) = true := by
      rw [String.append_assoc]
      exact isOptionWord_append hname _
    show readWords specs among ((name ++ "=" ++ value) :: rest) = _
    rw [readWords, if_neg hword, if_pos hoption, splitValue_joined hequals]
    simp only [hspec]

end Values

/-! ## Where variables come from -/

/-- An option that says where variables come from.  Where it has a value, `joined` tells whether the
value stands in the same word. -/
inductive SourceOption where
  /-- A name and its value. -/
  | binding (item : String) (joined : Bool)
  /-- A file of variables. -/
  | file (path : String) (joined : Bool)
  /-- No builtin constants. -/
  | withoutBuiltins
deriving DecidableEq

namespace SourceOption

/-- The words of an option. -/
def words : SourceOption → List String
  | binding item joined => valueWords "--var" item joined
  | file path joined => valueWords "--vars-file" path joined
  | withoutBuiltins => ["--no-builtins"]

/-- The option and the value as which it is read. -/
def entry : SourceOption → String × String
  | binding item _ => ("--var", item)
  | file path _ => ("--vars-file", path)
  | withoutBuiltins => ("--no-builtins", "")

end SourceOption

/-- The options that say where variables come from are among those of a command. -/
structure TakesSources (specs : List OptionSpec) : Prop where
  var : specs.find? (·.name = "--var") = some ⟨"--var", true⟩
  file : specs.find? (·.name = "--vars-file") = some ⟨"--vars-file", true⟩
  builtins : specs.find? (·.name = "--no-builtins") = some ⟨"--no-builtins", false⟩

section Sources

variable {specs : List OptionSpec} {expression : String} {options before after : List SourceOption}

theorem readWords_option (h : TakesSources specs) (option : SourceOption) (rest : List String) :
    readWords specs true (option.words ++ rest) =
      (readWords specs true rest).map (·.addOption option.entry.1 option.entry.2) := by
  cases option with
  | binding item joined =>
    exact readWords_value (by decide) (by decide) (by decide) h.var true item joined rest
  | file path joined =>
    exact readWords_value (by decide) (by decide) (by decide) h.file true path joined rest
  | withoutBuiltins =>
    exact readWords_flag (by decide) (by decide) (by decide) h.builtins true rest

theorem readWords_options (h : TakesSources specs) (options : List SourceOption)
    (rest : List String) :
    readWords specs true (options.flatMap SourceOption.words ++ rest) =
      (readWords specs true rest).map fun w =>
        { w with options := options.map SourceOption.entry ++ w.options } := by
  induction options with
  | nil =>
    show readWords specs true rest = _
    cases readWords specs true rest <;> rfl
  | cons option options ih =>
    rw [List.flatMap_cons, List.append_assoc, readWords_option h, ih]
    cases readWords specs true rest <;> rfl

/-- **Options around an expression** are read in their order, and the expression as the only
argument. -/
theorem readWords_sources (h : TakesSources specs)
    (hexpression : expression.toList.head? ≠ some '-')
    (before after : List SourceOption) :
    readWords specs true (before.flatMap SourceOption.words ++
        expression :: after.flatMap SourceOption.words) =
      .ok ⟨(before ++ after).map SourceOption.entry, [expression]⟩ := by
  have hafter := readWords_options h after []
  rw [List.append_nil] at hafter
  rw [readWords_options h, readWords_argument specs hexpression, hafter, readWords, List.map_append]
  simp only [Except.map, Words.addArgument, List.append_nil]

end Sources

/-! ## The command -/

/-- The words in front of a command: the option under which an empty expression is an error, or
none. -/
def programWords (strict : Bool) : List String :=
  if strict then ["--strict-empty"] else []

/-- The word of a command ends the options of the program. -/
theorem readProgramWords_command (store : FileStore) (strict : Bool) (name : CommandName)
    (words : List String) :
    readProgramWords store (programWords strict ++ name.word :: words) =
      .ok ⟨if strict then [("--strict-empty", "")] else [], name.word :: words⟩ := by
  have hword : isOptionWord name.word = false ∧ name.word ≠ "--" := by
    cases name <;> decide
  cases strict with
  | false =>
    show readProgramWords store (name.word :: words) = _
    rw [readProgramWords, readWords, if_neg hword.2, hword.1]
    rfl
  | true =>
    show readProgramWords store ("--strict-empty" :: name.word :: words) = _
    rw [readProgramWords, readWords_flag (by decide) (by decide) (by decide) rfl, readWords,
      if_neg hword.2, hword.1]
    rfl

/-- The words of a command are read after those of the program. -/
theorem readInvocation_command (store : FileStore) (strict : Bool) (name : CommandName)
    (words : List String) :
    readInvocation store (programWords strict ++ name.word :: words) =
      ((commandOfWords store name words).mapError (UsageError.mk name.synopsis)).map
        (Invocation.mk strict) := by
  have hname : CommandName.all.find? (·.word = name.word) = some name := by
    cases name <;> decide
  have hwords := readProgramWords_command store strict name words
  have hnil : programWords strict ++ name.word :: words ≠ [] := by simp
  rw [readInvocation, if_neg hnil]
  simp only [hwords, Except.mapError, bind, Except.bind]
  cases strict with
  | false =>
    simp only [Words.has, Bool.false_eq_true, if_false, List.any_nil, hname]
    cases commandOfWords store name words <;> rfl
  | true =>
    simp only [Words.has, if_true, List.any_cons, List.any_nil, hname]
    cases commandOfWords store name words <;> rfl

/-- **The run of a command** whose words make sense. -/
theorem run_of_commandOfWords {store : FileStore} {name : CommandName} {words : List String}
    {command : Command} (h : commandOfWords store name words = .ok command) (strict : Bool)
    (input : String) :
    run store (programWords strict ++ name.word :: words) input =
      runCommand store input ⟨strict, command⟩ := by
  rw [run, readInvocation_command, h]
  rfl

end Calculator.CommandLine
