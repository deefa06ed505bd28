import Calculator.Proofs.CommandLine.Sources
import Calculator.Proofs.NormalForm
import Calculator.Proofs.Resolution
import Calculator.Proofs.Wrapping

/-!
# Evaluating and specializing an expression

The commands that evaluate and specialize an expression get their variables in the same way, and the
two walks over the expression fail at the same variable.  So with the same words they end in the
same way, and the one shows the value of what the other shows.

## Main results

* `run_sources`: what comes of options that say where variables come from, around an expression
* `evaluate_specialize_cases`: both commands under one table
* `run_evaluate_specialize`: both commands with the same words
-/

namespace Calculator.CommandLine

open Terminal

section Runs

variable {store : FileStore} {name : CommandName} {expression : String}
  {options before after : List SourceOption}

/-- The commands that get variables from options. -/
theorem takesSources (h : name = .eval ∨ name = .specialize) : TakesSources name.options := by
  rcases h with rfl | rfl
  · exact ⟨by decide, by decide, by decide⟩
  · exact ⟨by decide, by decide, by decide⟩

/-- The options are checked, and then they and the expression make the command. -/
theorem commandOfWords_sources (store : FileStore) (hname : name = .eval ∨ name = .specialize)
    (hexpression : expression.toList.head? ≠ some '-') (before after : List SourceOption) :
    commandOfWords store name (before.flatMap SourceOption.words ++
        expression :: after.flatMap SourceOption.words) =
      (checkOptions store (sourceWords (before ++ after) expression)).map fun _ =>
        expressionCommand name (sourceWords (before ++ after) expression) expression := by
  have hhelp : (sourceWords (before ++ after) expression).has "--help" = false :=
    has_eq_false (by decide)
  have htakes : name.takesExpression = true := by
    rcases hname with rfl | rfl <;> rfl
  have hread := readWords_sources (takesSources hname) hexpression before after
  rw [commandOfWords, hread]
  show (if (sourceWords (before ++ after) expression).has "--help" = true then _ else _) = _
  rw [hhelp, if_neg Bool.false_ne_true, if_pos htakes]
  show checkOptions store (sourceWords (before ++ after) expression) >>= _ = _
  cases checkOptions store (sourceWords (before ++ after) expression) <;> rfl

/-- **Options around an expression** are checked, and if they pass, the command is run. -/
theorem run_sources (store : FileStore) (input : String) (strict : Bool)
    (hname : name = .eval ∨ name = .specialize) (hexpression : expression.toList.head? ≠ some '-')
    (before after : List SourceOption) :
    run store (programWords strict ++ name.word :: (before.flatMap SourceOption.words ++
        expression :: after.flatMap SourceOption.words)) input =
      match checkOptions store (sourceWords (before ++ after) expression) with
      | .error problem =>
        match (UsageError.mk name.synopsis problem).fileError? with
        | some e => ⟨1, "", store, some (.file e)⟩
        | none => ⟨2, (UsageError.mk name.synopsis problem).render, store, none⟩
      | .ok _ =>
        runCommand store input ⟨strict, expressionCommand name
          (sourceWords (before ++ after) expression) expression⟩ := by
  rw [run, readInvocation_command, commandOfWords_sources store hname hexpression]
  cases checkOptions store (sourceWords (before ++ after) expression) <;> rfl

end Runs

/-! ## Both commands -/

section Tables

variable {store : FileStore} {source : VariableSource} {config : ParserConfig}
  {expression : String} {t : Table} {e r : Expr} {x : Float} {err : UnboundVariable}

theorem evaluate_of_eval_ok (hbuild : buildTable store source = .ok t)
    (hparse : Expr.parse config expression = .ok e) (h : e.eval t.bindings = .ok x) :
    evaluate store config expression source false = .success store (Display.result e x) := by
  rw [evaluate, hbuild, parseOrStop, hparse]
  simp only [Except.mapError, bind, Except.bind, h, Bool.false_eq_true, if_false,
    String.empty_append]
  rfl

theorem evaluate_of_eval_error (hbuild : buildTable store source = .ok t)
    (hparse : Expr.parse config expression = .ok e) (h : e.eval t.bindings = .error err) :
    evaluate store config expression source false =
      .failure store (Display.diagnostic err.message) := by
  rw [evaluate, hbuild, parseOrStop, hparse]
  simp only [Except.mapError, bind, Except.bind, h, Bool.false_eq_true, if_false,
    String.empty_append]
  rfl

theorem specialize_of_resolve_ok (hbuild : buildTable store source = .ok t)
    (hparse : Expr.parse config expression = .ok e) (h : e.resolve t.bindings = .ok r) :
    specialize store config expression source false = .success store (echo r.format) := by
  rw [specialize, hbuild, parseOrStop, hparse]
  simp only [Except.mapError, bind, Except.bind, h, boundOrStop, Bool.false_eq_true, if_false]
  rfl

theorem specialize_of_resolve_error (hbuild : buildTable store source = .ok t)
    (hparse : Expr.parse config expression = .ok e) (h : e.resolve t.bindings = .error err) :
    specialize store config expression source false =
      .failure store (Display.diagnostic err.message) := by
  rw [specialize, hbuild, parseOrStop, hparse]
  simp only [Except.mapError, bind, Except.bind, h, boundOrStop, Bool.false_eq_true, if_false]
  rfl

/-- **Under one table** both commands report the same, or they show the value and the expression of
that value. -/
theorem evaluate_specialize_cases {options : List SourceOption}
    (hbuild : (∃ text, buildTable store source = .error (.reported text)) ∨
      ∃ t, buildTable store source = .ok t ∧ Provides store options t.bindings)
    (config : ParserConfig) (expression : String) :
    (∃ text, evaluate store config expression source false = .failure store text ∧
      specialize store config expression source false = .failure store text) ∨
    ∃ bindings e r x, Provides store options bindings ∧
      Expr.parse config expression = .ok e ∧ e.resolve bindings = .ok r ∧
      e.eval bindings = .ok x ∧ (∀ other, r.eval other = .ok x) ∧
      specialize store config expression source false = .success store (echo r.format) ∧
      evaluate store config expression source false = .success store (Display.result e x) := by
  rcases hbuild with ⟨text, hbuild⟩ | ⟨t, hbuild, hprovides⟩
  · rw [evaluate, specialize, hbuild]
    exact .inl ⟨text, rfl, rfl⟩
  rcases hparse : Expr.parse config expression with p | e
  · rw [evaluate, specialize, hbuild, parseOrStop, hparse]
    exact .inl ⟨_, rfl, rfl⟩
  -- the two walks over the expression fail together
  rcases Expr.resolveWith_cases t.bindings.lookup e with ⟨err, hr, hx⟩ | ⟨r, x, hr, hx, hvalue⟩
  · exact .inl ⟨_, evaluate_of_eval_error hbuild hparse hx,
      specialize_of_resolve_error hbuild hparse hr⟩
  · exact .inr ⟨t.bindings, e, r, x, hprovides, rfl, hr, hx, fun other => hvalue other.lookup,
      specialize_of_resolve_ok hbuild hparse hr, evaluate_of_eval_ok hbuild hparse hx⟩

end Tables

/-- **With the same words** the two commands end in the same way, and neither in an error that is
not reported, unless a path has the null character.  They report the same mistake, or one shows the
value of the expression under the variables that the options ask for, and the other shows the
expression with these variables replaced, which has this value whatever variables there are.  The
value stands behind the text of the expression and an equals sign, wrapped to the width of the
terminal. -/
theorem run_evaluate_specialize (store : FileStore) (input : String) (strict : Bool)
    (before after : List SourceOption) (expression : String)
    (hexpression : expression.toList.head? ≠ some '-') :
    let words := before.flatMap SourceOption.words ++
      expression :: after.flatMap SourceOption.words
    let evaluated := run store (programWords strict ++ CommandName.eval.word :: words) input
    let specialized := run store (programWords strict ++ CommandName.specialize.word :: words) input
    ((∀ path ∈ SourceOption.paths (before ++ after), '\x00' ∉ path.toList) →
      evaluated.escaped = none ∧ specialized.escaped = none) ∧
    evaluated.exitCode = specialized.exitCode ∧
    (evaluated.exitCode = 1 → evaluated.output = specialized.output) ∧
    (evaluated.exitCode = 0 → ∃ bindings e r x, Provides store (before ++ after) bindings ∧
      Expr.parse { allowEmpty := !strict } expression = .ok e ∧ e.resolve bindings = .ok r ∧
      e.eval bindings = .ok x ∧ (∀ other, r.eval other = .ok x) ∧
      specialized.output = echo r.format ∧ evaluated.output = Display.result e x ∧
      ∃ lines, evaluated.output = Display.joinLines lines ∧
        IsWrapped terminalWidth (e.format ++ " = " ++ formatNumber x).toList lines) := by
  intro words evaluated specialized
  have hevaluated : evaluated = _ :=
    run_sources store input strict (.inl rfl) hexpression before after
  have hspecialized : specialized = _ :=
    run_sources store input strict (.inr rfl) hexpression before after
  rcases checkOptions_sources store (before ++ after) expression with
    ⟨problem, hcheck, hnull⟩ | ⟨hcheck, hgiven, hread⟩
  · -- the mistake is the same, and only the synopsis above it differs
    have hsame : (UsageError.mk CommandName.specialize.synopsis problem).fileError? =
        (UsageError.mk CommandName.eval.synopsis problem).fileError? := rfl
    rw [hevaluated, hspecialized, hcheck]
    simp only [hsame]
    cases hfile : (UsageError.mk CommandName.eval.synopsis problem).fileError? with
    | some e =>
      obtain ⟨path, hpath, hmem⟩ := hnull _ _ hfile
      exact ⟨fun hpaths => absurd hmem (hpaths path hpath), rfl, fun _ => rfl, nofun⟩
    | none => exact ⟨fun _ => ⟨rfl, rfl⟩, rfl, nofun, nofun⟩
  · have htree : (sourceWords (before ++ after) expression).has "--tree" = false :=
      has_eq_false (by decide)
    have hpartial : (sourceWords (before ++ after) expression).has "--partial" = false :=
      has_eq_false (by decide)
    rw [hevaluated, hspecialized, hcheck]
    simp only [runCommand, expressionCommand, htree, hpartial]
    rcases evaluate_specialize_cases
        (buildTable_sources hgiven hread) { allowEmpty := !strict }
        expression with
      ⟨text, heval, hspec⟩ | ⟨bindings, e, r, x, hprovides, hparse, hr, hx, hvalue, hspec, heval⟩
    · rw [heval, hspec]
      exact ⟨fun _ => ⟨rfl, rfl⟩, rfl, fun _ => rfl, nofun⟩
    · rw [heval, hspec]
      obtain ⟨lines, hlines, hresult⟩ :=
        Display.result_isWrapped (Expr.isIdentifier_of_parse hparse) x
      exact ⟨fun _ => ⟨rfl, rfl⟩, rfl, nofun, fun _ =>
        ⟨bindings, e, r, x, hprovides, hparse, hr, hx, hvalue, rfl, rfl, lines, hresult, hlines⟩⟩

/-- A file that gives a constant another value, and a variable that is bound twice. -/
theorem run_evaluate_specialize_overlaid :
    let store : FileStore :=
      ⟨[(["vars"], .file (Utf8.encode "\x7b\"x\": 2, \"pi\": 3\x7d".toList))]⟩
    let before : List SourceOption := [.file "./vars" true, .binding " y =4" false]
    let after : List SourceOption := [.binding "y=0.5" true]
    let words := before.flatMap SourceOption.words ++
      "x * y + pi" :: after.flatMap SourceOption.words
    let evaluated := run store (programWords true ++ CommandName.eval.word :: words) ""
    let specialized := run store (programWords true ++ CommandName.specialize.word :: words) ""
    evaluated.escaped = none ∧ evaluated.output = "x * y + pi = 4\n" ∧
      specialized.output = "2 * 0.5 + 3\n" ∧
      ∃ bindings e x, Provides store (before ++ after) bindings ∧
        e.eval bindings = .ok x ∧ evaluated.output = Display.result e x := by
  intro store before after words evaluated specialized
  have hexpression : "x * y + pi".toList.head? ≠ some '-' := by decide
  obtain ⟨hescaped, -, -, hshown⟩ :=
    run_evaluate_specialize store "" true before after "x * y + pi" hexpression
  have hpaths : ∀ path ∈ SourceOption.paths (before ++ after), '\x00' ∉ path.toList := by
    decide
  have hruns : (evaluated.exitCode = 0 ∧ evaluated.output = "x * y + pi = 4\n") ∧
      specialized.output = "2 * 0.5 + 3\n" := by
    decide +kernel
  obtain ⟨⟨hcode, heval⟩, hspec⟩ := hruns
  obtain ⟨bindings, e, r, x, hprovides, -, -, hx, -, -, hresult, -⟩ := hshown hcode
  exact ⟨(hescaped hpaths).1, heval, hspec, bindings, e, x, hprovides, hx, hresult⟩

end Calculator.CommandLine
