import Calculator.Proofs.CommandLine.Specialize

/-!
# Specializing in stages

An expression whose known variables are replaced can be specialized again when more variables are
known.  What comes of the stages is what comes of all variables at once, those of the first stage in
force.  The command that leaves unknown variables in place is a first stage, so it does what the
other one does if no variable is left.

## Main results

* `specialize_of_substitute`: what is shown when unknown variables stay
* `specialize_partial_iff`: when leaving unknown variables in place makes no difference
* `resolve_in_stages`: two stages, how they fail, and the command with one stage
-/

namespace Calculator.CommandLine

variable {store : FileStore} {source : VariableSource} {config : ParserConfig}
  {expression : String} {t : Table} {e : Expr}

theorem specialize_of_substitute (hbuild : buildTable store source = .ok t)
    (hparse : Expr.parse config expression = .ok e) :
    specialize store config expression source true =
      .success store
        (echo (e.substitute fun name => (t.bindings.find? name).map .value).format) := by
  rw [specialize, hbuild, parseOrStop, hparse]
  rfl

/-- **Leaving unknown variables in place** makes no difference exactly if every variable of the
expression is in the table.  Without a table or an expression the mistake is the same. -/
theorem specialize_partial_iff (store : FileStore) (config : ParserConfig) (expression : String)
    (source : VariableSource) :
    specialize store config expression source true =
        specialize store config expression source false ↔
      ∀ t e, buildTable store source = .ok t → Expr.parse config expression = .ok e →
        ∀ name ∈ e.occurrences, t.bindings.contains name = true := by
  constructor
  · intro hsame t e hbuild hparse
    rw [specialize_of_substitute hbuild hparse] at hsame
    rcases hresolve : e.resolve t.bindings with err | r
    · -- one run goes well and the other does not
      rw [specialize_of_resolve_error hbuild hparse hresolve] at hsame
      exact absurd (congrArg Outcome.exitCode hsame) Nat.zero_ne_one
    · exact Expr.contains_of_resolve_eq_ok hresolve
  · intro h
    rcases hbuild : buildTable store source with stop | t
    · rw [specialize, specialize, hbuild]
      rfl
    rcases hparse : Expr.parse config expression with p | e
    · rw [specialize, specialize, hbuild, parseOrStop, hparse]
      rfl
    rw [specialize_of_substitute hbuild hparse, specialize_of_resolve_ok hbuild hparse
      (Expr.resolve_of_forall_contains (h t e hbuild hparse))]

/-- **Replacement in stages.**  The variables of one map replaced and then those of another come to
what the two maps come to at once, with the bindings of the first in force.  Both report the first
variable from the left that neither map has.  So the command that leaves unknown variables in place
does the same as the one that does not, exactly if no variable is unknown. -/
theorem resolve_in_stages (known bindings : NameMap Float) (e : Expr) :
    (e.substitute fun name => (known.find? name).map .value).resolve bindings =
      e.resolve (bindings.overlay known) ∧
    (∀ err, e.resolve (bindings.overlay known) = .error err ↔
      (e.occurrences.find? fun name => !known.contains name && !bindings.contains name) =
        some err.name) ∧
    ∀ store config expression source,
      specialize store config expression source true =
          specialize store config expression source false ↔
        ∀ t e, buildTable store source = .ok t → Expr.parse config expression = .ok e →
          ∀ name ∈ e.occurrences, t.bindings.contains name = true := by
  refine ⟨Expr.resolve_substitute known bindings e, fun err => ?_, specialize_partial_iff⟩
  have hcontains (name : String) : (!(bindings.overlay known).contains name) =
      (!known.contains name && !bindings.contains name) := by
    simp only [NameMap.contains, NameMap.find?_overlay, Option.isSome_or, Bool.not_or]
  rw [Expr.resolve_eq_error_iff, funext hcontains]

end Calculator.CommandLine
