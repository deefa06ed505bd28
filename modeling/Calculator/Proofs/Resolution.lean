import Calculator.Environment
import Calculator.Proofs.Reduction
import Mathlib.Data.Tree.Basic

/-!
# Variables replaced by their values

Replacing the variables of an expression by their values fails where evaluation fails: at the first
variable from the left whose look-up fails.  What is left otherwise has the operators and the value
of the expression, and no variables to look up.

## Main definitions

* `errorOf r`: the error of an outcome
* `firstError? lookup names`: the error of the first name whose look-up fails
* `Expr.operators e`: the operators of an expression in their places

## Main results

* `Expr.errorOf_evalWith`: evaluation fails at the first variable whose look-up fails
* `Expr.resolveWith_cases`: replacing variables and evaluating come to the same
* `Expr.resolveWith_spec`: when both fail, how, and what is left otherwise
* `Expr.resolveWith_substitute`: replacing some variables by numbers before the others
* `Expr.occurrences_substitute`: the variables after a substitution
-/

namespace Calculator

/-! ## The first error -/

section Errors

variable {ε α : Type} {err : ε}

/-- The error of an outcome, if it is one. -/
def errorOf : Except ε α → Option ε
  | .error err => some err
  | .ok _ => none

theorem errorOf_eq_some_iff {r : Except ε α} : errorOf r = some err ↔ r = .error err := by
  cases r <;> simp [errorOf]

theorem errorOf_eq_none_iff {r : Except ε α} : errorOf r = none ↔ ∃ x, r = .ok x := by
  cases r <;> simp [errorOf]

/-- The error of the first of some names whose look-up fails. -/
def firstError? (lookup : String → Except ε Float) (names : List String) : Option ε :=
  names.findSome? fun name => errorOf (lookup name)

theorem firstError?_append (lookup : String → Except ε Float) (us vs : List String) :
    firstError? lookup (us ++ vs) = (firstError? lookup us).or (firstError? lookup vs) :=
  List.findSome?_append

/-- Among bindings the first error names the first name that is not bound. -/
theorem firstError?_lookup (bindings : NameMap Float) (names : List String) :
    firstError? bindings.lookup names =
      (names.find? fun name => !bindings.contains name).map UnboundVariable.mk := by
  induction names with
  | nil => rfl
  | cons name names ih =>
    rw [firstError?, List.findSome?_cons, ← firstError?, ih, List.find?_cons, NameMap.lookup,
      NameMap.contains]
    cases bindings.find? name <;> rfl

theorem firstError?_lookup_eq_some_iff {bindings : NameMap Float} {names : List String}
    {err : UnboundVariable} :
    firstError? bindings.lookup names = some err ↔
      (names.find? fun name => !bindings.contains name) = some err.name := by
  rw [firstError?_lookup, Option.map_eq_some_iff]
  constructor
  · rintro ⟨name, hname, rfl⟩
    exact hname
  · intro h
    exact ⟨err.name, h, rfl⟩

theorem firstError?_lookup_eq_none_iff {bindings : NameMap Float} {names : List String} :
    firstError? bindings.lookup names = none ↔ ∀ name ∈ names, bindings.contains name = true := by
  rw [firstError?_lookup, Option.map_eq_none_iff, List.find?_eq_none]
  simp only [Bool.not_eq_true', Bool.not_eq_false]

end Errors

namespace Expr

variable {ε : Type} {lookup : String → Except ε Float} {e r : Expr}

/-- **Evaluation fails** at the first variable from the left whose look-up fails. -/
theorem errorOf_evalWith (lookup : String → Except ε Float) (e : Expr) :
    errorOf (e.evalWith lookup) = firstError? lookup e.occurrences := by
  induction e with
  | value x => rfl
  | var name =>
    rw [evalWith, occurrences, firstError?, List.findSome?_cons]
    cases errorOf (lookup name) <;> rfl
  | operation op left right ihleft ihright =>
    -- the left operand comes first, in the names and in time
    rw [occurrences, firstError?_append, ← ihleft, ← ihright, evalWith]
    cases left.evalWith lookup with
    | error err => rfl
    | ok x => cases right.evalWith lookup <;> rfl

/-! ## Replacement and evaluation -/

/-- **Replacement and evaluation** fail together, with the same error, and otherwise agree under
every way to look up variables. -/
theorem resolveWith_cases (lookup : String → Except ε Float) (e : Expr) :
    (∃ err, e.resolveWith lookup = .error err ∧ e.evalWith lookup = .error err) ∨
      ∃ r x, e.resolveWith lookup = .ok r ∧ e.evalWith lookup = .ok x ∧
        ∀ {δ : Type} (other : String → Except δ Float), r.evalWith other = .ok x := by
  induction e with
  | value x => exact .inr ⟨value x, x, rfl, rfl, fun _ => rfl⟩
  | var name =>
    rw [resolveWith, evalWith]
    rcases lookup name with err | x
    · exact .inl ⟨err, rfl, rfl⟩
    · exact .inr ⟨value x, x, rfl, rfl, fun _ => rfl⟩
  | operation op left right ihleft ihright =>
    rw [resolveWith, evalWith]
    rcases ihleft with ⟨err, hl, hx⟩ | ⟨l, x, hl, hx, hleft⟩
    · rw [hl, hx]
      exact .inl ⟨err, rfl, rfl⟩
    · rw [hl, hx]
      rcases ihright with ⟨err, hr, hy⟩ | ⟨r, y, hr, hy, hright⟩
      · rw [hr, hy]
        exact .inl ⟨err, rfl, rfl⟩
      · rw [hr, hy]
        refine .inr ⟨operation op l r, op.apply x y, rfl, rfl, fun other => ?_⟩
        rw [evalWith, hleft, hright]
        rfl

theorem errorOf_resolveWith (lookup : String → Except ε Float) (e : Expr) :
    errorOf (e.resolveWith lookup) = firstError? lookup e.occurrences := by
  rw [← errorOf_evalWith]
  rcases resolveWith_cases lookup e with ⟨err, hr, hx⟩ | ⟨r, x, hr, hx, -⟩
  · rw [hr, hx]
    rfl
  · rw [hr, hx]
    rfl

/-- The operators of an expression, each in its place; the leaves are left out. -/
def operators : Expr → BinaryTree Operator
  | value _ => .nil
  | var _ => .nil
  | operation op left right => .node op left.operators right.operators

/-- What is left has numbers in place of the variables. -/
theorem shape_of_resolveWith (h : e.resolveWith lookup = .ok r) :
    r.occurrences = [] ∧ r.size = e.size ∧ r.operators = e.operators := by
  induction e generalizing r with
  | value x =>
    cases h
    exact ⟨rfl, rfl, rfl⟩
  | var name =>
    obtain ⟨x, -, hr⟩ := bind_eq_ok h
    cases hr
    exact ⟨rfl, rfl, rfl⟩
  | operation op left right ihleft ihright =>
    obtain ⟨l, hl, h⟩ := bind_eq_ok h
    obtain ⟨r', hr', h⟩ := bind_eq_ok h
    cases h
    obtain ⟨hnames, hsize, hoperators⟩ := ihleft hl
    obtain ⟨hnames', hsize', hoperators'⟩ := ihright hr'
    refine ⟨?_, ?_, ?_⟩
    · rw [occurrences, hnames, hnames', List.append_nil]
    · rw [size, size, hsize, hsize']
    · rw [operators, operators, hoperators, hoperators']

/-- **Values in place of variables.**  Replacing the variables of an expression by what a look-up
gives them succeeds exactly if evaluating the expression does.  When they fail, both report the
error of the first variable from the left whose look-up fails.  What is left otherwise has no
variables, the size and the operators of the expression, and its value under whatever look-up there
is. -/
theorem resolveWith_spec (lookup : String → Except ε Float) (e : Expr) :
    ((∃ r, e.resolveWith lookup = .ok r) ↔ ∃ x, e.evalWith lookup = .ok x) ∧
    (∀ err, (e.resolveWith lookup = .error err ↔ firstError? lookup e.occurrences = some err) ∧
      (e.evalWith lookup = .error err ↔ firstError? lookup e.occurrences = some err)) ∧
    ∀ r, e.resolveWith lookup = .ok r →
      r.occurrences = [] ∧ r.size = e.size ∧ r.operators = e.operators ∧
        ∃ x, e.evalWith lookup = .ok x ∧
          ∀ {δ : Type} (other : String → Except δ Float), r.evalWith other = .ok x := by
  refine ⟨?_, fun err => ⟨?_, ?_⟩, fun r hr => ?_⟩
  · rw [← errorOf_eq_none_iff, ← errorOf_eq_none_iff, errorOf_resolveWith, errorOf_evalWith]
  · rw [← errorOf_eq_some_iff, errorOf_resolveWith]
  · rw [← errorOf_eq_some_iff, errorOf_evalWith]
  · obtain ⟨hnames, hsize, hoperators⟩ := shape_of_resolveWith hr
    refine ⟨hnames, hsize, hoperators, ?_⟩
    rcases resolveWith_cases lookup e with ⟨err, herr, -⟩ | ⟨r', x, hr', hx, hvalue⟩
    · cases herr.symm.trans hr
    · cases hr'.symm.trans hr
      exact ⟨x, hx, hvalue⟩

/-- A value that is no number is reported before a name without a value that stands behind it. -/
theorem resolveWith_spec_conversion :
    let env : Environment := ⟨.empty, .object [(.ofString "x", .text (.ofString "one"))]⟩
    let e := operation .mul (value 0) (operation .add (var "x") (var "y"))
    let err := LookupError.conversion (.unreadable (.ofString "one"))
    e.resolveWith env.lookup = .error err ∧ e.evalWith env.lookup = .error err := by
  intro env e err
  obtain ⟨-, herror, -⟩ := resolveWith_spec env.lookup e
  have hfirst : firstError? env.lookup e.occurrences = some err := by decide +kernel
  exact ⟨(herror err).1.mpr hfirst, (herror err).2.mpr hfirst⟩

/-! ## Some variables before the others -/

/-- **Replacement in two stages**: some variables replaced by numbers, and then the others by what a
look-up gives them. -/
theorem resolveWith_substitute (known : String → Option Float) (lookup : String → Except ε Float)
    (e : Expr) :
    (e.substitute fun name => (known name).map value).resolveWith lookup =
      e.resolveWith fun name => ((known name).map Except.ok).getD (lookup name) := by
  induction e with
  | value x => rfl
  | var name =>
    rw [substitute, resolveWith]
    cases known name <;> rfl
  | operation op left right ihleft ihright =>
    rw [substitute, resolveWith, resolveWith, ihleft, ihright]

/-- Two maps one after the other come to one map, with the bindings of the first in force. -/
theorem resolve_substitute (known bindings : NameMap Float) (e : Expr) :
    (e.substitute fun name => (known.find? name).map value).resolve bindings =
      e.resolve (bindings.overlay known) := by
  have hlookup (name : String) : ((known.find? name).map Except.ok).getD (bindings.lookup name) =
      (bindings.overlay known).lookup name := by
    rw [NameMap.lookup, NameMap.lookup, NameMap.find?_overlay]
    cases known.find? name <;> rfl
  rw [resolve, resolveWith_substitute, funext hlookup, resolve]

/-- Replacement by bindings fails at the first variable from the left that is not bound. -/
theorem resolve_eq_error_iff {bindings : NameMap Float} {err : UnboundVariable} :
    e.resolve bindings = .error err ↔
      (e.occurrences.find? fun name => !bindings.contains name) = some err.name := by
  rw [resolve, ← errorOf_eq_some_iff, errorOf_resolveWith, firstError?_lookup_eq_some_iff]

theorem contains_of_resolve_eq_ok {bindings : NameMap Float} (h : e.resolve bindings = .ok r) :
    ∀ name ∈ e.occurrences, bindings.contains name = true := by
  have hnone := errorOf_eq_none_iff.mpr ⟨r, h⟩
  rw [resolve, errorOf_resolveWith] at hnone
  exact firstError?_lookup_eq_none_iff.mp hnone

/-- The variables after a substitution are those of what is put in, and those that stay. -/
theorem occurrences_substitute (map : String → Option Expr) (e : Expr) :
    (e.substitute map).occurrences =
      e.occurrences.flatMap fun name => (map name).elim [name] occurrences := by
  induction e with
  | value x => rfl
  | var name => cases h : map name <;> simp [substitute, occurrences, h]
  | operation op left right ihleft ihright =>
    rw [substitute, occurrences, ihleft, ihright, occurrences, List.flatMap_append]

/-- Without variables there is nothing to replace. -/
theorem resolveWith_of_occurrences_eq_nil (lookup : String → Except ε Float)
    (h : e.occurrences = []) : e.resolveWith lookup = .ok e := by
  induction e with
  | value x => rfl
  | var name => cases h
  | operation op left right ihleft ihright =>
    obtain ⟨hleft, hright⟩ := List.append_eq_nil_iff.mp h
    rw [resolveWith, ihleft hleft, ihright hright]
    rfl

/-- If all variables are bound, replacing those that are bound replaces all of them. -/
theorem resolve_of_forall_contains {bindings : NameMap Float}
    (h : ∀ name ∈ e.occurrences, bindings.contains name = true) :
    e.resolve bindings = .ok (e.substitute fun name => (bindings.find? name).map value) := by
  have hclosed : (e.substitute fun name => (bindings.find? name).map value).occurrences = [] := by
    rw [occurrences_substitute, List.flatMap_eq_nil_iff]
    intro name hname
    obtain ⟨x, hx⟩ := Option.isSome_iff_exists.mp (h name hname)
    rw [hx]
    rfl
  -- the bindings once more as the second map change nothing
  have hoverlay : (bindings.overlay bindings).lookup = bindings.lookup :=
    NameMap.lookup_congr fun name => by rw [NameMap.find?_overlay, Option.or_self]
  have hstages := resolve_substitute bindings bindings e
  rw [resolve, resolve, hoverlay] at hstages
  exact hstages.symm.trans (resolveWith_of_occurrences_eq_nil bindings.lookup hclosed)

end Expr

end Calculator
