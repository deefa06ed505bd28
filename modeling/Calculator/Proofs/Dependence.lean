import Mathlib
import Calculator.Proofs.Resolution

/-!
# What a value depends on

The value of an expression depends on the values of its own variables and on nothing else.  Whether
it has a value depends on less: on which of these variables are bound.  No operand is skipped, so
what one operand comes to never hides that a variable of another one is not bound.

## Main definitions

* `FirstUnbound bindings names name`: `name` is the first of some names that is not bound

## Main results

* `Expr.evalWith_congr`: look-ups that agree on the variables of an expression
* `Expr.eval_ok_iff`: an expression has a value if all its variables have one
* `Expr.eval_eq_error_iff`: evaluation fails at the first variable that is not bound
* `Expr.eval_depends`: what the outcome of an evaluation depends on
-/

namespace Calculator

/-! ## The first name that is not bound -/

/-- A name that is not bound stands among some names, and all names in front of it are bound. -/
def FirstUnbound (bindings : NameMap Float) (names : List String) (name : String) : Prop :=
  ∃ before after, names = before ++ name :: after ∧ bindings.contains name = false ∧
    ∀ other ∈ before, bindings.contains other = true

section FirstUnbound

variable {bindings other : NameMap Float} {names : List String} {name : String}

theorem find?_unbound_eq_some_iff :
    (names.find? fun name => !bindings.contains name) = some name ↔
      FirstUnbound bindings names name := by
  rw [List.find?_eq_some_iff_append, FirstUnbound]
  constructor
  · rintro ⟨hname, before, after, rfl, hbefore⟩
    exact ⟨before, after, rfl, by simpa using hname, by simpa using hbefore⟩
  · rintro ⟨before, after, rfl, hname, hbefore⟩
    exact ⟨by simpa using hname, before, after, rfl, by simpa using hbefore⟩

theorem FirstUnbound.mem (h : FirstUnbound bindings names name) : name ∈ names := by
  obtain ⟨before, after, rfl, -, -⟩ := h
  exact List.mem_append_right before List.mem_cons_self

/-- Some name is not bound exactly if there is a first such name. -/
theorem exists_firstUnbound_iff :
    (∃ name, FirstUnbound bindings names name) ↔
      ∃ name ∈ names, bindings.contains name = false := by
  constructor
  · rintro ⟨name, h⟩
    refine ⟨name, h.mem, ?_⟩
    obtain ⟨-, -, -, hname, -⟩ := h
    exact hname
  · rintro ⟨name, hmem, hname⟩
    -- a search from the left finds the first one
    have hsome : (names.find? fun name => !bindings.contains name).isSome = true :=
      List.find?_isSome.mpr ⟨name, hmem, by simp [hname]⟩
    obtain ⟨first, hfirst⟩ := Option.isSome_iff_exists.mp hsome
    exact ⟨first, find?_unbound_eq_some_iff.mp hfirst⟩

/-- The values of the names do not matter. -/
theorem FirstUnbound.congr (h : FirstUnbound bindings names name)
    (hbound : ∀ n ∈ names, other.contains n = bindings.contains n) :
    FirstUnbound other names name := by
  have hmem := h.mem
  obtain ⟨before, after, hnames, hname, hbefore⟩ := h
  refine ⟨before, after, hnames, ?_, ?_⟩
  · rw [hbound name hmem]
    exact hname
  · intro n hn
    have hmem : n ∈ names := by
      rw [hnames]
      exact List.mem_append_left _ hn
    rw [hbound n hmem]
    exact hbefore n hn

end FirstUnbound

namespace Expr

variable {ε : Type} {lookup other : String → Except ε Float} {bindings : NameMap Float}
  {err : UnboundVariable} {e : Expr} {name : String}

theorem mem_variableNames_iff : name ∈ e.variableNames ↔ name ∈ e.occurrences :=
  NameMap.mem_sortNames_iff

/-! ## Evaluation -/

/-- **Evaluation depends on the variables** of the expression only, whatever the look-up does with
other names. -/
theorem evalWith_congr (h : ∀ name ∈ e.occurrences, lookup name = other name) :
    e.evalWith lookup = e.evalWith other := by
  induction e with
  | value x => rfl
  | var name => exact h name List.mem_cons_self
  | operation op left right ihleft ihright =>
    -- the variables of either operand are among those of the operation
    have hleft := ihleft fun name hname => h name (List.mem_append_left _ hname)
    have hright := ihright fun name hname => h name (List.mem_append_right _ hname)
    rw [evalWith, evalWith, hleft, hright]

theorem eval_ok_iff {bindings : NameMap Float} (e : Expr) :
    (∃ x, e.eval bindings = .ok x) ↔ ∀ name ∈ e.occurrences, bindings.contains name = true := by
  rw [eval, ← errorOf_eq_none_iff, errorOf_evalWith, firstError?_lookup_eq_none_iff]

/-- **Evaluation fails** exactly at the first variable from the left that is not bound. -/
theorem eval_eq_error_iff :
    e.eval bindings = .error err ↔ FirstUnbound bindings e.occurrences err.name := by
  rw [eval, ← errorOf_eq_some_iff, errorOf_evalWith, firstError?_lookup_eq_some_iff,
    find?_unbound_eq_some_iff]

/-- **What an evaluation depends on.**  Bindings that agree on the variables of an expression give
it the same outcome.  It has no value exactly if one of its variables is not bound, and the error
names the first such variable from the left.  Nothing else matters to the error: neither the
operators, nor the numbers, nor the values of the variables that are bound. -/
theorem eval_depends (e : Expr) (bindings : NameMap Float) :
    (∀ other : NameMap Float,
      (∀ name ∈ e.variableNames, other.find? name = bindings.find? name) →
        e.eval other = e.eval bindings) ∧
    ((∃ err, e.eval bindings = .error err) ↔
      ∃ name ∈ e.variableNames, bindings.contains name = false) ∧
    (∀ err, e.eval bindings = .error err ↔ FirstUnbound bindings e.occurrences err.name) ∧
    ∀ (e' : Expr) (other : NameMap Float), e'.occurrences = e.occurrences →
      (∀ name ∈ e.variableNames, other.contains name = bindings.contains name) →
        ∀ err, e'.eval other = .error err ↔ e.eval bindings = .error err := by
  refine ⟨?_, ?_, fun err => eval_eq_error_iff, ?_⟩
  · intro other hagree
    apply evalWith_congr
    intro name hname
    rw [NameMap.lookup, NameMap.lookup, hagree name (mem_variableNames_iff.mpr hname)]
  · simp only [mem_variableNames_iff]
    rw [← exists_firstUnbound_iff]
    constructor
    · rintro ⟨err, h⟩
      exact ⟨err.name, eval_eq_error_iff.mp h⟩
    · rintro ⟨name, h⟩
      exact ⟨⟨name⟩, eval_eq_error_iff.mpr h⟩
  · intro e' other hnames hbound err
    simp only [mem_variableNames_iff] at hbound
    -- only the names and which of them are bound are left of either side
    rw [eval_eq_error_iff, eval_eq_error_iff, hnames]
    constructor
    · intro h
      exact h.congr fun name hname => (hbound name hname).symm
    · intro h
      exact h.congr hbound

/-- Neither a factor of zero nor an infinite power hides the variable, and of two that are not bound
the left one is named. -/
theorem eval_depends_zero_factor :
    let e :=
      operation .add (operation .mul (value 0) (var "x")) (operation .pow (var "y") (var "z"))
    let bindings := NameMap.empty.insert "y" (Pattern.toFloat false Pattern.infinity)
    let other := (bindings.insert "u" 1).insert "w" 2
    let e' := operation .div (var "x") (operation .sub (var "y") (var "z"))
    (∀ name ∈ e.variableNames, other.find? name = bindings.find? name) ∧
      e.eval other = e.eval bindings ∧ e.eval bindings = .error ⟨"x"⟩ ∧
      e'.eval (NameMap.empty.insert "y" 0) = .error ⟨"x"⟩ := by
  intro e bindings other e'
  obtain ⟨hsame, -, herror, hothers⟩ := eval_depends e bindings
  have hnames : e.variableNames = ["x", "y", "z"] := by cbv
  have hagree : ∀ name ∈ e.variableNames, other.find? name = bindings.find? name := by
    rw [hnames]
    simp [other]
  have hbound : ∀ name ∈ e.variableNames,
      (NameMap.empty.insert "y" (0 : Float)).contains name = bindings.contains name := by
    rw [hnames]
    simp [bindings, NameMap.contains]
  have hx : e.eval bindings = .error ⟨"x"⟩ := by
    -- nothing stands in front of the first variable
    rw [herror]
    exact ⟨[], ["y", "z"], rfl, by simp [bindings, NameMap.contains], by simp⟩
  exact ⟨hagree, hsame other hagree, hx, (hothers e' _ rfl hbound ⟨"x"⟩).mpr hx⟩

end Expr

end Calculator
