import Calculator.Proofs.Dependence
import Mathlib.Data.List.Basic

/-!
# Simultaneous replacement

Variables are replaced by expressions all at once: what is put in for one of them may mention that
variable or another replaced one, and is not searched again.  So two replacements in a row are a
single one, the variables that come in are those of what is put in, and the value is that of the
expression in which the replaced variables stand for the values of what replaces them.

## Main definitions

* `Expr.andThen first second`: two maps one after the other as one map
* `Expr.replaced map values e`: the variables of an expression that a map replaces, with values

## Main results

* `Expr.substitute_substitute`: two replacements in a row
* `Expr.mem_variableNames_substitute`: the variables after a replacement
* `Expr.evalWith_substitute`: replaced variables are looked up as what replaces them
* `Expr.eval_substitute_of_values`: the value after a replacement
* `Expr.substitute_simultaneous`: the three laws together
-/

namespace Calculator.Expr

variable {map first second : String → Option Expr} {values : String → Float}
  {bindings : NameMap Float} {e : Expr} {name : String}

/-! ## Two replacements in a row -/

/-- Two maps one after the other as one map.  What the first puts in is changed by the second, which
also replaces the names that the first leaves alone. -/
def andThen (first second : String → Option Expr) (name : String) : Option Expr :=
  ((first name).map (substitute second)).or (second name)

/-- **Two replacements in a row** are one replacement. -/
theorem substitute_substitute (first second : String → Option Expr) (e : Expr) :
    (e.substitute first).substitute second = e.substitute (andThen first second) := by
  induction e with
  | value x => rfl
  | var name =>
    -- a name that the first map leaves alone is still there for the second
    rw [substitute, substitute, andThen]
    cases first name <;> rfl
  | operation op left right ihleft ihright =>
    rw [substitute, substitute, ihleft, ihright, substitute]

/-! ## The variables that are left -/

/-- **The variables after a replacement**: those that are not replaced, and those of what is put in
for the others. -/
theorem mem_variableNames_substitute :
    name ∈ (e.substitute map).variableNames ↔
      (name ∈ e.variableNames ∧ map name = none) ∨
        ∃ x ∈ e.variableNames, ∃ t, map x = some t ∧ name ∈ t.variableNames := by
  simp only [mem_variableNames_iff]
  rw [occurrences_substitute, List.mem_flatMap]
  constructor
  · rintro ⟨x, hx, hname⟩
    cases hmap : map x with
    | none =>
      rw [hmap] at hname
      obtain rfl := List.mem_singleton.mp hname
      exact .inl ⟨hx, hmap⟩
    | some t =>
      rw [hmap] at hname
      exact .inr ⟨x, hx, t, hmap, hname⟩
  · rintro (⟨hname, hmap⟩ | ⟨x, hx, t, hmap, hname⟩)
    · refine ⟨name, hname, ?_⟩
      rw [hmap]
      exact List.mem_singleton_self name
    · refine ⟨x, hx, ?_⟩
      rw [hmap]
      exact hname

/-! ## Values -/

/-- **Replacement and evaluation**: an expression with replaced variables has the value of the
expression in which each of these variables is looked up as what replaces it. -/
theorem evalWith_substitute {ε : Type} (lookup : String → Except ε Float)
    (map : String → Option Expr) (e : Expr) :
    (e.substitute map).evalWith lookup =
      e.evalWith fun name => ((map name).map (evalWith lookup)).getD (lookup name) := by
  induction e with
  | value x => rfl
  | var name =>
    rw [substitute, evalWith]
    cases map name <;> rfl
  | operation op left right ihleft ihright => simp only [substitute, evalWith, ihleft, ihright]

/-- The variables of an expression that a map replaces, bound to given values. -/
def replaced (map : String → Option Expr) (values : String → Float) (e : Expr) : NameMap Float :=
  .ofList ((e.variableNames.filter fun name => (map name).isSome).map fun name =>
    (name, values name))

theorem find?_replaced_of_none (h : map name = none) :
    (e.replaced map values).find? name = none := by
  rw [replaced, NameMap.ofList, NameMap.find?_foldl_insert_reverse, NameMap.find?_empty,
    Option.or_none, List.lookup_eq_none_iff]
  -- only names that are replaced are bound
  intro entry hentry
  obtain ⟨x, hx, rfl⟩ := List.mem_map.mp (List.mem_reverse.mp hentry)
  have hsome := (List.mem_filter.mp hx).2
  rw [bne_iff_ne]
  rintro rfl
  rw [h] at hsome
  cases hsome

theorem find?_replaced_of_mem {t : Expr} (hname : name ∈ e.variableNames) (h : map name = some t) :
    (e.replaced map values).find? name = some (values name) := by
  have hmem : name ∈ (e.variableNames.filter fun name => (map name).isSome).reverse :=
    List.mem_reverse.mpr (List.mem_filter.mpr ⟨hname, by simp [h]⟩)
  rw [replaced, NameMap.ofList, NameMap.find?_foldl_insert_reverse, ← List.map_reverse,
    List.lookup_graph values hmem]
  rfl

/-- **The value after a replacement**, if what is put in has values: the replaced variables stand
for these values. -/
theorem eval_substitute_of_values
    (h : ∀ x ∈ e.variableNames, ∀ t, map x = some t → t.eval bindings = .ok (values x)) :
    (e.substitute map).eval bindings = e.eval (bindings.overlay (e.replaced map values)) := by
  rw [eval, evalWith_substitute, eval]
  apply evalWith_congr
  -- either side looks up a variable as what replaces it, or else among the bindings
  intro name hname
  rw [← mem_variableNames_iff] at hname
  rw [NameMap.lookup, NameMap.lookup, NameMap.find?_overlay]
  cases hmap : map name with
  | none =>
    rw [find?_replaced_of_none hmap]
    rfl
  | some t =>
    rw [find?_replaced_of_mem hname hmap]
    exact h name hname t hmap

/-- **Replacement is simultaneous.**  Two replacements in a row are the one that changes by the
second map what the first one puts in.  The variables that are left are those that are not replaced
and those of what is put in.  If what is put in has values, the outcome of an evaluation is that of
the expression under bindings over which these values are laid, whether it is a value or a variable
that is not bound. -/
theorem substitute_simultaneous (e : Expr) (first second : String → Option Expr)
    (bindings : NameMap Float) :
    (e.substitute first).substitute second = e.substitute (andThen first second) ∧
    (∀ name, name ∈ (e.substitute first).variableNames ↔
      (name ∈ e.variableNames ∧ first name = none) ∨
        ∃ x ∈ e.variableNames, ∃ t, first x = some t ∧ name ∈ t.variableNames) ∧
    ∀ values : String → Float,
      (∀ x ∈ e.variableNames, ∀ t, first x = some t → t.eval bindings = .ok (values x)) →
        (e.substitute first).eval bindings = e.eval (bindings.overlay (e.replaced first values)) :=
  ⟨substitute_substitute first second e, fun _ => mem_variableNames_substitute,
    fun _ => eval_substitute_of_values⟩

/-- Two variables change places, one of them doubled on the way, although both are bound. -/
theorem substitute_simultaneous_swap :
    let e := operation .sub (operation .div (var "x") (var "y")) (var "z")
    let swap : String → Option Expr := fun name =>
      if name = "x" then some (operation .mul (var "y") (value 2))
      else if name = "y" then some (var "x") else none
    let bindings := ((NameMap.empty.insert "x" 3).insert "y" 5).insert "z" 1
    let values : String → Float := fun name => if name = "x" then 5 * 2 else 3
    (∀ x ∈ e.variableNames, ∀ t, swap x = some t → t.eval bindings = .ok (values x)) ∧
      (e.substitute swap).variableNames = ["x", "y", "z"] ∧
      (e.substitute swap).eval bindings = .ok (5 * 2 / 3 - 1) ∧
      e.eval (bindings.overlay (e.replaced swap values)) = .ok (5 * 2 / 3 - 1) := by
  intro e swap bindings values
  have hnames : e.variableNames = ["x", "y", "z"] := by cbv
  have hvalues : ∀ x ∈ e.variableNames, ∀ t, swap x = some t →
      t.eval bindings = .ok (values x) := by
    intro x hx t ht
    rw [hnames] at hx
    simp only [List.mem_cons, List.not_mem_nil, or_false] at hx
    rcases hx with rfl | rfl | rfl
    · obtain rfl := Option.some.inj ht
      rfl
    · obtain rfl := Option.some.inj ht
      rfl
    · cases ht
  obtain ⟨-, -, hvalue⟩ := substitute_simultaneous e swap swap bindings
  have hresult : (e.substitute swap).eval bindings = .ok (5 * 2 / 3 - 1) := rfl
  refine ⟨hvalues, by cbv, hresult, ?_⟩
  rw [← hvalue values hvalues]
  exact hresult

end Calculator.Expr
