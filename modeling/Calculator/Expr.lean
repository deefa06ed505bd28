import Calculator.NameMap
import Calculator.Number.Layout
import Calculator.Operator

/-!
# Expressions

Arithmetic expressions as trees of numbers, variables and binary operations: their value, the
replacement of variables, and their text.

## Main definitions

* `Expr`: the trees
* `Expr.evalWith lookup`, `Expr.eval`: the value, operands from left to right
* `Expr.resolveWith lookup`, `Expr.resolve`: every variable replaced by its value
* `Expr.substitute map`: some variables replaced by expressions
* `Expr.format`: the text with as few brackets as the outer operators ask for
-/

namespace Calculator

/-- An arithmetic expression. -/
inductive Expr where
  /-- A number. -/
  | value (number : Float)
  /-- A variable. -/
  | var (name : String)
  /-- Two operands joined by an operator. -/
  | operation (op : Operator) (left right : Expr)
deriving DecidableEq, Inhabited

/-- A variable without a value. -/
structure UnboundVariable where
  /-- The name that is not bound. -/
  name : String
deriving DecidableEq, Repr

/-- The text of the error. -/
def UnboundVariable.message (e : UnboundVariable) : String :=
  "Variable '" ++ e.name ++ "' does not exist!"

/-- The value of a name, or the error that it has none. -/
def NameMap.lookup (bindings : NameMap Float) (name : String) : Except UnboundVariable Float :=
  match bindings.find? name with
  | some x => .ok x
  | none => .error ⟨name⟩

theorem NameMap.lookup_congr {m n : NameMap Float} (h : ∀ name, m.find? name = n.find? name) :
    m.lookup = n.lookup := by
  funext name
  rw [lookup, lookup, h]

namespace Expr

/-- The value of an expression when variables are looked up by `lookup`.  The left operand comes
first, and the first failing look-up is the outcome. -/
def evalWith {ε : Type} (lookup : String → Except ε Float) : Expr → Except ε Float
  | value x => .ok x
  | var name => lookup name
  | operation op left right => do
    let x ← left.evalWith lookup
    let y ← right.evalWith lookup
    return op.apply x y

/-- The value of an expression under bindings of its variables. -/
def eval (bindings : NameMap Float) (e : Expr) : Except UnboundVariable Float :=
  e.evalWith bindings.lookup

/-- The expression with every variable replaced by the value that `lookup` gives it. -/
def resolveWith {ε : Type} (lookup : String → Except ε Float) : Expr → Except ε Expr
  | value x => .ok (value x)
  | var name => do
    let x ← lookup name
    return value x
  | operation op left right => do
    let l ← left.resolveWith lookup
    let r ← right.resolveWith lookup
    return operation op l r

/-- The expression with every variable replaced by its value under bindings. -/
def resolve (bindings : NameMap Float) (e : Expr) : Except UnboundVariable Expr :=
  e.resolveWith bindings.lookup

/-- The expression with those variables replaced that `map` gives an expression for.  The
replacements happen at once: what is put in is not searched again. -/
def substitute (map : String → Option Expr) : Expr → Expr
  | value x => value x
  | var name => (map name).getD (var name)
  | operation op left right => operation op (left.substitute map) (right.substitute map)

/-- The number of nodes. -/
def size : Expr → Nat
  | value _ => 1
  | var _ => 1
  | operation _ left right => 1 + left.size + right.size

/-- The variables at the leaves from left to right, each as often as it stands there. -/
def occurrences : Expr → List String
  | value _ => []
  | var name => [name]
  | operation _ left right => left.occurrences ++ right.occurrences

/-- The variables in increasing order, each once. -/
def variableNames (e : Expr) : List String :=
  NameMap.sortNames e.occurrences

/-- The characters of an expression as an operand of `outer`. -/
def chars (outer : Option Operator) : Expr → List Char
  | value x => numberChars x
  | var name => name.toList
  | operation op left right =>
    let body := left.chars (some op) ++ ' ' :: op.symbol :: ' ' :: right.chars (some op)
    if op.bareUnder outer then body else '(' :: body ++ [')']

/-- The text of an expression as an operand of `outer`. -/
def formatUnder (outer : Option Operator) (e : Expr) : String :=
  String.ofList (e.chars outer)

/-- The text of an expression. -/
def format (e : Expr) : String :=
  e.formatUnder none

/-- Whether two expressions have one shape with equal names, and numbers that compare as equal: the
two zeros do, and what is not a number differs from itself. -/
def agrees : Expr → Expr → Bool
  | value x, value y => x == y
  | var m, var n => m == n
  | operation op₁ l₁ r₁, operation op₂ l₂ r₂ => op₁ == op₂ && l₁.agrees l₂ && r₁.agrees r₂
  | _, _ => false

end Expr

end Calculator
