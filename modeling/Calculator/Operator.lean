/-!
# Operators

The five binary operators of expressions, and the three tiers in which they bind.

## Main definitions

* `Tier`: sums, products and powers
* `Operator`: addition, subtraction, multiplication, division and power
* `Operator.apply`: the number that an operator makes of two numbers
* `Operator.bareUnder`: whether an operation is written without brackets under another operator
-/

namespace Calculator

/-- How tightly an operator binds. -/
inductive Tier where
  /-- Addition and subtraction. -/
  | sum
  /-- Multiplication and division. -/
  | product
  /-- Powers. -/
  | power
deriving DecidableEq, Repr

/-- The rank of a tier; operators of a higher rank bind first. -/
def Tier.rank : Tier → Nat
  | .sum => 1
  | .product => 2
  | .power => 3

/-- The binary operators. -/
inductive Operator where
  /-- Addition. -/
  | add
  /-- Subtraction. -/
  | sub
  /-- Multiplication. -/
  | mul
  /-- Division. -/
  | div
  /-- Raising to a power. -/
  | pow
deriving DecidableEq, Repr

namespace Operator

/-- The operators, in the order of their symbols `+ - * / ^`. -/
def all : List Operator :=
  [.add, .sub, .mul, .div, .pow]

/-- The character that writes an operator. -/
def symbol : Operator → Char
  | .add => '+'
  | .sub => '-'
  | .mul => '*'
  | .div => '/'
  | .pow => '^'

/-- The operator that a character writes. -/
def ofSymbol? (c : Char) : Option Operator :=
  all.find? (·.symbol = c)

@[simp] theorem ofSymbol?_symbol (op : Operator) : ofSymbol? op.symbol = some op := by
  cases op <;> rfl

/-- The tier of an operator. -/
def tier : Operator → Tier
  | .add | .sub => .sum
  | .mul | .div => .product
  | .pow => .power

/-- A power.  The exponents -1, 1/2 and 2 have exact operations of their own: the reciprocal, the
square root, which keeps the sign of zero and has no value below it, and the square. -/
def power (x y : Float) : Float :=
  if y == -1.0 then 1.0 / x
  else if y == 0.5 then x.sqrt
  else if y == 2.0 then x * x
  else Float.pow x y

/-- The number that an operator makes of two numbers, after the rules of binary floating point:
there is no failure, a division by zero gives an infinity or what is not a number. -/
def apply : Operator → Float → Float → Float
  | .add, x, y => x + y
  | .sub, x, y => x - y
  | .mul, x, y => x * y
  | .div, x, y => x / y
  | .pow, x, y => power x y

/-- Whether an operation is written without brackets as an operand of `outer`: under a sum and at
the outermost place always, under a product unless it is a sum, under a power never. -/
def bareUnder (op : Operator) (outer : Option Operator) : Bool :=
  match outer.map tier with
  | none | some .sum => true
  | some .product => op.tier ≠ .sum
  | some .power => false

end Operator

end Calculator
