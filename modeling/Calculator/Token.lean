import Calculator.Expr

/-!
# Tokens

The items of one bracket scope: expressions already read, and operators.  Each carries the offset
that a diagnostic about it reports.

## Main definitions

* `Token`: an expression or an operator, with its offset
* `Token.text`: how a diagnostic quotes a token
-/

namespace Calculator

/-- An item of a bracket scope. -/
inductive Token where
  /-- An expression. -/
  | expression (tree : Expr) (offset : Int)
  /-- An operator that waits for its operands. -/
  | operator (op : Operator) (offset : Int)
deriving DecidableEq

namespace Token

/-- The offset that diagnostics about a token report. -/
def offset : Token → Int
  | expression _ offset => offset
  | operator _ offset => offset

/-- The text by which a diagnostic quotes a token. -/
def text : Token → String
  | expression tree _ => tree.format
  | operator op _ => op.symbol.toString

/-- Whether a token is an expression. -/
def isExpression : Token → Bool
  | expression _ _ => true
  | operator _ _ => false

end Token

end Calculator
