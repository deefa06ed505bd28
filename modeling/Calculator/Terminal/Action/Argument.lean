import Calculator.Terminal.Action.Fault
import Calculator.Terminal.Action.Literal
import Calculator.Text.Space

/-!
# Arguments of actions

A tag whose name begins with an at sign binds an action to a piece of text.  What follows the equals
sign is the name of a handler, perhaps with values in brackets, or else one value.

## Main definitions

* `valueText parameter`: the value that a parameter holds
* `checkParameter parameter`: what is wrong with a parameter
-/

namespace Calculator.Terminal.Action

open Text

/-- What is wrong with the parameter of an action. -/
inductive ParameterProblem where
  /-- The text of the value cannot be read. -/
  | unreadable (text : List Char) (reason : String)
  /-- The text is read, but there is no such value. -/
  | noValue (reason : String)
deriving DecidableEq, Repr

/-- The value that a parameter holds: the values in brackets after the name of a handler, no values
after a name alone, or else the whole parameter. -/
def valueText (parameter : List Char) : List Char :=
  let rest := parameter.dropWhile fun c => isAlphanumeric c || c = '_' || c = '.'
  if rest = [] then ['(', ')']
  else if rest.head? = some '(' ∧ rest.getLast? = some ')' ∧ !rest.contains '\n' then rest
  else parameter

/-- Checks the parameter of an action. -/
def checkParameter (parameter : List Char) : Except ParameterProblem Unit :=
  let text := valueText (trim parameter)
  match Pieces.ofText text with
  | .error reason => .error (.unreadable text reason)
  | .ok ps =>
    match if ps.stop = none then Literal.ofPieces? ps.pieces else none with
    | some v =>
      match v.problem with
      | some reason => .error (.noValue reason)
      | none => .ok ()
    | none =>
      let reason := fault ps
      .error (if reason = noValue then .noValue reason else .unreadable text reason)

end Calculator.Terminal.Action
