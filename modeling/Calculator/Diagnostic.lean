import Calculator.Token

/-!
# Diagnostics

What can be wrong with an input, where it was noticed, and how it is shown: the message, the input,
and a caret below the character in front of the reported offset.

## Main definitions

* `Cause`, `Cause.message`: the kinds of errors and their wording
* `Fault`: a cause with the offset at which it was noticed
* `Position`, `Position.render`: an offset in a text, and the text with a caret
* `ParseError`: a cause with its position
-/

namespace Calculator

/-- What is wrong with an input. -/
inductive Cause where
  /-- A numeral has a second point. -/
  | secondPoint
  /-- A numeral has no digit. -/
  | unreadableNumber (raw : String)
  /-- A character begins no lexeme. -/
  | invalidToken (c : Char)
  /-- A bracket closes that was not opened. -/
  | unmatchedClosing
  /-- A bracket is not closed. -/
  | missingClosing
  /-- Two expressions stand side by side. -/
  | surplusExpression
  /-- Brackets hold nothing. -/
  | emptyBrackets
  /-- The input holds nothing. -/
  | emptyExpression
  /-- An operator stands at the beginning or the end of its scope. -/
  | missingOperand (op : Operator)
  /-- An operator stands beside another operator. -/
  | invalidOperands (op : Operator) (left right : Token)
  /-- What stands before the equals sign of an assignment is no name. -/
  | invalidTarget (name : String)
deriving DecidableEq

/-- The wording of a cause. -/
def Cause.message : Cause → String
  | secondPoint => "Encountered decimal point for a second time in this number"
  | unreadableNumber raw => "Could not parse value '" ++ raw ++ "'"
  | invalidToken c => "Invalid token '" ++ c.toString ++ "'"
  | unmatchedClosing => "Unmatched closing bracket"
  | missingClosing => "Missing closing bracket for this opening bracket"
  | surplusExpression => "Found more than one expression without an operator in between"
  | emptyBrackets => "Empty brackets"
  | emptyExpression => "Empty expression"
  | missingOperand op =>
    "Operator '" ++ op.symbol.toString ++ "' requires expressions on both sides"
  | invalidOperands op left right =>
    "Invalid operands for operator '" ++ op.symbol.toString ++ "': '" ++ left.text ++ "' and '" ++
      right.text ++ "'"
  | invalidTarget name => "Invalid assignment target '" ++ name ++ "'"

/-- A cause, and the offset at which it was noticed. -/
structure Fault where
  /-- What is wrong. -/
  cause : Cause
  /-- The number of characters before the place, counted from the beginning of the text. -/
  offset : Int
deriving DecidableEq

/-- A place in a text. -/
structure Position where
  /-- The whole text. -/
  text : String
  /-- The number of characters in front of the place. -/
  offset : Int
deriving DecidableEq

namespace Position

/-- The caret line: it points at the character in front of the place. -/
def caret (p : Position) : String :=
  String.ofList (List.replicate (p.offset - 1).toNat ' ' ++ ['^'])

/-- The text with the caret below it. -/
def render (p : Position) : String :=
  p.text ++ "\n" ++ p.caret

end Position

/-- An error in an input. -/
structure ParseError where
  /-- What is wrong. -/
  cause : Cause
  /-- Where it was noticed. -/
  position : Position
deriving DecidableEq

/-- The message, the input and the caret. -/
def ParseError.message (e : ParseError) : String :=
  e.cause.message ++ "\n\n" ++ e.position.render

/-- A fault with the text that it was found in. -/
def Fault.inText (f : Fault) (text : String) : ParseError :=
  ⟨f.cause, ⟨text, f.offset⟩⟩

end Calculator
