import Calculator.Scope

/-!
# Parsing

The expression that a text stands for, from its beginning or from a later place on.  Diagnostics
always quote the whole text.

## Main definitions

* `Expr.parse config text`: the expression of a text
* `Expr.parseAt config text start`: the same from the offset `start` on
* `Expr.parseFrom? config text start`: the same for a start that may count from the end
-/

namespace Calculator

namespace Expr

/-- The expression from a cursor in a text to its end. -/
def parseCursor (config : ParserConfig) (text : String) (c : Cursor) : Except ParseError Expr :=
  (Scope.parse config c none).1.mapError (·.inText text)

/-- The expression of a text from an offset on. -/
def parseAt (config : ParserConfig) (text : String) (start : Nat) : Except ParseError Expr :=
  parseCursor config text (Cursor.ofStart text start)

/-- The expression of a text. -/
def parse (config : ParserConfig) (text : String) : Except ParseError Expr :=
  parseAt config text 0

/-- The expression of a text from a place that may count from the end; there is no outcome if the
place lies before the text. -/
def parseFrom? (config : ParserConfig) (text : String) (start : Int) :
    Option (Except ParseError Expr) :=
  (Cursor.place? text start).map (parseCursor config text)

end Expr

end Calculator
