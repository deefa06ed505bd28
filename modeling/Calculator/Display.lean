import Calculator.Diagnostic
import Calculator.Table
import Calculator.Terminal.Emoji
import Calculator.Terminal.Grid
import Calculator.Terminal.Outline

/-!
# Display

What the calculator shows on a terminal: expressions as trees, values, tables of variables, and
diagnostics.

## Main definitions

* `Display.expressionTree`, `Display.result`, `Display.assignment`, `Display.variableTable`,
  `Display.diagnostic`: the texts, each ending with a line break
-/

namespace Calculator.Display

open Terminal

/-- Lines as a text. -/
def joinLines (lines : List (List Char)) : String :=
  String.ofList (lines.flatMap fun line => line ++ ['\n'])

/-- A text wrapped to the width of the terminal. -/
def wrapped (text : List Char) : String :=
  joinLines (wrap terminalWidth text)

/-- The outline of an expression: operations are labelled with their symbol and their text. -/
def outline : Expr → Outline
  | .value x => .leaf (numberChars x)
  | .var name => .leaf name.toList
  | .operation op left right =>
    .branch (op.symbol :: ' ' :: ' ' :: (Expr.operation op left right).chars none) (outline left)
      (outline right)

/-- An expression as a tree in a frame. -/
def expressionTree (e : Expr) : String :=
  joinLines (frame "Expression" ((Outline.stem (e.chars none) (outline e)).lines frameRoom))

/-- An expression with its value. -/
def result (e : Expr) (x : Float) : String :=
  wrapped (e.chars none ++ [' ', '=', ' '] ++ numberChars x)

/-- A variable with its new value. -/
def assignment (name : String) (x : Float) : String :=
  wrapped (name.toList ++ [' ', '=', ' '] ++ numberChars x)

/-- A message without wrapping, so that carets stay where they are. -/
def diagnostic (message : String) : String :=
  joinLines ((Text.splitOn '\n' (dropControls (Emoji.replace message.toList))).map expandTabs)

/-- The row of a variable: its name, its value and where it comes from. -/
def variableRow (t : Table) (name : String) : List (List Char) :=
  [name.toList, ((t.get? name).map numberChars).getD [],
    (if t.isBuiltin name then "builtin" else "user").toList]

/-- The variables of a table. -/
def variableTable (t : Table) : String :=
  joinLines (Grid.lines
    { title := "Variables".toList
      columns := [⟨"Name".toList, false⟩, ⟨"Value".toList, true⟩, ⟨"Source".toList, false⟩]
      rows := t.names.map (variableRow t) })

end Calculator.Display
