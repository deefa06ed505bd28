import Calculator.Expr
import Calculator.Json.Number

/-!
# Expressions as documents

An expression is written as nested objects that name the kind of each node, and read back from them.

## Main definitions

* `Expr.toJson e`: the document of an expression
* `Expr.ofJson v`: the expression of a document
* `DocumentError`: why a document is no expression
-/

namespace Calculator

/-- Why a document is no expression. -/
inductive DocumentError where
  /-- An operation has no known operator. -/
  | unknownOperator (symbol : CodePoints)
  /-- A number cannot be converted. -/
  | number (e : ConversionError)
  /-- A node is of no known kind. -/
  | unknownNode
deriving DecidableEq, Repr

/-- The text of the error. -/
def DocumentError.message : DocumentError → String
  | unknownOperator symbol => Quoted.codePoints symbol ++ " is not a valid Operator"
  | number e => e.message
  | unknownNode => "unknown kind of node"

/-- The operator whose symbol is the whole of a text. -/
def Operator.ofText? (s : CodePoints) : Option Operator :=
  Operator.all.find? fun op => s = [op.symbol.toNat]

namespace Expr

/-- The document of an expression. -/
def toJson : Expr → Json
  | value x => .object [(CodePoints.ofString "type", .text (CodePoints.ofString "value")),
      (CodePoints.ofString "number", .real x)]
  | var name => .object [(CodePoints.ofString "type", .text (CodePoints.ofString "variable")),
      (CodePoints.ofString "name", .text (CodePoints.ofString name))]
  | operation op left right =>
    .object [(CodePoints.ofString "type", .text (CodePoints.ofString "operation")),
      (CodePoints.ofString "operator", .text [op.symbol.toNat]),
      (CodePoints.ofString "left", left.toJson), (CodePoints.ofString "right", right.toJson)]

mutual

/-- The expression of a document.  Of two faults in an operation that of the operator is reported
before that of the left operand, and this before that of the right. -/
def ofJson : Json → Except DocumentError Expr
  | .object members => ofMembers members none none none none none
  | _ => .error .unknownNode

/-- The expression of the members of an object, once each has been seen: the kind of the node, its
number or name, its operator and its operands. -/
def ofMembers (members : List (CodePoints × Json)) (kind : Option String)
    (content : Option Json) (operator : Option CodePoints)
    (left right : Option (Except DocumentError Expr)) : Except DocumentError Expr :=
  match members with
  | [] =>
    match kind, content, operator, left, right with
    | some "value", some v, _, _, _ =>
      match v.toFloat with
      | .ok x => .ok (value x)
      | .error e => .error (.number e)
    | some "variable", some (.text s), _, _, _ =>
      match s.toString? with
      | some name => .ok (var name)
      | none => .error .unknownNode
    | some "operation", _, some symbol, some left, some right =>
      match Operator.ofText? symbol with
      | none => .error (.unknownOperator symbol)
      | some op => do
        let l ← left
        let r ← right
        return operation op l r
    | _, _, _, _, _ => .error .unknownNode
  | (key, v) :: rest =>
    match key.toString? with
    | some "type" =>
      match v with
      | .text s => ofMembers rest s.toString? content operator left right
      | _ => .error .unknownNode
    | some "number" | some "name" => ofMembers rest kind (some v) operator left right
    | some "operator" =>
      match v with
      | .text s => ofMembers rest kind content (some s) left right
      | _ => .error .unknownNode
    | some "left" => ofMembers rest kind content operator (some (ofJson v)) right
    | some "right" => ofMembers rest kind content operator left (some (ofJson v))
    | _ => ofMembers rest kind content operator left right

end

end Expr

end Calculator
