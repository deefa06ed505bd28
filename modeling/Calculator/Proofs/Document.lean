import Calculator.Expr.Document
import Calculator.Proofs.Json.Writing

/-!
# Documents of expressions

The document of an expression can be written and read without loss, and the expression can be had
back from it: the kind of every node, its number or name, the operator, and which operand is which.

## Main results

* `Expr.writable_toJson`: nothing is lost when the document of an expression is written
* `Expr.ofJson_toJson`: the expression of its document
* `Expr.toJson_injective`: different expressions have different documents
-/

namespace Calculator

theorem Operator.ofText?_symbol (op : Operator) : Operator.ofText? [op.symbol.toNat] = some op := by
  cases op <;> rfl

namespace Expr

/-- **The document of an expression** names every part of a node once. -/
theorem writable_toJson (e : Expr) : e.toJson.Writable := by
  induction e with
  | value x =>
    refine @Json.writable_ofStrings [("type", .text (.ofString "value")), ("number", .real x)]
      (by simp) ?_
    simp only [List.forall_mem_cons]
    exact ⟨Json.writable_text_ofString "value", .real x, List.forall_mem_nil _⟩
  | var name =>
    refine @Json.writable_ofStrings
      [("type", .text (.ofString "variable")), ("name", .text (.ofString name))] (by simp) ?_
    simp only [List.forall_mem_cons]
    exact ⟨Json.writable_text_ofString "variable", Json.writable_text_ofString name,
      List.forall_mem_nil _⟩
  | operation op left right ihleft ihright =>
    refine @Json.writable_ofStrings [("type", .text (.ofString "operation")),
      ("operator", .text [op.symbol.toNat]), ("left", left.toJson), ("right", right.toJson)]
      (by simp) ?_
    -- the symbol is written as a text of one character
    have hsymbol : (Json.text [op.symbol.toNat]).Writable := by
      apply Json.Writable.text
      intro n hn
      obtain rfl := List.mem_singleton.mp hn
      exact op.symbol.valid
    simp only [List.forall_mem_cons]
    exact ⟨Json.writable_text_ofString "operation", hsymbol, ihleft, ihright,
      List.forall_mem_nil _⟩

/-- **The expression of its document** is the expression. -/
theorem ofJson_toJson (e : Expr) : ofJson e.toJson = .ok e := by
  induction e with
  | value x => simp [toJson, ofJson, ofMembers, Json.toFloat]
  | var name => simp [toJson, ofJson, ofMembers]
  | operation op left right ihleft ihright =>
    simp only [toJson, ofJson, ofMembers, CodePoints.toString?_ofString, Operator.ofText?_symbol,
      ihleft, ihright]
    rfl

theorem toJson_injective : Function.Injective toJson := by
  intro e e' h
  -- one document cannot be read as two expressions
  have hread := ofJson_toJson e
  rw [h, ofJson_toJson] at hread
  exact (Except.ok.inj hread).symm

end Expr

end Calculator
