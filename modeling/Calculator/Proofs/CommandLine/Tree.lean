import Calculator.Proofs.Document
import Calculator.Proofs.NormalForm

/-!
# The tree of an expression as a document

The command that shows the tree of an expression can show it as a document.  A reader of such
documents gets the document of the expression from it, and from this the expression: numbers bit for
bit, names in all characters, and the shape of the tree.

## Main definitions

* `treeWords text optionFirst`: the words that ask for the tree of a text as a document

## Main results

* `commandOfWords_tree`: the command that these words make
* `run_tree`: the document that is shown
* `read_run_tree`: the document that is shown is read back as the expression
-/

namespace Calculator.CommandLine

/-- The words that ask for the tree of a text as a document: the option stands in front of the text,
or behind it. -/
def treeWords (text : String) (optionFirst : Bool) : List String :=
  if optionFirst then ["--json", text] else [text, "--json"]

variable {store : FileStore} {text : String} {e : Expr}

theorem readWords_tree (h : text.toList.head? ≠ some '-') (optionFirst : Bool) :
    readWords CommandName.tree.options true (treeWords text optionFirst) =
      .ok ⟨[("--json", "")], [text]⟩ := by
  have hflag (rest : List String) :=
    @readWords_flag CommandName.tree.options "--json" (by decide) (by decide) (by decide)
      (by decide)
      true rest
  cases optionFirst with
  | true =>
    rw [treeWords, if_pos rfl, hflag, readWords_argument _ h]
    rfl
  | false =>
    rw [treeWords, if_neg Bool.false_ne_true, readWords_argument _ h, hflag]
    rfl

theorem commandOfWords_tree (store : FileStore) (h : text.toList.head? ≠ some '-')
    (optionFirst : Bool) :
    commandOfWords store .tree (treeWords text optionFirst) = .ok (.tree text true) := by
  rw [commandOfWords, readWords_tree h]
  rfl

/-- **The command shows the document** of the expression that it parses. -/
theorem run_tree (store : FileStore) (input : String) (strict optionFirst : Bool)
    (h : Expr.parse { allowEmpty := !strict } text = .ok e) :
    run store (programWords strict ++ CommandName.tree.word :: treeWords text optionFirst) input =
      .success store (echo (Json.write .ascii e.toJson)) := by
  have hcommand := commandOfWords_tree store (Expr.head?_ne_of_parse h) optionFirst
  refine (run_of_commandOfWords hcommand strict input).trans ?_
  simp only [runCommand, parseOrStop, h]
  rfl

/-- The line break behind the document does not matter to its reader. -/
theorem read_echo (e : Expr) :
    Json.read (echo (Json.write .ascii e.toJson)).toList = .ok e.toJson := by
  have htext : (echo (Json.write .ascii e.toJson)).toList =
      Json.chars .ascii 0 e.toJson ++ ['\n'] := by
    rw [echo, Json.write, String.toList_append, String.toList_ofList]
    rfl
  rw [htext]
  exact Json.read_append e.writable_toJson (List.forall_mem_singleton.mpr rfl)

/-- **The document that is shown** for a text is read back as the document of its expression, which
is read back as the expression.  Different expressions have different documents. -/
theorem read_run_tree (store : FileStore) (input : String) (strict optionFirst : Bool) :
    (∀ (text : String) (e : Expr), Expr.parse { allowEmpty := !strict } text = .ok e →
      ∃ output,
        run store (programWords strict ++ CommandName.tree.word :: treeWords text optionFirst)
            input = .success store output ∧
          Json.read output.toList = .ok e.toJson ∧ Expr.ofJson e.toJson = .ok e) ∧
    ∀ e e' : Expr, e.toJson = e'.toJson → e = e' := by
  constructor
  · intro text e h
    exact ⟨_, run_tree store input strict optionFirst h, read_echo e, e.ofJson_toJson⟩
  · intro e e' h
    exact Expr.toJson_injective h

/-- A name beyond the basic plane, and a numeral beyond the range of doubles. -/
theorem read_run_tree_infinity :
    let cs := '𝑥' :: ' ' :: '^' :: ' ' :: '1' :: List.replicate 309 '0'
    let text := String.ofList cs
    let infinity := Pattern.toFloat false Pattern.infinity
    let e := Expr.operation .pow (.var "𝑥") (.value infinity)
    let output := "\x7b\n  \"type\": \"operation\",\n  \"operator\": \"^\",\n  \"left\": \x7b\n" ++
      "    \"type\": \"variable\",\n    \"name\": \"\\ud835\\udc65\"\n  \x7d,\n" ++
      "  \"right\": \x7b\n    \"type\": \"value\",\n    \"number\": Infinity\n  \x7d\n\x7d\n"
    Expr.parse {} text = .ok e ∧ run .empty ["tree", text, "--json"] "" = .success .empty output ∧
      ∃ v, Json.read output.toList = .ok v ∧ Expr.ofJson v = .ok e := by
  intro cs text infinity e output
  have hparse : Expr.parse {} text = .ok e := by
    -- the text is taken apart once, here, and not by the evaluation
    have hscope : (Scope.parse {} ⟨0, cs⟩ none).1 = .ok e := by decide +kernel
    rw [Expr.parse, Expr.parseAt, Expr.parseCursor, Cursor.ofStart, String.toList_ofList]
    exact mapError_eq_ok_iff.mpr hscope
  obtain ⟨shown, hrun, hread, hdocument⟩ :=
    (read_run_tree .empty "" false false).1 text e hparse
  -- the same run shows the document as it is written
  have hshown : shown = output := by
    have hwrite := (run_tree .empty "" false false hparse).symm.trans hrun
    have houtput : echo (Json.write .ascii e.toJson) = output := by decide +kernel
    rw [← houtput]
    exact (congrArg Outcome.output hwrite).symm
  rw [hshown] at hrun hread
  exact ⟨hparse, hrun, e.toJson, hread, hdocument⟩

end Calculator.CommandLine
