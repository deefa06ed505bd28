import Calculator.Proofs.Replacement
import Calculator.Proofs.Session
import Calculator.Proofs.Substitution

/-!
# Naming a part of an expression

A part of an expression can be given a name by an assignment before it is used.  The line with the
name then comes to what the line with the part between brackets comes to without the assignment: the
name is looked up where the part would be evaluated, and every other name has the value that it had.

## Main results

* `Session.run_of_parse`: a line that is an expression comes to the value of the expression
* `Session.run_name_eq_ok`: what the assignment of an expression to a name leaves behind
* `Session.run_named`: naming a part does not change what a line comes to
-/

namespace Calculator

open Text

/-! ## Names and white space in a text -/

theorem isAlphanumeric_of_mem_name {name : String} {c : Char} (h : isIdentifier name = true)
    (hc : c ∈ name.toList) : isAlphanumeric c = true := by
  obtain ⟨d, ds, hname, hd, hds⟩ := exists_cons_of_isIdentifier h
  rw [hname] at hc
  rcases List.mem_cons.mp hc with rfl | hc
  · exact isAlphanumeric_of_isLetter hd
  · exact hds c hc

/-- White space after a name is trimmed, and nothing of the name. -/
theorem trim_append_of_isIdentifier {name : String} {ws : List Char}
    (hname : isIdentifier name = true) (hws : ∀ c ∈ ws, isSpace c = true) :
    trim (name.toList ++ ws) = name.toList := by
  have hspace : ∀ c ∈ name.toList, isSpace c = false := fun c hc =>
    isSpace_eq_false_of_isAlphanumeric (isAlphanumeric_of_mem_name hname hc)
  -- the name begins and ends with characters that stay
  obtain ⟨c, cs, hcs, -⟩ := exists_cons_of_isIdentifier hname
  have hbegin : (name.toList ++ ws).dropWhile isSpace = name.toList ++ ws := by
    rw [hcs] at hspace ⊢
    exact List.dropWhile_cons_of_neg (by simp [hspace c List.mem_cons_self])
  have hend : ∀ d ∈ name.toList.reverse.head?, isSpace d = false := by
    intro d hd
    exact hspace d (List.mem_reverse.mp (List.mem_of_mem_head? hd))
  have hws' : ∀ d ∈ ws.reverse, isSpace d = true := fun d hd => hws d (List.mem_reverse.mp hd)
  rw [trim, hbegin, dropEnd, List.reverse_append, (takeWhile_append_of_head? hws' hend).2,
    List.reverse_reverse]

theorem isBlank_eq_false {cs : List Char} {c : Char} (hc : c ∈ cs) (hspace : isSpace c = false) :
    isBlank cs = false := by
  rw [isBlank, List.all_eq_false]
  exact ⟨c, hc, by simp [hspace]⟩

theorem Spells.isSpace_eq_false {seg : List Char} {l : Lexeme} {c : Char} (h : Spells seg l)
    (hc : c ∈ seg) : isSpace c = false := by
  rcases h.mem hc with halpha | hmem
  · exact isSpace_eq_false_of_isAlphanumeric halpha
  · have key : ['+', '-', '*', '/', '^', '(', ')', '.'].all (!isSpace ·) = true := by decide
    simpa using List.all_eq_true.mp key c hmem

theorem Splits.of_space {c : Char} {cs : List Char} {ls : List Lexeme} (hc : isSpace c = true)
    (h : Splits (c :: cs) ls) : Splits cs ls := by
  generalize hcs : c :: cs = ds at h
  cases h with
  | nil => cases hcs
  | space hd h =>
    obtain ⟨-, rfl⟩ := List.cons.inj hcs
    exact h
  | lexeme hl hend h =>
    -- no lexeme begins with white space
    obtain ⟨d, ds, rfl⟩ := List.exists_cons_of_ne_nil hl.ne_nil
    obtain ⟨rfl, -⟩ := List.cons.inj hcs
    exact absurd hc (by simp [hl.isSpace_eq_false List.mem_cons_self])

/-! ## Lines with a name and without it -/

namespace Session

variable {s s' : Session} {line name before after inner : String} {outcome : LineOutcome} {e : Expr}

/-- A line that is an expression comes to its value, or to the variable that has none. -/
theorem run_of_parse (hblank : isBlank line.toList = false)
    (hparse : Expr.parse s.config line = .ok e) :
    s.run line =
      (((e.eval s.table.bindings).map (.expression e)).mapError .unbound, s) := by
  have hevaluate : s.evaluate line 0 =
      (e, ·) <$> (e.eval s.table.bindings).mapError LineError.unbound := by
    have hparseAt : Expr.parseAt s.config line 0 = .ok e := hparse
    rw [evaluate, hparseAt]
    rfl
  rw [run_of_not_mem hblank (Expr.equals_not_mem_of_parse hparse), hevaluate]
  rcases e.eval s.table.bindings with err | value <;> rfl

/-- What the assignment of an expression to a name leaves behind. -/
theorem run_name_eq_ok (hname : isIdentifier name = true) (hinner : isBlank inner.toList = false)
    (h : s.run (name ++ " = " ++ inner) = (.ok outcome, s')) :
    ∃ (w : Derivation (.tier .sum)) (value : Float), Splits inner.toList w.yield ∧
      w.tree.eval s.table.bindings = .ok value ∧ s' = s.assigned name value := by
  have hline : (name ++ " = " ++ inner).toList =
      (name.toList ++ [' ']) ++ '=' :: (' ' :: inner.toList) := by
    simp
  have htarget : '=' ∉ name.toList ++ [' '] := by
    intro hmem
    rcases List.mem_append.mp hmem with hmem | hmem
    · exact absurd (isAlphanumeric_of_mem_name hname hmem) (by decide +kernel)
    · exact absurd hmem (by decide)
  have htrim : String.ofList (trim (name.toList ++ [' '])) = name := by
    rw [trim_append_of_isIdentifier hname (List.forall_mem_singleton.mpr rfl), String.ofList_toList]
  obtain ⟨-, tree, value, hparse, heval, -, rfl⟩ := (run_assignment_iff hline htarget).mp h
  -- the space after the equals sign is not part of the expression
  have hspace : isSpace ' ' = true := rfl
  have hright : isBlank (String.ofList (' ' :: inner.toList)).toList = false := by
    rw [String.toList_ofList, isBlank, List.all_cons, hspace, Bool.true_and]
    exact hinner
  obtain ⟨w, hw, rfl⟩ := Expr.exists_derivation hparse hright
  rw [String.toList_ofList] at hw
  rw [htrim]
  exact ⟨w, value, hw.of_space hspace, heval, rfl⟩

theorem lookup_assigned (s : Session) (name : String) (value : Float) :
    (s.assigned name value).table.bindings.lookup =
      fun n => if n = name then .ok value else s.table.bindings.lookup n := by
  funext n
  rw [NameMap.lookup, NameMap.lookup, Table.find?_bindings, Table.find?_bindings, Table.get?,
    Table.get?, assigned, NameMap.find?_insert]
  by_cases hn : n = name <;> simp [hn]

/-- Under the values after an assignment a name stands for the expression that was assigned. -/
theorem eval_assigned {w : Expr} {value : Float} (hvalue : w.eval s.table.bindings = .ok value)
    (e : Expr) (name : String) :
    e.eval (s.assigned name value).table.bindings =
      (e.substitute fun n => if n = name then some w else none).eval s.table.bindings := by
  rw [Expr.eval, Expr.eval, Expr.evalWith_substitute, lookup_assigned]
  congr 1
  funext n
  by_cases hn : n = name
  · rw [if_pos hn, if_pos hn, ← hvalue]
    rfl
  · rw [if_neg hn, if_neg hn]
    rfl

/-- **Naming a part of an expression** does not change what a line comes to.  After the assignment
of a part to a name, the line with the name in it comes to the same value, or the same unbound
variable, as the line with the part between brackets before the assignment. -/
theorem run_named (s : Session) (before after inner name : String) {s' : Session}
    {outcome : LineOutcome} {e : Expr} (hname : isIdentifier name = true)
    (hbefore : ∀ c ∈ before.toList.getLast?, isAlphanumeric c = false)
    (hafter : ∀ c ∈ after.toList.head?, isAlphanumeric c = false)
    (hinner : isBlank inner.toList = false)
    (hassign : s.run (name ++ " = " ++ inner) = (.ok outcome, s'))
    (he : Expr.parse s.config (before ++ name ++ after) = .ok e)
    (hone : e.occurrences.count name = 1) :
    ∃ (e' : Expr) (result : Except UnboundVariable Float),
      s'.run (before ++ name ++ after) = ((result.map (.expression e)).mapError .unbound, s') ∧
      s.run (before ++ "(" ++ inner ++ ")" ++ after) =
        ((result.map (.expression e')).mapError .unbound, s) := by
  obtain ⟨w, value, hw, hvalue, rfl⟩ := run_name_eq_ok hname hinner hassign
  -- neither line is blank, since a letter or a bracket stands in it
  obtain ⟨c, cs, hcs, hletter, -⟩ := exists_cons_of_isIdentifier hname
  have hblank : isBlank (before ++ name ++ after).toList = false :=
    isBlank_eq_false (c := c) (by simp [hcs]) (isSpace_eq_false_of_isLetter hletter)
  have hblank' : isBlank (before ++ "(" ++ inner ++ ")" ++ after).toList = false :=
    isBlank_eq_false (c := '(') (by simp) (by decide)
  obtain ⟨d, hd, rfl⟩ := Expr.exists_derivation he hblank
  have hsplits := Splits.graft hname (by simpa using hd) hbefore hafter hone hw
  have hparse : Expr.parse s.config (before ++ "(" ++ inner ++ ")" ++ after) =
      .ok (d.graft name w).tree :=
    Expr.parse_eq_ok_iff.mpr (.inr ⟨d.graft name w, by simpa using hsplits, rfl⟩)
  have heval := eval_assigned hvalue d.tree name
  rw [← d.tree_graft] at heval
  refine ⟨(d.graft name w).tree, (d.graft name w).tree.eval s.table.bindings, ?_, ?_⟩
  · rw [← heval]
    exact run_of_parse hblank he
  · exact run_of_parse hblank' hparse

/-- The name hides a constant that the part mentions, and another variable has no value. -/
theorem run_named_shadowing :
    let s : Session := { table := .start true }
    let part : Expr := .operation .mul (.var "e") (.value 2)
    let whole : Expr := .operation .div
      (.operation .pow (.value 3) (.operation .sub (.var "x") (.var "e"))) (.var "y")
    ∃ value,
      (s.run ("e" ++ " = " ++ "e * 2") =
          (.ok (.assignment "e" part value), s.assigned "e" value) ∧
        Expr.parse s.config ("3 ^ (x - " ++ "e" ++ ") / y") = .ok whole) ∧
      ∃ (e' : Expr) (result : Except UnboundVariable Float),
        (s.assigned "e" value).run ("3 ^ (x - " ++ "e" ++ ") / y") =
          ((result.map (.expression whole)).mapError .unbound, s.assigned "e" value) ∧
        s.run ("3 ^ (x - " ++ "(" ++ "e * 2" ++ ")" ++ ") / y") =
          ((result.map (.expression e')).mapError .unbound, s) := by
  intro s part whole
  have hpart : Expr.parse { allowEmpty := false } (String.ofList " e * 2".toList) = .ok part := by
    decide +kernel
  have hvalue : part.eval s.table.bindings = .ok (Constants.e * 2) := rfl
  have hline : ("e" ++ " = " ++ "e * 2").toList = "e ".toList ++ '=' :: " e * 2".toList := by
    decide
  have hassign : s.run ("e" ++ " = " ++ "e * 2") =
      (.ok (.assignment "e" part (Constants.e * 2)), s.assigned "e" (Constants.e * 2)) :=
    (run_assignment_iff hline (by decide)).mpr ⟨by decide, part, _, hpart, hvalue, rfl, rfl⟩
  have he : Expr.parse { allowEmpty := false } ("3 ^ (x - " ++ "e" ++ ") / y") = .ok whole := by
    decide +kernel
  have hspace : ∀ c ∈ some ' ', isAlphanumeric c = false := by
    rintro c ⟨⟩
    decide
  have hbracket : ∀ c ∈ some ')', isAlphanumeric c = false := by
    rintro c ⟨⟩
    decide
  refine ⟨_, ⟨hassign, he⟩, ?_⟩
  exact run_named s "3 ^ (x - " ") / y" "e * 2" "e" (by decide) hspace hbracket (by decide)
    hassign he (by decide)

end Session

end Calculator
