import Calculator.Proofs.Dependence
import Calculator.Proofs.Parse
import Calculator.Proofs.Shift
import Calculator.Session

/-!
# Lines of a session

A line is read from its text and evaluated under the values that the session has before it.  Only
an assignment changes the session, by one value of the user, and only as the last of its steps; so
a line that fails has changed nothing.

## Main results

* `Expr.mem_of_parse`: the characters of a text that is an expression
* `Session.run_assignment_iff`, `Session.run_assignment_succeeds_iff`: when an assignment succeeds,
  and with what
* `Session.run_error`: a line that fails leaves the session as it is
* `Session.run_spec`: what every line comes to
-/

namespace Calculator

open Text

/-! ## The characters of an expression -/

theorem Spells.mem {seg : List Char} {l : Lexeme} {c : Char} (h : Spells seg l) (hc : c ∈ seg) :
    isAlphanumeric c = true ∨ c ∈ ['+', '-', '*', '/', '^', '(', ')', '.'] := by
  cases h with
  | number hraw =>
    rcases hraw.mem hc with hdigit | rfl
    · exact .inl (isAlphanumeric_of_isDigit hdigit)
    · exact .inr (by decide)
  | identifier hd hds =>
    rcases List.mem_cons.mp hc with rfl | hc
    · exact .inl (isAlphanumeric_of_isLetter hd)
    · exact .inl (hds c hc)
  | operator op =>
    rw [List.mem_singleton.mp hc]
    cases op <;> exact .inr (by decide)
  | opening | closing =>
    rw [List.mem_singleton.mp hc]
    exact .inr (by decide)

theorem Splits.mem {cs : List Char} {ls : List Lexeme} {c : Char} (h : Splits cs ls) (hc : c ∈ cs) :
    isSpace c = true ∨ isAlphanumeric c = true ∨
      c ∈ ['+', '-', '*', '/', '^', '(', ')', '.'] := by
  induction h with
  | nil => simp at hc
  | space hd h ih =>
    rcases List.mem_cons.mp hc with rfl | hc
    · exact .inl hd
    · exact ih hc
  | lexeme hl hend h ih =>
    rcases List.mem_append.mp hc with hc | hc
    · exact .inr (hl.mem hc)
    · exact ih hc

namespace Expr

theorem mem_of_parse {config : ParserConfig} {text : String} {e : Expr} {c : Char}
    (h : parse config text = .ok e) (hc : c ∈ text.toList) :
    isSpace c = true ∨ isAlphanumeric c = true ∨
      c ∈ ['+', '-', '*', '/', '^', '(', ')', '.'] := by
  rcases parse_eq_ok_iff.mp h with ⟨hblank, -, -⟩ | ⟨d, hd, -⟩
  · exact .inl (List.all_eq_true.mp hblank c hc)
  · exact hd.mem hc

theorem equals_not_mem_of_parse {config : ParserConfig} {text : String} {e : Expr}
    (h : parse config text = .ok e) : '=' ∉ text.toList := by
  intro hmem
  have hnone : ¬ (isSpace '=' = true ∨ isAlphanumeric '=' = true ∨
      '=' ∈ ['+', '-', '*', '/', '^', '(', ')', '.']) := by
    decide +kernel
  exact hnone (mem_of_parse h hmem)

end Expr

namespace Session

variable {s s' : Session} {line name : String} {target right : List Char} {outcome : LineOutcome}

/-! ## The steps of a line -/

theorem evaluate_eq_ok_iff {start : Nat} {tree : Expr} {value : Float} :
    s.evaluate line start = .ok (tree, value) ↔
      Expr.parse s.config (String.ofList (line.toList.drop start)) = .ok tree ∧
        tree.eval s.table.bindings = .ok value := by
  rw [← Expr.parseAt_eq_ok_iff, evaluate]
  constructor
  · intro h
    obtain ⟨tree', hparse, h⟩ := bind_eq_ok h
    obtain ⟨value', heval, h⟩ := bind_eq_ok h
    obtain ⟨rfl, rfl⟩ := Prod.mk.inj (Except.ok.inj h)
    exact ⟨mapError_eq_ok_iff.mp hparse, mapError_eq_ok_iff.mp heval⟩
  · rintro ⟨hparse, heval⟩
    rw [hparse]
    show (tree.eval s.table.bindings).mapError LineError.unbound >>= _ = _
    rw [heval]
    rfl

theorem run_of_isBlank (h : isBlank line.toList = true) : s.run line = (.ok .blank, s) := by
  rw [run, perform, if_pos h]
  rfl

theorem isBlank_eq_false_of_mem (h : '=' ∈ line.toList) : isBlank line.toList = false := by
  rw [← Bool.not_eq_true]
  intro hblank
  have hspace := List.all_eq_true.mp hblank '=' h
  exact absurd hspace (by decide)

/-- A line without an equals sign is an expression. -/
theorem run_of_not_mem (hblank : isBlank line.toList = false) (h : '=' ∉ line.toList) :
    s.run line = ((fun x => .expression x.1 x.2) <$> s.evaluate line 0, s) := by
  have hcontains : line.toList.contains '=' = false := by simpa using h
  simp only [run, perform, hblank, hcontains, Bool.false_eq_true, if_false, Action.runOn_bind,
    Action.runOn_get, Action.runOn_lift]
  rcases s.evaluate line 0 with e | x <;> rfl

/-- A line with an equals sign is an assignment to what stands before the first one. -/
theorem run_of_mem (hline : line.toList = target ++ '=' :: right) (htarget : '=' ∉ target) :
    s.run line = (assign line target).runOn s := by
  have hmem : '=' ∈ line.toList := by simp [hline]
  have hcontains : line.toList.contains '=' = true := by simpa using hmem
  have htake : line.toList.takeWhile (· != '=') = target := by
    rw [hline, List.takeWhile_append_of_pos, List.takeWhile_cons_of_neg (by decide),
      List.append_nil]
    intro c hc
    exact bne_iff_ne.mpr fun h => htarget (h ▸ hc)
  rw [run, perform, isBlank_eq_false_of_mem hmem, if_neg Bool.false_ne_true, if_pos hcontains,
    htake]

theorem runOn_assign (h : isIdentifier (String.ofList (trim target)) = true) :
    (assign line target).runOn s =
      match s.evaluate line (target.length + 1) with
      | .ok (tree, value) =>
        (.ok (.assignment (String.ofList (trim target)) tree value),
          s.assigned (String.ofList (trim target)) value)
      | .error e => (.error e, s) := by
  simp only [assign, h, if_true, Action.runOn_bind, Action.runOn_get, Action.runOn_lift]
  rcases s.evaluate line (target.length + 1) with e | x
  · rfl
  · simp only [runOn_store h, Action.runOn_pure]

theorem runOn_assign_of_invalid (h : isIdentifier (String.ofList (trim target)) = false) :
    (assign line target).runOn s =
      (.error (.parse ⟨.invalidTarget (String.ofList (trim target)),
        ⟨line, target.length + 1⟩⟩), s) := by
  simp [assign, h]

/-! ## Lines that succeed and lines that fail -/

/-- An assignment succeeds if its target is a name and what stands behind its first equals sign is
an expression with a value; then the session has this value for the name. -/
theorem run_assignment_iff (hline : line.toList = target ++ '=' :: right) (htarget : '=' ∉ target) :
    s.run line = (.ok outcome, s') ↔
      isIdentifier (String.ofList (trim target)) = true ∧
        ∃ tree value, Expr.parse s.config (String.ofList right) = .ok tree ∧
          tree.eval s.table.bindings = .ok value ∧
          outcome = .assignment (String.ofList (trim target)) tree value ∧
          s' = s.assigned (String.ofList (trim target)) value := by
  have hdrop : line.toList.drop (target.length + 1) = right := by simp [hline]
  rw [run_of_mem hline htarget, ← hdrop]
  cases hname : isIdentifier (String.ofList (trim target)) with
  | false =>
    rw [runOn_assign_of_invalid hname]
    simp
  | true =>
    rw [runOn_assign hname]
    rcases h : s.evaluate line (target.length + 1) with e | ⟨tree, value⟩
    · constructor
      · intro herror
        cases herror
      · rintro ⟨-, tree, value, hparse, heval, -⟩
        cases h.symm.trans (evaluate_eq_ok_iff.mpr ⟨hparse, heval⟩)
    · obtain ⟨hparse, heval⟩ := evaluate_eq_ok_iff.mp h
      constructor
      · intro hok
        obtain ⟨houtcome, hs'⟩ := Prod.mk.inj hok
        exact ⟨rfl, tree, value, hparse, heval, (Except.ok.inj houtcome).symm, hs'.symm⟩
      · rintro ⟨-, tree', value', hparse', heval', rfl, rfl⟩
        obtain rfl : tree = tree' := Except.ok.inj (hparse.symm.trans hparse')
        obtain rfl : value = value' := Except.ok.inj (heval.symm.trans heval')
        rfl

/-- When an assignment succeeds, by what can be seen before the line is run. -/
theorem run_assignment_succeeds_iff (hline : line.toList = target ++ '=' :: right)
    (htarget : '=' ∉ target) :
    (∃ outcome, (s.run line).1 = .ok outcome) ↔
      line.toList.count '=' = 1 ∧ isIdentifier (String.ofList (trim target)) = true ∧
        ∃ tree, Expr.parse s.config (String.ofList right) = .ok tree ∧
          ∀ name ∈ tree.occurrences, s.table.contains name = true := by
  have hcount : line.toList.count '=' = 1 ↔ '=' ∉ right := by
    rw [hline, List.count_append, List.count_cons_self, List.count_eq_zero.mpr htarget,
      ← List.count_eq_zero]
    omega
  rw [hcount]
  constructor
  · rintro ⟨outcome, h⟩
    obtain ⟨hname, tree, value, hparse, heval, -⟩ :=
      (run_assignment_iff hline htarget).mp (Prod.ext h rfl)
    -- a second equals sign would stand in the expression
    have hright := Expr.equals_not_mem_of_parse hparse
    rw [String.toList_ofList] at hright
    refine ⟨hright, hname, tree, hparse, ?_⟩
    simpa using (Expr.eval_ok_iff tree).mp ⟨value, heval⟩
  · rintro ⟨-, hname, tree, hparse, hbound⟩
    obtain ⟨value, heval⟩ : ∃ value, tree.eval s.table.bindings = .ok value := by
      rw [Expr.eval_ok_iff]
      simpa using hbound
    have hrun := (run_assignment_iff hline htarget).mpr
      ⟨hname, tree, value, hparse, heval, rfl, rfl⟩
    exact ⟨_, congrArg Prod.fst hrun⟩

/-- A line that fails leaves the session as it is. -/
theorem run_error {e : LineError} (h : (s.run line).1 = .error e) : (s.run line).2 = s := by
  by_cases hmem : '=' ∈ line.toList
  · obtain ⟨target, right, hline, htarget⟩ := List.eq_append_cons_of_mem hmem
    rw [run_of_mem hline htarget] at h ⊢
    cases hname : isIdentifier (String.ofList (trim target)) with
    | false => rw [runOn_assign_of_invalid hname]
    | true =>
      -- once the right side has a value, the name is stored and nothing can fail any more
      rw [runOn_assign hname] at h ⊢
      generalize s.evaluate line (target.length + 1) = result at h ⊢
      rcases result with e' | ⟨tree, value⟩
      · rfl
      · cases h
  · cases hblank : isBlank line.toList with
    | true => rw [run_of_isBlank hblank]
    | false => rw [run_of_not_mem hblank hmem]

/-- **What a line does to a session.**  A blank line does nothing.  A line without an equals sign is
an expression, and leaves the session as it is.  A line with an equals sign succeeds if this is the
only one, a name stands in front of it, and behind it stands an expression all of whose variables
have values; then the name gets the value of the expression under the values before the line, and
nothing else changes.  A line that fails leaves the session as it is. -/
theorem run_spec (s : Session) (line : String) :
    (isBlank line.toList = true → s.run line = (.ok .blank, s)) ∧
    (isBlank line.toList = false → '=' ∉ line.toList →
      (s.run line).1 = (do
        let tree ← (Expr.parse s.config line).mapError .parse
        let value ← (tree.eval s.table.bindings).mapError .unbound
        return .expression tree value) ∧
      (s.run line).2 = s) ∧
    ('=' ∈ line.toList → ∃ target right : String,
      line = target ++ "=" ++ right ∧ '=' ∉ target.toList ∧
      ((∃ outcome, (s.run line).1 = .ok outcome) ↔
        line.toList.count '=' = 1 ∧ isIdentifier (String.ofList (trim target.toList)) = true ∧
          ∃ tree, Expr.parse s.config right = .ok tree ∧
            ∀ name ∈ tree.occurrences, s.table.contains name = true) ∧
      ∀ outcome s', s.run line = (.ok outcome, s') → ∃ tree value,
        Expr.parse s.config right = .ok tree ∧ tree.eval s.table.bindings = .ok value ∧
        outcome = .assignment (String.ofList (trim target.toList)) tree value ∧
        s'.config = s.config ∧ s'.table.builtins = s.table.builtins ∧
        ∀ name, s'.table.user.find? name =
          if name = String.ofList (trim target.toList) then some value
          else s.table.user.find? name) ∧
    ∀ e, (s.run line).1 = .error e → (s.run line).2 = s := by
  refine ⟨run_of_isBlank, ?_, ?_, fun e => run_error⟩
  · intro hblank hmem
    rw [run_of_not_mem hblank hmem]
    constructor
    · simp only [evaluate, Expr.parse, map_bind, map_pure]
    · rfl
  · intro hmem
    obtain ⟨target, right, hline, htarget⟩ := List.eq_append_cons_of_mem hmem
    refine ⟨String.ofList target, String.ofList right, ?_, ?_, ?_, ?_⟩
    · rw [← String.toList_inj]
      simp [hline]
    · rwa [String.toList_ofList]
    · rw [String.toList_ofList]
      exact run_assignment_succeeds_iff hline htarget
    · intro outcome s' h
      rw [String.toList_ofList]
      obtain ⟨-, tree, value, hparse, heval, houtcome, rfl⟩ :=
        (run_assignment_iff hline htarget).mp h
      refine ⟨tree, value, hparse, heval, houtcome, rfl, rfl, ?_⟩
      intro name
      exact NameMap.find?_insert _ _ _ _

end Session

end Calculator
