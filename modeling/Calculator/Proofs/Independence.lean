import Mathlib.Data.List.Perm.Basic
import Calculator.Proofs.History
import Calculator.Proofs.Loop
import Calculator.Proofs.Naming
import Calculator.Proofs.OneMap
import Calculator.Proofs.Saving

/-!
# Independent assignments

A line that assigns reads the variables of its right side and writes the name in front of its equals
sign, and nothing else.  So two lines that assign to different names, neither of which reads the
name of the other, may be run in either order: each comes to the same outcome, whether or not they
fail. The sessions after both of them differ in the order in which a table keeps its variables, but
that order shows in no answer of a table, in no later line and in no file.

## Main definitions

* `Table.Agrees t u`, `Session.Agrees s t`: the variables are the same, whatever their order
* `Session.AssignsTo line name right`: the line assigns to the name what the text `right` stands for
* `Session.Independent config first second`: lines that assign and do not read each other's name

## Main results

* `Table.Agrees.find?_bindings`, `Table.Agrees.names`, `Table.Agrees.variableTable`,
  `Table.Agrees.save`: what is seen of a table does not show the order of its variables
* `Session.Agrees.run`, `Session.Agrees.advanceAll`: nor does what lines come to
* `Session.AssignsTo.exists_run_eq`: what a line that assigns reads and writes
* `Session.Independent.run_fst`, `Session.Independent.run_snd`: two independent lines, one at a time
* `Session.advanceAll_perm`: any number of lines that are pairwise independent, in any order
* `Session.run_comm`: what two independent lines come to in either order, and what is left of them
-/

namespace Calculator

open Text

/-! ## The order in which variables were set -/

namespace Table

variable {t u v : Table} {name : String}

/-- Tables with the same variables, which may have been set in another order. -/
structure Agrees (t u : Table) : Prop where
  /-- The constants are the same. -/
  builtins : t.builtins = u.builtins
  /-- The user's values are the same. -/
  user : ∀ name, t.user.find? name = u.user.find? name

namespace Agrees

theorem refl (t : Table) : t.Agrees t := ⟨rfl, fun _ => rfl⟩

theorem symm (h : t.Agrees u) : u.Agrees t := ⟨h.builtins.symm, fun name => (h.user name).symm⟩

theorem trans (h : t.Agrees u) (h' : u.Agrees v) : t.Agrees v :=
  ⟨h.builtins.trans h'.builtins, fun name => (h.user name).trans (h'.user name)⟩

theorem get? (h : t.Agrees u) (name : String) : t.get? name = u.get? name := by
  rw [Table.get?, Table.get?, h.builtins, h.user]

theorem isBuiltin (h : t.Agrees u) (name : String) : t.isBuiltin name = u.isBuiltin name := by
  rw [Table.isBuiltin, Table.isBuiltin, NameMap.contains, NameMap.contains, NameMap.contains,
    NameMap.contains, h.builtins, h.user]

theorem find?_bindings (h : t.Agrees u) (name : String) :
    t.bindings.find? name = u.bindings.find? name := by
  rw [Table.find?_bindings, Table.find?_bindings, h.get?]

/-- The names are sorted. -/
theorem names (h : t.Agrees u) : t.names = u.names := by
  refine (NameMap.pairwise_sortNames _).eq_of_mem_iff (NameMap.pairwise_sortNames _) fun name => ?_
  have hmem (w : Table) : name ∈ w.names ↔ (w.bindings.find? name).isSome = true :=
    w.names_perm_keys.mem_iff.trans NameMap.mem_keys_iff
  exact (hmem t).trans (h.find?_bindings name ▸ (hmem u).symm)

/-- What is shown goes by the names. -/
theorem variableTable (h : t.Agrees u) : Display.variableTable t = Display.variableTable u := by
  have hrow : Display.variableRow t = Display.variableRow u := by
    funext name
    rw [Display.variableRow, Display.variableRow, h.get?, h.isBuiltin]
  rw [Display.variableTable, Display.variableTable, h.names, hrow]

/-- What is saved is sorted. -/
theorem save (h : t.Agrees u) (store : FileStore) (p : Path) : t.save store p = u.save store p := by
  rw [Table.save, Table.save, VariablesFile.encode_congr h.user]

end Agrees

end Table

namespace Session

variable {s t u : Session} {line : String}

/-- Sessions with the same variables, which may have been set in another order. -/
structure Agrees (s t : Session) : Prop where
  /-- An empty expression means the same. -/
  config : s.config = t.config
  /-- The tables have the same variables. -/
  table : s.table.Agrees t.table

namespace Agrees

theorem refl (s : Session) : s.Agrees s := ⟨rfl, .refl s.table⟩

theorem symm (h : s.Agrees t) : t.Agrees s := ⟨h.config.symm, h.table.symm⟩

theorem trans (h : s.Agrees t) (h' : t.Agrees u) : s.Agrees u :=
  ⟨h.config.trans h'.config, h.table.trans h'.table⟩

theorem evaluate (h : s.Agrees t) (line : String) (start : Nat) :
    s.evaluate line start = t.evaluate line start := by
  have heval (tree : Expr) : tree.eval s.table.bindings = tree.eval t.table.bindings := by
    rw [Expr.eval, Expr.eval, NameMap.lookup_congr h.table.find?_bindings]
  simp only [Session.evaluate, h.config, heval]

theorem assigned (h : s.Agrees t) (name : String) (value : Float) :
    (s.assigned name value).Agrees (t.assigned name value) := by
  refine ⟨h.config, h.table.builtins, fun other => ?_⟩
  rw [Session.assigned, Session.assigned, NameMap.find?_insert, NameMap.find?_insert, h.table.user]

/-- A line comes to the same on sessions with the same variables, and leaves such sessions. -/
theorem run (h : s.Agrees t) (line : String) :
    (s.run line).1 = (t.run line).1 ∧ (s.run line).2.Agrees (t.run line).2 := by
  by_cases hmem : '=' ∈ line.toList
  · obtain ⟨target, right, hline, htarget⟩ := List.eq_append_cons_of_mem hmem
    rw [run_of_mem hline htarget, run_of_mem hline htarget]
    cases hname : isIdentifier (String.ofList (trim target)) with
    | false =>
      rw [runOn_assign_of_invalid hname, runOn_assign_of_invalid hname]
      exact ⟨rfl, h⟩
    | true =>
      rw [runOn_assign hname, runOn_assign hname, h.evaluate]
      rcases t.evaluate line (target.length + 1) with e | ⟨tree, value⟩
      · exact ⟨rfl, h⟩
      · exact ⟨rfl, h.assigned _ value⟩
  · cases hblank : isBlank line.toList with
    | true =>
      rw [run_of_isBlank hblank, run_of_isBlank hblank]
      exact ⟨rfl, h⟩
    | false =>
      rw [run_of_not_mem hblank hmem, run_of_not_mem hblank hmem, h.evaluate]
      exact ⟨rfl, h⟩

theorem advanceAll (h : s.Agrees t) (lines : List String) :
    (s.advanceAll lines).Agrees (t.advanceAll lines) := by
  induction lines generalizing s t with
  | nil => exact h
  | cons line lines ih =>
    refine ih ?_
    rw [advance_eq_run, advance_eq_run]
    exact (h.run line).2

end Agrees

end Session

namespace Session

variable {s : Session} {config : ParserConfig} {line first second name right x y : String}
  {start : Nat} {result result' : Except LineError (Expr × Float)}

/-! ## Lines that assign -/

/-- The line has the name, with white space around it or not, in front of its first equals sign, and
the text `right` behind it. -/
def AssignsTo (line name right : String) : Prop :=
  ∃ target : List Char, line.toList = target ++ '=' :: right.toList ∧ '=' ∉ target ∧
    String.ofList (trim target) = name ∧ isIdentifier name = true

theorem assignsTo_of_isIdentifier (hname : isIdentifier name = true) (right : String) :
    AssignsTo (name ++ " = " ++ right) name (" " ++ right) := by
  refine ⟨name.toList ++ [' '], by simp, ?_, ?_, hname⟩
  · intro hmem
    rcases List.mem_append.mp hmem with hmem | hmem
    · exact absurd (isAlphanumeric_of_mem_name hname hmem) (by decide)
    · exact absurd hmem (by decide)
  · rw [trim_append_of_isIdentifier hname (List.forall_mem_singleton.mpr rfl), String.ofList_toList]

/-- The session after an assignment whose right side came to a result. -/
def settled (s : Session) (name : String) : Except LineError (Expr × Float) → Session
  | .ok (_, value) => s.assigned name value
  | .error _ => s

/-- **What a line that assigns reads and writes**: it comes to what its right side comes to, and
writes the value to its name. -/
theorem AssignsTo.exists_run_eq (h : AssignsTo line name right) :
    ∃ start, String.ofList (line.toList.drop start) = right ∧ ∀ s : Session,
      s.run line = ((s.evaluate line start).map fun r => .assignment name r.1 r.2,
        s.settled name (s.evaluate line start)) := by
  obtain ⟨target, hline, htarget, rfl, hname⟩ := h
  refine ⟨target.length + 1, ?_, fun s => ?_⟩
  · rw [← String.toList_inj, hline]
    simp
  · rw [run_of_mem hline htarget, runOn_assign hname]
    rcases s.evaluate line (target.length + 1) with e | ⟨tree, value⟩ <;> rfl

theorem AssignsTo.run_snd_of_eval (h : AssignsTo line name right) {tree : Expr} {value : Float}
    (hparse : Expr.parse s.config right = .ok tree)
    (heval : tree.eval s.table.bindings = .ok value) : (s.run line).2 = s.assigned name value := by
  obtain ⟨start, rfl, hrun⟩ := h.exists_run_eq
  rw [hrun, evaluate_eq_ok_iff.mpr ⟨hparse, heval⟩]
  rfl

/-! ## Names that are not read -/

/-- The text is no expression, or one without the variable. -/
def LeavesOut (config : ParserConfig) (right name : String) : Prop :=
  ∀ e, Expr.parse config right = .ok e → name ∉ e.occurrences

theorem eval_assigned_of_not_mem {e : Expr} (h : name ∉ e.occurrences) (s : Session)
    (value : Float) :
    e.eval (s.assigned name value).table.bindings = e.eval s.table.bindings := by
  apply Expr.evalWith_congr
  intro other hother
  have hne : other ≠ name := fun heq => h (heq ▸ hother)
  rw [lookup_assigned]
  exact if_neg hne

/-- A right side that does not read a name comes to the same after an assignment to it. -/
theorem evaluate_settled (h : LeavesOut s.config (String.ofList (line.toList.drop start)) name)
    (result : Except LineError (Expr × Float)) :
    (s.settled name result).evaluate line start = s.evaluate line start := by
  rcases result with e | ⟨tree, value⟩
  · rfl
  rw [settled, evaluate, evaluate]
  cases hparse : Expr.parseAt s.config line start with
  | error e =>
    have hafter : Expr.parseAt (s.assigned name value).config line start = .error e := hparse
    rw [hafter]
    rfl
  | ok e =>
    have hafter : Expr.parseAt (s.assigned name value).config line start = .ok e := hparse
    have heval := eval_assigned_of_not_mem (h e (Expr.parseAt_eq_ok_iff.mp hparse)) s value
    rw [hafter]
    simp only [Except.mapError, bind, Except.bind, heval]

/-- Two names are given their values in either order. -/
theorem settled_comm (h : x ≠ y) :
    ((s.settled x result).settled y result').Agrees ((s.settled y result').settled x result) := by
  rcases result with e | ⟨tree, a⟩
  · exact .refl _
  rcases result' with e' | ⟨tree', b⟩
  · exact .refl _
  refine ⟨rfl, rfl, fun name => ?_⟩
  simp only [settled, assigned, NameMap.find?_insert]
  by_cases hname : name = y
  · rw [if_pos hname, if_neg fun heq => h (heq.symm.trans hname), if_pos hname]
  · rw [if_neg hname, if_neg hname]

/-! ## Independent lines -/

/-- Lines that assign to different names, neither of which reads the name of the other. -/
def Independent (config : ParserConfig) (first second : String) : Prop :=
  ∃ x y right right' : String, AssignsTo first x right ∧ AssignsTo second y right' ∧ x ≠ y ∧
    LeavesOut config right y ∧ LeavesOut config right' x

theorem Independent.symm (h : Independent config first second) :
    Independent config second first := by
  obtain ⟨x, y, right, right', hfirst, hsecond, hne, hright, hright'⟩ := h
  exact ⟨y, x, right', right, hsecond, hfirst, hne.symm, hright', hright⟩

/-- **A line does not depend** on an independent one before it. -/
theorem Independent.run_fst (h : Independent s.config first second) :
    ((s.run second).2.run first).1 = (s.run first).1 := by
  obtain ⟨x, y, right, right', hfirst, hsecond, -, hright, -⟩ := h
  obtain ⟨start, rfl, hrun⟩ := hfirst.exists_run_eq
  obtain ⟨start', -, hrun'⟩ := hsecond.exists_run_eq
  rw [hrun', hrun, hrun, evaluate_settled hright]

/-- **Two independent lines** leave the same variables in either order. -/
theorem Independent.run_snd (h : Independent s.config first second) :
    ((s.run first).2.run second).2.Agrees ((s.run second).2.run first).2 := by
  obtain ⟨x, y, right, right', hfirst, hsecond, hne, hright, hright'⟩ := h
  obtain ⟨start, rfl, hrun⟩ := hfirst.exists_run_eq
  obtain ⟨start', rfl, hrun'⟩ := hsecond.exists_run_eq
  rw [hrun, hrun', hrun', hrun, evaluate_settled hright, evaluate_settled hright']
  exact settled_comm hne

theorem config_run (s : Session) (line : String) : (s.run line).2.config = s.config := by
  rcases s.run_eq_or_assigned line with h | ⟨name, value, -, h⟩
  · rw [h]
  · rw [h]
    rfl

/-- **Lines that are pairwise independent** may be run in any order, those that fail included. -/
theorem advanceAll_perm {lines lines' : List String} (h : lines.Perm lines')
    (hindependent : lines.Pairwise (Independent s.config)) :
    (s.advanceAll lines).Agrees (s.advanceAll lines') := by
  induction h generalizing s with
  | nil => exact .refl s
  | cons line h ih =>
    refine ih ?_
    rw [advance_eq_run, config_run]
    exact (List.pairwise_cons.mp hindependent).2
  | swap first second lines =>
    -- the lines behind the two start from sessions with the same variables
    have hsecond : Independent s.config second first :=
      (List.pairwise_cons.mp hindependent).1 first List.mem_cons_self
    have hswap : ((s.advance second).advance first).Agrees ((s.advance first).advance second) := by
      rw [advance_eq_run, advance_eq_run, advance_eq_run, advance_eq_run]
      exact hsecond.run_snd
    exact hswap.advanceAll lines
  | trans h _ ih ih' =>
    have hpairwise := (h.pairwise_iff fun hab => hab.symm).mp hindependent
    exact (ih hindependent).trans (ih' hpairwise)

/-- **Independent assignments commute.**  Of two lines that assign to different names and do not
read each other's name, each comes to the same value or the same error whichever is run first.
After both of them, in either order, the same values are found under the same names, and the same
bytes are written when the user's variables are saved, although a table keeps its variables in the
order in which they were set. -/
theorem run_comm (h : Independent s.config first second) :
    ∃ t u : Session,
      (s.run first).2.run second = ((s.run second).1, t) ∧
      (s.run second).2.run first = ((s.run first).1, u) ∧
      (∀ name, t.table.bindings.find? name = u.table.bindings.find? name) ∧
      t.table.names = u.table.names ∧
      VariablesFile.encode t.table.user = VariablesFile.encode u.table.user ∧
      ∀ store p, t.table.save store p = u.table.save store p := by
  refine ⟨((s.run first).2.run second).2, ((s.run second).2.run first).2,
    Prod.ext h.symm.run_fst rfl, Prod.ext h.run_fst rfl, ?_⟩
  have hagrees := h.run_snd.table
  exact ⟨hagrees.find?_bindings, hagrees.names, VariablesFile.encode_congr hagrees.user,
    hagrees.save⟩

/-- One line hides a constant, and the other one reads the constant that it hides.  The two tables
keep the variables in different orders, which the saved bytes do not show. -/
theorem run_comm_hidden_constant :
    let s : Session := { table := .start true }
    let first := "pi" ++ " = " ++ "tau / 0"
    let second := "e" ++ " = " ++ "e + 1"
    Independent s.config first second ∧
      ∃ t u : Session,
        (s.run first).2.run second = ((s.run second).1, t) ∧
        (s.run second).2.run first = ((s.run first).1, u) ∧
        (t.table.user.keys = ["pi", "e"] ∧ u.table.user.keys = ["e", "pi"]) ∧
        (∀ name, t.table.bindings.find? name = u.table.bindings.find? name) ∧
        t.table.names = u.table.names ∧
        VariablesFile.encode t.table.user = VariablesFile.encode u.table.user ∧
        ∀ store p, t.table.save store p = u.table.save store p := by
  intro s first second
  have hright : Expr.parse s.config (" " ++ "tau / 0") =
      .ok (.operation .div (.var "tau") (.value 0)) := by
    decide +kernel
  have hright' : Expr.parse s.config (" " ++ "e + 1") =
      .ok (.operation .add (.var "e") (.value 1)) := by
    decide +kernel
  have hfirst : AssignsTo first "pi" (" " ++ "tau / 0") := assignsTo_of_isIdentifier (by decide) _
  have hsecond : AssignsTo second "e" (" " ++ "e + 1") := assignsTo_of_isIdentifier (by decide) _
  have h : Independent s.config first second := by
    refine ⟨"pi", "e", _, _, hfirst, hsecond, by decide, ?_, ?_⟩
    · intro e he
      rw [hright] at he
      cases he
      decide
    · intro e he
      rw [hright'] at he
      cases he
      decide
  -- the two tables, one assignment after the other
  have hpi : (s.run first).2 = s.assigned "pi" (Constants.tau / 0) :=
    hfirst.run_snd_of_eval hright rfl
  have he : (s.run second).2 = s.assigned "e" (Constants.e + 1) :=
    hsecond.run_snd_of_eval hright' rfl
  have hpie : ((s.assigned "pi" (Constants.tau / 0)).run second).2 =
      (s.assigned "pi" (Constants.tau / 0)).assigned "e" (Constants.e + 1) :=
    hsecond.run_snd_of_eval hright' rfl
  have hepi : ((s.assigned "e" (Constants.e + 1)).run first).2 =
      (s.assigned "e" (Constants.e + 1)).assigned "pi" (Constants.tau / 0) :=
    hfirst.run_snd_of_eval hright rfl
  obtain ⟨t, u, ht, hu, hsame⟩ := run_comm h
  refine ⟨h, t, u, ht, hu, ⟨?_, ?_⟩, hsame⟩
  · rw [hpi] at ht
    rw [ht] at hpie
    rw [show t = _ from hpie]
    rfl
  · rw [he] at hu
    rw [hu] at hepi
    rw [show u = _ from hepi]
    rfl

end Session

end Calculator
