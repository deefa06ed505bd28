import Calculator.Parse
import Calculator.Table

/-!
# Sessions

A session runs lines one after the other against one table: assignments, which give a name the value
of an expression, and plain expressions.

## Main definitions

* `Session`: a table and what an empty expression means
* `LineOutcome`, `LineError`: what a line can come to
* `Session.Action`: what changes a session and may fail on the way
* `Session.assigned s name value`: the session in which the user gave a name a value
* `Session.run s line`: what a line comes to and the session after it
* `Session.execute s line`: the same, without a session after a line that fails

## Main results

* `Session.Action.runOn_bind`: what one action leaves to the next
* `Session.runOn_store`: the session after a name was given a value
-/

namespace Calculator

open Text

/-- What a line came to. -/
inductive LineOutcome where
  /-- The line was blank. -/
  | blank
  /-- The line was an expression. -/
  | expression (tree : Expr) (value : Float)
  /-- The line gave a name a value. -/
  | assignment (name : String) (tree : Expr) (value : Float)

/-- Why a line fails. -/
inductive LineError where
  /-- The line is malformed. -/
  | parse (e : ParseError)
  /-- A variable has no value. -/
  | unbound (e : UnboundVariable)
  /-- The table refuses the assignment. -/
  | table (e : TableError)

/-- The text of the error. -/
def LineError.message : LineError → String
  | parse e => e.message
  | unbound e => e.message
  | table e => e.message

/-- A table and what an empty expression means. -/
structure Session where
  /-- The variables. -/
  table : Table
  /-- What an empty expression means; unless told otherwise it is an error. -/
  config : ParserConfig := { allowEmpty := false }

namespace Session

/-- What a line does to a session.  It may fail, and what it changed before that stays changed. -/
abbrev Action := ExceptT LineError (StateM Session)

/-- What comes of an action on a session, and the session after it. -/
def Action.runOn {α : Type} (a : Action α) (s : Session) : Except LineError α × Session :=
  (StateT.run (ExceptT.run a) s).run

namespace Action

variable {α β : Type}

@[simp] theorem runOn_pure (x : α) (s : Session) : (pure x : Action α).runOn s = (.ok x, s) := rfl

@[simp] theorem runOn_throw (e : LineError) (s : Session) :
    (throw e : Action α).runOn s = (.error e, s) := rfl

@[simp] theorem runOn_lift (x : Except LineError α) (s : Session) :
    (liftM x : Action α).runOn s = (x, s) := rfl

@[simp] theorem runOn_get (s : Session) : (get : Action Session).runOn s = (.ok s, s) := rfl

@[simp] theorem runOn_set (s t : Session) : (set t : Action PUnit).runOn s = (.ok .unit, t) := rfl

/-- The second of two actions starts from the session that the first one leaves, and not at all if
that one fails. -/
theorem runOn_bind (a : Action α) (k : α → Action β) (s : Session) :
    (a >>= k).runOn s =
      match a.runOn s with
      | (.ok x, after) => (k x).runOn after
      | (.error e, after) => (.error e, after) := by
  simp only [runOn, ExceptT.run_bind, StateT.run_bind, Id.run_bind]
  rcases (StateT.run (ExceptT.run a) s).run with ⟨e | x, after⟩ <;> rfl

end Action

/-- Evaluates the line from an offset on. -/
def evaluate (s : Session) (line : String) (start : Nat) : Except LineError (Expr × Float) := do
  let tree ← (Expr.parseAt s.config line start).mapError .parse
  let value ← (tree.eval s.table.bindings).mapError .unbound
  return (tree, value)

/-- Gives a name a value in the table. -/
def store (name : String) (value : Float) : Action Unit := do
  let s ← get
  let table ← (s.table.set name value).mapError LineError.table
  set { s with table }

/-- The session in which the user gave a name a value. -/
def assigned (s : Session) (name : String) (value : Float) : Session :=
  { s with table := { s.table with user := s.table.user.insert name value } }

theorem runOn_store {name : String} (h : isIdentifier name = true) (value : Float) (s : Session) :
    (store name value).runOn s = (.ok (), s.assigned name value) := by
  have hset : (s.table.set name value).mapError LineError.table =
      .ok { s.table with user := s.table.user.insert name value } := by
    rw [Table.set, if_pos h]
    rfl
  simp only [store, Action.runOn_bind, Action.runOn_get, hset, Action.runOn_lift,
    Action.runOn_set, assigned]

/-- Runs an assignment whose equals sign has `target` in front of it. -/
def assign (line : String) (target : List Char) : Action LineOutcome := do
  let name := String.ofList (trim target)
  let start := target.length + 1
  if isIdentifier name then
    let s ← get
    let (tree, value) ← s.evaluate line start
    store name value
    return .assignment name tree value
  else
    throw (.parse ⟨.invalidTarget name, ⟨line, start⟩⟩)

/-- Runs a line: nothing if it is blank, an assignment if it has an equals sign, and otherwise an
expression. -/
def perform (line : String) : Action LineOutcome := do
  if isBlank line.toList then
    return .blank
  else if line.toList.contains '=' then
    assign line (line.toList.takeWhile (· != '='))
  else
    let s ← get
    let (tree, value) ← s.evaluate line 0
    return .expression tree value

/-- What a line comes to, and the session after it, whether or not the line fails. -/
def run (s : Session) (line : String) : Except LineError LineOutcome × Session :=
  (perform line).runOn s

/-- The outcome of a line and the session after it, if the line does not fail. -/
def execute (s : Session) (line : String) : Except LineError (LineOutcome × Session) :=
  let (outcome, after) := s.run line
  outcome.map fun outcome => (outcome, after)

theorem execute_eq_ok_iff {s after : Session} {line : String} {outcome : LineOutcome} :
    s.execute line = .ok (outcome, after) ↔ s.run line = (.ok outcome, after) := by
  rw [execute]
  rcases s.run line with ⟨e | o, t⟩ <;> simp [Except.map]

end Session

end Calculator
