import Calculator.Constants
import Calculator.Json.Number
import Calculator.Lexeme

/-!
# Variable tables

The variables that expressions are evaluated with: constants that are there from the start, and
values that the user gives.  A user value hides a constant of its name until it is deleted.

## Main definitions

* `Table`: the two layers
* `Table.make`: a table that is made with values
* `Table.bindings`: the one map that they make
* `Table.set`, `Table.delete`, `Table.reset`: the changes of the user's layer
* `Table.runDelete`: a deletion, and whether there was something to delete
* `Table.get?`, `Table.contains`, `Table.isBuiltin`, `Table.names`, `Table.size`: what it is asked

## Main results

* `Table.find?_bindings`, `Table.contains_bindings`: the map of all values agrees with every look-up
* `Table.get?_set`: what setting a variable does to every look-up
-/

namespace Calculator

/-- The variables of a run. -/
structure Table where
  /-- The constants. -/
  builtins : NameMap Float
  /-- The values that the user gave. -/
  user : NameMap Float

/-- Why a variable is not set. -/
inductive TableError where
  /-- An input cannot refer to the name. -/
  | invalidName (name : String)
  /-- The value is no number. -/
  | conversion (e : ConversionError)
deriving DecidableEq, Repr

/-- The text of the error. -/
def TableError.message : TableError → String
  | invalidName name => "Invalid variable name: " ++ quoted name
  | conversion e => e.message

namespace Table

/-- The table without user values, with the builtin constants or without any. -/
def start (includeBuiltins : Bool) : Table :=
  ⟨if includeBuiltins then Constants.builtins else .empty, .empty⟩

/-- The value of a name: that of the user before that of a constant. -/
def get? (t : Table) (name : String) : Option Float :=
  (t.user.find? name).or (t.builtins.find? name)

/-- Gives a name a value, if an input can refer to the name. -/
def set (t : Table) (name : String) (x : Float) : Except TableError Table :=
  if isIdentifier name then .ok { t with user := t.user.insert name x }
  else .error (.invalidName name)

/-- Gives a name the number that a JSON value stands for.  The name is checked first. -/
def setJson (t : Table) (name : String) (v : Json) : Except TableError Table :=
  if isIdentifier name then
    match v.toFloat with
    | .ok x => t.set name x
    | .error e => .error (.conversion e)
  else .error (.invalidName name)

/-- The table that is made with values, which are set one after the other. -/
def make (includeBuiltins : Bool) (given : List (String × Json)) : Except TableError Table :=
  given.foldlM (fun t entry => t.setJson entry.1 entry.2) (start includeBuiltins)

/-- The table without the user's value of a name. -/
def delete (t : Table) (name : String) : Table :=
  { t with user := t.user.erase name }

/-- Whether the user gave a name a value. -/
def isUser (t : Table) (name : String) : Bool :=
  t.user.contains name

/-- Whether the user's value of a name was there to be deleted, and the table without it. -/
def runDelete (t : Table) (name : String) : Bool × Table :=
  ((t.user.find? name).isSome, t.delete name)

/-- Whether a name has the value of a constant. -/
def isBuiltin (t : Table) (name : String) : Bool :=
  t.builtins.contains name && !t.user.contains name

/-- Whether a name has a value. -/
def contains (t : Table) (name : String) : Bool :=
  t.user.contains name || t.builtins.contains name

/-- The map of all values. -/
def bindings (t : Table) : NameMap Float :=
  t.builtins.overlay t.user

/-- The names of both layers in increasing order, each once. -/
def names (t : Table) : List String :=
  NameMap.sortNames (t.builtins.keys ++ t.user.keys)

/-- The number of names that have a value. -/
def size (t : Table) : Nat :=
  t.names.length

/-- The table without user values. -/
def reset (t : Table) : Table :=
  { t with user := .empty }

@[simp] theorem find?_bindings (t : Table) (name : String) :
    t.bindings.find? name = t.get? name := by
  simp [bindings, get?]

@[simp] theorem contains_bindings (t : Table) (name : String) :
    t.bindings.contains name = t.contains name := by
  simp [NameMap.contains, contains, get?]

theorem get?_set {t u : Table} {name : String} {x : Float} (h : t.set name x = .ok u)
    (other : String) : u.get? other = if other = name then some x else t.get? other := by
  unfold set at h
  split at h
  · cases h
    by_cases hn : other = name <;> simp [get?, hn]
  · cases h

theorem get?_delete (t : Table) (name other : String) :
    (t.delete name).get? other =
      if other = name then t.builtins.find? other else t.get? other := by
  by_cases h : other = name <;> simp [get?, delete, h]

end Table

end Calculator
