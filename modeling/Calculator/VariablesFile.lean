import Calculator.Files.Store
import Calculator.Json.Read
import Calculator.Json.Write
import Calculator.Table
import Calculator.Text.Utf8

/-!
# Variables files

The user's variables are kept in files as one JSON object, names to numbers.  The members are
written in the order of their names, whichever way the variables came about.

## Main definitions

* `VariablesFile.decode path bytes`: the variables of a file
* `VariablesFile.encode values`: the document of variables
* `Table.setEach t values`: the table with names set one after the other
* `Table.runLoad t store p`: what loading a file comes to and the table after it
* `Table.load`: the same, without a table after a file that is not loaded
* `Table.save`: the user's variables written to a file
* `LoadError`: why a file is not loaded
-/

namespace Calculator

/-- Why a variables file is not loaded. -/
inductive LoadError where
  /-- The file cannot be read. -/
  | file (e : FileError)
  /-- The file is not UTF-8. -/
  | encoding (e : Utf8Error)
  /-- The file is not JSON. -/
  | malformed (path : String) (e : Json.ReadError)
  /-- The document is not an object. -/
  | notObject (path : String)
  /-- An input cannot refer to a name. -/
  | invalidName (name : CodePoints) (path : String)
  /-- A value is not a number. -/
  | notNumber (name : CodePoints) (path : String) (value : Json)
  /-- A whole number is beyond the range of doubles. -/
  | outOfRange (name : CodePoints) (path : String)
  /-- The table refuses a variable. -/
  | table (e : TableError)

/-- The text of the error. -/
def LoadError.message : LoadError → String
  | file e => e.message
  | encoding e => e.message
  | malformed _ (.oversized digits) => (Json.ReadError.oversized digits).message
  | malformed path e => "Malformed variables file " ++ path ++ ": " ++ e.message
  | notObject path => "Variables file " ++ path ++ " must contain a JSON object"
  | invalidName name path => "Invalid variable name " ++ Quoted.codePoints name ++ " in " ++ path
  | notNumber name path value =>
    "Variable " ++ Quoted.codePoints name ++ " in " ++ path ++ " is not a number: " ++
      value.describe
  | outOfRange name path =>
    "Variable " ++ Quoted.codePoints name ++ " in " ++ path ++ " is out of range for a float"
  | table e => e.message

namespace VariablesFile

/-- A text with every line break made a line feed. -/
def unifyLines : List Char → List Char
  | [] => []
  | '\r' :: '\n' :: cs => '\n' :: unifyLines cs
  | '\r' :: cs => '\n' :: unifyLines cs
  | c :: cs => c :: unifyLines cs

/-- The variable that a member of the object gives. -/
def entry (path : String) (name : CodePoints) (v : Json) : Except LoadError (String × Float) :=
  match name.toString?.filter isIdentifier with
  | none => .error (.invalidName name path)
  | some s =>
    match v with
    | .integer n =>
      match Json.integerToFloat? n with
      | some x => .ok (s, x)
      | none => .error (.outOfRange name path)
    | .real x => .ok (s, x)
    | _ => .error (.notNumber name path v)

/-- The variables of a file; all of them are checked before any is given out. -/
def decode (path : String) (bytes : List UInt8) : Except LoadError (List (String × Float)) := do
  let cs ← (Utf8.decode bytes).mapError .encoding
  match ← (Json.read (unifyLines cs)).mapError (.malformed path) with
  | .object members => members.mapM fun member => entry path member.1 member.2
  | _ => throw (.notObject path)

/-- The document of variables, sorted by their names. -/
def document (values : NameMap Float) : Json :=
  .object (values.sorted.map fun (name, x) => (CodePoints.ofString name, .real x))

/-- The bytes of the document of variables. -/
def encode (values : NameMap Float) : List UInt8 :=
  Utf8.encode (Json.write .unicode (document values)).toList

end VariablesFile

namespace Table

/-- Gives names their values one after the other, up to the first that is refused.  What was set
before that one stays set. -/
def setEach (t : Table) : List (String × Float) → Except TableError Unit × Table
  | [] => (.ok (), t)
  | (name, x) :: rest =>
    match t.set name x with
    | .ok t => setEach t rest
    | .error e => (.error e, t)

/-- The number of variables that a file gives, which are set once all of them are checked, and the
table after it, whether or not the file is loaded. -/
def runLoad (t : Table) (store : FileStore) (p : Path) : Except LoadError Nat × Table :=
  match store.read p with
  | .error e => (.error (.file e), t)
  | .ok bytes =>
    match VariablesFile.decode p.text bytes with
    | .error e => (.error e, t)
    | .ok values =>
      match t.setEach values with
      | (.ok (), after) => (.ok values.length, after)
      | (.error e, after) => (.error (.table e), after)

/-- The table after a file and the number of its variables, if the file is loaded. -/
def load (t : Table) (store : FileStore) (p : Path) : Except LoadError (Table × Nat) :=
  let (count, after) := t.runLoad store p
  count.map fun n => (after, n)

/-- Writes the user's variables to a file. -/
def save (t : Table) (store : FileStore) (p : Path) : FileStore × Except FileError Unit :=
  store.writeDeep p (VariablesFile.encode t.user)

end Table

end Calculator
