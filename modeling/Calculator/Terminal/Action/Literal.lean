import Calculator.Terminal.Action.Piece

/-!
# Literal values

An argument must be a literal value: a number, a quoted text, a constant, or a group of values in
brackets.  The members of a set and the keys of a dictionary cannot themselves be sets or
dictionaries.

## Main definitions

* `Literal`: what matters of a value
* `Literal.ofPieces? pieces`: the value that some pieces write
-/

namespace Calculator.Terminal.Action

/-- The kinds of values that signs and sums distinguish. -/
inductive ValueKind where
  /-- A real number. -/
  | real
  /-- A real number with a sign. -/
  | signed
  /-- An imaginary number. -/
  | imaginary
  /-- Any other value. -/
  | other
deriving DecidableEq, Repr

/-- A value that is written down. -/
structure Literal where
  /-- The kind of the value. -/
  kind : ValueKind
  /-- What a set or dictionary is called that stands in the value and keeps it from being a key. -/
  obstacle : Option String
  /-- Why there is no such value. -/
  problem : Option String
deriving DecidableEq, Repr

namespace Literal

/-- A value by itself. -/
def ofKind (kind : ValueKind) : Literal := ⟨kind, none, none⟩

/-- What is written by something else than a literal value. -/
def malformed : Literal := ⟨.other, none, some "malformed node or string on line 1"⟩

/-- Why a value cannot be a key. -/
def keyProblem (v : Literal) : Option String :=
  v.problem.orElse fun _ => v.obstacle.map fun name => "unhashable type: '" ++ name ++ "'"

/-- Several values in round brackets. -/
def tuple (vs : List Literal) : Literal :=
  ⟨.other, vs.findSome? (·.obstacle), vs.findSome? (·.problem)⟩

/-- Several values in braces. -/
def set (vs : List Literal) : Literal := ⟨.other, some "set", vs.findSome? keyProblem⟩

/-- Several entries in braces; one without a key lays another dictionary over the entries before. -/
def dictionary (entries : List (Option Literal × Literal)) : Literal :=
  let entryProblem : Option Literal × Literal → Option String
    | (none, _) => some "malformed node or string: None"
    | (some key, value) =>
      (key.problem.orElse fun _ => value.problem).orElse fun _ => key.keyProblem
  ⟨.other, some "dict", entries.findSome? entryProblem⟩

/-- A value with a sign in front. -/
def negated (v : Literal) : Literal :=
  match v.problem, v.kind with
  | none, .real => ofKind .signed
  | none, .imaginary => ofKind .other
  | _, _ => malformed

/-- The sum or difference of two values: a real number and an imaginary one. -/
def sum (v w : Literal) : Literal :=
  match v.problem, v.kind, w.problem, w.kind with
  | none, .real, none, .imaginary | none, .signed, none, .imaginary => ofKind .other
  | _, _, _, _ => malformed

/-- What follows the names of members, each after a point, at the beginning of some pieces. -/
def afterMembers : List Piece → List Piece
  | .sign "." :: .name word :: rest =>
    if keywords.contains word then .sign "." :: .name word :: rest else afterMembers rest
  | ps => ps

mutual

/-- The value at the beginning of some pieces, and the pieces after it.  `depth` bounds the depth of
the brackets. -/
def value? (depth : Nat) (ps : List Piece) : Option (Literal × List Piece) := do
  match ps with
  | .sign "+" :: ps | .sign "-" :: ps =>
    let (v, rest) ← item? depth ps
    sumFrom? depth v.negated rest
  | _ =>
    let (v, rest) ← item? depth ps
    sumFrom? depth v rest
termination_by (depth, 2)

/-- The sum that a value begins. -/
def sumFrom? (depth : Nat) (v : Literal) (ps : List Piece) : Option (Literal × List Piece) := do
  match ps with
  | .sign "+" :: ps | .sign "-" :: ps =>
    let (w, rest) ← item? depth ps
    return (v.sum w, rest)
  | _ => return (v, ps)
termination_by (depth, 1)

/-- The value without signs around it at the beginning of some pieces. -/
def item? (depth : Nat) (ps : List Piece) : Option (Literal × List Piece) := do
  match depth, ps with
  | _, .number imaginary :: rest =>
    return (ofKind (if imaginary then .imaginary else .real), rest)
  | _, .quoted hasPlaces :: rest =>
    let more := rest.takeWhile fun p => p = .quoted true ∨ p = .quoted false
    let v := if hasPlaces ∨ more.contains (.quoted true) then malformed else ofKind .other
    return (v, rest.drop more.length)
  | _, .sign "..." :: rest => return (ofKind .other, rest)
  | _, .name "set" :: .sign "(" :: .sign ")" :: rest => return (set [], rest)
  | _, .name word :: rest =>
    if constants.contains word then return (ofKind .other, rest)
    else if keywords.contains word then none
    else return (malformed, afterMembers rest)
  | depth + 1, .sign "(" :: ps =>
    let (vs, hasComma, rest) ← values? depth ")" ps.length ps
    match vs, hasComma with
    | [v], false => return (v, rest)
    | _, _ => return (tuple vs, rest)
  | depth + 1, .sign "\x7b" :: ps =>
    (do
      let (entries, rest) ← entries? depth ps.length ps
      return (dictionary entries, rest)) <|>
    (do
      let (vs, _, rest) ← values? depth "\x7d" ps.length ps
      return (set vs, rest))
  | _, _ => none
termination_by (depth, 0)

/-- The values up to a closing bracket, whether there is a comma among them, and the pieces after
the bracket.  `count` bounds their number. -/
def values? (depth : Nat) (close : String) (count : Nat) (ps : List Piece) :
    Option (List Literal × Bool × List Piece) := do
  match count, ps with
  | 0, _ | _, [] => none
  | count + 1, p :: rest =>
    if p.isSign close then return ([], false, rest)
    else
      let (v, rest) ← value? depth (p :: rest)
      match rest with
      | q :: rest =>
        if q.isSign close then return ([v], false, rest)
        else if q.isSign "," then
          let (vs, _, rest) ← values? depth close count rest
          return (v :: vs, true, rest)
        else none
      | [] => none
termination_by (depth, 3 + count)

/-- The entries of a dictionary up to its closing bracket, and the pieces after it. -/
def entries? (depth : Nat) (count : Nat) (ps : List Piece) :
    Option (List (Option Literal × Literal) × List Piece) := do
  match count, ps with
  | 0, _ | _, [] => none
  | count + 1, p :: rest =>
    if p.isSign "\x7d" then return ([], rest)
    else
      let (entry, rest) ←
        if p.isSign "**" then do
          let (v, rest) ← value? depth rest
          pure ((none, v), rest)
        else do
          let (key, rest) ← value? depth (p :: rest)
          match rest with
          | .sign ":" :: rest =>
            let (v, rest) ← value? depth rest
            pure ((some key, v), rest)
          | _ => none
      match rest with
      | .sign "\x7d" :: rest => return ([entry], rest)
      | .sign "," :: rest =>
        let (entries, rest) ← entries? depth count rest
        return (entry :: entries, rest)
      | _ => none
termination_by (depth, 3 + count)

end

/-- The value that some pieces write; several values without brackets are a tuple. -/
def ofPieces? (ps : List Piece) : Option Literal := do
  let (vs, hasComma, rest) ← values? (ps.length + 1) ")" (ps.length + 1) (ps ++ [.sign ")"])
  match vs, hasComma, rest with
  | [], _, _ => none
  | [v], false, [] => some v
  | vs, _, [] => some (tuple vs)
  | _, _, _ => none

end Literal

end Calculator.Terminal.Action
