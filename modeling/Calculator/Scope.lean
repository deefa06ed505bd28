import Calculator.Lexeme
import Calculator.Reduction

/-!
# Bracket scopes

A scope is what stands between a bracket and its partner, or the whole input.  Scopes are read
lexeme by lexeme with a stack of those that are still open; when a bracket closes, the tokens of its
scope become one expression, and that a token of the scope around it.

## Main definitions

* `ParserConfig`: what an empty input means
* `Scope`, `Scope.readLexemes`: the open scopes, and the tokens of the outermost one
* `Scope.close`: the expression that the tokens of a scope make
* `Scope.tokens`, `Scope.parse`: the tokens and the expression of the scope at a cursor
-/

namespace Calculator

/-- What an empty input means. -/
structure ParserConfig where
  /-- Whether an empty input stands for a number. -/
  allowEmpty : Bool := true
  /-- The number that an empty input stands for. -/
  emptyValue : Float := 0
deriving DecidableEq

/-- A scope that is still open. -/
structure Scope where
  /-- The offset after the bracket that opened it; the whole input has none. -/
  openedAt : Option Int
  /-- The tokens read so far, the latest first. -/
  read : List Token
deriving DecidableEq

namespace Scope

/-- The scope with one more token. -/
def push (s : Scope) (t : Token) : Scope :=
  { s with read := t :: s.read }

/-- The expression of a scope.  An empty pair of brackets is an error; an empty input is one too
unless the configuration gives it a value. -/
def close (config : ParserConfig) (openedAt : Option Int) (offset : Int) (tokens : List Token) :
    Except Fault Expr := do
  match ← reduceAll tokens with
  | [.expression tree _] => return tree
  | _ :: second :: more =>
    throw ⟨.surplusExpression, ((second :: more).getLast (List.cons_ne_nil _ _)).offset⟩
  | _ =>
    match openedAt with
    | some opened => throw ⟨.emptyBrackets, opened⟩
    | none =>
      if config.allowEmpty then return .value config.emptyValue
      else throw ⟨.emptyExpression, offset⟩

/-- Reads lexemes into the scope `current`, with the scopes around it the innermost first, until the
outermost of them is closed.  The outcome is its tokens or the first fault, with the offset that
was reached; `ending` is the offset at which the lexemes end. -/
def readLexemes (ending : Int) (current : Scope) (around : List Scope) :
    List Located → Except Fault (List Token) × Int
  | [] =>
    match current.openedAt with
    | some opened => (.error ⟨.missingClosing, opened⟩, ending)
    | none => (.ok current.read.reverse, ending)
  | ⟨.fault f, offset⟩ :: _ => (.error f, offset)
  | ⟨.number x, offset⟩ :: rest =>
    readLexemes ending (current.push (.expression (.value x) offset)) around rest
  | ⟨.identifier name, offset⟩ :: rest =>
    readLexemes ending (current.push (.expression (.var name) offset)) around rest
  | ⟨.operator op, offset⟩ :: rest =>
    readLexemes ending (current.push (.operator op offset)) around rest
  | ⟨.opening, offset⟩ :: rest =>
    readLexemes ending ⟨some offset, []⟩ (current :: around) rest
  | ⟨.closing, offset⟩ :: rest =>
    match current.openedAt, around with
    | none, _ => (.error ⟨.unmatchedClosing, offset⟩, offset)
    | some _, [] => (.ok current.read.reverse, offset)
    | some opened, outer :: around =>
      match close {} (some opened) offset current.read.reverse with
      | .error f => (.error f, offset)
      | .ok tree => readLexemes ending (outer.push (.expression tree offset)) around rest

/-- The tokens of the scope that begins at a cursor, and the offset after it: a bracket scope opened
at a given offset, or the whole rest of the input. -/
def tokens (c : Cursor) (openedAt : Option Int) : Except Fault (List Token) × Int :=
  readLexemes (c.offset + c.rest.length) ⟨openedAt, []⟩ [] (lexemes c.offset c.rest)

/-- The expression of the scope that begins at a cursor, and the offset after it. -/
def parse (config : ParserConfig) (c : Cursor) (openedAt : Option Int) :
    Except Fault Expr × Int :=
  match tokens c openedAt with
  | (.error f, offset) => (.error f, offset)
  | (.ok tokens, offset) => (close config openedAt offset tokens, offset)

end Scope

end Calculator
