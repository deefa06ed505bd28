import Calculator.Text.Numeric
import Calculator.Text.Printable
import Calculator.Text.Quoted

/-!
# Pieces of an argument

The argument of an action is cut into names, numbers, quoted texts and signs before it is read.

## Main definitions

* `Piece`: a piece of an argument
* `Pieces.ofText text`: the pieces of a text, or what keeps it from being cut into pieces
-/

namespace Calculator.Terminal.Action

open Text

/-- A piece of an argument. -/
inductive Piece where
  /-- A number, and whether it is an imaginary one. -/
  | number (imaginary : Bool)
  /-- A quoted text; one with places to fill in has no value of its own. -/
  | quoted (hasPlaces : Bool)
  /-- A name. -/
  | name (word : String)
  /-- A sign or bracket. -/
  | sign (text : String)
  /-- A line break outside all brackets. -/
  | lineBreak
deriving DecidableEq, Repr

/-- Whether a piece is a given sign. -/
def Piece.isSign (p : Piece) (text : String) : Bool := p = .sign text

/-- The names of constants. -/
def constants : List String := ["True", "False", "None"]

/-- The names that stand for no value. -/
def keywords : List String :=
  ["and", "as", "assert", "async", "await", "break", "class", "continue", "def", "del", "elif",
   "else", "except", "finally", "for", "from", "global", "if", "import", "in", "is", "lambda",
   "nonlocal", "not", "or", "pass", "raise", "return", "try", "while", "with", "yield"]

/-- Whether a character may stand in a name. -/
def isNameChar (c : Char) : Bool :=
  c.isAlphanum || c = '_' || 128 ≤ c.toNat

/-- The number of a character in hexadecimal digits, four at least. -/
def codeText (c : Char) : String :=
  let digits := (Nat.toDigits 16 c.toNat).map Char.toUpper
  String.ofList (List.replicate (4 - digits.length) '0' ++ digits)

/-- The message about a character that has no meaning. -/
def strangeCharacter (c : Char) : String :=
  if isPrintable c.toNat then
    "invalid character '" ++ String.singleton c ++ "' (U+" ++ codeText c ++ ")"
  else "invalid non-printable character U+" ++ codeText c

/-- A character of a name that may not stand at its place. -/
def strangeInName? : List Char → Option Char
  | [] => none
  | c :: cs =>
    if 128 ≤ c.toNat && !isLetter c then some c
    else cs.find? fun c => 128 ≤ c.toNat && !isAlphanumeric c

/-! ## Numbers -/

/-- Whether underscores stand between digits only. -/
def groupsWell : List Char → Bool
  | [] => true
  | ['_'] => false
  | '_' :: '_' :: _ => false
  | _ :: cs => groupsWell cs

/-- The words that may follow a number without a space. -/
def wordsAfterNumber : List String := ["and", "else", "for", "if", "in", "is", "or", "not"]

/-- What follows a number, unless it would run into a name. -/
def numberEnd (kind : String) (rest : List Char) : Except String (List Char) :=
  if wordsAfterNumber.any fun word => word.toList.isPrefixOf rest then .ok rest
  else if rest.head?.any isNameChar then .error ("invalid " ++ kind ++ " literal")
  else .ok rest

/-- The digits at the beginning of a text, with underscores between them, and what follows. -/
def digitRun (isDigit : Char → Bool) (cs : List Char) : List Char × List Char :=
  cs.span fun c => isDigit c || c = '_'

/-- What follows the digits at the beginning of a text. -/
def decimalRun (cs : List Char) : Except String (List Char) :=
  let (digits, rest) := digitRun Char.isDigit cs
  if groupsWell digits then .ok rest else .error "invalid decimal literal"

/-- What follows the digits of a number in another base than ten. -/
def basedEnd (kind : String) (isDigit : Char → Bool) (cs : List Char) :
    Except String (List Char) :=
  let (digits, rest) := digitRun isDigit cs
  let bad := "invalid " ++ kind ++ " literal"
  let doubled := !groupsWell (digits ++ ['0'])
  match rest.head?.filter Char.isDigit with
  | some c =>
    .error (if doubled then bad
      else "invalid digit '" ++ String.singleton c ++ "' in " ++ kind ++ " literal")
  | none => if digits = [] ∨ !groupsWell digits then .error bad else numberEnd kind rest

/-- What follows a number whose digits before the exponent are read: the exponent, the letter of an
imaginary number, or nothing. -/
def exponentEnd (rest : List Char) : Except String (Bool × List Char) := do
  let imaginaryEnd (rest : List Char) : Except String (Bool × List Char) :=
    match rest with
    | c :: more =>
      if c = 'j' ∨ c = 'J' then (numberEnd "imaginary" more).map (true, ·)
      else (numberEnd "decimal" rest).map (false, ·)
    | [] => .ok (false, [])
  match rest with
  | c :: more =>
    if c = 'e' ∨ c = 'E' then
      match more with
      | '+' :: d :: _ | '-' :: d :: _ =>
        if d.isDigit then imaginaryEnd (← decimalRun more.tail)
        else throw "invalid decimal literal"
      | d :: _ =>
        if d.isDigit then imaginaryEnd (← decimalRun more)
        else if d = '+' ∨ d = '-' then throw "invalid decimal literal"
        else return (false, ← numberEnd "decimal" rest)
      | [] => return (false, ← numberEnd "decimal" rest)
    else imaginaryEnd rest
  | [] => return (false, [])

/-- What follows a number after its point. -/
def fractionEnd (cs : List Char) : Except String (Bool × List Char) := do
  if cs.head?.any Char.isDigit then exponentEnd (← decimalRun cs) else exponentEnd cs

/-- Whether a number is imaginary, and what follows it. -/
def numberAt (cs : List Char) : Except String (Bool × List Char) := do
  let based (kind : String) (isDigit : Char → Bool) (rest : List Char) :
      Except String (Bool × List Char) := (basedEnd kind isDigit rest).map (false, ·)
  let isHex (c : Char) : Bool := c.isDigit || ('a' ≤ c.toLower && c.toLower ≤ 'f')
  match cs with
  | '0' :: 'x' :: rest | '0' :: 'X' :: rest => based "hexadecimal" isHex rest
  | '0' :: 'o' :: rest | '0' :: 'O' :: rest =>
    based "octal" (fun c => '0' ≤ c && c < '8') rest
  | '0' :: 'b' :: rest | '0' :: 'B' :: rest => based "binary" (fun c => c = '0' || c = '1') rest
  | '.' :: rest => fractionEnd rest
  | _ =>
    let rest ← decimalRun cs
    let digits := cs.take (cs.length - rest.length)
    match rest with
    | '.' :: rest => fractionEnd rest
    | _ =>
      let goesOn := rest.head?.any fun c => ['e', 'E', 'j', 'J'].contains c
      if digits.head? = some '0' && digits.any (fun c => c ≠ '0' && c ≠ '_') && !goesOn then
        throw ("leading zeros in decimal integer literals are not permitted; " ++
          "use an 0o prefix for octal integers")
      exponentEnd rest

/-! ## Quoted texts -/

/-- What follows a quoted text of one line, after its opening quote. -/
def quotedEnd? (quote : Char) : List Char → Option (List Char)
  | [] => none
  | '\\' :: _ :: cs => quotedEnd? quote cs
  | c :: cs =>
    if c = quote then some cs else if c = '\n' then none else quotedEnd? quote cs

/-- What follows a quoted text of several lines, after its three opening quotes. -/
def longQuotedEnd? (quote : Char) : List Char → Option (List Char)
  | [] => none
  | '\\' :: _ :: cs => longQuotedEnd? quote cs
  | c :: cs =>
    if c = quote ∧ cs.take 2 = [quote, quote] then some (cs.drop 2) else longQuotedEnd? quote cs

/-- The number of line breaks in a text. -/
def lineBreaks (cs : List Char) : Nat := cs.count '\n'

/-- What follows a quoted text, after its first quote; `line` is the number of its line. -/
def quotedAt (line : Nat) (quote : Char) (cs : List Char) : Except String (List Char) :=
  let detected (n : Nat) : String := " (detected at line " ++ toString n ++ ")"
  if cs.take 2 = [quote, quote] then
    match longQuotedEnd? quote (cs.drop 2) with
    | some rest => .ok rest
    | none =>
      .error ("unterminated triple-quoted string literal" ++ detected (line + lineBreaks cs))
  else
    match quotedEnd? quote cs with
    | some rest => .ok rest
    | none => .error ("unterminated string literal" ++ detected line)

/-- The letters that may stand before a quoted text. -/
def quoteMarks : List String := ["", "b", "u", "r", "f", "br", "rb", "fr", "rf"]

/-- The marks and the quote of a quoted text at the beginning of a text. -/
def quoteAt? (cs : List Char) : Option (List Char × Char) :=
  let marks := (cs.take 2).takeWhile Char.isAlpha
  match (cs.drop marks.length).head? with
  | some c =>
    if (c = '\'' ∨ c = '"') ∧ quoteMarks.contains (String.ofList (marks.map Char.toLower)) then
      some (marks, c)
    else none
  | none => none

/-! ## All pieces -/

/-- The signs, the longer ones first. -/
def signs : List String :=
  ["**=", "//=", ">>=", "<<=", "...", "!=", "==", "<=", ">=", "->", "+=", "-=", "*=", "/=", "%=",
   "&=", "|=", "^=", "@=", ":=", "**", "//", "<<", ">>", "<>"]

/-- The bracket that closes what a bracket opens. -/
def closing (bracket : Char) : Char := if bracket = '(' then ')' else '}'

/-- An open bracket and the number of its line. -/
abbrev OpenBracket := Char × Nat

/-- The brackets that are open after a closing one. -/
def closeBracket (line : Nat) (c : Char) : List OpenBracket → Except String (List OpenBracket)
  | [] => .error ("unmatched '" ++ String.singleton c ++ "'")
  | (bracket, opened) :: brackets =>
    if closing bracket = c then .ok brackets
    else .error ("closing parenthesis '" ++ String.singleton c ++
      "' does not match opening parenthesis '" ++ String.singleton bracket ++ "'" ++
      if opened = line then "" else " on line " ++ toString opened)

/-- The pieces of a text, and what ends them before its end: a message that counts only if all
pieces before it can be read. -/
structure Pieces where
  /-- The pieces. -/
  pieces : List Piece
  /-- What ends them. -/
  stop : Option String

/-- The pieces with one in front. -/
def Pieces.cons (p : Piece) (ps : Pieces) : Pieces := { ps with pieces := p :: ps.pieces }

/-- The pieces of the rest of a text, from its line with the number `line`, some brackets being
open. -/
def piecesFrom (line : Nat) (brackets : List OpenBracket) : List Char → Except String Pieces
  | [] => .ok ⟨[], none⟩
  | c :: cs =>
    let after (rest : List Char) : List Char := cs.drop (cs.length - rest.length)
    if c = ' ' ∨ c = '\t' ∨ c = '\x0c' then piecesFrom line brackets cs
    else if c = '\n' then
      if brackets = [] then (piecesFrom (line + 1) brackets cs).map (·.cons .lineBreak)
      else piecesFrom (line + 1) brackets cs
    else if c = '#' then piecesFrom line brackets (after (cs.dropWhile (· ≠ '\n')))
    else if c = '\\' then
      match cs with
      | '\n' :: cs => piecesFrom (line + 1) brackets cs
      | _ => .ok ⟨[], some "unexpected character after line continuation character"⟩
    else
      match quoteAt? (c :: cs) with
      | some (marks, quote) =>
        match quotedAt line quote (cs.drop marks.length) with
        | .error message => .error message
        | .ok rest =>
          let passed := lineBreaks (cs.take (cs.length - rest.length))
          let hasPlaces := marks.any fun mark => mark = 'f' || mark = 'F'
          (piecesFrom (line + passed) brackets (after rest)).map (·.cons (.quoted hasPlaces))
      | none =>
        if c.isDigit ∨ (c = '.' ∧ cs.head?.any Char.isDigit) then
          match numberAt (c :: cs) with
          | .error message => .error message
          | .ok (imaginary, rest) =>
            (piecesFrom line brackets (after rest)).map (·.cons (.number imaginary))
        else if isNameChar c then
          let word := c :: cs.takeWhile isNameChar
          match strangeInName? word with
          | some c => .error (strangeCharacter c)
          | none =>
            (piecesFrom line brackets (after (cs.dropWhile isNameChar))).map
              (·.cons (.name (String.ofList word)))
        else if c = '(' ∨ c = '{' then
          (piecesFrom line ((c, line) :: brackets) cs).map (·.cons (.sign (String.singleton c)))
        else if c = ')' ∨ c = '}' then
          match closeBracket line c brackets with
          | .error message => .error message
          | .ok brackets =>
            (piecesFrom line brackets cs).map (·.cons (.sign (String.singleton c)))
        else if !isPrintable c.toNat then .error (strangeCharacter c)
        else
          match signs.find? fun sign => sign.toList.isPrefixOf (c :: cs) with
          | some sign =>
            (piecesFrom line brackets (cs.drop (sign.length - 1))).map (·.cons (.sign sign))
          | none => (piecesFrom line brackets cs).map (·.cons (.sign (String.singleton c)))
termination_by cs => cs.length
decreasing_by
  all_goals (simp only [List.length_drop, List.length_cons]; omega)

/-- The pieces of a text. -/
def Pieces.ofText (text : List Char) : Except String Pieces :=
  piecesFrom 1 [] text

end Calculator.Terminal.Action
