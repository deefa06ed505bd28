import Calculator.Terminal.Action.Piece

/-!
# Faults of an argument

Where the pieces of an argument stop making sense, and how that is reported.  Pieces are followed
from the left: operands and operators take turns, and brackets are closed in the order in which they
were opened.

## Main definitions

* `State`, `State.step?`: what is expected after some pieces
* `fault pieces`: the message about pieces that write no value
-/

namespace Calculator.Terminal.Action

/-- What an open bracket is for. -/
inductive BracketKind where
  /-- A bracket around values. -/
  | group
  /-- A bracket around the arguments of a call. -/
  | call
  /-- A bracket around the members of a set or the entries of a dictionary. -/
  | brace
deriving DecidableEq, Repr

/-- What is open: a bracket, a choice that waits for its other side, or a second expression that
follows another one without anything between them. -/
inductive Frame where
  /-- A choice. -/
  | choice
  /-- A second expression. -/
  | second
  /-- A bracket: its kind, whether there is a comma in it, whether a value is due after the key of
  an entry or was given, and the pieces from the beginning of the expression around it. -/
  | bracket (kind : BracketKind) (hasComma : Bool) (inEntry : Option Bool) (outer : List Piece)

/-- Whether a second expression is open. -/
def Frame.isSecond : Frame → Bool
  | .second => true
  | _ => false

/-- What is expected next. -/
inductive Expected where
  /-- An expression, or the end of what is open. -/
  | first
  /-- An expression. -/
  | expression
  /-- An operand of an arithmetical operator. -/
  | operand
  /-- An operator, or the end of what is open. -/
  | operator
  /-- The name of a member. -/
  | member
  /-- The second word of an operator of two words. -/
  | membership
deriving DecidableEq, Repr

/-- What is open and expected after some pieces. -/
structure State where
  /-- What is open, the innermost first. -/
  frames : List Frame
  /-- What is expected. -/
  expected : Expected
  /-- The pieces from the beginning of the innermost expression. -/
  start : List Piece

/-- The operators whose sides are operands. -/
def operators : List String :=
  ["+", "-", "*", "/", "//", "%", "@", "&", "|", "^", "<<", ">>", "**", "<", ">", "<=", ">=", "==",
   "!="]

/-- Whether a piece begins an operand. -/
def beginsOperand : Piece → Bool
  | .number _ | .quoted _ => true
  | .name word => !keywords.contains word
  | .sign text => ["...", "(", "\x7b", "+", "-", "~"].contains text
  | .lineBreak => false

namespace State

/-- The state before the first piece. -/
def initial (ps : List Piece) : State := ⟨[], .first, ps⟩

/-- The innermost open bracket. -/
def bracket? (s : State) : Option BracketKind :=
  s.frames.findSome? fun
    | .choice | .second => none
    | .bracket kind _ _ _ => some kind

/-- The pieces of the innermost expression before some others. -/
def expressionBefore (s : State) (ps : List Piece) : List Piece :=
  s.start.take (s.start.length - ps.length)

/-- The state after an opening bracket. -/
def openBracket (s : State) (kind : BracketKind) (rest : List Piece) : State :=
  ⟨.bracket kind false none s.start :: s.frames, .first, rest⟩

/-- The state after a comma, which ends a choice or a second expression. -/
def comma? (s : State) (rest : List Piece) : Option State :=
  match s.frames with
  | [] => some ⟨[], .first, rest⟩
  | .choice :: _ | .second :: _ => none
  | .bracket kind _ inEntry outer :: frames =>
    if inEntry = some false then none
    else some ⟨.bracket kind true (inEntry.map fun _ => false) outer :: frames, .first, rest⟩

/-- The state after a closing bracket. -/
def close? (s : State) : Option State :=
  match s.frames with
  | .bracket _ _ _ outer :: frames => some ⟨frames, .operator, outer⟩
  | _ => none

/-- The state after a piece where an expression or operand is expected. -/
def stepOperand? (s : State) (p : Piece) (rest : List Piece) : Option State :=
  match p with
  | .number _ | .quoted _ => some { s with expected := .operator }
  | .name "not" =>
    if s.expected = .operand then none else some { s with expected := .expression }
  | .name word => if keywords.contains word then none else some { s with expected := .operator }
  | .sign "..." => some { s with expected := .operator }
  | .sign "+" | .sign "-" | .sign "~" => some { s with expected := .operand }
  | .sign "(" => some (s.openBracket .group rest)
  | .sign "\x7b" => some (s.openBracket .brace rest)
  | .sign ")" | .sign "\x7d" => if s.expected = .first then s.close? else none
  | .sign "*" =>
    if s.expected = .first ∧ s.bracket?.isSome then some { s with expected := .operand } else none
  | .sign "**" =>
    match s.expected, s.frames with
    | .first, .bracket .brace hasComma _ outer :: frames =>
      some { s with
        frames := .bracket .brace hasComma (some true) outer :: frames, expected := .operand }
    | .first, .bracket _ _ _ _ :: _ => some { s with expected := .operand }
    | _, _ => none
  | _ => none

/-- The state after a piece where an operator is expected. -/
def stepOperator? (s : State) (p : Piece) (rest : List Piece) : Option State :=
  let before := s.expressionBefore (p :: rest)
  let isSingleName : Bool :=
    match before with
    | [.name _] => true
    | _ => false
  let followsQuoted : Bool := before.getLast?.any fun | .quoted _ => true | _ => false
  match p, s.frames with
  | .quoted _, _ => if followsQuoted then some s else none
  | .name "and", _ | .name "or", _ | .name "is", _ => some { s with expected := .expression }
  | .name "in", _ | .name "for", _ => some { s with expected := .operand }
  | .name "not", _ => some { s with expected := .membership }
  | .name "if", frames => some { s with frames := .choice :: frames, expected := .expression }
  | .name "else", .choice :: frames => some ⟨frames, .expression, rest⟩
  | .sign ".", _ => some { s with expected := .member }
  | .sign "(", _ => some (s.openBracket .call rest)
  | .sign ",", _ => s.comma? rest
  | .sign ")", .bracket .group false _ _ :: _ =>
    match s.start with
    | .sign "*" :: _ | .sign "**" :: _ => none
    | _ => s.close?
  | .sign ")", _ => s.close?
  | .sign "\x7d", .bracket _ _ inEntry _ :: _ => if inEntry = some false then none else s.close?
  | .sign ":", .bracket .brace hasComma inEntry outer :: frames =>
    let isStarred : Bool := s.start.head?.any (·.isSign "*")
    if !isStarred ∧ (inEntry = some false ∨ (inEntry = none ∧ !hasComma)) then
      some ⟨.bracket .brace hasComma (some true) outer :: frames, .expression, rest⟩
    else none
  | .sign "=", .bracket .call _ _ _ :: _ =>
    if isSingleName then some { s with expected := .expression } else none
  | .sign ":=", .bracket _ _ _ _ :: _ =>
    if isSingleName then some { s with expected := .expression } else none
  | .sign text, _ => if operators.contains text then some { s with expected := .operand } else none
  | _, _ => none

/-- The state after a piece, if it makes sense. -/
def step? (s : State) (p : Piece) (rest : List Piece) : Option State :=
  match s.expected with
  | .operator => s.stepOperator? p rest
  | .member =>
    match p with
    | .name word => if keywords.contains word then none else some { s with expected := .operator }
    | _ => none
  | .membership => if p = .name "in" then some { s with expected := .operand } else none
  | _ => s.stepOperand? p rest

/-- The state after the pieces that make sense, and the pieces from the first one that does not. -/
def follow (s : State) : List Piece → State × List Piece
  | [] => (s, [])
  | p :: rest =>
    match s.step? p rest with
    | some s => s.follow rest
    | none => (s, p :: rest)

end State

/-- The message about pieces without any better explanation. -/
def plainFault : String := "invalid syntax"

/-- The message about two expressions with nothing between them. -/
def missingComma : String := "invalid syntax. Perhaps you forgot a comma?"

/-- The message about an entry without a value. -/
def keyAlone : String := "':' expected after dictionary key"

/-- The message about an expression that is well formed but writes no value. -/
def noValue : String := "malformed node or string on line 1"

/-- The message about the end of the pieces in a state; `stop` is what ended them. -/
def faultAtEnd (stop : Option String) (s : State) (isEmpty : Bool) : String :=
  match stop, s.bracket? with
  | some message, _ => message
  | none, some kind =>
    "'" ++ (if kind = .brace then "\x7b" else "(") ++ "' was never closed"
  | none, none =>
    match s.expected, s.frames with
    | .operator, .choice :: _ => "expected 'else' after 'if' expression"
    | .operator, .second :: _ => plainFault
    | .operator, _ => noValue
    | .first, _ => if isEmpty then plainFault else noValue
    | _, _ => plainFault

/-- The message about an equals sign in an expression, of which `before` is what stands before the
sign. -/
def assignmentFault (s : State) (before : List Piece) : String :=
  match s.frames with
  | .bracket .call _ _ _ :: _ =>
    if before.contains (.sign "=") then plainFault
    else "expression cannot contain assignment, perhaps you meant \"==\"?"
  | .bracket _ _ none _ :: _ =>
    let hint := " here. Maybe you meant '==' instead of '='?"
    match before with
    | [.name word] =>
      if constants.contains word then plainFault
      else "invalid syntax. Maybe you meant '==' or ':=' instead of '='?"
    | [.number _] | [.quoted _] => "cannot assign to literal" ++ hint
    | [.name _, .sign ".", .name _] => "cannot assign to attribute" ++ hint
    | _ => plainFault
  | _ => plainFault

/-- Whether a piece begins an expression where an operator is expected. -/
def beginsSecond (s : State) (p : Piece) : Bool :=
  beginsOperand p || p = .name "not" || s.expected = .membership

/-- Whether the innermost expression looks like a command or a marked text. -/
def looksSpecial (s : State) : Bool :=
  match s.start with
  | .name word :: .quoted _ :: _ => !constants.contains word
  | .name word :: _ => ["_", "case", "match"].contains word
  | _ => false

/-- The message about a piece that makes no sense after an expression. -/
def faultAfterExpression (s : State) (p : Piece) (rest : List Piece) : String :=
  let before := s.expressionBefore (p :: rest)
  match s.frames, before, p with
  | .choice :: _, _, _ =>
    if p.isSign ":" then plainFault else "expected 'else' after 'if' expression"
  | .bracket .brace _ (some false) _ :: _, before, _ =>
    if before.head?.any (·.isSign "*") then plainFault else keyAlone
  | .bracket .brace _ (some true) _ :: frames, _, _ =>
    if frames.any (·.isSecond) || looksSpecial s || !beginsSecond s p then plainFault
    else missingComma
  | _, [.name "print"], _ | _, [.name "exec"], _ =>
    let word := if before = [.name "print"] then "print" else "exec"
    if beginsOperand p then
      "Missing parentheses in call to '" ++ word ++ "'. Did you mean " ++ word ++ "(...)?"
    else plainFault
  | _, _, .sign "=" => assignmentFault s before
  | .bracket .group false _ _ :: _, .sign "*" :: _, .sign ")" =>
    "cannot use starred expression here"
  | .bracket .group false _ _ :: _, .sign "**" :: _, .sign ")" =>
    "cannot use double starred expression here"
  | _, _, _ =>
    if s.bracket?.isSome && beginsSecond s p && !looksSpecial s then missingComma else plainFault

/-- The message about the first piece that makes no sense. -/
def faultAt (s : State) (p : Piece) (rest : List Piece) : String :=
  let before := s.expressionBefore (p :: rest)
  match s.expected, s.frames with
  | .operator, _ | .membership, _ => faultAfterExpression s p rest
  | .expression, .bracket .brace _ (some true) _ :: _ =>
    if before ≠ [] then plainFault
    else if p.isSign "\x7d" ∨ p.isSign "," then
      "expression expected after dictionary key and ':'"
    else if p.isSign "*" ∧ rest.head?.any beginsOperand then
      "cannot use a starred expression in a dictionary value"
    else plainFault
  | .operand, .bracket .brace _ (some false) _ :: _
  | .member, .bracket .brace _ (some false) _ :: _ =>
    if 2 ≤ before.length then keyAlone else plainFault
  | .operand, _ =>
    if before = [.sign "*"] ∧ s.bracket?.isSome then "Invalid star expression" else plainFault
  | _, _ => plainFault

/-- What is looked at before a piece that makes no sense after an expression is explained: what
follows an equals sign, or a second expression.  After a choice that waits for its other side and
after the key of an entry only a brace is looked at, and so it is after what looks special unless
that is a single name, `isName`. -/
def lookedAt? (s : State) (isName : Bool) (p : Piece) (rest : List Piece) : Option (List Piece) :=
  match s.frames, p with
  | .bracket .call _ _ _ :: _, .sign "=" => none
  | .bracket _ _ none _ :: _, .sign "=" => some rest
  | _, .sign "=" => none
  | _, .sign "\x7b" => some (p :: rest)
  | .choice :: _, _ | .bracket .brace _ (some false) _ :: _, _ => none
  | _, _ => if beginsSecond s p && (isName || !looksSpecial s) then some (p :: rest) else none

/-- The message about pieces in a state.  What is looked at comes first: it may go on to the end, or
have a fault of its own if it is in braces or after a name.  `count` bounds the number of looks. -/
def faultFrom (count : Nat) (stop : Option String) (s : State) (ps : List Piece) : String :=
  let (s, rest) := s.follow ps
  match rest with
  | [] => faultAtEnd stop s (ps = [])
  | p :: more =>
    if s.expected ≠ .operator ∧ s.expected ≠ .membership then faultAt s p more
    else
      let isName : Bool :=
        match s.expressionBefore rest with
        | [.name word] => !constants.contains word
        | _ => false
      match count, lookedAt? s isName p more with
      | count + 1, some ahead =>
        let second : State := ⟨.second :: s.frames, .expression, ahead⟩
        let (t, rest) := second.follow ahead
        let isWhole : Bool :=
          t.expected = .operator && t.frames.length = second.frames.length
        let message := faultAt s p more
        if rest = [] ∧ (stop.isSome ∨ s.bracket?.isSome ∨ !isWhole) then faultAtEnd stop t false
        else if isWhole ∧ message ≠ plainFault then message
        else if isName ∨ p.isSign "\x7b" then faultFrom count stop second ahead
        else plainFault
      | _, _ => faultAt s p more

/-- The message about pieces that write no value. -/
def fault (ps : Pieces) : String :=
  faultFrom ps.pieces.length ps.stop (.initial ps.pieces) ps.pieces

end Calculator.Terminal.Action
