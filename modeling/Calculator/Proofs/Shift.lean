import Calculator.Parse
import Calculator.Proofs.Lexemes
import Calculator.Proofs.Scope

/-!
# Reading from another place

Offsets are counted, never compared with the text.  So a text that is read from a later place is
read as what is visible from there, with every offset moved by the same distance.

## Main definitions

* `Token.shift`, `Fault.shift`, `Located.shift`, `Scope.shift`: the same with offsets moved

## Main results

* `lexemes_add`, `reduceAll_shift`, `Scope.close_shift`, `Scope.parse_shift`: every stage of the
  parser commutes with moving the offsets
* `Expr.parseCursor_eq`: the expression from any cursor
-/

namespace Calculator

variable {d : Int}

/-! ## Moved offsets -/

/-- The token with its offset moved. -/
def Token.shift (d : Int) : Token → Token
  | expression tree offset => expression tree (offset + d)
  | operator op offset => operator op (offset + d)

/-- The cause with the offsets of the tokens that it quotes moved. -/
def Cause.shift (d : Int) : Cause → Cause
  | invalidOperands op left right => invalidOperands op (left.shift d) (right.shift d)
  | cause => cause

/-- The fault with its offset moved. -/
def Fault.shift (d : Int) (f : Fault) : Fault :=
  ⟨f.cause.shift d, f.offset + d⟩

/-- The lexeme with its fault moved, if it is one. -/
def Lexeme.shift (d : Int) : Lexeme → Lexeme
  | fault f => fault (f.shift d)
  | l => l

/-- The lexeme with the offset at which it ends moved. -/
def Located.shift (d : Int) (x : Located) : Located :=
  ⟨x.lexeme.shift d, x.offset + d⟩

/-- The scope with its bracket and its tokens moved. -/
def Scope.shift (d : Int) (s : Scope) : Scope :=
  ⟨s.openedAt.map (· + d), s.read.map (Token.shift d)⟩

@[simp] theorem Token.offset_shift (t : Token) : (t.shift d).offset = t.offset + d := by
  cases t <;> rfl

@[simp] theorem Token.isExpression_shift (t : Token) :
    (t.shift d).isExpression = t.isExpression := by
  cases t <;> rfl

@[simp] theorem Token.text_shift (t : Token) : (t.shift d).text = t.text := by
  cases t <;> simp only [shift, text]

/-- The wording of a cause quotes no offsets. -/
@[simp] theorem Cause.message_shift (c : Cause) : (c.shift d).message = c.message := by
  cases c with
  | invalidOperands op left right =>
    unfold message
    simp only [shift, Token.text_shift]
  | _ => simp only [shift]

/-- Tokens, or the fault in their place, with offsets moved. -/
def shiftTokens (d : Int) : Except Fault (List Token) → Except Fault (List Token)
  | .ok ts => .ok (ts.map (Token.shift d))
  | .error f => .error (f.shift d)

/-! ## Lexemes -/

section Lexemes

variable {offset : Int} {rest seg cs : List Char} {x : Located} {located : List Located}

theorem Forms.shift (h : Forms rest seg x) (d : Int) : Forms rest seg (x.shift d) := by
  cases h with
  | lexeme hl hend o =>
    cases hl with
    | number hraw => exact .lexeme (.number hraw) hend (o + d)
    | identifier hc hcs => exact .lexeme (.identifier hc hcs) hend (o + d)
    | operator op => exact .lexeme (.operator op) hend (o + d)
    | opening => exact .lexeme .opening hend (o + d)
    | closing => exact .lexeme .closing hend (o + d)
  | invalid hc o => exact .invalid hc (o + d)
  | secondPoint hne hds hfs o => exact .secondPoint hne hds hfs (o + d)

theorem Scans.shift (h : Scans offset cs located) (d : Int) :
    Scans (offset + d) cs (located.map (Located.shift d)) := by
  induction h with
  | nil offset => exact .nil _
  | space hc h ih =>
    refine .space hc ?_
    rwa [Int.add_right_comm]
  | @item offset seg rest x located hx hoffset h ih =>
    refine .item (hx.shift d) ?_ ih
    rw [Located.shift, hoffset]
    exact Int.add_right_comm _ _ _

theorem lexemes_add (offset d : Int) (cs : List Char) :
    lexemes (offset + d) cs = (lexemes offset cs).map (Located.shift d) :=
  ((scans_lexemes offset cs).shift d).eq_lexemes.symm

end Lexemes

/-! ## Tokens -/

section Tokens

theorem shiftTokens_append (us : List Token) (x : Except Fault (List Token)) :
    shiftTokens d ((us ++ ·) <$> x) = (us.map (Token.shift d) ++ ·) <$> shiftTokens d x := by
  rcases x with f | ts
  · rfl
  · exact congrArg Except.ok (List.map_append ..)

theorem flanked_shift (before : Option Token) (rest : List Token) :
    flanked (before.map (Token.shift d)) (rest.map (Token.shift d)) = flanked before rest := by
  apply flanked_congr <;> simp [Function.comp_def]

theorem operandCause_shift (before : Option Token) (op : Operator) (rest : List Token) :
    operandCause (before.map (Token.shift d)) op (rest.map (Token.shift d)) =
      (operandCause before op rest).shift d := by
  rcases before with _ | left <;> rcases rest with _ | ⟨right, rest⟩ <;> rfl

theorem joinAfter_shift (tier : Tier) (before : Option Token) (rest : List Token) (d : Int) :
    joinAfter tier (before.map (Token.shift d)) (rest.map (Token.shift d)) =
      shiftTokens d (joinAfter tier before rest) := by
  fun_induction joinAfter tier before rest with
  | case1 before => cases before <;> rfl
  | case2 before tree offset rest ih =>
    rw [shiftTokens_append, ← ih, List.map_cons, Token.shift, joinAfter_expression]
    cases before <;> rfl
  | case3 op offset hop left o right o' rest ih =>
    rw [← ih]
    exact joinAfter_of_tier_eq hop left right _ _ _
  | case4 before op offset rest hop h =>
    have hflanked : flanked before rest = false := flanked_eq_false h
    rw [List.map_cons, Token.shift, joinAfter_of_not_flanked hop (by rw [flanked_shift, hflanked]),
      operandCause_shift]
    rfl
  | case5 before op offset rest hop ih =>
    rw [shiftTokens_append, ← ih, List.map_cons, Token.shift, joinAfter_of_tier_ne hop]
    cases before <;> rfl

theorem reduceTier_shift (tier : Tier) (ts : List Token) (d : Int) :
    reduceTier tier (ts.map (Token.shift d)) = shiftTokens d (reduceTier tier ts) := by
  rw [reduceTier_eq_joinAfter, reduceTier_eq_joinAfter]
  exact joinAfter_shift tier none ts d

theorem shiftTokens_bind (x : Except Fault (List Token))
    {k : List Token → Except Fault (List Token)}
    (hk : ∀ ts, k (ts.map (Token.shift d)) = shiftTokens d (k ts)) :
    shiftTokens d x >>= k = shiftTokens d (x >>= k) := by
  rcases x with f | ts
  · rfl
  · exact hk ts

theorem reduceAll_shift (ts : List Token) (d : Int) :
    reduceAll (ts.map (Token.shift d)) = shiftTokens d (reduceAll ts) := by
  unfold reduceAll
  rw [reduceTier_shift, shiftTokens_bind]
  intro us
  rw [reduceTier_shift, shiftTokens_bind]
  intro vs
  exact reduceTier_shift .sum vs d

end Tokens

/-! ## Scopes -/

namespace Scope

/-- What a scope makes of its tokens does not depend on where it stands. -/
theorem close_shift (config : ParserConfig) (openedAt : Option Int) (offset : Int)
    (ts : List Token) (d : Int) :
    close config (openedAt.map (· + d)) (offset + d) (ts.map (Token.shift d)) =
      (close config openedAt offset ts).mapError (Fault.shift d) := by
  unfold close
  rw [reduceAll_shift]
  rcases reduceAll ts with f | out
  · rfl
  -- by what is left: a single expression, several tokens, or nothing to answer with
  rcases out with _ | ⟨⟨tree, o⟩ | ⟨op, o⟩, _ | ⟨u, more⟩⟩
  case ok.cons.expression.nil => rfl
  case ok.cons.expression.cons | ok.cons.operator.cons =>
    have hne : u :: more ≠ [] := List.cons_ne_nil _ _
    show Except.error
        (Fault.mk .surplusExpression (((u :: more).map (Token.shift d)).getLast _).offset) =
      Except.error (Fault.mk .surplusExpression (((u :: more).getLast hne).offset + d))
    rw [List.getLast_map, Token.offset_shift]
  case ok.nil | ok.cons.operator.nil =>
    obtain ⟨allowEmpty, emptyValue⟩ := config
    rcases openedAt with _ | opened
    · cases allowEmpty <;> rfl
    · rfl

/-- A bracket that closes is read as before: its scope, moved, is the same expression or fault. -/
theorem readLexemes_closing_shift (ending opened offset : Int) (read : List Token) (outer : Scope)
    (around : List Scope) (rest : List Located) (d : Int) :
    readLexemes (ending + d) (Scope.shift d ⟨some opened, read⟩)
        ((outer :: around).map (Scope.shift d))
        (Located.shift d ⟨.closing, offset⟩ :: rest.map (Located.shift d)) =
      match close {} (some opened) offset read.reverse with
      | .error f => (.error (f.shift d), offset + d)
      | .ok tree =>
        readLexemes (ending + d) ((outer.push (.expression tree offset)).shift d)
          (around.map (Scope.shift d)) (rest.map (Located.shift d)) := by
  have hclose : close {} (some (opened + d)) (offset + d) (read.map (Token.shift d)).reverse =
      (close {} (some opened) offset read.reverse).mapError (Fault.shift d) := by
    rw [← List.map_reverse]
    exact close_shift {} (some opened) offset read.reverse d
  refine (readLexemes_closing ..).trans ?_
  rw [hclose]
  rcases close {} (some opened) offset read.reverse with f | tree <;> rfl

theorem readLexemes_shift (ending : Int) (current : Scope) (around : List Scope)
    (ls : List Located) (d : Int) :
    readLexemes (ending + d) (current.shift d) (around.map (Scope.shift d))
        (ls.map (Located.shift d)) =
      (shiftTokens d (readLexemes ending current around ls).1,
        (readLexemes ending current around ls).2 + d) := by
  -- by the next lexeme; a closing bracket ends the reading or gives a token to the scope outside
  fun_induction readLexemes ending current around ls with
  | case1 current around opened hopened =>
    obtain ⟨openedAt, read⟩ := current
    obtain rfl : openedAt = some opened := hopened
    rfl
  | case2 current around hopened =>
    obtain ⟨openedAt, read⟩ := current
    obtain rfl : openedAt = none := hopened
    simp [readLexemes, shiftTokens, Scope.shift]
  | case3 current around f offset tail => rfl
  | case4 current around x offset rest ih | case5 current around x offset rest ih
  | case6 current around x offset rest ih | case7 current around offset rest ih =>
    exact ih
  | case8 current around offset rest hopened =>
    obtain ⟨openedAt, read⟩ := current
    obtain rfl : openedAt = none := hopened
    rfl
  | case9 current offset rest opened hopened =>
    obtain ⟨openedAt, read⟩ := current
    obtain rfl : openedAt = some opened := hopened
    show (Except.ok (read.map (Token.shift d)).reverse, offset + d) = _
    rw [← List.map_reverse]
    rfl
  | case10 current offset rest opened outer around hopened f hclose =>
    obtain ⟨openedAt, read⟩ := current
    obtain rfl : openedAt = some opened := hopened
    have hclosing := readLexemes_closing_shift ending opened offset read outer around rest d
    rwa [hclose] at hclosing
  | case11 current offset rest opened outer around hopened tree hclose ih =>
    obtain ⟨openedAt, read⟩ := current
    obtain rfl : openedAt = some opened := hopened
    have hclosing := readLexemes_closing_shift ending opened offset read outer around rest d
    rw [hclose] at hclosing
    exact hclosing.trans ih

/-- **A scope read from another offset**: the same expression, or the same fault moved with it. -/
theorem parse_shift (config : ParserConfig) (c : Cursor) (openedAt : Option Int) (d : Int) :
    parse config ⟨c.offset + d, c.rest⟩ (openedAt.map (· + d)) =
      ((parse config c openedAt).1.mapError (Fault.shift d), (parse config c openedAt).2 + d) := by
  have htokens : tokens ⟨c.offset + d, c.rest⟩ (openedAt.map (· + d)) =
      (shiftTokens d (tokens c openedAt).1, (tokens c openedAt).2 + d) := by
    rw [tokens, tokens, ← readLexemes_shift, lexemes_add, Int.add_right_comm]
    rfl
  unfold parse
  rw [htokens]
  rcases tokens c openedAt with ⟨f | ts, offset⟩
  · rfl
  · exact Prod.ext (close_shift config openedAt offset ts d) rfl

end Scope

/-! ## Texts -/

namespace Expr

/-- The characters ahead of a cursor are read as a text of their own. -/
theorem parseCursor_eq (config : ParserConfig) (text : String) (c : Cursor) :
    parseCursor config text c =
      (parse config (String.ofList c.rest)).mapError fun e =>
        ⟨e.cause.shift c.offset, ⟨text, e.position.offset + c.offset⟩⟩ := by
  have hbeginning : Cursor.ofStart (String.ofList c.rest) 0 = ⟨0, c.rest⟩ := by
    simp [Cursor.ofStart]
  have hshift : (Scope.parse config c none).1 =
      (Scope.parse config ⟨0, c.rest⟩ none).1.mapError (Fault.shift c.offset) := by
    have hparse := Scope.parse_shift config ⟨0, c.rest⟩ none c.offset
    rw [Int.zero_add] at hparse
    exact congrArg Prod.fst hparse
  rw [parse, parseAt, hbeginning, parseCursor, parseCursor, hshift]
  rcases (Scope.parse config ⟨0, c.rest⟩ none).1 with f | tree <;> rfl

theorem parseAt_eq_ok_iff {config : ParserConfig} {text : String} {start : Nat} {e : Expr} :
    parseAt config text start = .ok e ↔
      parse config (String.ofList (text.toList.drop start)) = .ok e := by
  rw [parseAt, parseCursor_eq, mapError_eq_ok_iff, Cursor.ofStart]

end Expr

end Calculator
