import Calculator.CommandLine.Run
import Calculator.Proofs.CommandLine.Words
import Calculator.Proofs.RoundTrip
import Calculator.Proofs.Substitution

/-!
# The normal form of an expression's text

The text of an expression shows its chains, and regrouping leaves the chains as they are.  So an
expression and its regrouped form have one text, and what a text is formatted to is formatted to
itself.

## Main definitions

* `Chain.chars outer c`: the text of a chain, its operands written under `outer`

## Main results

* `Expr.chars_chain`: an operand is written as the chain at its root
* `Expr.chars_norm`: regrouping does not change the text
* `Expr.isIdentifier_of_parse`, `Expr.not_isSigned_of_parse`: the names and numbers of what is
  parsed
* `CommandLine.run_format`: the command that formats an expression
* `Expr.format_normal`: formatting twice is formatting once
-/

namespace Calculator

open Text

/-! ## The text of a chain -/

/-- The characters of a chain, every operand of which is written as one of `outer`. -/
def Chain.chars (outer : Option Operator) (c : Chain) : List Char :=
  c.first.chars outer ++
    c.links.flatMap fun link => ' ' :: link.1.symbol :: ' ' :: link.2.chars outer

theorem Chain.chars_join (outer : Option Operator) (op : Operator) (c d : Chain) :
    (c.join op d).chars outer =
      c.chars outer ++ ' ' :: op.symbol :: ' ' :: d.chars outer := by
  simp [Chain.chars, join]

namespace Expr

variable {op : Operator} {t : Tier} {outer : Option Operator}

/-- The brackets of an operand depend on the tier above it only. -/
theorem chars_of_tier {op op' : Operator} (h : op.tier = op'.tier) (e : Expr) :
    e.chars (some op) = e.chars (some op') := by
  cases e with
  | value x => rfl
  | var name => rfl
  | operation o l r =>
    have hbare : o.bareUnder (some op) = o.bareUnder (some op') := by
      rw [Operator.bareUnder, Operator.bareUnder, Option.map_some, Option.map_some, h]
    rw [chars, chars, hbare]

theorem bareUnder_self (hop : op.tier ≠ .power) : op.bareUnder (some op) = true := by
  cases op <;> first | rfl | exact absurd rfl hop

/-- An operation is written without brackets as an operand of its own tier. -/
theorem chars_operation (hop : op.tier ≠ .power) (l r : Expr) :
    (operation op l r).chars (some op) =
      l.chars (some op) ++ ' ' :: op.symbol :: ' ' :: r.chars (some op) := by
  rw [chars]
  exact if_pos (bareUnder_self hop)

/-- Elsewhere it is written the same way, between brackets where these are needed. -/
theorem chars_of_operation (hop : op.tier ≠ .power) (l r : Expr) :
    (operation op l r).chars outer =
      if op.bareUnder outer then (operation op l r).chars (some op)
      else '(' :: (operation op l r).chars (some op) ++ [')'] := by
  rw [chars_operation hop, chars]

/-- **Chains and text**: an operand is written as the chain of its tier at its root. -/
theorem chars_chain (hop : op.tier = t) (ht : t ≠ .power) (e : Expr) :
    (e.chain t).chars (some op) = e.chars (some op) := by
  induction e with
  | value x => exact List.append_nil _
  | var name => exact List.append_nil _
  | operation o l r ihl ihr =>
    by_cases ho : o.tier = t
    · have htier : op.tier = o.tier := hop.trans ho.symm
      rw [chain_operation ho, Chain.chars_join, ihl, ihr, chars_of_tier htier,
        chars_of_tier htier, chars_of_tier htier, chars_operation (ho ▸ ht)]
    · rw [chain_of_outsideTier (outsideTier_operation ho l r)]
      exact List.append_nil _

/-- Infinity and what is not a number are written as the names that they are read as. -/
theorem chars_literal {x : Float} (hx : ¬ IsSigned x) :
    (literal x).chars outer = numberChars x := by
  rw [literal, numberChars]
  split
  · rfl
  · rename_i hnan
    split
    · have hsign : ¬ isNegative x = true := by
        intro hsign
        exact hx ⟨hsign, Bool.eq_false_iff.mpr hnan⟩
      rw [signText, if_neg hsign]
      rfl
    · rename_i hinf
      rw [chars, numberChars, if_neg hnan, if_neg hinf]

/-- A regrouped sum or product is an operation of the same tier. -/
theorem exists_norm_eq_operation (hop : op.tier ≠ .power) (l r : Expr) :
    ∃ op' l' r', (operation op l r).norm = operation op' l' r' ∧ op'.tier = op.tier := by
  -- the fold of the chain ends with one of its links, and a chain that is joined has links
  by_contra h
  have houtside : (operation op l r).norm.OutsideTier op.tier := by
    intro op' l' r' hnorm htier
    exact h ⟨op', l', r', hnorm, htier⟩
  have hchain := chain_norm_of_tier rfl hop l r
  rw [chain_of_outsideTier houtside] at hchain
  have hlinks := congrArg Chain.links hchain
  simp [Chain.join] at hlinks

/-- **Regrouping does not change the text** of an expression, in whatever place it stands. -/
theorem chars_norm {e : Expr} (h : ∀ x ∈ e.numbers, ¬ IsSigned x) :
    e.norm.chars outer = e.chars outer := by
  induction e generalizing outer with
  | value x => exact chars_literal (h x List.mem_cons_self)
  | var name => rfl
  | operation op l r ihl ihr =>
    have hl : ∀ x ∈ l.numbers, ¬ IsSigned x := fun x hx => h x (List.mem_append_left _ hx)
    have hr : ∀ x ∈ r.numbers, ¬ IsSigned x := fun x hx => h x (List.mem_append_right _ hx)
    by_cases hop : op.tier = .power
    · rw [norm_of_power hop, chars, chars, ihl hl, ihr hr]
    -- without their brackets both are the text of one chain
    have hbody : (operation op l r).norm.chars (some op) = (operation op l r).chars (some op) := by
      rw [← chars_chain rfl hop, chain_norm_of_tier rfl hop, Chain.chars_join, chars_chain rfl hop,
        chars_chain rfl hop, ihl hl, ihr hr, chars_operation hop]
    -- and they need brackets in the same places
    obtain ⟨op', l', r', hnorm, htier⟩ := exists_norm_eq_operation hop l r
    have hbare : op'.bareUnder outer = op.bareUnder outer := by
      rw [Operator.bareUnder, Operator.bareUnder, htier]
    rw [hnorm] at hbody ⊢
    rw [chars_of_operation (htier ▸ hop), chars_of_operation hop, hbare, chars_of_tier htier, hbody]

theorem format_norm {e : Expr} (h : ∀ x ∈ e.numbers, ¬ IsSigned x) : e.norm.format = e.format := by
  rw [format, formatUnder, chars_norm h]
  rfl

end Expr

/-! ## The leaves of what is parsed -/

theorem Splits.exists_spells {cs : List Char} {ls : List Lexeme} {l : Lexeme} (h : Splits cs ls)
    (hl : l ∈ ls) : ∃ seg, Spells seg l := by
  induction h with
  | nil => cases hl
  | space hc h ih => exact ih hl
  | lexeme hseg hend h ih =>
    rcases List.mem_cons.mp hl with rfl | hl
    · exact ⟨_, hseg⟩
    · exact ih hl

theorem not_isSigned_toFloat (d : Decimal) : ¬ IsSigned (d.toFloat false) := by
  rintro ⟨hsign, -⟩
  rw [Decimal.toFloat, isNegative_toFloat false d.isNearest_pattern.le_infinity] at hsign
  cases hsign

theorem Spells.isIdentifier {seg : List Char} {name : String}
    (h : Spells seg (.identifier name)) : isIdentifier name = true := by
  cases h with
  | identifier hc hcs => simpa [Calculator.isIdentifier, hc, isAlphanumeric_of_isLetter] using hcs

theorem Derivation.mem_yield_of_mem_numbers {level : Level} {d : Derivation level} {x : Float}
    (h : x ∈ d.tree.numbers) : .number x ∈ d.yield := by
  induction d with
  | number y => simpa [tree, Expr.numbers, yield] using h
  | identifier name => simp [tree, Expr.numbers] at h
  | group inner ih => simpa [yield] using ih h
  | lift operand ih => exact ih h
  | join op hop left right ihleft ihright =>
    rcases List.mem_append.mp h with h | h
    · exact List.mem_append_left _ (ihleft h)
    · exact List.mem_append_right _ (List.mem_cons_of_mem _ (ihright h))

namespace Expr

variable {config : ParserConfig} {text : String} {e : Expr}

theorem isIdentifier_of_parse (h : parse config text = .ok e) :
    ∀ name ∈ e.occurrences, isIdentifier name = true := by
  intro name hname
  rcases parse_eq_ok_iff.mp h with ⟨-, -, rfl⟩ | ⟨d, hd, rfl⟩
  · cases hname
  · have hcount : 0 < d.yield.count (.identifier name) := by
      rw [← d.count_occurrences_tree]
      exact List.count_pos_iff.mpr hname
    obtain ⟨seg, hseg⟩ := hd.exists_spells (List.count_pos_iff.mp hcount)
    exact hseg.isIdentifier

/-- No number that is parsed has a minus sign, unless the empty text stands for one. -/
theorem not_isSigned_of_parse (hempty : ¬ IsSigned config.emptyValue)
    (h : parse config text = .ok e) : ∀ x ∈ e.numbers, ¬ IsSigned x := by
  intro x hx
  rcases parse_eq_ok_iff.mp h with ⟨-, -, rfl⟩ | ⟨d, hd, rfl⟩
  · rwa [List.mem_singleton.mp hx]
  · obtain ⟨seg, hseg⟩ := hd.exists_spells (d.mem_yield_of_mem_numbers hx)
    cases hseg with
    | number hraw => exact not_isSigned_toFloat _

/-- The expression of a formatted text is the regrouped one, which is formatted to the same text. -/
theorem parse_format_of_parse (hempty : ¬ IsSigned config.emptyValue)
    (h : parse config text = .ok e) :
    parse config e.format = .ok e.norm ∧ e.norm.format = e.format := by
  have hnumbers := not_isSigned_of_parse hempty h
  exact ⟨parse_eq_norm config (isIdentifier_of_parse h) hnumbers, format_norm hnumbers⟩

/-- White space behind a text does not matter. -/
theorem parse_append_of_isBlank {ws : String} (hws : isBlank ws.toList = true)
    (h : parse config text = .ok e) : parse config (text ++ ws) = .ok e := by
  rw [parse_eq_ok_iff, String.toList_append]
  rcases parse_eq_ok_iff.mp h with ⟨htext, hempty⟩ | ⟨d, hd, htree⟩
  · refine .inl ⟨?_, hempty⟩
    rw [isBlank, List.all_append, ← isBlank, ← isBlank, htext, hws]
    rfl
  · have hboundary : Boundary ws.toList := by
      intro c hc
      have hc := List.all_eq_true.mp hws c (List.mem_of_mem_head? hc)
      refine ⟨isAlphanumeric_eq_false_of_isSpace hc, ?_⟩
      rintro rfl
      cases hc
    have hsplits := hd.append hboundary (splits_nil_iff.mpr hws)
    rw [List.append_nil] at hsplits
    exact .inr ⟨d, hsplits, htree⟩

theorem head?_ne_of_parse (h : parse config text = .ok e) : text.toList.head? ≠ some '-' := by
  intro hhead
  obtain ⟨cs, hcs⟩ : ∃ cs, text.toList = [Operator.sub.symbol] ++ cs :=
    List.head?_eq_some_iff.mp hhead
  rcases parse_eq_ok_iff.mp h with ⟨hblank, -, -⟩ | ⟨d, hd, -⟩
  · rw [hcs] at hblank
    cases hblank
  · -- the minus sign would be an operator with nothing in front of it
    have hyield := hd.map_lexemes 0
    rw [hcs, lexemes_of_spells (.operator .sub) trivial, List.map_cons] at hyield
    have hawaits : AwaitsOperand [] := by
      intro l hl
      cases hl
    exact d.not_awaitsOperand_of_yield_eq (hyield.symm.trans (List.nil_append _).symm) hawaits

end Expr

/-! ## The command -/

namespace CommandLine

variable {text : String}

theorem commandOfWords_format (store : FileStore) (h : text.toList.head? ≠ some '-') :
    commandOfWords store .format [text] = .ok (.format text) := by
  rw [commandOfWords, readWords_argument _ h]
  rfl

/-- The command shows the text of what it parses. -/
theorem run_format (store : FileStore) (input : String) {e : Expr}
    (h : Expr.parse {} text = .ok e) :
    run store ["format", text] input = .success store (echo e.format) := by
  have hcommand := commandOfWords_format store (Expr.head?_ne_of_parse h)
  have hrun := run_of_commandOfWords hcommand false input
  refine hrun.trans ?_
  show Outcome.ofResult store (do return echo (← parseOrStop {} text).format) = _
  rw [parseOrStop, h]
  rfl

end CommandLine

/-! ## Formatting twice -/

namespace Expr

/-- **Formatting is a normal form.**  What a text is formatted to is accepted, and it is formatted
to itself, so the command that formats shows what it is given once it is given what it showed.  The
expressions of the two texts may differ. -/
theorem format_normal :
    (∀ (text : String) (e : Expr), parse {} text = .ok e →
      (∃ e', parse {} e.format = .ok e' ∧ e'.format = e.format) ∧
      ∀ (store : FileStore) (input : String),
        CommandLine.run store ["format", text] input =
            .success store (CommandLine.echo e.format) ∧
          CommandLine.run store ["format", e.format] input =
            .success store (CommandLine.echo e.format) ∧
          CommandLine.run store ["format", CommandLine.echo e.format] input =
            .success store (CommandLine.echo e.format)) ∧
    ∃ (text : String) (e e' : Expr),
      parse {} text = .ok e ∧ parse {} e.format = .ok e' ∧ e' ≠ e := by
  constructor
  · intro text e h
    have hempty : ¬ IsSigned ({} : ParserConfig).emptyValue := by
      rintro ⟨hsign, -⟩
      exact absurd hsign (by decide)
    obtain ⟨hparse, hformat⟩ := parse_format_of_parse hempty h
    have hbreak : isBlank "\n".toList = true := by decide +kernel
    have hecho : parse {} (CommandLine.echo e.format) = .ok e.norm :=
      parse_append_of_isBlank hbreak hparse
    refine ⟨⟨e.norm, hparse, hformat⟩, fun store input => ⟨?_, ?_, ?_⟩⟩
    · exact CommandLine.run_format store input h
    · rw [CommandLine.run_format store input hparse, hformat]
    · rw [CommandLine.run_format store input hecho, hformat]
  · -- brackets on the right of a sum are left out
    refine ⟨"a - (b + c)", operation .sub (var "a") (operation .add (var "b") (var "c")),
      operation .add (operation .sub (var "a") (var "b")) (var "c"), ?_, ?_, ?_⟩
    · decide +kernel
    · decide +kernel
    · decide

/-- A numeral beyond the range of doubles is formatted to a name, which is read as a variable. -/
theorem format_normal_overflow :
    let raw := '1' :: List.replicate 309 '0'
    let text := String.ofList (raw ++ " * (a + b)".toList)
    let infinity := Pattern.toFloat false Pattern.infinity
    let e := operation .mul (value infinity) (operation .add (var "a") (var "b"))
    parse {} text = .ok e ∧ e.format = "inf * (a + b)" ∧
      ∃ e', parse {} "inf * (a + b)" = .ok e' ∧ e'.format = "inf * (a + b)" := by
  intro raw text infinity e
  have hraw : IsNumeral raw := by
    refine .whole (List.cons_ne_nil _ _) ?_
    intro c hc
    rcases List.mem_cons.mp hc with rfl | hc
    · rfl
    · exact isDigit_of_mem_replicate hc
  have hvalue : (Numeral.decimal raw).toFloat false = infinity := by decide +kernel
  have hparse : parse {} text = .ok e := by
    -- the numeral is one lexeme, and the other factor is the text of an expression
    have hsum : Splits "(a + b)".toList
        [.opening, .identifier "a", .operator .add, .identifier "b", .closing] :=
      @splits_chars [] [] (some .mul) (operation .add (var "a") (var "b")) (by decide)
        boundary_nil .nil
    have hrest := (hsum.space (c := ' ') (by decide)).operator .mul
    have hsplits := (hrest.space (c := ' ') (by decide)).lexeme (.number hraw)
      ((boundary_cons (by decide) (by decide) _).endsBefore _)
    rw [hvalue] at hsplits
    obtain ⟨d, hyield, htree⟩ : ∃ d : Derivation (.tier .sum), d.yield = [.number infinity,
        .operator .mul, .opening, .identifier "a", .operator .add, .identifier "b", .closing] ∧
        d.tree = e :=
      ⟨.lift (.join .mul rfl (.lift (.lift (.number infinity))) (.lift (.group
        (.join .add rfl (.lift (.lift (.lift (.identifier "a"))))
          (.lift (.lift (.identifier "b"))))))), rfl, rfl⟩
    refine parse_eq_ok_iff.mpr (.inr ⟨d, ?_, htree⟩)
    rw [hyield, String.toList_ofList]
    exact hsplits
  have hformat : e.format = "inf * (a + b)" := by decide +kernel
  refine ⟨hparse, hformat, ?_⟩
  have hnormal := (format_normal.1 text e hparse).1
  rwa [hformat] at hnormal

end Expr

end Calculator
