import Calculator.Proofs.Grammar
import Calculator.Proofs.Lexemes
import Calculator.Proofs.Scope

/-!
# The parser reads the grammar

A scope is reduced in three passes over a flat list of tokens.  What is invariant is that every
expression among them stands for lexemes that derive at the level reached so far.

## Main definitions

* `Covers level ls tokens`: `tokens` stand for `ls`, with the expressions derived at `level`
* `Alternates tokens`: expressions with one operator between any two

## Main results

* `covers_of_reduceAll`: the three passes lead from atoms to sums
* `exists_reads_of_yield_eq`: what is derived is read, as tokens that alternate
* `Expr.parse_eq_ok_iff_derives`: a text is parsed as the tree of its only derivation
-/

namespace Calculator

open Text

variable {l : Level} {t tier : Tier} {ls ks : List Lexeme} {ts us out rest : List Token}
  {before : Option Token}

/-! ## From tokens to derivations -/

/-- The lexemes that tokens stand for, if every expression derives at a level. -/
inductive Covers (l : Level) : List Lexeme → List Token → Prop where
  | nil : Covers l [] []
  | phrase (d : Derivation l) (o : Int) {ls : List Lexeme} {ts : List Token} (h : Covers l ls ts) :
      Covers l (d.yield ++ ls) (.expression d.tree o :: ts)
  | operator (op : Operator) (o : Int) {ls : List Lexeme} {ts : List Token} (h : Covers l ls ts) :
      Covers l (.operator op :: ls) (.operator op o :: ts)

namespace Covers

theorem append (h : Covers l ks us) (k : Covers l ls ts) : Covers l (ks ++ ls) (us ++ ts) := by
  induction h with
  | nil => exact k
  | phrase d o h ih =>
    rw [List.append_assoc]
    exact .phrase d o ih
  | operator op o h ih => exact .operator op o ih

theorem single (d : Derivation l) (o : Int) : Covers l d.yield [.expression d.tree o] := by
  rw [← List.append_nil d.yield]
  exact .phrase d o .nil

theorem expression_cons_iff {tree : Expr} {o : Int} :
    Covers l ls (.expression tree o :: ts) ↔
      ∃ d : Derivation l, d.tree = tree ∧ ∃ ks, ls = d.yield ++ ks ∧ Covers l ks ts := by
  constructor
  · intro h
    cases h with
    | phrase d o h => exact ⟨d, rfl, _, rfl, h⟩
  · rintro ⟨d, rfl, ks, rfl, h⟩
    exact .phrase d o h

theorem operator_cons_iff {op : Operator} {o : Int} :
    Covers l ls (.operator op o :: ts) ↔ ∃ ks, ls = .operator op :: ks ∧ Covers l ks ts := by
  constructor
  · intro h
    cases h with
    | operator op o h => exact ⟨_, rfl, h⟩
  · rintro ⟨ks, rfl, h⟩
    exact .operator op o h

end Covers

/-- One pass: it takes expressions of the operand level to expressions of the tier. -/
theorem covers_of_joinAfter (hbefore : Covers (.tier tier) ks before.toList)
    (hrest : Covers tier.operand ls rest) (h : joinAfter tier before rest = .ok out) :
    Covers (.tier tier) (ks ++ ls) out := by
  -- along the pass: the latest token passed is of the tier already, those to come are operands
  fun_induction joinAfter tier before rest generalizing ks ls out with
  | case1 before =>
    obtain rfl := Except.ok.inj h
    cases hrest
    rwa [List.append_nil]
  | case2 before tree offset rest ih =>
    obtain ⟨us, hus, rfl⟩ := map_eq_ok h
    obtain ⟨d, rfl, ls, rfl, hls⟩ := Covers.expression_cons_iff.mp hrest
    exact hbefore.append (ih (.single (.lift d) offset) hls hus)
  | case3 op offset hop left o right o' rest ih =>
    -- the left operand has passed this tier before, the right one is still an operand
    obtain ⟨d, rfl, ks, rfl, hks⟩ := Covers.expression_cons_iff.mp hbefore
    obtain ⟨ls, rfl, hright⟩ := Covers.operator_cons_iff.mp hrest
    obtain ⟨e, rfl, ls, rfl, hls⟩ := Covers.expression_cons_iff.mp hright
    cases hks
    simpa [Derivation.yield] using ih (.single (.join op hop d e) offset) hls h
  | case4 => cases h
  | case5 before op offset rest hop ih =>
    obtain ⟨us, hus, rfl⟩ := map_eq_ok h
    obtain ⟨ls, rfl, hls⟩ := Covers.operator_cons_iff.mp hrest
    exact hbefore.append (ih (.operator op offset .nil) hls hus)

theorem covers_of_reduceTier (hts : Covers tier.operand ls ts) (h : reduceTier tier ts = .ok out) :
    Covers (.tier tier) ls out := by
  rw [reduceTier_eq_joinAfter] at h
  exact covers_of_joinAfter .nil hts h

/-- **The three passes** lead from atoms over powers and products to sums. -/
theorem covers_of_reduceAll (hts : Covers .atom ls ts) (h : reduceAll ts = .ok out) :
    Covers (.tier .sum) ls out := by
  obtain ⟨us, hus, h⟩ := bind_eq_ok h
  obtain ⟨vs, hvs, h⟩ := bind_eq_ok h
  have hpower : Covers (.tier .power) ls us := covers_of_reduceTier hts hus
  have hproduct : Covers (.tier .product) ls vs := covers_of_reduceTier hpower hvs
  exact covers_of_reduceTier hproduct h

theorem exists_derivation_of_reduceAll (hts : Covers .atom ls ts) {tree : Expr} {o : Int}
    (h : reduceAll ts = .ok [.expression tree o]) :
    ∃ d : Derivation (.tier .sum), d.yield = ls ∧ d.tree = tree := by
  have hout := covers_of_reduceAll hts h
  obtain ⟨d, rfl, ks, rfl, hks⟩ := Covers.expression_cons_iff.mp hout
  cases hks
  exact ⟨d, (List.append_nil _).symm, rfl⟩

theorem covers_of_reads {located : List Located} (h : Reads located ts) :
    Covers .atom (located.map Located.lexeme) ts := by
  induction h with
  | nil => exact .nil
  | number x o h ih => exact .phrase (.number x) o ih
  | identifier name o h ih => exact .phrase (.identifier name) o ih
  | operator op o h ih => exact .operator op o ih
  | @group o o' us ls inner ts tree hus hclose h ihus ih =>
    -- brackets are not closed without tokens, so these were reduced to a single expression
    obtain ⟨-, hopened, -⟩ | ⟨o'', hr⟩ := Scope.close_eq_ok_iff.mp hclose
    · cases hopened
    · obtain ⟨d, hyield, rfl⟩ := exists_derivation_of_reduceAll ihus hr
      simpa [Derivation.yield, Derivation.tree, hyield] using Covers.phrase (.group d) o' ih

/-! ## From derivations to tokens -/

/-- Expressions with one operator between any two neighbours. -/
inductive Alternates : List Token → Prop where
  | single (tree : Expr) (o : Int) : Alternates [.expression tree o]
  | cons (tree : Expr) (o : Int) (op : Operator) (o' : Int) {ts : List Token} (h : Alternates ts) :
      Alternates (.expression tree o :: .operator op o' :: ts)

namespace Alternates

theorem append (h : Alternates us) (op : Operator) (o : Int) (k : Alternates ts) :
    Alternates (us ++ .operator op o :: ts) := by
  induction h with
  | single tree o' => exact .cons tree o' op o k
  | cons tree o' op' o'' h ih => exact .cons tree o' op' o'' ih

theorem head?_isExpression (h : Alternates ts) : ts.head?.any Token.isExpression = true := by
  cases h <;> rfl

theorem ne_nil (h : Alternates ts) : ts ≠ [] := by
  rintro rfl
  cases h

theorem strays_eq_nil (h : Alternates ts) (before : Option Token) : strays before ts = [] := by
  induction h generalizing before with
  | single tree o => rfl
  | cons tree o op o' h ih =>
    have hflanked : flanked (some (.expression tree o)) _ = true := h.head?_isExpression
    rw [strays, strays, ih, strayAt, strayAt, hflanked]
    rfl

theorem adjacencies_eq_zero (h : Alternates ts) : adjacencies ts = 0 := by
  induction h with
  | single tree o => rfl
  | cons tree o op o' h ih =>
    rename_i ts
    obtain ⟨t, ts, rfl⟩ := List.exists_cons_of_ne_nil h.ne_nil
    simpa [adjacencies, Token.isExpression] using ih

/-- Tokens that alternate are reduced to a single expression. -/
theorem exists_reduceAll_eq (h : Alternates ts) :
    ∃ tree o, reduceAll ts = .ok [.expression tree o] := by
  -- no operator is stray and no two expressions are adjacent
  rcases hr : reduceAll ts with f | out
  · obtain ⟨s, hs, -⟩ := firstStray_of_reduceAll_error hr
    simp [firstStray, h.strays_eq_nil] at hs
  · have hlength := length_of_reduceAll hr
    rw [if_neg h.ne_nil, h.adjacencies_eq_zero] at hlength
    obtain ⟨t, rfl⟩ := List.length_eq_one_iff.mp hlength
    rcases t with ⟨tree, o⟩ | ⟨op, o⟩
    · exact ⟨tree, o, rfl⟩
    · exact absurd ((reduceAll_ok hr).2 _ List.mem_cons_self) Bool.false_ne_true

end Alternates

/-- Lexemes that derive are read to their end. -/
theorem exists_reads_of_yield_eq (d : Derivation l) {located : List Located}
    (h : located.map Located.lexeme = d.yield) : ∃ ts, Reads located ts ∧ Alternates ts := by
  induction d generalizing located with
  | number x =>
    obtain ⟨⟨_, o⟩, rfl, rfl⟩ := List.map_eq_singleton_iff.mp h
    exact ⟨_, .number x o .nil, .single _ _⟩
  | identifier name =>
    obtain ⟨⟨_, o⟩, rfl, rfl⟩ := List.map_eq_singleton_iff.mp h
    exact ⟨_, .identifier name o .nil, .single _ _⟩
  | group inner ih =>
    obtain ⟨⟨_, o⟩, tail, rfl, rfl, htail⟩ := List.map_eq_cons_iff.mp h
    obtain ⟨us, last, rfl, hus, hlast⟩ := List.map_eq_append_iff.mp htail
    obtain ⟨⟨_, o'⟩, rfl, rfl⟩ := List.map_eq_singleton_iff.mp hlast
    -- what alternates is reduced to one expression, so the bracket closes
    obtain ⟨ts, hreads, halternates⟩ := ih hus
    obtain ⟨tree, o'', hr⟩ := halternates.exists_reduceAll_eq
    exact ⟨_, .group hreads (Scope.close_eq_ok_iff.mpr (.inr ⟨o'', hr⟩)) .nil, .single _ _⟩
  | lift operand ih => exact ih h
  | join op hop left right ihleft ihright =>
    obtain ⟨us, tail, rfl, hus, htail⟩ := List.map_eq_append_iff.mp h
    obtain ⟨⟨_, o⟩, vs, rfl, rfl, hvs⟩ := List.map_eq_cons_iff.mp htail
    obtain ⟨ts, hreads, halternates⟩ := ihleft hus
    obtain ⟨ts', hreads', halternates'⟩ := ihright hvs
    exact ⟨_, hreads.append (.operator op o hreads'), halternates.append op o halternates'⟩

/-! ## The expression of a text -/

theorem reads_of_isBlank {cs : List Char} (h : isBlank cs = true) (offset : Int) :
    Reads (lexemes offset cs) [] := by
  have hnil := (splits_nil_iff.mpr h).map_lexemes offset
  rw [List.map_eq_nil_iff.mp hnil]
  exact .nil

theorem derivation_unique_of_splits {cs : List Char} {d d' : Derivation l}
    (h : Splits cs d.yield) (h' : Splits cs d'.yield) : d = d' :=
  Derivation.yield_injective (h.unique h')

/-- A text that derives is parsed as the tree of its derivation. -/
theorem Scope.parse_of_splits (config : ParserConfig) {c : Cursor} {d : Derivation (.tier .sum)}
    (h : Splits c.rest d.yield) : (Scope.parse config c none).1 = .ok d.tree := by
  obtain ⟨ts, hreads, halternates⟩ := exists_reads_of_yield_eq d (h.map_lexemes c.offset)
  obtain ⟨tree, o, hr⟩ := halternates.exists_reduceAll_eq
  have hcovers := covers_of_reads hreads
  rw [h.map_lexemes] at hcovers
  -- what was read has a derivation of its own, and lexemes have only one
  obtain ⟨d', hyield, rfl⟩ := exists_derivation_of_reduceAll hcovers hr
  rw [Scope.parse_of_reads config hreads, ← Derivation.yield_injective hyield]
  exact Scope.close_eq_ok_iff.mpr (.inr ⟨o, hr⟩)

theorem Scope.parse_eq_ok_iff {config : ParserConfig} {c : Cursor} {e : Expr} :
    (Scope.parse config c none).1 = .ok e ↔
      (isBlank c.rest ∧ config.allowEmpty ∧ e = .value config.emptyValue) ∨
        ∃ d : Derivation (.tier .sum), Splits c.rest d.yield ∧ d.tree = e := by
  constructor
  · intro h
    rcases Scope.parse_cases config c with ⟨ts, hreads, hparse⟩ | ⟨f, reached, -, hparse⟩
    · -- what was read is free of faults, so its lexemes are a split of the text
      have hsplits := (scans_lexemes c.offset c.rest).splits hreads.fault_not_mem
      rw [hparse] at h
      rcases Scope.close_eq_ok_iff.mp h with ⟨rfl, -, hempty, rfl⟩ | ⟨o, hr⟩
      · rw [hreads.eq_nil] at hsplits
        exact .inl ⟨splits_nil_iff.mp hsplits, hempty, rfl⟩
      · obtain ⟨d, hyield, rfl⟩ := exists_derivation_of_reduceAll (covers_of_reads hreads) hr
        exact .inr ⟨d, hyield ▸ hsplits, rfl⟩
    · rw [hparse] at h
      cases h
  · rintro (⟨hblank, hempty, rfl⟩ | ⟨d, hsplits, rfl⟩)
    · rw [Scope.parse_of_reads config (reads_of_isBlank hblank c.offset)]
      exact Scope.close_eq_ok_iff.mpr (.inl ⟨rfl, rfl, hempty, rfl⟩)
    · exact Scope.parse_of_splits config hsplits

theorem Expr.parse_eq_ok_iff {config : ParserConfig} {text : String} {e : Expr} :
    Expr.parse config text = .ok e ↔
      (isBlank text.toList ∧ config.allowEmpty ∧ e = .value config.emptyValue) ∨
        ∃ d : Derivation (.tier .sum), Splits text.toList d.yield ∧ d.tree = e := by
  have hcursor : (Cursor.ofStart text 0).rest = text.toList := rfl
  rw [← hcursor, ← Scope.parse_eq_ok_iff, Expr.parse, Expr.parseAt, Expr.parseCursor]
  rcases (Scope.parse config (Cursor.ofStart text 0) none).1 with f | e'
  · constructor <;> intro h <;> cases h
  · constructor <;> intro h <;> rw [Except.ok.inj h]
    rfl

/-- A name is parsed as the variable of this name. -/
theorem Expr.parse_of_isIdentifier {name : String} (h : isIdentifier name = true)
    (config : ParserConfig) : Expr.parse config name = .ok (.var name) := by
  have hsplits := Splits.lexeme (spells_of_isIdentifier h) (boundary_nil.endsBefore _) .nil
  rw [List.append_nil] at hsplits
  exact parse_eq_ok_iff.mpr (.inr ⟨.lift (.lift (.lift (.identifier name))), hsplits, rfl⟩)

/-- **The language of the parser**: a text is parsed exactly if it is blank and the configuration
gives blank texts a value, or if its lexemes derive in the grammar; the outcome is the tree of the
derivation, and there is only one. -/
theorem Expr.parse_eq_ok_iff_derives (config : ParserConfig) (text : String) :
    (∀ e, Expr.parse config text = .ok e ↔
      (isBlank text.toList ∧ config.allowEmpty ∧ e = .value config.emptyValue) ∨
        ∃ d : Derivation (.tier .sum), Splits text.toList d.yield ∧ d.tree = e) ∧
      ∀ d d' : Derivation (.tier .sum),
        Splits text.toList d.yield → Splits text.toList d'.yield → d = d' :=
  ⟨fun _ => parse_eq_ok_iff, fun _ _ => derivation_unique_of_splits⟩

end Calculator
