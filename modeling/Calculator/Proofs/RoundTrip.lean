import Calculator.Proofs.Number.Numeral
import Calculator.Proofs.Parse
import Calculator.Proofs.Regroup

/-!
# Reading an expression back

The text of an expression is read as the regrouped expression, since the text leaves out the
brackets of chains.  A minus sign in front of a number is read as an operator, for which there is no
left operand.

## Main definitions

* `Expr.lexemesUnder outer e`: the lexemes of the text of `e` as an operand of `outer`
* `Derivation.chain`: the operands of the tier at the root of a derivation
* `Expr.Derives e`: the lexemes of the text of `e` derive as the regrouped expression
* `AwaitsOperand ls`: no operator may stand after the lexemes `ls`

## Main results

* `Expr.splits_chars`: the text of an expression consists of its lexemes
* `Expr.derives`: without minus signs in front of numbers they derive as the regrouped expression
* `Derivation.not_awaitsOperand_of_yield_eq`: in what derives, every operator follows an operand
* `Expr.parse_format`: the text of an expression read back
-/

namespace Calculator

open Text

variable {ls : List Lexeme} {rest : List Char} {outer : Option Operator} {e : Expr}

/-! ## The lexemes of a text -/

/-- The lexeme that a number is written as, its sign left out. -/
def numeral (x : Float) : Lexeme :=
  if x.isNaN then .identifier "nan"
  else if x.isInf then .identifier "inf"
  else .number ((Numeral.decimal (Decimal.shortest (Pattern.ofFloat x)).positional).toFloat false)

/-- A number that is written with a minus sign. -/
def IsSigned (x : Float) : Prop :=
  isNegative x = true ∧ x.isNaN = false

/-- The lexemes of a number. -/
def numberLexemes (x : Float) : List Lexeme :=
  if isNegative x && !x.isNaN then [.operator .sub, numeral x] else [numeral x]

namespace Expr

/-- The lexemes of an expression as an operand of `outer`. -/
def lexemesUnder (outer : Option Operator) : Expr → List Lexeme
  | value x => numberLexemes x
  | var name => [.identifier name]
  | operation op l r =>
    let body := l.lexemesUnder (some op) ++ .operator op :: r.lexemesUnder (some op)
    if op.bareUnder outer then body else .opening :: (body ++ [.closing])

end Expr

theorem spells_numeral (x : Float) :
    ∃ seg, Spells seg (numeral x) ∧
      numberChars x = (if isNegative x && !x.isNaN then ['-'] else []) ++ seg := by
  have hnanName : Spells ['n', 'a', 'n'] (.identifier "nan") :=
    spells_of_isIdentifier (show isIdentifier "nan" = true by decide)
  have hinfName : Spells ['i', 'n', 'f'] (.identifier "inf") :=
    spells_of_isIdentifier (show isIdentifier "inf" = true by decide)
  unfold numeral numberChars signText
  cases hnan : x.isNaN with
  | true => exact ⟨_, hnanName, by simp⟩
  | false =>
    cases hinf : x.isInf with
    | true => exact ⟨_, hinfName, by simp⟩
    | false => exact ⟨_, .number (Decimal.positional_spec _).1, by simp⟩

theorem splits_numberChars (x : Float) (hrest : Boundary rest) (h : Splits rest ls) :
    Splits (numberChars x ++ rest) (numberLexemes x ++ ls) := by
  obtain ⟨seg, hseg, hchars⟩ := spells_numeral x
  have hnumeral : Splits (seg ++ rest) (numeral x :: ls) := .lexeme hseg (hrest.endsBefore _) h
  rw [hchars, numberLexemes]
  split
  · exact hnumeral.operator .sub
  · exact hnumeral

namespace Expr

/-- **The text of an expression** consists of its lexemes. -/
theorem splits_chars (hnames : ∀ name ∈ e.occurrences, isIdentifier name = true)
    (hrest : Boundary rest) (h : Splits rest ls) :
    Splits (e.chars outer ++ rest) (e.lexemesUnder outer ++ ls) := by
  induction e generalizing outer rest ls with
  | value x => exact splits_numberChars x hrest h
  | var name =>
    exact .lexeme (spells_of_isIdentifier (hnames name List.mem_cons_self)) (hrest.endsBefore _) h
  | operation op l r ihl ihr =>
    have hl := fun name hname => hnames name (List.mem_append_left _ hname)
    have hr := fun name hname => hnames name (List.mem_append_right _ hname)
    have hspace : isSpace ' ' = true := by decide
    -- the spaces around the operator keep it apart from what stands before and after
    have body {rest : List Char} {ls : List Lexeme} (hrest : Boundary rest) (h : Splits rest ls) :
        Splits (l.chars (some op) ++ ' ' :: op.symbol :: ' ' :: (r.chars (some op) ++ rest))
          (l.lexemesUnder (some op) ++ .operator op :: (r.lexemesUnder (some op) ++ ls)) :=
      ihl hl (boundary_cons (by decide) (by decide) _)
        (.space hspace (.operator op (.space hspace (ihr hr hrest h))))
    rw [chars, lexemesUnder]
    split
    · simpa using body hrest h
    · have hclosing : Splits (')' :: rest) (.closing :: ls) := .lexeme .closing trivial h
      have hbody := body (boundary_cons (by decide) (by decide) rest) hclosing
      have hopening := Splits.lexeme .opening trivial hbody
      simpa using hopening

theorem splits_format (hnames : ∀ name ∈ e.occurrences, isIdentifier name = true) :
    Splits e.format.toList (e.lexemesUnder none) := by
  have h : Splits (e.chars none ++ []) (e.lexemesUnder none ++ []) :=
    splits_chars hnames boundary_nil .nil
  rw [List.append_nil, List.append_nil] at h
  rwa [format, formatUnder, String.toList_ofList]

end Expr

/-! ## Derivations of a text -/

namespace Derivation

variable {l : Level} {t : Tier}

/-- The operands of the tier at the root, as a chain. -/
def chain {l : Level} : Derivation l → Chain
  | number x => ⟨.value x, []⟩
  | identifier name => ⟨.var name, []⟩
  | group inner => ⟨inner.tree, []⟩
  | lift operand => ⟨operand.tree, []⟩
  | join op _ left right => left.chain.join op ⟨right.tree, []⟩

theorem fold_chain (d : Derivation l) : d.chain.fold = d.tree := by
  induction d with
  | number x => rfl
  | identifier name => rfl
  | group inner ih => rfl
  | lift operand ih => rfl
  | join op hop left right ihleft ihright =>
    rw [chain, Chain.fold_join_single, ihleft]
    rfl

/-- What stands on the right without brackets is taken operand by operand. -/
def append (op : Operator) (hop : op.tier = t) (d : Derivation (.tier t)) :
    Derivation (.tier t) → Derivation (.tier t)
  | lift operand => join op hop d operand
  | join op' hop' left right => join op' hop' (append op hop d left) right

theorem yield_append (op : Operator) (hop : op.tier = t) (d e : Derivation (.tier t)) :
    (append op hop d e).yield = d.yield ++ .operator op :: e.yield := by
  fun_induction append op hop d e with
  | case1 operand => rfl
  | case2 op' hop' left right ih => rw [yield, ih, yield, List.append_assoc, List.cons_append]

theorem chain_append (op : Operator) (hop : op.tier = t) (d e : Derivation (.tier t)) :
    (append op hop d e).chain = d.chain.join op e.chain := by
  fun_induction append op hop d e with
  | case1 operand => rfl
  | case2 op' hop' left right ih =>
    rw [chain, ih, chain]
    simp [Chain.join]

end Derivation

theorem exists_derivation_literal {x : Float} (hx : ¬ IsSigned x) :
    ∃ d : Derivation .atom, d.yield = numberLexemes x ∧ d.tree = Expr.literal x := by
  have hsign : (isNegative x && !x.isNaN) = false := by
    simpa [IsSigned] using hx
  rw [numberLexemes, hsign, if_neg Bool.false_ne_true]
  unfold numeral Expr.literal
  cases hnan : x.isNaN with
  | true => exact ⟨.identifier "nan", rfl, rfl⟩
  | false =>
    cases hinf : x.isInf with
    | true => exact ⟨.identifier "inf", rfl, rfl⟩
    | false =>
      have hnegative : isNegative x = false := by
        rw [hnan] at hsign
        simpa using hsign
      refine ⟨.number x, ?_, rfl⟩
      simp [Derivation.yield, toFloat_positional hnan hinf hnegative]

namespace Expr

theorem lexemesUnder_congr {a b : Option Operator}
    (h : ∀ op : Operator, op.bareUnder a = op.bareUnder b) :
    e.lexemesUnder a = e.lexemesUnder b := by
  cases e with
  | value x => rfl
  | var name => rfl
  | operation op l r => rw [lexemesUnder, lexemesUnder, h]

/-- The places in which an expression can stand: the brackets depend on the tier only. -/
theorem lexemesUnder_of_tier {op op' : Operator} (h : op.tier = op'.tier) (e : Expr) :
    e.lexemesUnder (some op) = e.lexemesUnder (some op') := by
  apply lexemesUnder_congr
  intro o
  rw [Operator.bareUnder, Operator.bareUnder, Option.map_some, Option.map_some, h]

theorem lexemesUnder_of_sum {op : Operator} (h : op.tier = .sum) (e : Expr) :
    e.lexemesUnder (some op) = e.lexemesUnder none := by
  apply lexemesUnder_congr
  intro o
  rw [Operator.bareUnder, Option.map_some, h]
  rfl

theorem lexemesUnder_of_bare {op : Operator} {l r : Expr} (h : op.bareUnder outer = true) :
    (operation op l r).lexemesUnder outer =
      l.lexemesUnder (some op) ++ .operator op :: r.lexemesUnder (some op) := by
  rw [lexemesUnder]
  exact if_pos h

theorem lexemesUnder_of_not_bare {op : Operator} {l r : Expr} (h : op.bareUnder outer = false) :
    (operation op l r).lexemesUnder outer =
      .opening :: ((operation op l r).lexemesUnder none ++ [.closing]) := by
  have hnone : op.bareUnder none = true := rfl
  rw [lexemesUnder_of_bare hnone, lexemesUnder, h]
  rfl

/-- Under a product everything but a sum is written as at the outermost place. -/
theorem lexemesUnder_mul {op : Operator} (hop : op.tier ≠ .sum) (l r : Expr) :
    (operation op l r).lexemesUnder (some .mul) = (operation op l r).lexemesUnder none := by
  have hbare : op.bareUnder (some .mul) = true := decide_eq_true hop
  have hnone : op.bareUnder none = true := rfl
  rw [lexemesUnder_of_bare hbare, lexemesUnder_of_bare hnone]

/-- **The derivations of a text**: at each place where an expression can stand, its lexemes derive,
and what they derive is the regrouped expression. -/
structure Derives (e : Expr) : Prop where
  sum : ∃ d : Derivation (.tier .sum),
    d.yield = e.lexemesUnder none ∧ d.chain = e.norm.chain .sum
  product : ∃ d : Derivation (.tier .product),
    d.yield = e.lexemesUnder (some .mul) ∧ d.chain = e.norm.chain .product
  atom : ∃ d : Derivation .atom, d.yield = e.lexemesUnder (some .pow) ∧ d.tree = e.norm

theorem tree_of_chain {level : Level} {t : Tier} (ht : t ≠ .power) {d : Derivation level}
    (h : d.chain = e.norm.chain t) : d.tree = e.norm := by
  rw [← d.fold_chain, h, fold_chain_norm ht]

theorem derives_literal {x : Float} (hx : ¬ IsSigned x) : (value x).Derives := by
  obtain ⟨d, hyield, htree⟩ := exists_derivation_literal hx
  -- an atom is a chain of one operand in every tier
  have hchain (t : Tier) : (value x).norm.chain t = ⟨d.tree, []⟩ := by
    rw [htree]
    exact chain_of_outsideTier (outsideTier_literal x)
  refine ⟨⟨.lift (.lift (.lift d)), hyield, ?_⟩, ⟨.lift (.lift d), hyield, ?_⟩, d, hyield, htree⟩
  · rw [hchain]
    rfl
  · rw [hchain]
    rfl

theorem derives_var (name : String) : (var name).Derives :=
  ⟨⟨.lift (.lift (.lift (.identifier name))), rfl, rfl⟩,
    ⟨.lift (.lift (.identifier name)), rfl, rfl⟩, .identifier name, rfl, rfl⟩

section Operation

variable {op : Operator} {l r : Expr}

/-- Where an operation needs brackets, its derivation as a sum stands between them. -/
theorem exists_group (hbare : op.bareUnder outer = false)
    (h : ∃ d : Derivation (.tier .sum), d.yield = (operation op l r).lexemesUnder none ∧
      d.chain = (operation op l r).norm.chain .sum) :
    ∃ d : Derivation .atom, d.yield = (operation op l r).lexemesUnder outer ∧
      d.tree = (operation op l r).norm := by
  obtain ⟨d, hyield, hchain⟩ := h
  have htree : d.tree = (operation op l r).norm := tree_of_chain (by decide) hchain
  refine ⟨.group d, ?_, htree⟩
  rw [lexemesUnder_of_not_bare hbare, ← hyield]
  rfl

theorem derives_of_sum (hop : op.tier = .sum) (hl : l.Derives) (hr : r.Derives) :
    (operation op l r).Derives := by
  obtain ⟨dl, hdl, hlchain⟩ := hl.sum
  obtain ⟨dr, hdr, hrchain⟩ := hr.sum
  have hsum : ∃ d : Derivation (.tier .sum), d.yield = (operation op l r).lexemesUnder none ∧
      d.chain = (operation op l r).norm.chain .sum := by
    refine ⟨.append op hop dl dr, ?_, ?_⟩
    · rw [Derivation.yield_append, hdl, hdr, lexemesUnder_of_bare rfl, lexemesUnder_of_sum hop,
        lexemesUnder_of_sum hop]
    · rw [Derivation.chain_append, hlchain, hrchain, chain_norm_of_tier hop (by decide)]
  -- under products and powers the sum stands in brackets
  have hproduct : op.bareUnder (some .mul) = false := decide_eq_false fun h => h hop
  obtain ⟨d, hyield, htree⟩ := exists_group hproduct hsum
  refine ⟨hsum, ⟨.lift (.lift d), hyield, ?_⟩, exists_group rfl hsum⟩
  rw [chain_norm_of_tier_ne (by rw [hop]; decide), ← htree]
  rfl

theorem derives_of_product (hop : op.tier = .product) (hl : l.Derives) (hr : r.Derives) :
    (operation op l r).Derives := by
  obtain ⟨dl, hdl, hlchain⟩ := hl.product
  obtain ⟨dr, hdr, hrchain⟩ := hr.product
  have hne : op.tier ≠ .sum := by
    rw [hop]
    decide
  obtain ⟨d, hyield, hchain⟩ : ∃ d : Derivation (.tier .product),
      d.yield = (operation op l r).lexemesUnder none ∧
        d.chain = (operation op l r).norm.chain .product := by
    have htier : op.tier = Operator.mul.tier := hop
    refine ⟨.append op hop dl dr, ?_, ?_⟩
    · rw [Derivation.yield_append, hdl, hdr, lexemesUnder_of_bare rfl,
        lexemesUnder_of_tier htier, lexemesUnder_of_tier htier]
    · rw [Derivation.chain_append, hlchain, hrchain, chain_norm_of_tier hop (by decide)]
  -- only under powers the product stands in brackets
  have hsum : ∃ d : Derivation (.tier .sum), d.yield = (operation op l r).lexemesUnder none ∧
      d.chain = (operation op l r).norm.chain .sum := by
    refine ⟨.lift d, hyield, ?_⟩
    rw [chain_norm_of_tier_ne hne, ← tree_of_chain (by decide) hchain]
    rfl
  refine ⟨hsum, ⟨d, ?_, hchain⟩, exists_group rfl hsum⟩
  rw [lexemesUnder_mul hne, hyield]

theorem derives_of_power (hop : op.tier = .power) (hl : l.Derives) (hr : r.Derives) :
    (operation op l r).Derives := by
  obtain ⟨dl, hdl, hltree⟩ := hl.atom
  obtain ⟨dr, hdr, hrtree⟩ := hr.atom
  -- both operands are atoms
  obtain ⟨d, hyield, htree⟩ : ∃ d : Derivation (.tier .power),
      d.yield = (operation op l r).lexemesUnder none ∧ d.tree = (operation op l r).norm := by
    have htier : op.tier = Operator.pow.tier := hop
    refine ⟨.join op hop (.lift dl) dr, ?_, ?_⟩
    · rw [lexemesUnder_of_bare rfl, lexemesUnder_of_tier htier, lexemesUnder_of_tier htier,
        ← hdl, ← hdr]
      rfl
    · rw [norm_of_power hop, ← hltree, ← hrtree]
      rfl
  have hchain {t : Tier} (ht : .power ≠ t) :
      (operation op l r).norm.chain t = ⟨d.tree, []⟩ := by
    rw [chain_norm_of_tier_ne (hop ▸ ht), htree]
  have hsum : ∃ d : Derivation (.tier .sum), d.yield = (operation op l r).lexemesUnder none ∧
      d.chain = (operation op l r).norm.chain .sum := by
    refine ⟨.lift (.lift d), hyield, ?_⟩
    rw [hchain (by decide)]
    rfl
  refine ⟨hsum, ⟨.lift d, ?_, ?_⟩, exists_group rfl hsum⟩
  · rw [lexemesUnder_mul (by rw [hop]; decide), ← hyield]
    rfl
  · rw [hchain (by decide)]
    rfl

end Operation

theorem derives (h : ∀ x ∈ e.numbers, ¬ IsSigned x) : e.Derives := by
  induction e with
  | value x => exact derives_literal (h x List.mem_cons_self)
  | var name => exact derives_var name
  | operation op l r ihl ihr =>
    have hl := ihl fun x hx => h x (List.mem_append_left _ hx)
    have hr := ihr fun x hx => h x (List.mem_append_right _ hx)
    cases hop : op.tier with
    | sum => exact derives_of_sum hop hl hr
    | product => exact derives_of_product hop hl hr
    | power => exact derives_of_power hop hl hr

end Expr

/-! ## Signs that cannot be read -/

/-- A lexeme after which an operator may stand. -/
def Lexeme.EndsOperand : Lexeme → Prop
  | .number _ => True
  | .identifier _ => True
  | .closing => True
  | _ => False

/-- Lexemes after which no operator may stand. -/
def AwaitsOperand (ls : List Lexeme) : Prop :=
  ∀ x ∈ ls.getLast?, ¬ x.EndsOperand

theorem awaitsOperand_append_cons {us vs : List Lexeme} {x : Lexeme} :
    AwaitsOperand (us ++ x :: vs) ↔ (vs = [] → ¬ x.EndsOperand) ∧ AwaitsOperand vs := by
  rcases List.eq_nil_or_concat vs with rfl | ⟨vs, y, rfl⟩
  · simp [AwaitsOperand]
  · simp [AwaitsOperand, List.getLast?_cons]

namespace Derivation

variable {l : Level}

theorem not_awaitsOperand_yield (d : Derivation l) : ¬ AwaitsOperand d.yield := by
  induction d with
  | number x => exact fun h => h (.number x) rfl trivial
  | identifier name => exact fun h => h (.identifier name) rfl trivial
  | group inner ih =>
    show ¬ AwaitsOperand ((.opening :: inner.yield) ++ [.closing])
    exact fun h => (awaitsOperand_append_cons.mp h).1 rfl trivial
  | lift operand ih => exact ih
  | join op hop left right ihleft ihright =>
    exact fun h => ihright (awaitsOperand_append_cons.mp h).2

/-- In what derives, every operator follows an operand. -/
theorem not_awaitsOperand_of_yield_eq (d : Derivation l) {us vs : List Lexeme} {op : Operator}
    (h : d.yield = us ++ .operator op :: vs) : ¬ AwaitsOperand us := by
  induction d generalizing us vs with
  | number x => rcases us with _ | ⟨u, us⟩ <;> simp [yield] at h
  | identifier name => rcases us with _ | ⟨u, us⟩ <;> simp [yield] at h
  | group inner ih =>
    obtain ⟨us, ws, rfl, hinner⟩ := inner.yield_group_cases h
    intro hus
    exact ih hinner (@awaitsOperand_append_cons [] us .opening |>.mp hus).2
  | lift operand ih => exact ih h
  | join o hop left right ihleft ihright =>
    rcases append_cons_eq_append_cons h with ⟨ws, hleft, -⟩ | ⟨rfl, -, -⟩ | ⟨ws, rfl, hright⟩
    · exact ihleft hleft
    · exact left.not_awaitsOperand_yield
    · exact fun hus => ihright hright (awaitsOperand_append_cons.mp hus).2

end Derivation

/-- A sign in front of a number follows a bracket, an operator or nothing. -/
theorem Expr.exists_sign_of_isSigned (outer : Option Operator)
    (h : ∃ x ∈ e.numbers, IsSigned x) :
    ∃ us vs, e.lexemesUnder outer = us ++ .operator .sub :: vs ∧ AwaitsOperand us := by
  induction e generalizing outer with
  | value x =>
    obtain ⟨y, hy, hsigned⟩ := h
    obtain rfl : y = x := by simpa [numbers] using hy
    have hsign : (isNegative y && !y.isNaN) = true := by
      rw [hsigned.1, hsigned.2]
      rfl
    refine ⟨[], [numeral y], ?_, by simp [AwaitsOperand]⟩
    rw [lexemesUnder, numberLexemes, hsign]
    rfl
  | var name => simp [numbers] at h
  | operation op l r ihl ihr =>
    have body : ∃ us vs, l.lexemesUnder (some op) ++ .operator op :: r.lexemesUnder (some op) =
        us ++ .operator .sub :: vs ∧ AwaitsOperand us := by
      obtain ⟨x, hx, hsigned⟩ := h
      -- what stands in front of the sign ends as it does in the operand, or with the operator
      rcases List.mem_append.mp hx with hx | hx
      · obtain ⟨us, vs, hl, hus⟩ := ihl (some op) ⟨x, hx, hsigned⟩
        exact ⟨us, _, by rw [hl, List.append_assoc, List.cons_append], hus⟩
      · obtain ⟨us, vs, hr, hus⟩ := ihr (some op) ⟨x, hx, hsigned⟩
        exact ⟨l.lexemesUnder (some op) ++ .operator op :: us, vs, by rw [hr]; simp,
          awaitsOperand_append_cons.mpr ⟨fun _ => id, hus⟩⟩
    obtain ⟨us, vs, hbody, hus⟩ := body
    cases hbare : op.bareUnder outer with
    | true => exact ⟨us, vs, by rw [lexemesUnder_of_bare hbare, hbody], hus⟩
    | false =>
      have hopening := @awaitsOperand_append_cons [] us .opening |>.mpr ⟨fun _ => id, hus⟩
      refine ⟨.opening :: us, vs ++ [.closing], ?_, hopening⟩
      rw [lexemesUnder_of_not_bare hbare, lexemesUnder_of_bare rfl, hbody, List.append_assoc,
        List.cons_append, List.cons_append]

/-! ## The round trip -/

namespace Expr

theorem exists_error_of_isSigned (config : ParserConfig)
    (hnames : ∀ name ∈ e.occurrences, isIdentifier name = true)
    (h : ∃ x ∈ e.numbers, IsSigned x) : ∃ err, parse config e.format = .error err := by
  have hsplits := splits_format hnames
  obtain ⟨us, vs, hlexemes, hus⟩ := exists_sign_of_isSigned none h
  rcases hparse : parse config e.format with err | e'
  · exact ⟨err, rfl⟩
  rcases parse_eq_ok_iff.mp hparse with ⟨hblank, -, -⟩ | ⟨d, hd, -⟩
  · have hnil := hsplits.unique (splits_nil_iff.mpr hblank)
    simp [hlexemes] at hnil
  · -- the sign is an operator without an operand in front of it
    have hyield := hd.unique hsplits
    exact absurd hus (d.not_awaitsOperand_of_yield_eq (hyield.trans hlexemes))

theorem parse_eq_norm (config : ParserConfig)
    (hnames : ∀ name ∈ e.occurrences, isIdentifier name = true)
    (h : ∀ x ∈ e.numbers, ¬ IsSigned x) : parse config e.format = .ok e.norm := by
  obtain ⟨d, hyield, hchain⟩ := (derives h).sum
  refine parse_eq_ok_iff.mpr (.inr ⟨d, ?_, ?_⟩)
  · rw [hyield]
    exact splits_format hnames
  · exact tree_of_chain (by decide) hchain

/-- **The round trip**: the text of an expression whose names can be read is refused exactly if some
number in it is written with a minus sign.  Otherwise it is read as the regrouped expression: a sum
or a product as the fold of its whole chain, the operands of which are regrouped.  For ordinary
numbers this is the expression itself exactly if that is nested to the left. -/
theorem parse_format (config : ParserConfig) (e : Expr)
    (hnames : ∀ name ∈ e.occurrences, isIdentifier name = true) :
    ((∃ err, parse config e.format = .error err) ↔ ∃ x ∈ e.numbers, IsSigned x) ∧
      ((∀ x ∈ e.numbers, ¬ IsSigned x) → parse config e.format = .ok e.norm) ∧
      ((∀ x ∈ e.numbers, ¬ IsSigned x) → ∀ op l r, e = operation op l r → op.tier ≠ .power →
        parse config e.format = .ok ((e.chain op.tier).map norm).fold) ∧
      ((∀ x ∈ e.numbers, x.isNaN = false ∧ x.isInf = false ∧ isNegative x = false) →
        (parse config e.format = .ok e ↔ e.LeftNested)) := by
  refine ⟨⟨?_, exists_error_of_isSigned config hnames⟩, parse_eq_norm config hnames, ?_, ?_⟩
  · rintro ⟨err, herr⟩
    by_cases hsigned : ∃ x ∈ e.numbers, IsSigned x
    · exact hsigned
    · have hok := parse_eq_norm config hnames fun x hx hs => hsigned ⟨x, hx, hs⟩
      cases herr.symm.trans hok
  · rintro hunsigned op l r rfl hop
    rw [parse_eq_norm config hnames hunsigned, norm_operation hop]
  · intro hnumbers
    have hunsigned : ∀ x ∈ e.numbers, ¬ IsSigned x := by
      rintro x hx ⟨hnegative, -⟩
      exact Bool.false_ne_true ((hnumbers x hx).2.2.symm.trans hnegative)
    have hliteral : ∀ x ∈ e.numbers, literal x = value x := by
      intro x hx
      rw [literal, (hnumbers x hx).1, (hnumbers x hx).2.1]
      rfl
    rw [parse_eq_norm config hnames hunsigned, ← norm_eq_self_iff hliteral]
    exact ⟨Except.ok.inj, congrArg _⟩

/-- A sum on the right of a difference is regrouped, and a negative operand cannot be read. -/
theorem parse_format_difference :
    (∀ name ∈ (operation .sub (var "a") (operation .add (value 2.5) (var "b"))).occurrences,
      isIdentifier name = true) ∧
    parse {} (operation .sub (var "a") (operation .add (value 2.5) (var "b"))).format =
      .ok (operation .add (operation .sub (var "a") (value 2.5)) (var "b")) ∧
    ∃ err, parse {} (operation .sub (var "a") (value (-2.5))).format = .error err := by
  have hnames : ∀ name ∈
      (operation .sub (var "a") (operation .add (value 2.5) (var "b"))).occurrences,
      isIdentifier name = true := by decide
  have hunsigned : ∀ x ∈ (operation .sub (var "a") (operation .add (value 2.5) (var "b"))).numbers,
      ¬ IsSigned x := by
    intro x hx
    obtain rfl : x = 2.5 := by simpa [numbers] using hx
    exact fun h => absurd h.1 (by decide)
  have hsigned : IsSigned (-2.5) := ⟨by decide, by decide⟩
  refine ⟨hnames, (parse_format {} _ hnames).2.1 hunsigned, ?_⟩
  exact (parse_format {} _ (by decide)).1.mpr ⟨-2.5, by simp [numbers], hsigned⟩

end Expr

end Calculator
