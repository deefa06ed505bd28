import Calculator.Proofs.Context
import Calculator.Proofs.Operands

/-!
# Brackets left out

A text in which a pair of brackets is left out is still accepted, but the operators next to the pair
take other operands.  Of the brackets that an expression is written with, all matter but those
around a power that is the left operand of a power: powers associate to the left without them.

## Main definitions

* `EndsInPower ls`: the last of some lexemes is a power sign

## Main results

* `Derivation.exists_concat`: an operator between any two parts that derive
* `Derivation.yield_group_brackets`: where a pair of brackets in a group stands
* `Derivation.exists_without_brackets`: what derives without a pair of its brackets
* `Derivation.exists_without_brackets_of_power`: brackets around the left operand of a power
* `Expr.parse_without_brackets`: which brackets of an expression can be left out
-/

namespace Calculator

variable {level : Level} {us vs ws ms : List Lexeme} {op o : Operator}

/-! ## Any operator between two parts -/

namespace Derivation

/-- Whatever derives derives as a sum. -/
theorem exists_sum (d : Derivation level) : ∃ e : Derivation (.tier .sum), e.yield = d.yield := by
  cases level with
  | atom => exact ⟨.lift (.lift (.lift d)), rfl⟩
  | tier t =>
    cases t with
    | sum => exact ⟨d, rfl⟩
    | product => exact ⟨.lift d, rfl⟩
    | power => exact ⟨.lift (.lift d), rfl⟩

theorem yield_join_append {t : Tier} (ho : o.tier = t) (left : Derivation (.tier t))
    {p q : Derivation t.operand} (h : q.yield = p.yield ++ vs) :
    (join o ho left q).yield = (join o ho left p).yield ++ vs := by
  simp [yield, h]

theorem exists_snoc_product (d : Derivation (.tier .product)) (hop : op.tier ≠ .sum)
    (a : Derivation .atom) :
    ∃ e : Derivation (.tier .product), e.yield = d.yield ++ .operator op :: a.yield := by
  cases hop' : op.tier with
  | sum => exact absurd hop' hop
  | product => exact ⟨.join op hop' d (.lift a), rfl⟩
  | power =>
    cases d with
    | lift p => exact ⟨.lift (.join op hop' p a), rfl⟩
    | join o ho left p => exact ⟨.join o ho left (.join op hop' p a), yield_join_append ho left rfl⟩

/-- An operator and an atom behind a sum go to the part of the sum that the operator binds to. -/
theorem exists_snoc (d : Derivation (.tier .sum)) (op : Operator) (a : Derivation .atom) :
    ∃ e : Derivation (.tier .sum), e.yield = d.yield ++ .operator op :: a.yield := by
  by_cases hop : op.tier = .sum
  · exact ⟨.join op hop d (.lift (.lift a)), rfl⟩
  · cases d with
    | lift p =>
      obtain ⟨q, hq⟩ := exists_snoc_product p hop a
      exact ⟨.lift q, hq⟩
    | join o ho left p =>
      obtain ⟨q, hq⟩ := exists_snoc_product p hop a
      exact ⟨.join o ho left q, yield_join_append ho left hq⟩

/-- **An operator between two parts** that derive makes one that derives, whatever the tiers. -/
theorem exists_concat (d : Derivation (.tier .sum)) (op : Operator) (e : Derivation level) :
    ∃ f : Derivation (.tier .sum), f.yield = d.yield ++ .operator op :: e.yield := by
  induction e generalizing d op with
  | number x => exact d.exists_snoc op (.number x)
  | identifier name => exact d.exists_snoc op (.identifier name)
  | group inner => exact d.exists_snoc op (.group inner)
  | lift operand ih => exact ih d op
  | join o ho left right ihleft ihright =>
    obtain ⟨f, hf⟩ := ihleft d op
    obtain ⟨g, hg⟩ := ihright f o
    exact ⟨g, by simp [hg, hf, yield]⟩

/-! ## A pair of brackets left out -/

/-- A pair of brackets of a group is its own, or it stands between them. -/
theorem yield_group_brackets (inner : Derivation (.tier .sum)) (hms : Balanced Lexeme.side ms)
    (h : (group inner).yield = us ++ .opening :: (ms ++ .closing :: vs)) :
    us = [] ∧ vs = [] ∧ ms = inner.yield ∨
      ∃ us' vs', us = .opening :: us' ∧ vs = vs' ++ [.closing] ∧
        inner.yield = us' ++ .opening :: (ms ++ .closing :: vs') := by
  rcases us with _ | ⟨u, us⟩
  · -- the closing bracket of the pair is one too many for what stands in the group
    have hinner : inner.yield ++ .closing :: [] = (ms ++ [.closing]) ++ vs := by
      simpa [yield] using h
    have hdepth : depth Lexeme.side (ms ++ [.closing]) < 0 := by
      simp [hms.depth_eq, Lexeme.side]
    obtain ⟨ws, hws, hnil⟩ := inner.balanced_yield.exists_of_depth_neg hinner hdepth
    obtain ⟨rfl, rfl⟩ := List.append_eq_nil_iff.mp hnil.symm
    exact .inl ⟨rfl, rfl, by simpa using List.append_cancel_right hws⟩
  obtain ⟨rfl, htail⟩ := List.cons.inj h
  rcases vs.eq_nil_or_concat with rfl | ⟨vs, v, rfl⟩
  · -- one bracket more would be open than is closed
    have htail' : inner.yield ++ [.closing] = (us ++ .opening :: ms) ++ [.closing] := by
      simpa using htail
    have hinner := List.append_cancel_right htail'
    have hnonneg := inner.balanced_yield.depth_nonneg us _ hinner
    have hdepth := inner.balanced_yield.depth_eq
    rw [hinner, depth_append, depth_cons, hms.depth_eq, Lexeme.side] at hdepth
    omega
  · have htail' : inner.yield ++ [.closing] =
        (us ++ .opening :: (ms ++ .closing :: vs)) ++ [v] := by
      simpa using htail
    obtain ⟨hinner, hlast⟩ := List.append_inj' htail' rfl
    obtain rfl : .closing = v := by simpa using hlast
    exact .inr ⟨us, vs, rfl, List.concat_eq_append, hinner⟩

/-- **Brackets left out**: what derives does so without a pair of its brackets, perhaps as another
tree. -/
theorem exists_without_brackets (d : Derivation level) (hms : Balanced Lexeme.side ms)
    (h : d.yield = us ++ .opening :: (ms ++ .closing :: vs)) :
    ∃ e : Derivation (.tier .sum), e.yield = us ++ (ms ++ vs) := by
  induction d generalizing us vs with
  | number x => rcases us with _ | ⟨u, us⟩ <;> simp [yield] at h
  | identifier name => rcases us with _ | ⟨u, us⟩ <;> simp [yield] at h
  | group inner ih =>
    rcases yield_group_brackets inner hms h with ⟨rfl, rfl, rfl⟩ | ⟨us, vs, rfl, rfl, hinner⟩
    · exact ⟨inner, by simp⟩
    · obtain ⟨e, he⟩ := ih hinner
      exact ⟨.lift (.lift (.lift (.group e))), by simp [yield, he]⟩
  | lift operand ih => exact ih h
  | join o ho left right ihleft ihright =>
    rcases append_cons_eq_append_cons h with ⟨ws, hleft, hws⟩ | ⟨-, ho, -⟩ | ⟨ws, rfl, hright⟩
    · -- the left operand has the closing bracket too
      have hnonneg := left.balanced_yield.depth_nonneg us _ hleft
      have hdepth := left.balanced_yield.depth_eq
      rw [hleft, depth_append, depth_cons, Lexeme.side] at hdepth
      obtain ⟨zs, rfl, rfl⟩ := hms.exists_of_depth_neg hws (by omega)
      obtain ⟨e, he⟩ := ihleft hleft
      obtain ⟨f, hf⟩ := e.exists_concat o right
      exact ⟨f, by simp [hf, he]⟩
    · cases ho
    · obtain ⟨e, he⟩ := ihright hright
      obtain ⟨d, hd⟩ := left.exists_sum
      obtain ⟨f, hf⟩ := d.exists_concat o e
      exact ⟨f, by simp [hf, hd, he]⟩

/-! ## Powers of powers -/

end Derivation

/-- The last of some lexemes is a power sign. -/
def EndsInPower (ls : List Lexeme) : Prop :=
  ∃ ks op, ls = ks ++ [.operator op] ∧ op.tier = .power

namespace Derivation

/-- An atom that ends with a group is the group. -/
theorem eq_nil_of_atom (a : Derivation .atom) (hms : Balanced Lexeme.side ms)
    (h : a.yield = ws ++ .opening :: (ms ++ [.closing])) : ws = [] := by
  cases a with
  | number x => rcases ws with _ | ⟨w, ws⟩ <;> simp [yield] at h
  | identifier name => rcases ws with _ | ⟨w, ws⟩ <;> simp [yield] at h
  | group inner =>
    rcases yield_group_brackets inner hms h with ⟨rfl, -, -⟩ | ⟨us, vs, -, hvs, -⟩
    · rfl
    · simp at hvs

/-- In front of a group at the end of a power stands a power sign, or nothing. -/
theorem eq_nil_or_endsInPower (d : Derivation (.tier .power)) (hms : Balanced Lexeme.side ms)
    (h : d.yield = ws ++ .opening :: (ms ++ [.closing])) : ws = [] ∨ EndsInPower ws := by
  cases d with
  | lift a => exact .inl (eq_nil_of_atom a hms h)
  | join o ho left a =>
    have ha : ws ++ .opening :: (ms ++ [.closing]) = (left.yield ++ [.operator o]) ++ a.yield := by
      simpa [yield] using h.symm
    obtain ⟨zs, hzs, rfl⟩ := exists_of_group_suffix a hms ha
    rw [eq_nil_of_atom a hms hzs, List.append_nil]
    exact .inr ⟨left.yield, o, rfl, ho⟩

/-- **Powers of powers**: brackets around a power in front of a power sign can be left out, unless
another power sign stands in front of them. -/
theorem exists_without_brackets_of_power (d : Derivation level) (w : Derivation (.tier .power))
    (hus : ¬ EndsInPower us)
    (h : d.yield = us ++ .opening :: (w.yield ++ .closing :: .operator .pow :: vs)) :
    ∃ e : Derivation level, e.yield = us ++ (w.yield ++ .operator .pow :: vs) ∧
      e.tree = d.tree := by
  have hyield : d.yield =
      (us ++ .opening :: (w.yield ++ [.closing])) ++ .operator .pow :: vs := by
    simp [h]
  obtain ⟨a, b, before, after, ha, -, -, hreplace⟩ := d.exists_operands hyield
  obtain ⟨ws, hws, rfl⟩ := a.exists_of_group_suffix w.balanced_yield ha
  -- the left operand is the group and nothing else
  have hnil : ws = [] := by
    rcases eq_nil_or_endsInPower a w.balanced_yield hws with hnil | ⟨ks, o, rfl, ho⟩
    · exact hnil
    · exact absurd ⟨before ++ ks, o, (List.append_assoc _ _ _).symm, ho⟩ hus
  rw [hnil, List.nil_append] at hws
  have hgroup : a = (lift (group (lift (lift w))) : Derivation (.tier .power)) :=
    yield_injective hws
  obtain ⟨e, he, htree⟩ := hreplace w (by rw [hgroup]; rfl)
  rw [hnil, List.append_nil]
  exact ⟨e, he.trans (List.append_assoc _ _ _), htree⟩

end Derivation

/-! ## The brackets of an expression -/

namespace Expr

theorem side_numeral (x : Float) : (numeral x).side = 0 := by
  unfold numeral
  split
  · rfl
  · split <;> rfl

/-- The brackets of the text of an expression are balanced. -/
theorem balanced_lexemesUnder (outer : Option Operator) (e : Expr) :
    Balanced Lexeme.side (e.lexemesUnder outer) := by
  induction e generalizing outer with
  | value x =>
    rw [lexemesUnder, numberLexemes]
    split
    · exact .cons rfl (.cons (side_numeral x) .nil)
    · exact .cons (side_numeral x) .nil
  | var name => exact .cons rfl .nil
  | operation op l r ihl ihr =>
    have hbody : Balanced Lexeme.side
        (l.lexemesUnder (some op) ++ .operator op :: r.lexemesUnder (some op)) :=
      (ihl (some op)).append (.cons rfl (ihr (some op)))
    rw [lexemesUnder]
    split
    · exact hbody
    · exact .group rfl rfl hbody

end Expr

/-- An operation that needs brackets binds more loosely than the operator next to it, or both are
powers. -/
theorem Operator.rank_lt_of_bareUnder (h : op.bareUnder (some o) = false) :
    op.tier.rank < o.tier.rank ∨ (op = .pow ∧ o = .pow) := by
  revert h
  cases op <;> cases o <;> decide

namespace Context

variable {k : Context} {l r : Expr}

/-- A power sign stands in front of right operands of powers only: a power that is an operand of
another one is written in brackets. -/
theorem exists_eq_right_of_endsInPower (h : EndsInPower k.lexemesBefore) :
    ∃ op l around, k = right op l around ∧ op.tier = .power := by
  induction k with
  | root =>
    obtain ⟨ks, op, hks, -⟩ := h
    simp [lexemesBefore] at hks
  | left op r around ih =>
    obtain ⟨ks, o, hks, ho⟩ := h
    rw [lexemesBefore, bracket] at hks
    split at hks
    · rename_i hbare
      rw [List.append_nil] at hks
      obtain ⟨op', l, around, rfl, hop'⟩ := ih ⟨ks, o, hks, ho⟩
      rw [outer, Operator.bareUnder, Option.map_some, hop'] at hbare
      cases hbare
    · cases (List.append_inj' hks rfl).2
  | right op l around ih =>
    obtain ⟨ks, o, hks, ho⟩ := h
    obtain ⟨-, hlast⟩ := List.append_inj' hks rfl
    obtain rfl : op = o := by simpa using hlast
    exact ⟨op, l, around, rfl, ho⟩

/-- The brackets around the left operand of a power, if that is a power too. -/
theorem tree_eq_of_power (hl : l.Derives) (hr : r.Derives) {r' : Expr} {around : Context}
    (hk : k = left .pow r' around) {d d' : Derivation (.tier .sum)}
    (h : d.yield = k.lexemesBefore ++ .opening ::
      ((Expr.operation .pow l r).lexemesUnder none ++ .closing :: k.lexemesAfter))
    (h' : d'.yield = k.lexemesBefore ++
      ((Expr.operation .pow l r).lexemesUnder none ++ k.lexemesAfter)) : d.tree = d'.tree := by
  obtain ⟨dl, hdl, -⟩ := hl.atom
  obtain ⟨dr, hdr, -⟩ := hr.atom
  -- a power of atoms, and no power sign in front of it
  obtain ⟨w, hw⟩ : ∃ w : Derivation (.tier .power),
      w.yield = (Expr.operation .pow l r).lexemesUnder none := by
    refine ⟨.join .pow rfl (.lift dl) dr, ?_⟩
    rw [Expr.lexemesUnder_of_bare rfl, ← hdl, ← hdr]
    rfl
  have hbefore : ¬ EndsInPower k.lexemesBefore := by
    intro hends
    obtain ⟨op, l', around', hright, -⟩ := exists_eq_right_of_endsInPower hends
    cases hk.symm.trans hright
  have hafter : k.lexemesAfter = .operator .pow :: (left .pow r' around).lexemesAfter.tail := by
    rw [hk]
    rfl
  rw [← hw, hafter] at h h'
  obtain ⟨e, he, htree⟩ := d.exists_without_brackets_of_power w hbefore h
  rw [← htree, Derivation.yield_injective (he.trans h'.symm)]

/-- **Which brackets matter**: those around an operation matter, unless it is a power and the left
operand of a power. -/
theorem tree_eq_iff (hl : l.Derives) (hr : r.Derives) (hbrackets : op.bareUnder k.outer = false)
    {d d' : Derivation (.tier .sum)}
    (h : d.yield = k.lexemesBefore ++ .opening ::
      ((Expr.operation op l r).lexemesUnder none ++ .closing :: k.lexemesAfter))
    (h' : d'.yield = k.lexemesBefore ++
      ((Expr.operation op l r).lexemesUnder none ++ k.lexemesAfter)) :
    d.tree = d'.tree ↔ op = .pow ∧ ∃ r' around, k = left .pow r' around := by
  have hms := Expr.balanced_lexemesUnder none (.operation op l r)
  have hbody : (Expr.operation op l r).lexemesUnder none = _ := Expr.lexemesUnder_of_bare rfl
  have hdepth := (Expr.balanced_lexemesUnder (some op) l).depth_eq
  cases k with
  | root => cases hbrackets
  | right o l' around =>
    -- the operator in front of the brackets would lose the rest of its right operand
    have hrank : op.tier.rank ≤ o.tier.rank := by
      rcases Operator.rank_lt_of_bareUnder hbrackets with hlt | ⟨rfl, rfl⟩
      · exact Nat.le_of_lt hlt
      · exact Nat.le_refl _
    rw [lexemesBefore, List.append_assoc, List.singleton_append] at h h'
    have hne := Derivation.tree_ne_of_operator_before hms hbody hdepth hrank h h'
    refine ⟨fun heq => absurd heq hne, ?_⟩
    rintro ⟨-, r', around', hleft⟩
    cases hleft
  | left o r' around =>
    rcases Operator.rank_lt_of_bareUnder hbrackets with hrank | ⟨rfl, rfl⟩
    · -- the operator behind the brackets would lose the beginning of its left operand
      have hne := Derivation.tree_ne_of_operator_after hms hbody hdepth hrank h h'
      refine ⟨fun heq => absurd heq hne, ?_⟩
      rintro ⟨rfl, r'', around', hleft⟩
      obtain ⟨rfl, -, -⟩ := Context.left.inj hleft
      exact absurd hrank (Nat.lt_irrefl _)
    · exact ⟨fun _ => ⟨rfl, r', around, rfl⟩, fun _ => tree_eq_of_power hl hr rfl h h'⟩

end Context

namespace Expr

/-- **Which brackets can be left out.**  An operation that stands with brackets around it in the
text of an expression is written between them as it is by itself.  Without these two brackets the
text is accepted too, and it is read as the same expression exactly if the operation is a power and
the left operand of a power. -/
theorem parse_without_brackets (config : ParserConfig) (k : Context) (op : Operator) (l r : Expr)
    (hnames : ∀ name ∈ (k.fill (operation op l r)).occurrences, isIdentifier name = true)
    (hnumbers : ∀ x ∈ (k.fill (operation op l r)).numbers, ¬ IsSigned x)
    (hbrackets : op.bareUnder k.outer = false) :
    (k.fill (operation op l r)).format.toList =
        k.before ++ '(' :: ((operation op l r).format.toList ++ ')' :: k.after) ∧
      ∃ e, parse config (String.ofList
          (k.before ++ ((operation op l r).format.toList ++ k.after))) = .ok e ∧
        (parse config (k.fill (operation op l r)).format = .ok e ↔
          op = .pow ∧ ∃ r' around, k = .left .pow r' around) := by
  have hnames' : ∀ name ∈ (operation op l r).occurrences, isIdentifier name = true :=
    fun name hname => hnames name (k.occurrences_subset_fill _ hname)
  have hnumbers' : ∀ x ∈ (operation op l r).numbers, ¬ IsSigned x :=
    fun x hx => hnumbers x (k.numbers_subset_fill _ hx)
  have hl : l.Derives := derives fun x hx => hnumbers' x (List.mem_append_left _ hx)
  have hr : r.Derives := derives fun x hx => hnumbers' x (List.mem_append_right _ hx)
  -- the derivation of the text, and one without the brackets
  obtain ⟨d, hd, hchain⟩ := (derives hnumbers).sum
  have htree : d.tree = (k.fill (operation op l r)).norm := tree_of_chain (by decide) hchain
  rw [Context.lexemesUnder_fill, lexemesUnder_of_not_bare hbrackets] at hd
  have hyield : d.yield = k.lexemesBefore ++ .opening ::
      ((operation op l r).lexemesUnder none ++ .closing :: k.lexemesAfter) := by
    simp [hd]
  obtain ⟨d', hd'⟩ := d.exists_without_brackets (balanced_lexemesUnder none _) hyield
  have hsplits := Context.splits_around hnames (splits_format hnames')
  rw [← hd'] at hsplits
  refine ⟨?_, d'.tree, parse_eq_ok_iff.mpr (.inr ⟨d', ?_, rfl⟩), ?_⟩
  · rw [format, format, formatUnder, formatUnder, String.toList_ofList, String.toList_ofList,
      Context.chars_fill, chars, chars, hbrackets]
    simp [Operator.bareUnder]
  · rwa [String.toList_ofList]
  · rw [parse_eq_norm config hnames hnumbers, ← htree,
      ← Context.tree_eq_iff hl hr hbrackets hyield hd']
    exact ⟨Except.ok.inj, congrArg _⟩

/-- A power as the left operand of a power, and as the right one. -/
theorem parse_without_brackets_powers :
    (∃ e, parse {} "x - a ^ 2.5 ^ b" = .ok e ∧ parse {} "x - (a ^ 2.5) ^ b" = .ok e) ∧
      ∃ e, parse {} "x ^ a ^ 2.5" = .ok e ∧ parse {} "x ^ (a ^ 2.5)" ≠ .ok e := by
  have hunsigned : ∀ x ∈ [(2.5 : Float)], ¬ IsSigned x := by
    intro x hx
    obtain rfl : x = 2.5 := by simpa using hx
    exact fun h => absurd h.1 (by decide)
  have hpower : (operation .pow (var "a") (value 2.5)).format = "a ^ 2.5" := by decide +kernel
  constructor
  · obtain ⟨hformat, e, hparse, hiff⟩ := parse_without_brackets {}
      (.left .pow (var "b") (.right .sub (var "x") .root)) .pow (var "a") (value 2.5)
      (by decide) hunsigned rfl
    rw [hpower] at hformat hparse
    rw [(@String.toList_inj _ "x - (a ^ 2.5) ^ b").mp hformat] at hiff
    exact ⟨e, hparse, hiff.mpr ⟨rfl, var "b", _, rfl⟩⟩
  · obtain ⟨hformat, e, hparse, hiff⟩ := parse_without_brackets {}
      (.right .pow (var "x") .root) .pow (var "a") (value 2.5) (by decide) hunsigned rfl
    rw [hpower] at hformat hparse
    rw [(@String.toList_inj _ "x ^ (a ^ 2.5)").mp hformat] at hiff
    refine ⟨e, hparse, fun hequal => ?_⟩
    obtain ⟨-, r', around, hleft⟩ := hiff.mp hequal
    cases hleft

end Expr

end Calculator
