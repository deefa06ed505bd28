import Calculator.Lexeme
import Calculator.Proofs.Balance

/-!
# The grammar of expressions

Sums are made of products, products of powers, and powers of atoms; every tier associates to the
left.  An atom is a number, a name, or a sum between brackets.

## Main definitions

* `Level`, `Tier.operand`: the nonterminals, and what the operators of a tier join
* `Derivation level`: the derivation trees
* `Derivation.yield`, `Derivation.tree`: the lexemes that a derivation produces, and the expression
  that it stands for

## Main results

* `Derivation.balanced_yield`: the brackets of what is derived are balanced
* `Derivation.rank_le_of_yield_eq`: an operator outside all brackets is of the level's tier, or
  binds tighter
* `Derivation.yield_injective`: the grammar is unambiguous
-/

namespace Calculator

/-- The nonterminals of the grammar. -/
inductive Level where
  /-- A number, a name, or brackets. -/
  | atom
  /-- Operands joined by operators of a tier. -/
  | tier (t : Tier)

/-- What the operators of a tier join on their right. -/
def Tier.operand : Tier → Level
  | .sum => .tier .product
  | .product => .tier .power
  | .power => .atom

/-- The derivation trees of a nonterminal. -/
inductive Derivation : Level → Type where
  /-- A number. -/
  | number (x : Float) : Derivation .atom
  /-- A name. -/
  | identifier (name : String) : Derivation .atom
  /-- A sum between brackets. -/
  | group (inner : Derivation (.tier .sum)) : Derivation .atom
  /-- A single operand. -/
  | lift {t : Tier} (operand : Derivation t.operand) : Derivation (.tier t)
  /-- An operator between what stands before it and its right operand. -/
  | join {t : Tier} (op : Operator) (hop : op.tier = t) (left : Derivation (.tier t))
      (right : Derivation t.operand) : Derivation (.tier t)

/-- How tightly the operators of a level bind, at least. -/
def Level.rank : Level → Nat
  | .atom => 4
  | .tier t => t.rank

theorem Level.rank_operand (t : Tier) : t.operand.rank = t.rank + 1 := by
  cases t <;> rfl

/-- What a lexeme adds to the number of open brackets. -/
def Lexeme.side : Lexeme → Int
  | .opening => 1
  | .closing => -1
  | _ => 0

/-- Two ways to cut a list at one of its items: the first cut comes after the second, they agree, or
it comes before. -/
theorem append_cons_eq_append_cons {α : Type} {xs ys us vs : List α} {x y : α}
    (h : xs ++ x :: ys = us ++ y :: vs) :
    (∃ ws, xs = us ++ y :: ws ∧ vs = ws ++ x :: ys) ∨ (us = xs ∧ x = y ∧ ys = vs) ∨
      ∃ ws, us = xs ++ x :: ws ∧ ys = ws ++ y :: vs := by
  rcases List.append_eq_append_iff.mp h with ⟨ws, rfl, hws⟩ | ⟨ws, rfl, hws⟩
  · rcases ws with _ | ⟨w, ws⟩
    · obtain ⟨rfl, rfl⟩ := List.cons.inj hws
      exact .inr (.inl ⟨List.append_nil _, rfl, rfl⟩)
    · obtain ⟨rfl, hys⟩ := List.cons.inj hws
      exact .inr (.inr ⟨ws, rfl, hys⟩)
  · rcases ws with _ | ⟨w, ws⟩
    · obtain ⟨rfl, rfl⟩ := List.cons.inj hws
      exact .inr (.inl ⟨(List.append_nil _).symm, rfl, rfl⟩)
    · obtain ⟨rfl, hvs⟩ := List.cons.inj hws
      exact .inl ⟨ws, rfl, hvs⟩

namespace Derivation

variable {l : Level}

/-- The lexemes that a derivation produces. -/
def yield {l : Level} : Derivation l → List Lexeme
  | number x => [.number x]
  | identifier name => [.identifier name]
  | group inner => .opening :: (inner.yield ++ [.closing])
  | lift operand => operand.yield
  | join op _ left right => left.yield ++ .operator op :: right.yield

/-- The expression that a derivation stands for. -/
def tree {l : Level} : Derivation l → Expr
  | number x => .value x
  | identifier name => .var name
  | group inner => inner.tree
  | lift operand => operand.tree
  | join op _ left right => .operation op left.tree right.tree

theorem balanced_yield (d : Derivation l) : Balanced Lexeme.side d.yield := by
  induction d with
  | number x => exact .cons rfl .nil
  | identifier name => exact .cons rfl .nil
  | group inner ih => exact .group rfl rfl ih
  | lift operand ih => exact ih
  | join op hop left right ihleft ihright => exact ihleft.append (.cons rfl ihright)

/-- An operator between brackets stands in what the brackets hold. -/
theorem yield_group_cases (d : Derivation (.tier .sum)) {us vs : List Lexeme} {op : Operator}
    (h : (group d).yield = us ++ .operator op :: vs) :
    ∃ ws xs, us = .opening :: ws ∧ d.yield = ws ++ .operator op :: xs := by
  rcases us with _ | ⟨u, us⟩
  · simp [yield] at h
  obtain ⟨rfl, htail⟩ := List.cons.inj h
  rcases append_cons_eq_append_cons htail with ⟨xs, hinner, -⟩ | ⟨-, hop, -⟩ | ⟨xs, -, hnil⟩
  · exact ⟨us, xs, rfl, hinner⟩
  · cases hop
  · simp at hnil

/-- **Precedence**: an operator that stands outside all brackets binds at least as tightly as the
operators of the level. -/
theorem rank_le_of_yield_eq (d : Derivation l) {us vs : List Lexeme} {op : Operator}
    (h : d.yield = us ++ .operator op :: vs) (hus : depth Lexeme.side us = 0) :
    l.rank ≤ op.tier.rank := by
  induction d generalizing us vs with
  | number x => rcases us with _ | ⟨u, us⟩ <;> simp [yield] at h
  | identifier name => rcases us with _ | ⟨u, us⟩ <;> simp [yield] at h
  | group inner ih =>
    -- the bracket is still open at the operator
    obtain ⟨ws, xs, rfl, hinner⟩ := inner.yield_group_cases h
    have hdepth := inner.balanced_yield.depth_nonneg ws _ hinner
    rw [depth_cons, Lexeme.side] at hus
    omega
  | @lift t operand ih =>
    have hrank := ih h hus
    rw [Level.rank_operand] at hrank
    exact Nat.le_of_succ_le hrank
  | @join t o hop left right ihleft ihright =>
    -- the operator stands in the left operand, or is the one joined, or stands in the right operand
    rcases append_cons_eq_append_cons h with ⟨ws, hleft, -⟩ | ⟨-, ho, -⟩ | ⟨ws, rfl, hright⟩
    · exact ihleft hleft hus
    · obtain rfl : o = op := by simpa using ho
      rw [hop]
      exact Nat.le_refl _
    · have hws : depth Lexeme.side ws = 0 := by
        simpa [left.balanced_yield.depth_eq, Lexeme.side] using hus
      have hrank := ihright hright hws
      rw [Level.rank_operand] at hrank
      exact Nat.le_of_succ_le hrank

/-- The right operand of an operator has no operator of its tier outside brackets. -/
theorem yield_ne_of_tier_eq {t : Tier} (d : Derivation t.operand) {us vs : List Lexeme}
    {op : Operator} (hop : op.tier = t) (hus : depth Lexeme.side us = 0) :
    d.yield ≠ us ++ .operator op :: vs := by
  intro h
  have := d.rank_le_of_yield_eq h hus
  rw [Level.rank_operand, hop] at this
  omega

/-- A single operand is not spelled like an operator between two. -/
theorem yield_operand_ne_join {t : Tier} (d : Derivation t.operand) {op : Operator}
    (hop : op.tier = t) (left : Derivation (.tier t)) (right : Derivation t.operand) :
    d.yield ≠ (join op hop left right).yield :=
  d.yield_ne_of_tier_eq hop left.balanced_yield.depth_eq

/-- **The grammar is unambiguous**: lexemes have at most one derivation at a level. -/
theorem yield_injective {d d' : Derivation l} (h : d.yield = d'.yield) : d = d' := by
  induction d with
  | number x =>
    cases d' with
    | number y =>
      obtain rfl : x = y := by simpa [yield] using h
      rfl
    | _ => simp [yield] at h
  | identifier name =>
    cases d' with
    | identifier name' =>
      obtain rfl : name = name' := by simpa [yield] using h
      rfl
    | _ => simp [yield] at h
  | group inner ih =>
    cases d' with
    | group inner' => rw [ih (List.append_cancel_right (List.cons.inj h).2)]
    | _ => simp [yield] at h
  | lift operand ih =>
    cases d' with
    | lift operand' => rw [ih h]
    | join op hop left right => exact (operand.yield_operand_ne_join hop left right h).elim
  | @join t op hop left right ihleft ihright =>
    cases d' with
    | lift operand => exact (operand.yield_operand_ne_join hop left right h.symm).elim
    | join op' hop' left' right' =>
      have hdepth := left.balanced_yield.depth_eq
      have hdepth' := left'.balanced_yield.depth_eq
      -- neither left operand reaches past the other: the rest would hold an operator of the tier
      -- inside a right operand
      rcases append_cons_eq_append_cons h with
        ⟨ws, hws, hright⟩ | ⟨hws, ho, hright⟩ | ⟨ws, hws, hright⟩
      · rw [hws, depth_append, depth_cons, hdepth'] at hdepth
        exact (right'.yield_ne_of_tier_eq hop (by simpa [Lexeme.side] using hdepth) hright).elim
      · obtain rfl : op = op' := by simpa using ho
        rw [ihleft hws.symm, ihright hright]
      · rw [hws, depth_append, depth_cons, hdepth] at hdepth'
        exact (right.yield_ne_of_tier_eq hop' (by simpa [Lexeme.side] using hdepth') hright).elim

end Derivation

end Calculator
