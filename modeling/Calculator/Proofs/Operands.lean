import Calculator.Proofs.Grammar

/-!
# The operands of an operator

The nodes of an expression stand in an order from left to right, with an operator between the nodes
of its operands.  In what derives, the operands of an operator are what stands next to it, as far as
the tiers of the operators and the brackets let them reach.  So brackets next to an operator that
binds at least as tightly as what they hold cannot be left out without a change of its operands.

## Main definitions

* `nodeCount ls`: the number of nodes that lexemes write
* `Expr.operandsAt e i`: the operands of the operator at the `i`-th node

## Main results

* `Derivation.exists_operands`: the operands of an operator derive on both sides of it
* `Derivation.tree_ne_of_operator_before`, `Derivation.tree_ne_of_operator_after`: brackets that
  matter
-/

namespace Calculator

variable {level : Level} {us vs xs ys ms : List Lexeme} {op o : Operator}

/-! ## Nodes from left to right -/

/-- The number of nodes that lexemes write: every lexeme is one but brackets. -/
def nodeCount (ls : List Lexeme) : Nat :=
  ls.countP (·.side = 0)

@[simp] theorem nodeCount_nil : nodeCount [] = 0 := rfl

@[simp] theorem nodeCount_append (us vs : List Lexeme) :
    nodeCount (us ++ vs) = nodeCount us + nodeCount vs :=
  List.countP_append

@[simp] theorem nodeCount_operator (op : Operator) (ls : List Lexeme) :
    nodeCount (.operator op :: ls) = nodeCount ls + 1 := by
  simp [nodeCount, Lexeme.side]

@[simp] theorem nodeCount_opening (ls : List Lexeme) :
    nodeCount (.opening :: ls) = nodeCount ls := by
  simp [nodeCount, Lexeme.side]

@[simp] theorem nodeCount_closing (ls : List Lexeme) :
    nodeCount (.closing :: ls) = nodeCount ls := by
  simp [nodeCount, Lexeme.side]

/-- The operands of the operator at a place in the order of the nodes. -/
def Expr.operandsAt : Expr → Nat → Option (Expr × Expr)
  | .operation _ l r, i =>
    if i < l.size then l.operandsAt i
    else if i = l.size then some (l, r)
    else r.operandsAt (i - (l.size + 1))
  | _, _ => none

namespace Expr

variable {l r : Expr} {i : Nat}

theorem operandsAt_of_lt (h : i < l.size) :
    (operation op l r).operandsAt i = l.operandsAt i := by
  rw [operandsAt, if_pos h]

theorem operandsAt_size : (operation op l r).operandsAt l.size = some (l, r) := by
  rw [operandsAt, if_neg (Nat.lt_irrefl _), if_pos rfl]

theorem operandsAt_add (i : Nat) :
    (operation op l r).operandsAt (l.size + 1 + i) = r.operandsAt i := by
  have hlt : ¬ l.size + 1 + i < l.size := by omega
  have hne : ¬ l.size + 1 + i = l.size := by omega
  rw [operandsAt, if_neg hlt, if_neg hne, Nat.add_sub_cancel_left]

end Expr

namespace Derivation

theorem size_tree (d : Derivation level) : d.tree.size = nodeCount d.yield := by
  induction d with
  | number x => rfl
  | identifier name => rfl
  | group inner ih => simpa [tree, yield] using ih
  | lift operand ih => exact ih
  | join op hop left right ihleft ihright =>
    rw [tree, Expr.size, ihleft, ihright, yield, nodeCount_append, nodeCount_operator]
    omega

theorem yield_ne_nil (d : Derivation level) : d.yield ≠ [] := by
  induction d with
  | lift operand ih => exact ih
  | _ => simp [yield]

/-! ## Operands next to an operator -/

/-- **The operands of an operator** stand next to it, and they derive: the left one in the tier of
the operator, the right one as an operand of that tier.  Whatever else derives the left operand can
stand in its place. -/
theorem exists_operands (d : Derivation level) (h : d.yield = us ++ .operator op :: vs) :
    ∃ (a : Derivation (.tier op.tier)) (b : Derivation op.tier.operand)
      (before after : List Lexeme),
      us = before ++ a.yield ∧ vs = b.yield ++ after ∧
      d.tree.operandsAt (nodeCount us) = some (a.tree, b.tree) ∧
      ∀ a' : Derivation (.tier op.tier), a'.tree = a.tree →
        ∃ d' : Derivation level, d'.yield = before ++ a'.yield ++ .operator op :: vs ∧
          d'.tree = d.tree := by
  induction d generalizing us vs with
  | number x => rcases us with _ | ⟨u, us⟩ <;> simp [yield] at h
  | identifier name => rcases us with _ | ⟨u, us⟩ <;> simp [yield] at h
  | group inner ih =>
    obtain ⟨ws, xs, rfl, hinner⟩ := inner.yield_group_cases h
    obtain ⟨a, b, before, after, rfl, rfl, hoperands, hreplace⟩ := ih hinner
    obtain rfl : (b.yield ++ after) ++ [.closing] = vs := by simpa [yield, hinner] using h
    refine ⟨a, b, .opening :: before, after ++ [.closing], rfl, List.append_assoc _ _ _, ?_, ?_⟩
    · simpa [tree] using hoperands
    · intro a' ha'
      obtain ⟨d', hyield, htree⟩ := hreplace a' ha'
      exact ⟨group d', by simp [yield, hyield], htree⟩
  | lift operand ih =>
    obtain ⟨a, b, before, after, hus, hvs, hoperands, hreplace⟩ := ih h
    refine ⟨a, b, before, after, hus, hvs, hoperands, fun a' ha' => ?_⟩
    obtain ⟨d', hyield, htree⟩ := hreplace a' ha'
    exact ⟨lift d', hyield, htree⟩
  | @join t o hop left right ihleft ihright =>
    -- the operator stands in the left operand, is the one that joins, or stands in the right one
    rcases append_cons_eq_append_cons h with ⟨ws, hleft, rfl⟩ | ⟨rfl, ho, rfl⟩ | ⟨ws, rfl, hright⟩
    · obtain ⟨a, b, before, after, hus, rfl, hoperands, hreplace⟩ := ihleft hleft
      refine ⟨a, b, before, after ++ .operator o :: right.yield, hus, List.append_assoc _ _ _,
        ?_, fun a' ha' => ?_⟩
      · have hlt : nodeCount us < left.tree.size := by
          rw [left.size_tree, hleft, nodeCount_append, nodeCount_operator]
          omega
        rw [tree, Expr.operandsAt_of_lt hlt, hoperands]
      · obtain ⟨d', hyield, htree⟩ := hreplace a' ha'
        exact ⟨join o hop d' right, by simp [yield, hyield], by rw [tree, tree, htree]⟩
    · obtain rfl : o = op := by simpa using ho
      subst hop
      refine ⟨left, right, [], [], rfl, (List.append_nil _).symm, ?_, fun a' ha' => ?_⟩
      · rw [← left.size_tree, tree, Expr.operandsAt_size]
      · exact ⟨join o rfl a' right, rfl, by rw [tree, tree, ha']⟩
    · obtain ⟨a, b, before, after, rfl, rfl, hoperands, hreplace⟩ := ihright hright
      refine ⟨a, b, left.yield ++ .operator o :: before, after, by simp, rfl, ?_, fun a' ha' => ?_⟩
      · have hcount : nodeCount (left.yield ++ .operator o :: (before ++ a.yield)) =
            left.tree.size + 1 + nodeCount (before ++ a.yield) := by
          rw [left.size_tree, nodeCount_append, nodeCount_operator]
          omega
        rw [hcount, tree, Expr.operandsAt_add, hoperands]
      · obtain ⟨d', hyield, htree⟩ := hreplace a' ha'
        exact ⟨join o hop left d', by simp [yield, hyield], by rw [tree, tree, htree]⟩

/-- What derives is over before an operator that binds more loosely. -/
theorem exists_eq_yield_append (d : Derivation level)
    (h : xs ++ .operator op :: ys = d.yield ++ vs) (hxs : depth Lexeme.side xs = 0)
    (hrank : op.tier.rank < level.rank) : ∃ ws, xs = d.yield ++ ws := by
  rcases List.append_eq_append_iff.mp h with ⟨ws, hyield, hws⟩ | ⟨ws, rfl, -⟩
  · rcases ws with _ | ⟨w, ws⟩
    · exact ⟨[], by simp [hyield]⟩
    · obtain ⟨rfl, -⟩ := List.cons.inj hws
      exact absurd (d.rank_le_of_yield_eq hyield hxs) (Nat.not_le.mpr hrank)
  · exact ⟨ws, rfl⟩

/-- What derives has not begun before an operator that binds more loosely. -/
theorem exists_eq_append_yield (d : Derivation level)
    (h : xs ++ .operator op :: ys = us ++ d.yield) (hys : depth Lexeme.side ys = 0)
    (hrank : op.tier.rank < level.rank) : ∃ ws, ys = ws ++ d.yield := by
  have hbefore {ws : List Lexeme} (hyield : d.yield = ws ++ .operator op :: ys) : False := by
    have hws : depth Lexeme.side ws = 0 := by
      simpa [hyield, hys, Lexeme.side] using d.balanced_yield.depth_eq
    exact absurd (d.rank_le_of_yield_eq hyield hws) (Nat.not_le.mpr hrank)
  rcases List.append_eq_append_iff.mp h with ⟨ws, -, hws⟩ | ⟨ws, -, hyield⟩
  · rcases ws with _ | ⟨w, ws⟩
    · exact (@hbefore [] hws.symm).elim
    · exact ⟨ws, (List.cons.inj hws).2⟩
  · exact (hbefore hyield).elim

/-! ## Brackets that matter -/

/-- A group with its brackets is part of the right operand of an operator in front of it. -/
theorem nodeCount_le_of_group_prefix (d : Derivation level) (hms : Balanced Lexeme.side ms)
    (h : .opening :: (ms ++ .closing :: vs) = d.yield ++ ys) :
    nodeCount ms ≤ nodeCount d.yield := by
  obtain ⟨l, ls, hyield⟩ := List.exists_cons_of_ne_nil d.yield_ne_nil
  rw [hyield] at h
  obtain ⟨rfl, htail⟩ := List.cons.inj h
  -- the opening bracket has its partner in what derives
  have hdepth := d.balanced_yield.depth_eq
  rw [hyield, depth_cons, Lexeme.side] at hdepth
  obtain ⟨ws, rfl, -⟩ := hms.exists_of_depth_neg htail (by omega)
  rw [hyield, nodeCount_opening, nodeCount_append]
  exact Nat.le_add_right _ _

/-- What derives and ends with a group holds the whole group. -/
theorem exists_of_group_suffix (d : Derivation level) (hms : Balanced Lexeme.side ms)
    (h : us ++ .opening :: (ms ++ [.closing]) = xs ++ d.yield) :
    ∃ ws, d.yield = ws ++ .opening :: (ms ++ [.closing]) ∧ us = xs ++ ws := by
  have hconcat := List.dropLast_concat_getLast d.yield_ne_nil
  generalize d.yield.dropLast = ls at hconcat
  generalize d.yield.getLast d.yield_ne_nil = l at hconcat
  have h' : (us ++ .opening :: ms) ++ [.closing] = (xs ++ ls) ++ [l] := by
    simpa [← hconcat] using h
  obtain ⟨hinit, hlast⟩ := List.append_inj' h' rfl
  obtain rfl : .closing = l := by simpa using hlast
  -- the closing bracket has its partner in what derives
  have hdepth := d.balanced_yield.depth_eq
  rw [← hconcat, depth_append, depth_cons, depth_nil, Lexeme.side] at hdepth
  obtain ⟨ws, rfl, rfl⟩ := hms.exists_of_depth_pos hinit (by omega)
  exact ⟨ws, by simp [← hconcat], rfl⟩

/-- **Brackets behind an operator** that binds at least as tightly as an operator between them
cannot be left out: the right operand of the operator would end before the other one. -/
theorem tree_ne_of_operator_before (hms : Balanced Lexeme.side ms)
    (heq : ms = xs ++ .operator op :: ys) (hxs : depth Lexeme.side xs = 0)
    (hrank : op.tier.rank ≤ o.tier.rank) {d d' : Derivation level}
    (h : d.yield = us ++ .operator o :: .opening :: (ms ++ .closing :: vs))
    (h' : d'.yield = us ++ .operator o :: (ms ++ vs)) : d.tree ≠ d'.tree := by
  obtain ⟨a, b, -, after, -, hb, hoperands, -⟩ := d.exists_operands h
  obtain ⟨a', b', -, after', -, hb', hoperands', -⟩ := d'.exists_operands h'
  intro htree
  rw [htree, hoperands'] at hoperands
  obtain ⟨-, hsame⟩ := Prod.mk.inj (Option.some.inj hoperands)
  -- with the brackets the operand has all that they hold, without them it ends in front of `op`
  have hlarge := b.nodeCount_le_of_group_prefix hms hb
  rw [heq, List.append_assoc, List.cons_append] at hb'
  obtain ⟨ws, hws⟩ := b'.exists_eq_yield_append hb' hxs (by rw [Level.rank_operand]; omega)
  have hsmall : nodeCount b'.yield < nodeCount ms := by
    rw [heq, hws, nodeCount_append, nodeCount_append, nodeCount_operator]
    omega
  rw [← b.size_tree, ← hsame, b'.size_tree] at hlarge
  omega

/-- **Brackets in front of an operator** that binds more tightly than an operator between them
cannot be left out: the left operand of the operator would begin behind the other one. -/
theorem tree_ne_of_operator_after (hms : Balanced Lexeme.side ms)
    (heq : ms = xs ++ .operator op :: ys) (hxs : depth Lexeme.side xs = 0)
    (hrank : op.tier.rank < o.tier.rank) {d d' : Derivation level}
    (h : d.yield = us ++ .opening :: (ms ++ .closing :: .operator o :: vs))
    (h' : d'.yield = us ++ (ms ++ .operator o :: vs)) : d.tree ≠ d'.tree := by
  have hyield : d.yield = (us ++ .opening :: (ms ++ [.closing])) ++ .operator o :: vs := by
    simp [h]
  obtain ⟨a, b, before, -, ha, -, hoperands, -⟩ := d.exists_operands hyield
  obtain ⟨a', b', before', -, ha', -, hoperands', -⟩ :=
    d'.exists_operands (h'.trans (List.append_assoc _ _ _).symm)
  have hcount : nodeCount (us ++ .opening :: (ms ++ [.closing])) = nodeCount (us ++ ms) := by
    simp
  intro htree
  rw [htree, hcount, hoperands'] at hoperands
  obtain ⟨hsame, -⟩ := Prod.mk.inj (Option.some.inj hoperands)
  -- with the brackets the operand has all that they hold, without them it begins behind `op`
  obtain ⟨ws, hws, -⟩ := a.exists_of_group_suffix hms ha
  have hys : depth Lexeme.side ys = 0 := by
    simpa [heq, hxs, Lexeme.side] using hms.depth_eq
  rw [heq, ← List.append_assoc] at ha'
  obtain ⟨ws', hws'⟩ := a'.exists_eq_append_yield ha' hys hrank
  have hsize := congrArg Expr.size hsame
  rw [a.size_tree, a'.size_tree, hws] at hsize
  have hsmall : nodeCount a'.yield < nodeCount ms := by
    rw [heq, hws', nodeCount_append, nodeCount_operator, nodeCount_append]
    omega
  rw [hsize, nodeCount_append, nodeCount_opening, nodeCount_append] at hsmall
  omega

end Derivation

end Calculator
