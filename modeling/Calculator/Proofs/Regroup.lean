import Calculator.Expr

/-!
# Regrouping to the left

Neighbouring operations of one tier form a chain: operands in their order, with the operators
between them.  The text of an expression shows the chains of sums and products, not how they were
nested.

## Main definitions

* `Chain`, `Chain.fold`: operands and operators, and the expression that associates to the left
* `Expr.chain t e`: the chain of tier `t` at the root of `e`
* `Expr.norm`: every chain of sums or products folded to the left, and the special numbers as names
* `Expr.LeftNested`: no chain of sums or products goes on in a right operand

## Main results

* `Expr.chain_fold`: the chain of a fold is the chain that was folded
* `Expr.norm_operation`: a sum or product is regrouped as the fold of its whole chain
* `Expr.norm_eq_self_iff`: what regrouping leaves as it is
-/

namespace Calculator

variable {t : Tier} {op : Operator}

/-- Operands in their order, with an operator before each of them but the first. -/
structure Chain where
  /-- The first operand. -/
  first : Expr
  /-- The other operands, each with the operator before it. -/
  links : List (Operator × Expr)

namespace Chain

/-- The expression that takes the operands from left to right. -/
def fold (c : Chain) : Expr :=
  c.links.foldl (fun left link => .operation link.1 left link.2) c.first

/-- Two chains with an operator between them. -/
def join (op : Operator) (c d : Chain) : Chain :=
  ⟨c.first, c.links ++ (op, d.first) :: d.links⟩

/-- The chain with every operand replaced. -/
def map (f : Expr → Expr) (c : Chain) : Chain :=
  ⟨f c.first, c.links.map fun link => (link.1, f link.2)⟩

theorem fold_join (op : Operator) (c d : Chain) :
    (c.join op d).fold =
      d.links.foldl (fun left link => .operation link.1 left link.2)
        (.operation op c.fold d.first) := by
  rw [fold, join, List.foldl_append]
  rfl

theorem fold_join_single (op : Operator) (c : Chain) (e : Expr) :
    (c.join op ⟨e, []⟩).fold = .operation op c.fold e :=
  fold_join op c ⟨e, []⟩

theorem forall_mem_links_join {P : Operator × Expr → Prop} {c d : Chain} :
    (∀ link ∈ (c.join op d).links, P link) ↔
      (∀ link ∈ c.links, P link) ∧ P (op, d.first) ∧ ∀ link ∈ d.links, P link := by
  rw [join, List.forall_mem_append, List.forall_mem_cons]

theorem map_join (f : Expr → Expr) (op : Operator) (c d : Chain) :
    (c.join op d).map f = (c.map f).join op (d.map f) := by
  simp [map, join]

end Chain

namespace Expr

/-- The expression is no operation of a tier. -/
def OutsideTier (t : Tier) (e : Expr) : Prop :=
  ∀ op l r, e = .operation op l r → op.tier ≠ t

/-- The operands of the largest group of operations of a tier at the root. -/
def chain (t : Tier) : Expr → Chain
  | operation op l r =>
    if op.tier = t then (l.chain t).join op (r.chain t) else ⟨operation op l r, []⟩
  | e => ⟨e, []⟩

/-- A number as the parser reads its text: infinity and what is not a number are names. -/
def literal (x : Float) : Expr :=
  if x.isNaN then var "nan" else if x.isInf then var "inf" else value x

/-- The expression with its chains of sums and products folded to the left, the inner ones first,
and the special numbers as names. -/
def norm : Expr → Expr
  | value x => literal x
  | var name => var name
  | operation op l r =>
    if op.tier = .power then operation op l.norm r.norm
    else ((operation op l.norm r.norm).chain op.tier).fold

/-- No sum has a sum on its right, and no product a product. -/
def LeftNested : Expr → Prop
  | value _ => True
  | var _ => True
  | operation op l r => (op.tier ≠ .power → r.OutsideTier op.tier) ∧ l.LeftNested ∧ r.LeftNested

end Expr

/-- The operators of a chain are of a tier, and no operand is an operation of that tier. -/
structure Chain.OfTier (t : Tier) (c : Chain) : Prop where
  first_outside : c.first.OutsideTier t
  links_of_tier : ∀ link ∈ c.links, link.1.tier = t ∧ link.2.OutsideTier t

theorem Chain.OfTier.join {c d : Chain} (hc : c.OfTier t) (hop : op.tier = t) (hd : d.OfTier t) :
    (c.join op d).OfTier t := by
  refine ⟨hc.first_outside, Chain.forall_mem_links_join.mpr ⟨hc.links_of_tier, ?_, ?_⟩⟩
  · exact ⟨hop, hd.first_outside⟩
  · exact hd.links_of_tier

namespace Expr

theorem chain_operation (hop : op.tier = t) (l r : Expr) :
    (operation op l r).chain t = (l.chain t).join op (r.chain t) := by
  rw [chain, if_pos hop]

theorem chain_of_outsideTier {e : Expr} (h : e.OutsideTier t) : e.chain t = ⟨e, []⟩ := by
  cases e with
  | value x => rfl
  | var name => rfl
  | operation op l r => rw [chain, if_neg (h op l r rfl)]

theorem outsideTier_value (x : Float) : (value x).OutsideTier t := by
  intro op l r h
  cases h

theorem outsideTier_var (name : String) : (var name).OutsideTier t := by
  intro op l r h
  cases h

theorem outsideTier_operation (hop : op.tier ≠ t) (l r : Expr) :
    (operation op l r).OutsideTier t := by
  intro op' l' r' h
  cases h
  exact hop

theorem outsideTier_literal (x : Float) : (literal x).OutsideTier t := by
  unfold literal
  split
  · exact outsideTier_var _
  · split
    · exact outsideTier_var _
    · exact outsideTier_value x

theorem ofTier_chain (t : Tier) (e : Expr) : (e.chain t).OfTier t := by
  induction e with
  | value x => exact ⟨outsideTier_value x, by simp [chain]⟩
  | var name => exact ⟨outsideTier_var name, by simp [chain]⟩
  | operation op l r ihl ihr =>
    by_cases hop : op.tier = t
    · rw [chain_operation hop]
      exact ihl.join hop ihr
    · rw [chain_of_outsideTier (outsideTier_operation hop l r)]
      exact ⟨outsideTier_operation hop l r, by simp⟩

/-- **Folding and unfolding**: the chain of a fold is the chain that was folded. -/
theorem chain_fold {c : Chain} (h : c.OfTier t) : c.fold.chain t = c := by
  -- the links already folded are those of the chain at the root
  have key (links folded : List (Operator × Expr)) (left : Expr)
      (hlinks : ∀ link ∈ links, link.1.tier = t ∧ link.2.OutsideTier t)
      (hleft : left.chain t = ⟨c.first, folded⟩) :
      (links.foldl (fun left link => operation link.1 left link.2) left).chain t =
        ⟨c.first, folded ++ links⟩ := by
    induction links generalizing folded left with
    | nil => rw [List.append_nil, ← hleft]; rfl
    | cons link links ih =>
      obtain ⟨htier, houtside⟩ := hlinks link List.mem_cons_self
      have hnext : (operation link.1 left link.2).chain t = ⟨c.first, folded ++ [link]⟩ := by
        rw [chain_operation htier, hleft, chain_of_outsideTier houtside]
        rfl
      rw [List.foldl_cons, ih _ _ (fun l hl => hlinks l (List.mem_cons_of_mem _ hl)) hnext,
        List.append_assoc]
      rfl
  exact key c.links [] c.first h.links_of_tier (chain_of_outsideTier h.first_outside)

theorem outsideTier_fold {c : Chain} {s : Tier} (h : c.OfTier s) (hne : c.links ≠ [])
    (hst : s ≠ t) : c.fold.OutsideTier t := by
  -- the operator at the root of a fold is that of the last link
  obtain ⟨links, link, hlinks⟩ : ∃ links link, c.links = links ++ [link] :=
    ⟨_, _, (List.dropLast_concat_getLast hne).symm⟩
  have htier := (h.links_of_tier link (by simp [hlinks])).1
  rw [Chain.fold, hlinks, List.foldl_append]
  exact outsideTier_operation (htier ▸ hst) _ _

/-! ## The chains of a regrouped expression -/

theorem norm_of_power {l r : Expr} (hop : op.tier = .power) :
    (operation op l r).norm = operation op l.norm r.norm := by
  rw [norm, if_pos hop]

theorem norm_of_tier (hop : op.tier = t) (ht : t ≠ .power) (l r : Expr) :
    (operation op l r).norm = ((l.norm.chain t).join op (r.norm.chain t)).fold := by
  rw [norm, if_neg (hop ▸ ht), hop, chain_operation hop]

theorem chain_norm_of_tier (hop : op.tier = t) (ht : t ≠ .power) (l r : Expr) :
    (operation op l r).norm.chain t = (l.norm.chain t).join op (r.norm.chain t) := by
  rw [norm_of_tier hop ht]
  exact chain_fold ((ofTier_chain t l.norm).join hop (ofTier_chain t r.norm))

/-- Regrouping does not change the tier at the root. -/
theorem outsideTier_norm {e : Expr} (h : e.OutsideTier t) : e.norm.OutsideTier t := by
  cases e with
  | value x => exact outsideTier_literal x
  | var name => exact outsideTier_var name
  | operation op l r =>
    have hop : op.tier ≠ t := h op l r rfl
    by_cases hpower : op.tier = .power
    · rw [norm_of_power hpower]
      exact outsideTier_operation hop _ _
    · rw [norm_of_tier rfl hpower]
      exact outsideTier_fold ((ofTier_chain _ l.norm).join rfl (ofTier_chain _ r.norm))
        (by simp [Chain.join]) hop

theorem chain_norm_of_tier_ne (hop : op.tier ≠ t) (l r : Expr) :
    (operation op l r).norm.chain t = ⟨(operation op l r).norm, []⟩ :=
  chain_of_outsideTier (outsideTier_norm (outsideTier_operation hop l r))

theorem fold_chain_norm (ht : t ≠ .power) (e : Expr) : (e.norm.chain t).fold = e.norm := by
  by_cases h : e.OutsideTier t
  · rw [chain_of_outsideTier (outsideTier_norm h)]
    rfl
  · obtain ⟨op, l, r, rfl, hop⟩ : ∃ op l r, e = operation op l r ∧ op.tier = t := by
      simpa [OutsideTier] using h
    rw [chain_norm_of_tier hop ht, norm_of_tier hop ht]

theorem chain_norm (ht : t ≠ .power) (e : Expr) : e.norm.chain t = (e.chain t).map norm := by
  induction e with
  | value x =>
    rw [chain_of_outsideTier (outsideTier_norm (outsideTier_value x))]
    rfl
  | var name =>
    rw [chain_of_outsideTier (outsideTier_norm (outsideTier_var name))]
    rfl
  | operation op l r ihl ihr =>
    by_cases hop : op.tier = t
    · rw [chain_norm_of_tier hop ht, ihl, ihr, chain_operation hop, Chain.map_join]
    · rw [chain_norm_of_tier_ne hop, chain_of_outsideTier (outsideTier_operation hop l r)]
      rfl

/-- **Regrouping**: a sum or a product becomes the fold of its whole chain, the operands of which
are regrouped. -/
theorem norm_operation (hop : op.tier ≠ .power) (l r : Expr) :
    (operation op l r).norm = (((operation op l r).chain op.tier).map norm).fold := by
  rw [← chain_norm hop, fold_chain_norm hop]

example (a b c : String) :
    (operation .sub (var a) (operation .add (var b) (var c))).norm =
      operation .add (operation .sub (var a) (var b)) (var c) :=
  rfl

/-! ## What regrouping leaves as it is -/

theorem leftNested_chain {e : Expr} (h : e.LeftNested) (t : Tier) :
    (e.chain t).first.LeftNested ∧ ∀ link ∈ (e.chain t).links, link.2.LeftNested := by
  induction e with
  | value x => exact ⟨trivial, by simp [chain]⟩
  | var name => exact ⟨trivial, by simp [chain]⟩
  | operation op l r ihl ihr =>
    by_cases hop : op.tier = t
    · rw [chain_operation hop]
      obtain ⟨hfirst, hlinks⟩ := ihl h.2.1
      obtain ⟨hfirst', hlinks'⟩ := ihr h.2.2
      exact ⟨hfirst, Chain.forall_mem_links_join.mpr ⟨hlinks, hfirst', hlinks'⟩⟩
    · rw [chain_of_outsideTier (outsideTier_operation hop l r)]
      exact ⟨h, by simp⟩

theorem leftNested_fold {c : Chain} (hc : c.OfTier t) (hfirst : c.first.LeftNested)
    (hlinks : ∀ link ∈ c.links, link.2.LeftNested) : c.fold.LeftNested := by
  have key (links : List (Operator × Expr)) (left : Expr)
      (hof : ∀ link ∈ links, link.1.tier = t ∧ link.2.OutsideTier t)
      (hnested : ∀ link ∈ links, link.2.LeftNested) (hleft : left.LeftNested) :
      (links.foldl (fun left link => operation link.1 left link.2) left).LeftNested := by
    -- each link puts an operand on the right that is no operation of the tier
    induction links generalizing left with
    | nil => exact hleft
    | cons link links ih =>
      obtain ⟨htier, houtside⟩ := hof link List.mem_cons_self
      refine ih _ (fun l hl => hof l (List.mem_cons_of_mem _ hl))
        (fun l hl => hnested l (List.mem_cons_of_mem _ hl)) ⟨fun _ => ?_, hleft, ?_⟩
      · rwa [htier]
      · exact hnested link List.mem_cons_self
  exact key c.links c.first hc.links_of_tier hlinks hfirst

theorem leftNested_norm (e : Expr) : e.norm.LeftNested := by
  induction e with
  | value x =>
    show (literal x).LeftNested
    unfold literal
    split
    · trivial
    · split <;> trivial
  | var name => trivial
  | operation op l r ihl ihr =>
    by_cases hop : op.tier = .power
    · rw [norm_of_power hop]
      exact ⟨fun h => absurd hop h, ihl, ihr⟩
    · rw [norm_of_tier rfl hop]
      obtain ⟨hfirst, hlinks⟩ := leftNested_chain ihl op.tier
      obtain ⟨hfirst', hlinks'⟩ := leftNested_chain ihr op.tier
      -- the operands of both chains are nested to the left, and so is the fold of all of them
      have hof := (ofTier_chain op.tier l.norm).join rfl (ofTier_chain op.tier r.norm)
      exact leftNested_fold hof hfirst (Chain.forall_mem_links_join.mpr ⟨hlinks, hfirst', hlinks'⟩)

/-- The numbers of an expression, from left to right. -/
def numbers : Expr → List Float
  | value x => [x]
  | var _ => []
  | operation _ l r => l.numbers ++ r.numbers

theorem norm_eq_self {e : Expr} (hnumbers : ∀ x ∈ e.numbers, literal x = value x)
    (h : e.LeftNested) : e.norm = e := by
  induction e with
  | value x => exact hnumbers x List.mem_cons_self
  | var name => rfl
  | operation op l r ihl ihr =>
    have hl := ihl (fun x hx => hnumbers x (List.mem_append_left _ hx)) h.2.1
    have hr := ihr (fun x hx => hnumbers x (List.mem_append_right _ hx)) h.2.2
    -- the right operand is no part of the chain, and the left one is folded already
    by_cases hop : op.tier = .power
    · rw [norm_of_power hop, hl, hr]
    · rw [norm_of_tier rfl hop, hr, chain_of_outsideTier (h.1 hop), Chain.fold_join_single,
        fold_chain_norm hop, hl]

/-- An expression with ordinary numbers is left as it is exactly if it is nested to the left. -/
theorem norm_eq_self_iff {e : Expr} (hnumbers : ∀ x ∈ e.numbers, literal x = value x) :
    e.norm = e ↔ e.LeftNested := by
  constructor
  · intro h
    rw [← h]
    exact leftNested_norm e
  · exact norm_eq_self hnumbers

end Expr

end Calculator
