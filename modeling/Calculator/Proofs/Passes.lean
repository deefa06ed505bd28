import Calculator.Proofs.Reduction

/-!
# What a pass keeps

A pass joins the operators of one tier to their neighbours and leaves all else as it is: the
operators of other tiers, the order of leaves and operators, and the order of the offsets.  What one
pass keeps any sequence of passes keeps.

## Main definitions

* `Expr.inorder`, `Token.inorder`: leaves and operators from left to right
* `Joined tiers ts out`: `out` is `ts` with the operators of `tiers` joined to their neighbours
* `IsBlocked tier ts`: an operator of the tier is not between two expressions
* `passes tiers ts`: the tokens after one pass for each of `tiers`

## Main results

* `exists_reduceTier_error_iff`, `exists_passes_error_iff`: when passes fail
* `joined_of_reduceTier`, `joined_of_passes`: what they lead to otherwise
* `reduceTier_joins`: both, for every tier, all tokens and every sequence of passes
-/

namespace Calculator

variable {tier : Tier} {tiers more : List Tier} {before : Option Token}
  {ts us rest out : List Token} {t : Token}

/-! ## What is compared -/

/-- The leaves and operators of an expression from left to right, as the lexemes that write them. -/
def Expr.inorder : Expr → List Lexeme
  | value x => [.number x]
  | var name => [.identifier name]
  | operation op left right => left.inorder ++ .operator op :: right.inorder

namespace Token

/-- The leaves and operators of a token from left to right. -/
def inorder : Token → List Lexeme
  | expression tree _ => tree.inorder
  | operator op _ => [.operator op]

/-- Whether a token is an operator of one of some tiers. -/
def isOf (tiers : List Tier) : Token → Bool
  | expression _ _ => false
  | operator op _ => op.tier ∈ tiers

/-- Whether a token is an operator of none of some tiers. -/
def isBeyond (tiers : List Tier) : Token → Bool
  | expression _ _ => false
  | operator op _ => op.tier ∉ tiers

@[simp] theorem isOf_expression (tree : Expr) (offset : Int) :
    isOf tiers (expression tree offset) = false := rfl

@[simp] theorem isOf_operator (op : Operator) (offset : Int) :
    isOf tiers (operator op offset) = decide (op.tier ∈ tiers) := rfl

@[simp] theorem isBeyond_expression (tree : Expr) (offset : Int) :
    isBeyond tiers (expression tree offset) = false := rfl

@[simp] theorem isBeyond_operator (op : Operator) (offset : Int) :
    isBeyond tiers (operator op offset) = decide (op.tier ∉ tiers) := rfl

theorem isOf_append : isOf (tiers ++ more) t = (isOf tiers t || isOf more t) := by
  cases t <;> simp

theorem isBeyond_append : isBeyond (tiers ++ more) t = (isBeyond tiers t && isBeyond more t) := by
  cases t <;> simp

end Token

/-- The operators of tiers of two kinds: those of the first, and those of the second that are beyond
the first. -/
theorem countP_isOf_append (ts : List Token) : ts.countP (Token.isOf (tiers ++ more)) =
    ts.countP (Token.isOf tiers) + (ts.filter (Token.isBeyond tiers)).countP (Token.isOf more) := by
  induction ts with
  | nil => rfl
  | cons t ts ih =>
    rcases t with ⟨tree, offset⟩ | ⟨op, offset⟩
    · simpa using ih
    · by_cases hop : op.tier ∈ tiers
      · simp [hop, ih]
        omega
      · by_cases hmore : op.tier ∈ more
        · simp [hop, hmore, ih]
          omega
        · simp [hop, hmore, ih]

/-- **Joined tokens**: `out` is `ts` with the operators of `tiers` joined to their neighbours.  The
operator tokens left are those of other tiers, in their order and with their offsets; no leaf or
operator is lost, added or moved; every operator that was joined took two tokens away; and the
offsets left are some of those before, in their order. -/
structure Joined (tiers : List Tier) (ts out : List Token) : Prop where
  operators_eq : out.filter (!·.isExpression) = ts.filter (Token.isBeyond tiers)
  inorder_eq : out.flatMap Token.inorder = ts.flatMap Token.inorder
  length_add : out.length + 2 * ts.countP (Token.isOf tiers) = ts.length
  offsets_sublist : (out.map Token.offset).Sublist (ts.map Token.offset)

namespace Joined

/-- None of the operators of the tiers is left. -/
theorem isOf_eq_false (h : Joined tiers ts out) (ht : t ∈ out) : t.isOf tiers = false := by
  rcases t with ⟨tree, offset⟩ | ⟨op, offset⟩
  · rfl
  · have hmem : Token.operator op offset ∈ out.filter (!·.isExpression) :=
      List.mem_filter.mpr ⟨ht, rfl⟩
    rw [h.operators_eq] at hmem
    simpa using (List.mem_filter.mp hmem).2

/-- Tokens without an operator of the tiers stay as they are. -/
theorem refl (h : ∀ t ∈ ts, t.isOf tiers = false) : Joined tiers ts ts := by
  refine ⟨List.filter_congr fun t ht => ?_, rfl, ?_, .refl _⟩
  · rcases t with ⟨tree, offset⟩ | ⟨op, offset⟩
    · rfl
    · have hop : op.tier ∉ tiers := by simpa using h _ ht
      simp [Token.isExpression, hop]
  · have hcount : ts.countP (Token.isOf tiers) = 0 :=
      List.countP_eq_zero.mpr fun t ht => by simp [h t ht]
    rw [hcount]
    rfl

theorem cons (ht : t.isOf tiers = false) (h : Joined tiers ts out) :
    Joined tiers (t :: ts) (t :: out) := by
  have hsingle : Joined tiers [t] [t] := refl (List.forall_mem_singleton.mpr ht)
  refine ⟨?_, ?_, ?_, h.offsets_sublist.cons_cons t.offset⟩
  · have htoken := hsingle.operators_eq
    rw [← List.singleton_append, List.filter_append, htoken, h.operators_eq, ← List.filter_append]
    rfl
  · rw [List.flatMap_cons, List.flatMap_cons, h.inorder_eq]
  · have hlength := h.length_add
    rw [List.countP_cons_of_neg (by simp [ht]), List.length_cons, List.length_cons]
    omega

/-- An operator of the tiers that is joined with the expressions on both sides. -/
theorem join {op : Operator} (hop : op.tier ∈ tiers) {left right : Expr} {offset o o' : Int}
    (h : Joined tiers (.expression (.operation op left right) offset :: rest) out) :
    Joined tiers (.expression left o :: .operator op offset :: .expression right o' :: rest)
      out := by
  refine ⟨?_, ?_, ?_, h.offsets_sublist.trans ?_⟩
  · rw [h.operators_eq]
    simp [hop]
  · rw [h.inorder_eq]
    simp [Token.inorder, Expr.inorder]
  · have hlength := h.length_add
    simp only [List.countP_cons, List.length_cons, Token.isOf_expression, Token.isOf_operator, hop,
      decide_true, if_true, Bool.false_eq_true, if_false] at hlength ⊢
    omega
  · -- the operation has the offset of its operator, which stood between the other two
    exact .cons _ (.cons_cons _ (.cons _ (.refl _)))

/-- Passes one after the other: what the second takes away are operators that the first has kept. -/
theorem trans (h : Joined tiers ts us) (k : Joined more us out) :
    Joined (tiers ++ more) ts out := by
  refine ⟨?_, k.inorder_eq.trans h.inorder_eq, ?_, k.offsets_sublist.trans h.offsets_sublist⟩
  · calc out.filter (!·.isExpression)
        = us.filter (Token.isBeyond more) := k.operators_eq
      _ = (us.filter (!·.isExpression)).filter (Token.isBeyond more) := by
        rw [List.filter_filter]
        exact List.filter_congr fun t _ => by cases t <;> simp [Token.isExpression]
      _ = (ts.filter (Token.isBeyond tiers)).filter (Token.isBeyond more) := by
        rw [h.operators_eq]
      _ = ts.filter (Token.isBeyond (tiers ++ more)) := by
        rw [List.filter_filter]
        exact List.filter_congr fun t _ => by rw [Token.isBeyond_append, Bool.and_comm]
  · have hcount : us.countP (Token.isOf more) =
        (us.filter (!·.isExpression)).countP (Token.isOf more) := by
      rw [List.countP_filter]
      exact List.countP_congr fun t _ => by cases t <;> simp [Token.isExpression]
    have hfirst := h.length_add
    have hsecond := k.length_add
    rw [hcount, h.operators_eq] at hsecond
    rw [countP_isOf_append]
    omega

end Joined

/-! ## One pass -/

theorem joined_of_joinAfter (h : joinAfter tier before rest = .ok out)
    (hbefore : ∀ t ∈ before, t.isOf [tier] = false) :
    Joined [tier] (before.toList ++ rest) out := by
  have cons_toList {b : Option Token} (hb : ∀ t ∈ b, t.isOf [tier] = false) {vs ws : List Token}
      (h : Joined [tier] vs ws) : Joined [tier] (b.toList ++ vs) (b.toList ++ ws) := by
    rcases b with _ | t
    · exact h
    · exact h.cons (hb t rfl)
  -- along the pass: tokens are kept as they are, or an operator is joined with its operands
  fun_induction joinAfter tier before rest generalizing out with
  | case1 before =>
    obtain rfl := Except.ok.inj h
    rw [List.append_nil]
    exact .refl fun t ht => hbefore t (Option.mem_toList.mp ht)
  | case2 before tree offset rest ih =>
    obtain ⟨us, hus, rfl⟩ := map_eq_ok h
    exact cons_toList hbefore (ih hus (by simp))
  | case3 op offset hop left o right o' rest ih =>
    exact (ih h (by simp)).join (by simp [hop])
  | case4 before op offset rest hop _ => cases h
  | case5 before op offset rest hop ih =>
    obtain ⟨us, hus, rfl⟩ := map_eq_ok h
    exact cons_toList hbefore (ih hus (by simp [hop]))

theorem joined_of_reduceTier (h : reduceTier tier ts = .ok out) : Joined [tier] ts out := by
  rw [reduceTier_eq_joinAfter] at h
  exact joined_of_joinAfter h (by simp)

/-- Tokens without an operator of the tier are what the pass leads to. -/
theorem joinAfter_eq_ok (h : ∀ t ∈ ts, t.isOf [tier] = false) :
    joinAfter tier before ts = .ok (before.toList ++ ts) := by
  induction ts generalizing before with
  | nil => rw [joinAfter_nil, List.append_nil]
  | cons t ts ih =>
    obtain ⟨ht, hts⟩ := List.forall_mem_cons.mp h
    rcases t with ⟨tree, offset⟩ | ⟨op, offset⟩
    · rw [joinAfter_expression, ih hts]
      rfl
    · have hop : op.tier ≠ tier := by simpa using ht
      rw [joinAfter_of_tier_ne hop, ih hts]
      rfl

theorem reduceTier_eq_ok (h : ∀ t ∈ ts, t.isOf [tier] = false) : reduceTier tier ts = .ok ts := by
  rw [reduceTier_eq_joinAfter]
  exact joinAfter_eq_ok h

/-- Whether an operator of the tier does not stand directly between two expressions. -/
def IsBlocked (tier : Tier) (ts : List Token) : Prop :=
  ∃ before op offset after, Misplaced ts before op offset after ∧ op.tier = tier

theorem isBlocked_of_find?_strays {s : Stray}
    (h : (strays none ts).find? (fun s => s.op.tier = tier) = some s) : IsBlocked tier ts := by
  obtain ⟨before, after, hm, -⟩ := exists_unflanked_of_find?_strays h
  exact ⟨before, s.op, s.offset, after, misplaced_iff.mpr hm, by simpa using List.find?_some h⟩

/-- A tier is blocked exactly if the search for its stray operators finds one. -/
theorem isBlocked_iff :
    IsBlocked tier ts ↔ (strays none ts).find? (fun s => s.op.tier = tier) ≠ none := by
  constructor
  · rintro ⟨before, op, offset, after, hm, hop⟩ hnone
    exact tier_ne_of_find?_strays hnone (misplaced_iff.mp hm) hop
  · intro h
    obtain ⟨s, hs⟩ := Option.ne_none_iff_exists'.mp h
    exact isBlocked_of_find?_strays hs

theorem SameOutline.isBlocked_iff (h : SameOutline us ts) :
    IsBlocked tier us ↔ IsBlocked tier ts := by
  rw [Calculator.isBlocked_iff, Calculator.isBlocked_iff, h.strays_eq]

/-- **A pass fails** exactly if its tier is blocked. -/
theorem exists_reduceTier_error_iff :
    (∃ f, reduceTier tier ts = .error f) ↔ IsBlocked tier ts := by
  rcases h : reduceTier tier ts with f | out
  · rw [reduceTier_eq_joinAfter] at h
    obtain ⟨s, hs, -⟩ := find?_strays_of_joinAfter h
    exact ⟨fun _ => isBlocked_of_find?_strays hs, fun _ => ⟨f, rfl⟩⟩
  · -- a pass that succeeds leaves no operator of its tier, and so no stray one
    obtain ⟨houtline, hout⟩ := reduceTier_ok h
    have hnone := find?_strays_eq_none houtline fun op o h => (hout op o h).2
    simp [isBlocked_iff, hnone]

/-! ## Sequences of passes -/

/-- The tokens after a sequence of passes. -/
def passes (tiers : List Tier) (ts : List Token) : Except Fault (List Token) :=
  tiers.foldlM (fun us tier => reduceTier tier us) ts

theorem passes_nil : passes [] ts = .ok ts := rfl

theorem passes_cons : passes (tier :: tiers) ts = reduceTier tier ts >>= passes tiers := rfl

theorem joined_of_passes (h : passes tiers ts = .ok out) : Joined tiers ts out := by
  induction tiers generalizing ts with
  | nil =>
    obtain rfl := Except.ok.inj h
    exact .refl fun t _ => by cases t <;> simp
  | cons tier tiers ih =>
    rw [passes_cons] at h
    obtain ⟨us, hus, h⟩ := bind_eq_ok h
    exact (joined_of_reduceTier hus).trans (ih h)

theorem passes_eq_ok (h : ∀ t ∈ ts, t.isOf tiers = false) : passes tiers ts = .ok ts := by
  induction tiers with
  | nil => rfl
  | cons tier tiers ih =>
    rw [← List.singleton_append] at h
    simp only [Token.isOf_append, Bool.or_eq_false_iff] at h
    rw [passes_cons, reduceTier_eq_ok fun t ht => (h t ht).1]
    exact ih fun t ht => (h t ht).2

/-- A sequence of passes fails exactly if one of their tiers is blocked among the tokens as they
were given: a pass does not block another tier, nor free it. -/
theorem exists_passes_error_iff :
    (∃ f, passes tiers ts = .error f) ↔ ∃ tier ∈ tiers, IsBlocked tier ts := by
  induction tiers generalizing ts with
  | nil => simp [passes_nil]
  | cons tier tiers ih =>
    simp only [passes_cons, List.mem_cons, exists_eq_or_imp]
    rw [← exists_reduceTier_error_iff]
    rcases h : reduceTier tier ts with f | us
    · exact ⟨fun _ => .inl ⟨f, rfl⟩, fun _ => ⟨f, rfl⟩⟩
    · have hrest : (∃ f, passes tiers us = .error f) ↔ ∃ tier ∈ tiers, IsBlocked tier ts := by
        simpa only [(reduceTier_ok h).1.isBlocked_iff] using @ih us
      refine hrest.trans ?_
      simp

/-- The reduction of a scope is one such sequence. -/
theorem reduceAll_eq_passes (ts : List Token) :
    reduceAll ts = passes [.power, .product, .sum] ts := by
  simp [reduceAll, passes]

/-- **What passes keep.**  A pass fails exactly if an operator of its tier does not stand directly
between two expressions.  Otherwise the operators of the tier are joined to their neighbours and all
else is kept; the same pass once more changes nothing, and offsets that increase still do.  The same
holds of passes one after the other, whichever tiers they are for and in whichever order. -/
theorem reduceTier_joins (tier : Tier) (ts : List Token) :
    ((∃ f, reduceTier tier ts = .error f) ↔
      ∃ before op offset after, Misplaced ts before op offset after ∧ op.tier = tier) ∧
    (∀ out, reduceTier tier ts = .ok out →
      Joined [tier] ts out ∧ reduceTier tier out = .ok out ∧
        ((ts.map Token.offset).Pairwise (· < ·) → (out.map Token.offset).Pairwise (· < ·))) ∧
    ∀ tiers, ((∃ f, passes tiers ts = .error f) ↔ ∃ tier ∈ tiers, IsBlocked tier ts) ∧
      ∀ out, passes tiers ts = .ok out →
        Joined tiers ts out ∧ passes tiers out = .ok out ∧
          ((ts.map Token.offset).Pairwise (· < ·) → (out.map Token.offset).Pairwise (· < ·)) := by
  refine ⟨exists_reduceTier_error_iff, fun out h => ?_,
    fun tiers => ⟨exists_passes_error_iff, fun out h => ?_⟩⟩
  · have hjoined := joined_of_reduceTier h
    have hagain := reduceTier_eq_ok fun t => hjoined.isOf_eq_false
    exact ⟨hjoined, hagain, .sublist hjoined.offsets_sublist⟩
  · have hjoined := joined_of_passes h
    have hagain := passes_eq_ok fun t => hjoined.isOf_eq_false
    exact ⟨hjoined, hagain, .sublist hjoined.offsets_sublist⟩

/-- A chain of products with a sum and a power in it, and the same with the sum joined first. -/
theorem reduceTier_joins_products :
    let tokens : List Token :=
      [.expression (.var "a") 1, .operator .mul 2, .expression (.var "b") 3, .operator .div 4,
        .expression (.var "c") 5, .operator .add 6, .expression (.var "d") 7, .operator .pow 8,
        .expression (.var "e") 9]
    let out : List Token :=
      [.expression (.operation .div (.operation .mul (.var "a") (.var "b")) (.var "c")) 4,
        .operator .add 6, .expression (.var "d") 7, .operator .pow 8, .expression (.var "e") 9]
    let sumFirst : List Token :=
      [.expression (.operation .div (.operation .mul (.var "a") (.var "b"))
        (.operation .add (.var "c") (.var "d"))) 4, .operator .pow 8, .expression (.var "e") 9]
    ((tokens.map Token.offset).Pairwise (· < ·) ∧ reduceTier .product tokens = .ok out ∧
      passes [.sum, .product] tokens = .ok sumFirst) ∧
      Joined [.product] tokens out ∧ reduceTier .product out = .ok out ∧
      (out.map Token.offset).Pairwise (· < ·) ∧ Joined [.sum, .product] tokens sumFirst := by
  intro tokens out sumFirst
  have hsorted : (tokens.map Token.offset).Pairwise (· < ·) := by decide
  have h : reduceTier .product tokens = .ok out := rfl
  have hpasses : passes [.sum, .product] tokens = .ok sumFirst := rfl
  obtain ⟨-, hone, hall⟩ := reduceTier_joins .product tokens
  obtain ⟨hjoined, hagain, hpairwise⟩ := hone out h
  exact ⟨⟨hsorted, h, hpasses⟩, hjoined, hagain, hpairwise hsorted,
    ((hall [.sum, .product]).2 sumFirst hpasses).1⟩

end Calculator
