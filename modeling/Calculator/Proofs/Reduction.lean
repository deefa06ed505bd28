import Calculator.Scope

/-!
# What reduction makes of tokens

The three passes over the tokens of a scope change the list as they go, but not its outline: which
items are expressions, and where operators lack an operand.  An operator that lacks one is therefore
found on the tokens as they were read.

## Main definitions

* `joinAfter tier before ts`: the reduction of a tier without the list of tokens passed
* `strays before ts`: the operators of `ts` that lack an operand
* `SameOutline us ts`: `us` and `ts` show the same expressions and stray operators
* `Misplaced ts before op offset after`: an operator of `ts` that is not between two expressions

## Main results

* `reduceAll_ok`: a successful reduction keeps the outline and leaves expressions only
* `firstStray_of_reduceAll_error`: a failing one reports the first stray operator of the highest
  tier
* `reduceAll_outcome`: both outcomes, on the tokens as they were read
-/

namespace Calculator

variable {tier : Tier} {before : Option Token} {ts rest out : List Token}

/-- Whether an operator between `before` and `rest` has an expression on either side. -/
def flanked (before : Option Token) (rest : List Token) : Bool :=
  before.any Token.isExpression && rest.head?.any Token.isExpression

/-- What is wrong with an operator that has no expression on one of its sides. -/
def operandCause (before : Option Token) (op : Operator) (rest : List Token) : Cause :=
  match before, rest with
  | some left, right :: _ => .invalidOperands op left right
  | _, _ => .missingOperand op

/-- The reduction of one tier when `before` is the latest of the tokens passed. -/
def joinAfter (tier : Tier) (before : Option Token) : List Token → Except Fault (List Token)
  | [] => .ok before.toList
  | .expression tree offset :: rest =>
    (before.toList ++ ·) <$> joinAfter tier (some (.expression tree offset)) rest
  | .operator op offset :: rest =>
    if op.tier = tier then
      match before, rest with
      | some (.expression left _), .expression right _ :: rest =>
        joinAfter tier (some (.expression (.operation op left right) offset)) rest
      | _, _ => .error ⟨operandCause before op rest, offset⟩
    else
      (before.toList ++ ·) <$> joinAfter tier (some (.operator op offset)) rest

theorem flanked_eq_false
    (h : ∀ left o right o' more, before = some (.expression left o) →
      rest = .expression right o' :: more → False) : flanked before rest = false := by
  rcases before with _ | left | _ <;> rcases rest with _ | ⟨right | _, _⟩ <;> try rfl
  exact (h _ _ _ _ _ rfl rfl).elim

@[simp] theorem joinAfter_nil : joinAfter tier before [] = .ok before.toList := rfl

theorem joinAfter_expression (tree : Expr) (offset : Int) :
    joinAfter tier before (.expression tree offset :: rest) =
      (before.toList ++ ·) <$> joinAfter tier (some (.expression tree offset)) rest := by
  rw [joinAfter]

theorem joinAfter_of_tier_ne {op : Operator} (hop : op.tier ≠ tier) (offset : Int) :
    joinAfter tier before (.operator op offset :: rest) =
      (before.toList ++ ·) <$> joinAfter tier (some (.operator op offset)) rest := by
  rw [joinAfter.eq_def]
  exact if_neg hop

theorem joinAfter_of_tier_eq {op : Operator} (hop : op.tier = tier) (left right : Expr)
    (offset o o' : Int) :
    joinAfter tier (some (.expression left o))
        (.operator op offset :: .expression right o' :: rest) =
      joinAfter tier (some (.expression (.operation op left right) offset)) rest := by
  rw [joinAfter.eq_def]
  exact if_pos hop

theorem joinAfter_of_not_flanked {op : Operator} (hop : op.tier = tier)
    (hf : flanked before rest = false) (offset : Int) :
    joinAfter tier before (.operator op offset :: rest) =
      .error ⟨operandCause before op rest, offset⟩ := by
  rcases before with _ | _ | _ <;> rcases rest with _ | ⟨_ | _, _⟩ <;>
    simp_all [joinAfter, flanked, Token.isExpression]

/-- Of the tokens already passed only the latest can still change. -/
theorem joinTier_eq_joinAfter (tier : Tier) (passed rest : List Token) :
    joinTier tier passed rest =
      (passed.tail.reverse ++ ·) <$> joinAfter tier passed.head? rest := by
  have reverse_eq (passed : List Token) :
      passed.tail.reverse ++ passed.head?.toList = passed.reverse := by
    cases passed <;> simp
  -- the head of the tokens passed is the one that the pass may still change
  fun_induction joinTier tier passed rest with
  | case1 passed =>
    rw [joinAfter_nil, ← reverse_eq]
    rfl
  | case2 passed tree offset rest ih =>
    rw [ih, joinAfter_expression, Functor.map_map]
    simp only [List.tail_cons, List.head?_cons, ← List.append_assoc, reverse_eq]
  | case3 op offset hop left o passed right o' rest ih =>
    rw [ih, List.head?_cons, List.head?_cons, joinAfter_of_tier_eq hop]
    rfl
  | case4 op offset hop left _ right _ h =>
    rw [joinAfter_of_not_flanked hop]
    · rfl
    · apply flanked_eq_false
      rintro l o r o' more hl hr
      exact h l o r o' (by simpa using hl) (List.cons.inj hr).1
  | case5 passed op offset rest hop h₁ h₂ =>
    rcases passed with _ | ⟨left, passed⟩
    · rw [joinAfter_of_not_flanked hop rfl]
      rfl
    · rcases rest with _ | ⟨right, rest⟩
      · rw [joinAfter_of_not_flanked hop (by simp [flanked])]
        rfl
      · exact (h₂ _ _ _ _ rfl rfl).elim
  | case6 passed op offset rest hop ih =>
    rw [ih, joinAfter_of_tier_ne hop, Functor.map_map]
    simp only [List.tail_cons, List.head?_cons, ← List.append_assoc, reverse_eq]

theorem reduceTier_eq_joinAfter (tier : Tier) (ts : List Token) :
    reduceTier tier ts = joinAfter tier none ts := by
  rw [reduceTier, joinTier_eq_joinAfter]
  exact id_map _

/-! ## Stray operators -/

/-- An operator that lacks an expression on one of its sides; as the first or the last token it is
outermost. -/
structure Stray where
  op : Operator
  offset : Int
  outermost : Bool

/-- The token `t` as a stray operator between `before` and `rest`, if it is one. -/
def strayAt (before : Option Token) (t : Token) (rest : List Token) : Option Stray :=
  match t with
  | .expression _ _ => none
  | .operator op offset =>
    if flanked before rest then none else some ⟨op, offset, before.isNone || rest.isEmpty⟩

/-- The stray operators among tokens after `before`. -/
def strays (before : Option Token) : List Token → List Stray
  | [] => []
  | t :: rest => (strayAt before t rest).toList ++ strays (some t) rest

/-- The number of places where two expressions stand side by side. -/
def adjacencies : List Token → Nat
  | a :: b :: rest =>
    (if a.isExpression && b.isExpression then 1 else 0) + adjacencies (b :: rest)
  | _ => 0

/-- Two lists begin with the same kind of token, and have the same stray operators and as many
adjacent expressions. -/
structure SameOutline (us ts : List Token) : Prop where
  head_eq : us.head?.map Token.isExpression = ts.head?.map Token.isExpression
  strays_eq : ∀ before, strays before us = strays before ts
  adjacencies_eq : adjacencies us = adjacencies ts

theorem flanked_congr {b c : Option Token} {us vs : List Token}
    (h : b.map Token.isExpression = c.map Token.isExpression)
    (k : us.head?.map Token.isExpression = vs.head?.map Token.isExpression) :
    flanked b us = flanked c vs := by
  have any_eq (o : Option Token) :
      o.any Token.isExpression = (o.map Token.isExpression).getD false := by cases o <;> rfl
  rw [flanked, flanked, any_eq, any_eq, any_eq, any_eq, h, k]

theorem strayAt_congr {b c : Option Token} {us vs : List Token} (t : Token)
    (h : b.map Token.isExpression = c.map Token.isExpression)
    (k : us.head?.map Token.isExpression = vs.head?.map Token.isExpression) :
    strayAt b t us = strayAt c t vs := by
  cases t with
  | expression tree offset => rfl
  | operator op offset =>
    have hnone : b.isNone = c.isNone := by
      rw [← Option.isNone_map (f := Token.isExpression), h, Option.isNone_map]
    have hempty : us.isEmpty = vs.isEmpty := by
      rcases us with _ | ⟨u, us⟩ <;> rcases vs with _ | ⟨v, vs⟩ <;> simp_all
    rw [strayAt, strayAt, flanked_congr h k, hnone, hempty]

theorem strays_congr {b c : Option Token} (h : b.map Token.isExpression = c.map Token.isExpression)
    (ts : List Token) : strays b ts = strays c ts := by
  rcases ts with _ | ⟨t, rest⟩
  · rfl
  · rw [strays, strays, strayAt_congr t h rfl]

namespace SameOutline

theorem refl (ts : List Token) : SameOutline ts ts := ⟨rfl, fun _ => rfl, rfl⟩

theorem trans {us vs ws : List Token} (h : SameOutline us vs) (k : SameOutline vs ws) :
    SameOutline us ws :=
  ⟨h.head_eq.trans k.head_eq, fun b => (h.strays_eq b).trans (k.strays_eq b),
    h.adjacencies_eq.trans k.adjacencies_eq⟩

theorem cons {us vs : List Token} (h : SameOutline us vs) (t : Token) :
    SameOutline (t :: us) (t :: vs) := by
  -- whether `t` is stray depends on the kind of the next token only
  have hhead := h.head_eq
  refine ⟨rfl, fun b => ?_, ?_⟩
  · rw [strays, strays, strayAt_congr t rfl hhead, h.strays_eq]
  · rcases us with _ | ⟨u, us⟩ <;> rcases vs with _ | ⟨v, vs⟩
    · rfl
    · simp at hhead
    · simp at hhead
    · have hisExpression : u.isExpression = v.isExpression := by simpa using hhead
      rw [adjacencies, adjacencies, hisExpression, h.adjacencies_eq]

/-- An operator and its operands show the same outline as what is made of them. -/
theorem join (op : Operator) (left right : Expr) (o o₁ o₂ o₃ : Int) (rest : List Token) :
    SameOutline (.expression (.operation op left right) o :: rest)
      (.expression left o₁ :: .operator op o₂ :: .expression right o₃ :: rest) := by
  refine ⟨rfl, fun b => ?_, ?_⟩
  · show strays (some (.expression (.operation op left right) o)) rest =
      strays (some (.expression right o₃)) rest
    exact strays_congr (by rfl) rest
  · rcases rest with _ | ⟨t, rest⟩ <;> simp [adjacencies, Token.isExpression]

theorem eq_nil_iff {us vs : List Token} (h : SameOutline us vs) : us = [] ↔ vs = [] := by
  have := h.head_eq
  rcases us with _ | ⟨u, us⟩ <;> rcases vs with _ | ⟨v, vs⟩ <;> simp_all

end SameOutline

/-! ## One pass -/

theorem map_eq_ok {α β ε : Type} {f : α → β} {x : Except ε α} {b : β} (h : f <$> x = .ok b) :
    ∃ a, x = .ok a ∧ f a = b := by
  rcases x with e | a
  · cases h
  · exact ⟨a, rfl, Except.ok.inj h⟩

theorem sameOutline_of_joinAfter (h : joinAfter tier before rest = .ok out) :
    SameOutline out (before.toList ++ rest) := by
  have cons_toList {us vs : List Token} (b : Option Token) (h : SameOutline us vs) :
      SameOutline (b.toList ++ us) (b.toList ++ vs) := by
    rcases b with _ | t
    · exact h
    · exact h.cons t
  -- along the pass: tokens are kept as they are, or an operator is joined with its operands
  fun_induction joinAfter tier before rest generalizing out with
  | case1 before =>
    obtain rfl := Except.ok.inj h
    rw [List.append_nil]
    exact .refl _
  | case2 before tree offset rest ih =>
    obtain ⟨us, hus, rfl⟩ := map_eq_ok h
    exact cons_toList before (ih hus)
  | case3 op offset hop left o right o' rest ih =>
    exact (ih h).trans (.join op left right _ _ _ _ _)
  | case4 before op offset rest hop _ => cases h
  | case5 before op offset rest hop ih =>
    obtain ⟨us, hus, rfl⟩ := map_eq_ok h
    exact cons_toList before (ih hus)

theorem operator_mem_of_joinAfter (h : joinAfter tier before rest = .ok out) {op : Operator}
    {offset : Int} (hmem : .operator op offset ∈ out) :
    .operator op offset ∈ before.toList ∨ .operator op offset ∈ rest ∧ op.tier ≠ tier := by
  fun_induction joinAfter tier before rest generalizing out with
  | case1 before =>
    obtain rfl := Except.ok.inj h
    exact .inl hmem
  | case2 before tree o rest ih =>
    obtain ⟨us, hus, rfl⟩ := map_eq_ok h
    rcases List.mem_append.mp hmem with hmem | hmem
    · exact .inl hmem
    · simpa using Or.inr (ih hus hmem)
  | case3 op' o hop left o₁ right o₂ rest ih =>
    -- what was joined is an expression, so the operator comes from further on
    rcases ih h hmem with hmem | ⟨hmem, hne⟩
    · simp at hmem
    · exact .inr ⟨List.mem_cons_of_mem _ (List.mem_cons_of_mem _ hmem), hne⟩
  | case4 before op' o rest hop _ => cases h
  | case5 before op' o rest hop ih =>
    obtain ⟨us, hus, rfl⟩ := map_eq_ok h
    rcases List.mem_append.mp hmem with hmem | hmem
    · exact .inl hmem
    · rcases ih hus hmem with hmem | ⟨hmem, hne⟩
      · obtain ⟨rfl, rfl⟩ : op = op' ∧ offset = o := by simpa using hmem
        exact .inr ⟨List.mem_cons_self, hop⟩
      · exact .inr ⟨List.mem_cons_of_mem _ hmem, hne⟩

/-- No offset is new: an operation has the offset of its operator. -/
theorem exists_offset_eq_of_joinAfter (h : joinAfter tier before rest = .ok out) {t : Token}
    (ht : t ∈ out) : ∃ u ∈ before.toList ++ rest, u.offset = t.offset := by
  fun_induction joinAfter tier before rest generalizing out with
  | case1 before =>
    obtain rfl := Except.ok.inj h
    exact ⟨t, List.mem_append_left _ ht, rfl⟩
  | case2 before tree o rest ih | case5 before op o rest hop ih =>
    obtain ⟨us, hus, rfl⟩ := map_eq_ok h
    rcases List.mem_append.mp ht with ht | ht
    · exact ⟨t, List.mem_append_left _ ht, rfl⟩
    · obtain ⟨u, hu, hoffset⟩ := ih hus ht
      exact ⟨u, List.mem_append_right _ hu, hoffset⟩
  | case3 op o hop left o₁ right o₂ rest ih =>
    obtain ⟨u, hu, hoffset⟩ := ih h ht
    rcases List.mem_cons.mp hu with rfl | hrest
    · exact ⟨.operator op o, by simp, hoffset⟩
    · exact ⟨u, List.mem_cons_of_mem _ (List.mem_cons_of_mem _ (List.mem_cons_of_mem _ hrest)),
        hoffset⟩
  | case4 => cases h

/-- A fault reports a stray operator. -/
def Stray.Explains (s : Stray) (f : Fault) : Prop :=
  f.offset = s.offset ∧
    if s.outermost then f.cause = .missingOperand s.op
    else ∃ left right, f.cause = .invalidOperands s.op left right

theorem map_eq_error {α β ε : Type} {f : α → β} {x : Except ε α} {e : ε}
    (h : f <$> x = .error e) : x = .error e := by
  rcases x with e' | a
  · exact congrArg _ (Except.error.inj h)
  · cases h

/-- A pass that fails does so at the first stray operator of its tier. -/
theorem find?_strays_of_joinAfter {f : Fault} (h : joinAfter tier before rest = .error f) :
    ∃ s, (strays before rest).find? (fun s => s.op.tier = tier) = some s ∧ s.Explains f := by
  fun_induction joinAfter tier before rest with
  | case1 before => cases h
  | case2 before tree offset rest ih => exact ih (map_eq_error h)
  | case3 op offset hop left o right o' rest ih =>
    obtain ⟨s, hs, hf⟩ := ih h
    refine ⟨s, ?_, hf⟩
    -- for what follows, the operation is an expression like its right operand
    rwa [strays_congr (b := some (.expression (.operation op left right) offset))
      (c := some (.expression right o')) rfl] at hs
  | case4 before op offset rest hop hblocked =>
    -- the pass stops at this operator, and the search for stray ones finds it first
    obtain rfl := Except.error.inj h
    have hflanked := flanked_eq_false hblocked
    refine ⟨⟨op, offset, before.isNone || rest.isEmpty⟩, ?_, rfl, ?_⟩
    · simp [strays, strayAt, hflanked, hop]
    · rcases before with _ | left <;> rcases rest with _ | ⟨right, rest⟩ <;> simp [operandCause]
  | case5 before op offset rest hop ih =>
    obtain ⟨s, hs, hf⟩ := ih (map_eq_error h)
    refine ⟨s, ?_, hf⟩
    rw [strays, List.find?_append, List.find?_eq_none.mpr, Option.none_or, hs]
    intro s hs
    have : s.op = op := by
      simp [strayAt] at hs
      rw [← hs.2]
    simpa [this] using hop

/-! ## The three passes -/

/-- The stray operator that is reported: the first one of the highest tier that has any. -/
def firstStray (ts : List Token) : Option Stray :=
  let ofTier (tier : Tier) := (strays none ts).find? fun s => s.op.tier = tier
  (ofTier .power).or ((ofTier .product).or (ofTier .sum))

theorem mem_of_mem_strays {s : Stray} {before : Option Token} {ts : List Token}
    (h : s ∈ strays before ts) : .operator s.op s.offset ∈ ts := by
  induction ts generalizing before with
  | nil => simp [strays] at h
  | cons t rest ih =>
    rcases List.mem_append.mp h with h | h
    · rcases t with ⟨tree, o⟩ | ⟨op, o⟩
      · simp [strayAt] at h
      · obtain ⟨-, rfl⟩ : _ ∧ Stray.mk _ _ _ = s := by simpa [strayAt] using h
        exact List.mem_cons_self
    · exact List.mem_cons_of_mem _ (ih h)

theorem bind_eq_error {α β ε : Type} {x : Except ε α} {k : α → Except ε β} {e : ε}
    (h : x >>= k = .error e) : x = .error e ∨ ∃ a, x = .ok a ∧ k a = .error e := by
  rcases x with e' | a
  · exact .inl (congrArg _ (Except.error.inj h))
  · exact .inr ⟨a, rfl, h⟩

theorem bind_eq_ok {α β ε : Type} {x : Except ε α} {k : α → Except ε β} {b : β}
    (h : x >>= k = .ok b) : ∃ a, x = .ok a ∧ k a = .ok b := by
  rcases x with e' | a
  · cases h
  · exact ⟨a, rfl, h⟩

theorem mapError_eq_error {α ε ε' : Type} {x : Except ε α} {f : ε → ε'} {e : ε'}
    (h : x.mapError f = .error e) : ∃ e', x = .error e' ∧ f e' = e := by
  rcases x with e' | a
  · exact ⟨e', rfl, Except.error.inj h⟩
  · cases h

theorem mapError_eq_ok_iff {α ε ε' : Type} {x : Except ε α} {f : ε → ε'} {a : α} :
    x.mapError f = .ok a ↔ x = .ok a := by
  rcases x with e | b
  · exact ⟨nofun, nofun⟩
  · constructor
    · rintro ⟨⟩
      rfl
    · rintro ⟨⟩
      rfl

/-- After a tier is reduced the outline is the same and the operators are those of other tiers. -/
theorem reduceTier_ok (h : reduceTier tier ts = .ok out) :
    SameOutline out ts ∧
      ∀ op offset, .operator op offset ∈ out → .operator op offset ∈ ts ∧ op.tier ≠ tier := by
  rw [reduceTier_eq_joinAfter] at h
  refine ⟨sameOutline_of_joinAfter h, fun op offset hmem => ?_⟩
  simpa using operator_mem_of_joinAfter h hmem

theorem find?_strays_eq_none {us : List Token} (h : SameOutline us ts)
    (hus : ∀ op offset, .operator op offset ∈ us → op.tier ≠ tier) :
    (strays none ts).find? (fun s => s.op.tier = tier) = none := by
  rw [← h.strays_eq, List.find?_eq_none]
  intro s hs
  simpa using hus _ _ (mem_of_mem_strays hs)

theorem reduceAll_ok (h : reduceAll ts = .ok out) :
    SameOutline out ts ∧ ∀ t ∈ out, t.isExpression := by
  obtain ⟨us, hus, h⟩ := bind_eq_ok h
  obtain ⟨vs, hvs, h⟩ := bind_eq_ok h
  obtain ⟨houtline₁, hpower⟩ := reduceTier_ok hus
  obtain ⟨houtline₂, hproduct⟩ := reduceTier_ok hvs
  obtain ⟨houtline₃, hsum⟩ := reduceTier_ok h
  refine ⟨houtline₃.trans (houtline₂.trans houtline₁), fun t ht => ?_⟩
  -- an operator left over would be of a tier that was removed
  cases t with
  | expression tree offset => rfl
  | operator op offset =>
    have hsum := hsum op offset ht
    have hproduct := hproduct op offset hsum.1
    have hpower := hpower op offset hproduct.1
    cases htier : op.tier <;> simp_all

theorem exists_offset_eq_of_reduceAll (h : reduceAll ts = .ok out) {t : Token} (ht : t ∈ out) :
    ∃ u ∈ ts, u.offset = t.offset := by
  obtain ⟨us, hus, h⟩ := bind_eq_ok h
  obtain ⟨vs, hvs, h⟩ := bind_eq_ok h
  rw [reduceTier_eq_joinAfter] at hus hvs h
  obtain ⟨v, hv, hvoffset⟩ := exists_offset_eq_of_joinAfter h ht
  obtain ⟨u, hu, huoffset⟩ := exists_offset_eq_of_joinAfter hvs hv
  obtain ⟨u', hu', huoffset'⟩ := exists_offset_eq_of_joinAfter hus hu
  exact ⟨u', hu', huoffset'.trans (huoffset.trans hvoffset)⟩

theorem firstStray_of_reduceAll_error {f : Fault} (h : reduceAll ts = .error f) :
    ∃ s, firstStray ts = some s ∧ s.Explains f := by
  -- a pass that succeeds keeps the stray operators, none of them of its tier
  rcases bind_eq_error h with h | ⟨us, hus, h⟩
  · rw [reduceTier_eq_joinAfter] at h
    obtain ⟨s, hs, hf⟩ := find?_strays_of_joinAfter h
    exact ⟨s, by simp [firstStray, hs], hf⟩
  obtain ⟨houtline₁, hpower⟩ := reduceTier_ok hus
  have hnone₁ := find?_strays_eq_none houtline₁ fun op o h => (hpower op o h).2
  rcases bind_eq_error h with h | ⟨vs, hvs, h⟩
  · rw [reduceTier_eq_joinAfter] at h
    obtain ⟨s, hs, hf⟩ := find?_strays_of_joinAfter h
    rw [houtline₁.strays_eq] at hs
    exact ⟨s, by simp [firstStray, hs, hnone₁], hf⟩
  obtain ⟨houtline₂, hproduct⟩ := reduceTier_ok hvs
  have houtline := houtline₂.trans houtline₁
  have hnone₂ := find?_strays_eq_none houtline fun op o h => (hproduct op o h).2
  rw [reduceTier_eq_joinAfter] at h
  obtain ⟨s, hs, hf⟩ := find?_strays_of_joinAfter h
  rw [houtline.strays_eq] at hs
  exact ⟨s, by simp [firstStray, hs, hnone₁, hnone₂], hf⟩

theorem strays_eq_nil_of_reduceAll (h : reduceAll ts = .ok out) : strays none ts = [] := by
  obtain ⟨houtline, hout⟩ := reduceAll_ok h
  rw [← houtline.strays_eq, List.eq_nil_iff_forall_not_mem]
  intro s hs
  exact Bool.false_ne_true (hout _ (mem_of_mem_strays hs))

theorem length_of_forall_isExpression (h : ∀ t ∈ out, t.isExpression) :
    out.length = if out = [] then 0 else 1 + adjacencies out := by
  induction out with
  | nil => rfl
  | cons t rest ih =>
    rcases rest with _ | ⟨u, rest⟩
    · rfl
    · have ht : t.isExpression := h t (by simp)
      have hu : u.isExpression := h u (by simp)
      rw [List.length_cons, ih fun t ht => h t (List.mem_cons_of_mem _ ht)]
      simp only [adjacencies, ht, hu, reduceCtorEq, Bool.and_self, if_true, if_false]
      omega

theorem length_of_reduceAll (h : reduceAll ts = .ok out) :
    out.length = if ts = [] then 0 else 1 + adjacencies ts := by
  obtain ⟨houtline, hout⟩ := reduceAll_ok h
  rw [length_of_forall_isExpression hout, houtline.adjacencies_eq]
  simp only [houtline.eq_nil_iff]

/-! ## The place of a stray operator -/

/-- An operator of `ts`, after `c`, between `before` and `after` and without an expression on one
of its sides. -/
def Unflanked (c : Option Token) (ts before : List Token) (op : Operator) (offset : Int)
    (after : List Token) : Prop :=
  ts = before ++ .operator op offset :: after ∧ flanked (before.getLast?.or c) after = false

theorem unflanked_cons_iff {c : Option Token} {t : Token} {before after : List Token}
    {op : Operator} {offset : Int} :
    Unflanked c (t :: ts) before op offset after ↔
      (before = [] ∧ t = .operator op offset ∧ ts = after ∧ flanked c ts = false) ∨
        ∃ bs, before = t :: bs ∧ Unflanked (some t) ts bs op offset after := by
  -- what stands in front of the operator is the last token before it, or else `c`
  rcases before with _ | ⟨b, bs⟩
  · constructor
    · rintro ⟨hts, hf⟩
      obtain ⟨rfl, rfl⟩ := List.cons.inj hts
      exact .inl ⟨rfl, rfl, rfl, hf⟩
    · rintro (⟨-, rfl, rfl, hf⟩ | ⟨bs, hbs, -⟩)
      · exact ⟨rfl, hf⟩
      · cases hbs
  · have hlast : (b :: bs).getLast?.or c = bs.getLast?.or (some b) := by
      rw [List.getLast?_cons]
      cases bs.getLast? <;> rfl
    constructor
    · rintro ⟨hts, hf⟩
      obtain ⟨rfl, rfl⟩ := List.cons.inj hts
      exact .inr ⟨bs, rfl, rfl, by rwa [← hlast]⟩
    · rintro (⟨hbs, -⟩ | ⟨bs', hbs, rfl, hf⟩)
      · cases hbs
      · obtain ⟨rfl, rfl⟩ := List.cons.inj hbs
        exact ⟨rfl, by rwa [hlast]⟩

theorem tier_ne_of_find?_strays {c : Option Token}
    (h : (strays c ts).find? (fun s => s.op.tier = tier) = none)
    {before after : List Token} {op : Operator} {offset : Int}
    (hm : Unflanked c ts before op offset after) : op.tier ≠ tier := by
  induction ts generalizing c before with
  | nil => simp [Unflanked] at hm
  | cons t ts ih =>
    rw [strays, List.find?_append, Option.or_eq_none_iff] at h
    rcases unflanked_cons_iff.mp hm with ⟨-, rfl, rfl, hf⟩ | ⟨bs, -, hm⟩
    · simpa [strayAt, hf] using h.1
    · exact ih h.2 hm

theorem exists_unflanked_of_find?_strays {c : Option Token} {s : Stray}
    (h : (strays c ts).find? (fun s => s.op.tier = tier) = some s) :
    ∃ before after, Unflanked c ts before s.op s.offset after ∧
      (s.outermost = (before.isEmpty && c.isNone || after.isEmpty)) ∧
      ∀ before' op offset after', Unflanked c ts before' op offset after' → op.tier = tier →
        before.length ≤ before'.length := by
  induction ts generalizing c with
  | nil => simp [strays] at h
  | cons t ts ih =>
    -- the first token is the stray one, or the search goes on behind it
    rw [strays, List.find?_append, Option.or_eq_some_iff] at h
    rcases h with h | ⟨hat, h⟩
    · rcases t with ⟨tree, o⟩ | ⟨op, o⟩
      · simp [strayAt] at h
      · cases hf : flanked c ts with
        | true => simp [strayAt, hf] at h
        | false =>
          obtain ⟨-, rfl⟩ : _ ∧ Stray.mk _ _ _ = s := by simpa [strayAt, hf] using h
          exact ⟨[], ts, ⟨rfl, hf⟩, rfl, fun _ _ _ _ _ _ => Nat.zero_le _⟩
    · obtain ⟨before, after, hm, hout, hfirst⟩ := ih h
      refine ⟨t :: before, after, unflanked_cons_iff.mpr (.inr ⟨before, rfl, hm⟩), ?_, ?_⟩
      · simpa using hout
      · intro before' op offset after' hm' htier
        rcases unflanked_cons_iff.mp hm' with ⟨-, rfl, rfl, hf⟩ | ⟨bs, rfl, hbs⟩
        · simp [strayAt, hf, htier] at hat
        · exact Nat.succ_le_succ (hfirst bs op offset after' hbs htier)

/-- An operator of `ts` that does not stand directly between two expressions. -/
def Misplaced (ts before : List Token) (op : Operator) (offset : Int) (after : List Token) :
    Prop :=
  ts = before ++ .operator op offset :: after ∧
    ¬ (before.getLast?.any Token.isExpression ∧ after.head?.any Token.isExpression)

theorem misplaced_iff {before after : List Token} {op : Operator} {offset : Int} :
    Misplaced ts before op offset after ↔ Unflanked none ts before op offset after := by
  simp [Misplaced, Unflanked, flanked]

theorem misplaced_of_firstStray {s : Stray} (h : firstStray ts = some s) :
    ∃ before after, Misplaced ts before s.op s.offset after ∧
      (s.outermost ↔ before = [] ∨ after = []) ∧
      ∀ before' op offset after', Misplaced ts before' op offset after' →
        op.tier.rank ≤ s.op.tier.rank ∧ (op.tier = s.op.tier → before.length ≤ before'.length) := by
  -- a tier that is passed over has no stray operator, and the first one found has the tier sought
  have found {tier : Tier} (hs : (strays none ts).find? (fun s => s.op.tier = tier) = some s)
      (hrank : ∀ before' op offset after', Misplaced ts before' op offset after' →
        op.tier.rank ≤ tier.rank) :
      ∃ before after, Misplaced ts before s.op s.offset after ∧
        (s.outermost ↔ before = [] ∨ after = []) ∧
        ∀ before' op offset after', Misplaced ts before' op offset after' →
          op.tier.rank ≤ s.op.tier.rank ∧
            (op.tier = s.op.tier → before.length ≤ before'.length) := by
    obtain rfl : s.op.tier = tier := by simpa using List.find?_some hs
    obtain ⟨before, after, hm, hout, hfirst⟩ := exists_unflanked_of_find?_strays hs
    refine ⟨before, after, misplaced_iff.mpr hm, by simp [hout], fun b op o a hm' => ?_⟩
    exact ⟨hrank b op o a hm', hfirst b op o a (misplaced_iff.mp hm')⟩
  simp only [firstStray, Option.or_eq_some_iff] at h
  rcases h with h | ⟨hpower, h | ⟨hproduct, h⟩⟩
  · exact found h fun _ op _ _ _ => by cases op <;> decide
  · refine found h fun _ op _ _ hm => ?_
    have := tier_ne_of_find?_strays hpower (misplaced_iff.mp hm)
    cases op <;> simp_all [Operator.tier, Tier.rank]
  · refine found h fun _ op _ _ hm => ?_
    have := tier_ne_of_find?_strays hpower (misplaced_iff.mp hm)
    have := tier_ne_of_find?_strays hproduct (misplaced_iff.mp hm)
    cases op <;> simp_all [Operator.tier, Tier.rank]

/-! ## The expression of a scope -/

/-- The outcome of a scope without tokens. -/
theorem Scope.close_nil (config : ParserConfig) (openedAt : Option Int) (offset : Int) :
    Scope.close config openedAt offset [] =
      match openedAt with
      | some opened => .error ⟨.emptyBrackets, opened⟩
      | none =>
        if config.allowEmpty then .ok (.value config.emptyValue)
        else .error ⟨.emptyExpression, offset⟩ := by
  cases openedAt <;> rfl

/-- What a scope makes of its tokens: apart from the empty scope, it is decided by the reduction. -/
theorem Scope.close_cases (config : ParserConfig) (openedAt : Option Int) (offset : Int)
    (ts : List Token) :
    ts = [] ∨
      (∃ f, reduceAll ts = .error f ∧ Scope.close config openedAt offset ts = .error f) ∨
      (∃ tree o, reduceAll ts = .ok [.expression tree o] ∧
        Scope.close config openedAt offset ts = .ok tree) ∨
      ∃ out t, out ≠ [] ∧ reduceAll ts = .ok (out ++ [t]) ∧
        Scope.close config openedAt offset ts = .error ⟨.surplusExpression, t.offset⟩ := by
  rcases hr : reduceAll ts with f | out
  · refine .inr (.inl ⟨f, rfl, ?_⟩)
    unfold Scope.close
    rw [hr]
    rfl
  · -- by the number of expressions that are left
    obtain ⟨houtline, hout⟩ := reduceAll_ok hr
    rcases out with _ | ⟨t, _ | ⟨u, more⟩⟩
    · exact .inl (houtline.eq_nil_iff.mp rfl)
    · rcases t with ⟨tree, o⟩ | ⟨op, o⟩
      · refine .inr (.inr (.inl ⟨tree, o, rfl, ?_⟩))
        unfold Scope.close
        rw [hr]
        rfl
      · exact absurd (hout _ List.mem_cons_self) Bool.false_ne_true
    · have hne : u :: more ≠ [] := List.cons_ne_nil _ _
      refine .inr (.inr (.inr
        ⟨t :: (u :: more).dropLast, (u :: more).getLast hne, by simp, ?_, ?_⟩))
      · rw [List.cons_append, List.dropLast_concat_getLast]
      · unfold Scope.close
        rw [hr]
        cases t <;> rfl

/-- **The outcome of a reduction**: it fails exactly if an operator is misplaced, and reports the
first misplaced one of the highest tier that has any; otherwise only expressions are left, one more
than there are places where two of them were adjacent.  The scope falls through to its empty case
only without tokens. -/
theorem reduceAll_outcome (ts : List Token) :
    (match reduceAll ts with
      | .error f => ∃ before op after, Misplaced ts before op f.offset after ∧
          (∀ before' op' offset after', Misplaced ts before' op' offset after' →
            op'.tier.rank ≤ op.tier.rank ∧
              (op'.tier = op.tier → before.length ≤ before'.length)) ∧
          if before = [] ∨ after = [] then f.cause = .missingOperand op
          else ∃ left right, f.cause = .invalidOperands op left right
      | .ok out => (∀ before op offset after, ¬ Misplaced ts before op offset after) ∧
          (∀ t ∈ out, t.isExpression) ∧
          out.length = if ts = [] then 0 else 1 + adjacencies ts) ∧
    ∀ config openedAt offset, ts = [] ∨
      (∃ f, reduceAll ts = .error f ∧ Scope.close config openedAt offset ts = .error f) ∨
      (∃ tree o, reduceAll ts = .ok [.expression tree o] ∧
        Scope.close config openedAt offset ts = .ok tree) ∨
      ∃ out t, out ≠ [] ∧ reduceAll ts = .ok (out ++ [t]) ∧
        Scope.close config openedAt offset ts = .error ⟨.surplusExpression, t.offset⟩ := by
  refine ⟨?_, fun config openedAt offset => Scope.close_cases config openedAt offset ts⟩
  rcases hr : reduceAll ts with f | out
  · obtain ⟨s, hs, hoffset, hcause⟩ := firstStray_of_reduceAll_error hr
    obtain ⟨before, after, hm, hout, hfirst⟩ := misplaced_of_firstStray hs
    refine ⟨before, s.op, after, hoffset ▸ hm, hfirst, ?_⟩
    simpa only [hout] using hcause
  · -- a misplaced operator would be stray on the tokens as they were read
    refine ⟨fun before op offset after hm => ?_, (reduceAll_ok hr).2, length_of_reduceAll hr⟩
    have hnone : (strays none ts).find? (fun s => s.op.tier = op.tier) = none := by
      rw [strays_eq_nil_of_reduceAll hr]
      rfl
    exact tier_ne_of_find?_strays hnone (misplaced_iff.mp hm) rfl

end Calculator
