/-!
# Balance of brackets

The depth of a list is the number of its opening brackets less that of its closing ones.  Which
items are brackets is left to a function `side`, so that characters, lexemes and lexemes with their
offsets share one theory.

## Main definitions

* `depth side xs`: how many brackets are open after `xs`
* `Balanced side xs`: every bracket of `xs` has its partner in `xs`
-/

namespace Calculator

variable {α : Type} {side : α → Int} {xs ys : List α} {x y : α}

/-- How many more brackets a list opens than it closes. -/
def depth (side : α → Int) : List α → Int
  | [] => 0
  | x :: xs => side x + depth side xs

@[simp] theorem depth_nil : depth side [] = 0 := rfl

@[simp] theorem depth_cons : depth side (x :: xs) = side x + depth side xs := rfl

@[simp] theorem depth_append : depth side (xs ++ ys) = depth side xs + depth side ys := by
  induction xs with
  | nil => rw [List.nil_append, depth_nil, Int.zero_add]
  | cons x xs ih => rw [List.cons_append, depth_cons, depth_cons, ih, Int.add_assoc]

theorem depth_eq_zero (h : ∀ x ∈ xs, side x = 0) : depth side xs = 0 := by
  induction xs with
  | nil => rfl
  | cons x xs ih =>
    rw [depth_cons, h x List.mem_cons_self, ih fun x hx => h x (List.mem_cons_of_mem _ hx)]
    rfl

/-- **Balanced brackets**: as many close as open, and none before it was opened. -/
structure Balanced (side : α → Int) (xs : List α) : Prop where
  depth_eq : depth side xs = 0
  depth_nonneg : ∀ us vs, xs = us ++ vs → 0 ≤ depth side us

namespace Balanced

theorem nil : Balanced side [] := by
  refine ⟨rfl, fun us vs h => ?_⟩
  obtain ⟨rfl, rfl⟩ := List.append_eq_nil_iff.mp h.symm
  exact Int.le_refl 0

theorem append (hx : Balanced side xs) (hy : Balanced side ys) : Balanced side (xs ++ ys) := by
  refine ⟨by rw [depth_append, hx.depth_eq, hy.depth_eq]; rfl, fun us vs h => ?_⟩
  rcases List.append_eq_append_iff.mp h with ⟨ws, rfl, hws⟩ | ⟨ws, hws, rfl⟩
  · rw [depth_append, hx.depth_eq, Int.zero_add]
    exact hy.depth_nonneg ws vs hws
  · exact hx.depth_nonneg us ws hws

/-- An item that is no bracket changes nothing. -/
theorem cons (hx : side x = 0) (h : Balanced side xs) : Balanced side (x :: xs) := by
  refine ⟨by rw [depth_cons, hx, h.depth_eq]; rfl, fun us vs hus => ?_⟩
  rcases us with _ | ⟨u, us⟩
  · exact Int.le_refl 0
  · obtain ⟨rfl, htail⟩ := List.cons.inj hus
    rw [depth_cons, hx, Int.zero_add]
    exact h.depth_nonneg us vs htail

/-- Without brackets nothing is out of balance. -/
theorem of_forall (h : ∀ x ∈ xs, side x = 0) : Balanced side xs := by
  induction xs with
  | nil => exact .nil
  | cons x xs ih =>
    exact .cons (h x List.mem_cons_self) (ih fun y hy => h y (List.mem_cons_of_mem _ hy))

/-- A balanced list between two brackets. -/
theorem group (hx : side x = 1) (hy : side y = -1) (h : Balanced side xs) :
    Balanced side (x :: (xs ++ [y])) := by
  refine ⟨by simp [hx, hy, h.depth_eq], fun us vs hus => ?_⟩
  rcases us with _ | ⟨u, us⟩
  · exact Int.le_refl 0
  obtain ⟨rfl, htail⟩ := List.cons.inj hus
  rw [depth_cons, hx]
  -- the list is cut behind all that stands between the brackets, or within it
  rcases List.append_eq_append_iff.mp htail with ⟨ws, rfl, hws⟩ | ⟨ws, hws, -⟩
  · rw [depth_append, h.depth_eq]
    rcases ws with _ | ⟨w, ws⟩
    · rw [depth_nil]
      decide
    · obtain ⟨rfl, hnil⟩ := List.cons.inj hws
      obtain ⟨rfl, -⟩ := List.append_eq_nil_iff.mp hnil.symm
      rw [depth_cons, hy, depth_nil]
      decide
  · have := h.depth_nonneg us ws hws
    omega

/-- A balanced list is over before anything that closes more brackets than it opens. -/
theorem exists_of_depth_neg (h : Balanced side xs) {us vs : List α}
    (heq : xs ++ y :: ys = us ++ vs) (hus : depth side us < 0) :
    ∃ ws, us = xs ++ y :: ws ∧ ys = ws ++ vs := by
  rcases List.append_eq_append_iff.mp heq with ⟨ws, rfl, hws⟩ | ⟨ws, hws, -⟩
  · rcases ws with _ | ⟨w, ws⟩
    · rw [List.append_nil, h.depth_eq] at hus
      exact absurd hus (Int.lt_irrefl 0)
    · obtain ⟨rfl, hys⟩ := List.cons.inj hws
      exact ⟨ws, rfl, hys⟩
  · exact absurd (h.depth_nonneg us ws hws) (Int.not_le.mpr hus)

/-- A balanced list has not begun after anything that opens more brackets than it closes. -/
theorem exists_of_depth_pos (h : Balanced side xs) {us vs : List α}
    (heq : ys ++ y :: xs = us ++ vs) (hvs : 0 < depth side vs) :
    ∃ ws, vs = ws ++ y :: xs ∧ ys = us ++ ws := by
  rcases List.append_eq_append_iff.mp heq with ⟨ws, rfl, hws⟩ | ⟨ws, rfl, hws⟩
  · rcases ws with _ | ⟨w, ws⟩
    · exact ⟨[], hws.symm, by simp⟩
    · have htail : xs = ws ++ vs := (List.cons.inj hws).2
      have hnonneg := h.depth_nonneg ws vs htail
      have htotal := h.depth_eq
      rw [htail, depth_append] at htotal
      omega
  · exact ⟨ws, hws, rfl⟩

end Balanced

end Calculator
