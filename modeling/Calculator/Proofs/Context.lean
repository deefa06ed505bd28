import Calculator.Proofs.RoundTrip

/-!
# Operands in their place

An operand of an expression stands in a place: the operations that it belongs to, from the innermost
to the outermost.  The text of the expression is the text of the operand with what is written on
both sides of its place.

## Main definitions

* `Context`: an expression with one place left open
* `Context.fill k e`: the expression with `e` in that place
* `Context.outer`: the operator that the place belongs to
* `Context.before`, `Context.after`: the text in front of the place and behind it
* `Context.lexemesBefore`, `Context.lexemesAfter`: the lexemes of these texts

## Main results

* `Context.chars_fill`: the text of an expression around one of its operands
* `Context.splits_around`: the lexemes of a text that is put into the place
-/

namespace Calculator

open Text

variable {cs : List Char} {ls : List Lexeme}

/-- An expression with one place left open, where an operand may stand. -/
inductive Context where
  /-- The place is the whole expression. -/
  | root
  /-- The place is the left operand of an operation, which has a place of its own. -/
  | left (op : Operator) (right : Expr) (around : Context)
  /-- The place is the right operand of an operation, which has a place of its own. -/
  | right (op : Operator) (left : Expr) (around : Context)

namespace Context

/-- The expression with an operand in the open place. -/
def fill : Context → Expr → Expr
  | root, e => e
  | left op r around, e => around.fill (.operation op e r)
  | right op l around, e => around.fill (.operation op l e)

/-- The operator whose operand the place is. -/
def outer : Context → Option Operator
  | root => none
  | left op _ _ => some op
  | right op _ _ => some op

/-- The bracket that an operation with the operator `op` has on one side in this place, if it is
written with brackets. -/
def bracket {α : Type} (k : Context) (op : Operator) (b : α) : List α :=
  if op.bareUnder k.outer then [] else [b]

/-- The characters in front of the place. -/
def before : Context → List Char
  | root => []
  | left op _ around => around.before ++ around.bracket op '('
  | right op l around =>
    around.before ++ (around.bracket op '(' ++ (l.chars (some op) ++ [' ', op.symbol, ' ']))

/-- The characters behind the place. -/
def after : Context → List Char
  | root => []
  | left op r around =>
    ' ' :: op.symbol :: ' ' :: (r.chars (some op) ++ (around.bracket op ')' ++ around.after))
  | right op _ around => around.bracket op ')' ++ around.after

/-- The lexemes in front of the place. -/
def lexemesBefore : Context → List Lexeme
  | root => []
  | left op _ around => around.lexemesBefore ++ around.bracket op .opening
  | right op l around =>
    around.lexemesBefore ++ (around.bracket op .opening ++ l.lexemesUnder (some op)) ++
      [.operator op]

/-- The lexemes behind the place. -/
def lexemesAfter : Context → List Lexeme
  | root => []
  | left op r around =>
    .operator op ::
      (r.lexemesUnder (some op) ++ (around.bracket op .closing ++ around.lexemesAfter))
  | right op _ around => around.bracket op .closing ++ around.lexemesAfter

/-! ## The text around an operand -/

/-- **The text of an expression** around the operand in one of its places. -/
theorem chars_fill (k : Context) (e : Expr) :
    (k.fill e).chars none = k.before ++ (e.chars k.outer ++ k.after) := by
  induction k generalizing e with
  | root => exact (List.append_nil _).symm
  | left op r around ih =>
    rw [fill, ih, Expr.chars, before, after, outer, bracket, bracket]
    cases op.bareUnder around.outer <;> simp
  | right op l around ih =>
    rw [fill, ih, Expr.chars, before, after, outer, bracket, bracket]
    cases op.bareUnder around.outer <;> simp

theorem lexemesUnder_fill (k : Context) (e : Expr) :
    (k.fill e).lexemesUnder none =
      k.lexemesBefore ++ (e.lexemesUnder k.outer ++ k.lexemesAfter) := by
  induction k generalizing e with
  | root => exact (List.append_nil _).symm
  | left op r around ih =>
    rw [fill, ih, Expr.lexemesUnder, lexemesBefore, lexemesAfter, outer, bracket, bracket]
    cases op.bareUnder around.outer <;> simp
  | right op l around ih =>
    rw [fill, ih, Expr.lexemesUnder, lexemesBefore, lexemesAfter, outer, bracket, bracket]
    cases op.bareUnder around.outer <;> simp

theorem occurrences_subset_fill (k : Context) (e : Expr) :
    e.occurrences ⊆ (k.fill e).occurrences := by
  induction k generalizing e with
  | root => exact List.Subset.refl _
  | left op r around ih =>
    exact List.Subset.trans (List.subset_append_left _ _) (ih (.operation op e r))
  | right op l around ih =>
    exact List.Subset.trans (List.subset_append_right _ _) (ih (.operation op l e))

theorem numbers_subset_fill (k : Context) (e : Expr) : e.numbers ⊆ (k.fill e).numbers := by
  induction k generalizing e with
  | root => exact List.Subset.refl _
  | left op r around ih =>
    exact List.Subset.trans (List.subset_append_left _ _) (ih (.operation op e r))
  | right op l around ih =>
    exact List.Subset.trans (List.subset_append_right _ _) (ih (.operation op l e))

/-! ## The lexemes of a text in a place -/

theorem splits_opening (k : Context) (op : Operator) (h : Splits cs ls) :
    Splits (k.bracket op '(' ++ cs) (k.bracket op .opening ++ ls) := by
  rw [bracket, bracket]
  split
  · exact h
  · exact .lexeme .opening trivial h

theorem splits_closing (k : Context) (op : Operator) (h : Splits cs ls) :
    Splits (k.bracket op ')' ++ cs) (k.bracket op .closing ++ ls) := by
  rw [bracket, bracket]
  split
  · exact h
  · exact .lexeme .closing trivial h

theorem boundary_closing (k : Context) (op : Operator) (h : Boundary cs) :
    Boundary (k.bracket op ')' ++ cs) := by
  rw [bracket]
  split
  · exact h
  · exact boundary_cons (by decide) (by decide) cs

theorem splits_before {k : Context} {e : Expr}
    (hnames : ∀ name ∈ (k.fill e).occurrences, isIdentifier name = true) (h : Splits cs ls) :
    Splits (k.before ++ cs) (k.lexemesBefore ++ ls) := by
  induction k generalizing e cs ls with
  | root => exact h
  | left op r around ih =>
    rw [before, lexemesBefore, List.append_assoc, List.append_assoc]
    exact ih hnames (around.splits_opening op h)
  | right op l around ih =>
    have hl : ∀ name ∈ l.occurrences, isIdentifier name = true := fun name hname =>
      hnames name (occurrences_subset_fill around (.operation op l e)
        (List.mem_append_left _ hname))
    -- the left operand, and the operator between two spaces
    have hspace : isSpace ' ' = true := by decide
    have hoperator : Splits (' ' :: op.symbol :: ' ' :: cs) (.operator op :: ls) :=
      .space hspace (.operator op (.space hspace h))
    have hoperand : Splits (l.chars (some op) ++ ' ' :: op.symbol :: ' ' :: cs)
        (l.lexemesUnder (some op) ++ .operator op :: ls) :=
      Expr.splits_chars hl (boundary_cons (by decide) (by decide) _) hoperator
    have hall := ih hnames (around.splits_opening op hoperand)
    simpa [before, lexemesBefore] using hall

theorem splits_after {k : Context} {e : Expr}
    (hnames : ∀ name ∈ (k.fill e).occurrences, isIdentifier name = true) :
    Boundary k.after ∧ Splits k.after k.lexemesAfter := by
  induction k generalizing e with
  | root => exact ⟨boundary_nil, .nil⟩
  | left op r around ih =>
    obtain ⟨hboundary, hsplits⟩ := ih hnames
    have hr : ∀ name ∈ r.occurrences, isIdentifier name = true := fun name hname =>
      hnames name (occurrences_subset_fill around (.operation op e r)
        (List.mem_append_right _ hname))
    have hspace : isSpace ' ' = true := by decide
    have hoperand : Splits (r.chars (some op) ++ _) (r.lexemesUnder (some op) ++ _) :=
      Expr.splits_chars hr (around.boundary_closing op hboundary)
        (around.splits_closing op hsplits)
    exact ⟨boundary_cons (by decide) (by decide) _,
      .space hspace (.operator op (.space hspace hoperand))⟩
  | right op l around ih =>
    obtain ⟨hboundary, hsplits⟩ := ih hnames
    exact ⟨around.boundary_closing op hboundary, around.splits_closing op hsplits⟩

/-- **A text in a place** has the lexemes that it has by itself, between those of what stands around
it. -/
theorem splits_around {k : Context} {e : Expr}
    (hnames : ∀ name ∈ (k.fill e).occurrences, isIdentifier name = true) (h : Splits cs ls) :
    Splits (k.before ++ (cs ++ k.after)) (k.lexemesBefore ++ (ls ++ k.lexemesAfter)) := by
  obtain ⟨hboundary, hafter⟩ := splits_after hnames
  exact splits_before hnames (h.append hboundary hafter)

end Context

end Calculator
