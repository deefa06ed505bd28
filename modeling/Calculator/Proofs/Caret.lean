import Calculator.Proofs.FirstFault
import Mathlib.Data.List.DropRight

/-!
# The caret of a diagnostic

A diagnostic shows its message, the whole input, and a caret after as many spaces as there are
characters in front of the one that it reports.  What a line break is depends on the terminal: the
results are about any choice of characters that break lines, the newline being one of them.

## Main definitions

* `lineAt isBreak cs i`, `columnAt isBreak cs i`: the line and the column of a place in a text
* `ParseError.CaretBelow isBreak e`: the caret of `e` stands right below the character reported

## Main results

* `ParseError.lineAt_caretPlace`, `ParseError.columnAt_caretPlace`: where the caret stands
* `Expr.parse_caretBelow_iff`: it stands below the reported character exactly if the input is a
  single line
-/

namespace Calculator

variable {isBreak : Char → Bool} {cs : List Char} {b : Char} {i : Nat}

/-! ## Lines and columns -/

/-- The line of the place `i` in a text, counted from 0: the number of breaks in front of it. -/
def lineAt (isBreak : Char → Bool) (cs : List Char) (i : Nat) : Nat :=
  (cs.take i).countP isBreak

/-- The number of characters from the beginning of its line to the place `i`. -/
def columnAt (isBreak : Char → Bool) (cs : List Char) (i : Nat) : Nat :=
  ((cs.take i).rtakeWhile fun c => !isBreak c).length

theorem lineAt_append (pre cs : List Char) (i : Nat) :
    lineAt isBreak (pre ++ cs) (pre.length + i) = pre.countP isBreak + lineAt isBreak cs i := by
  rw [lineAt, List.take_length_add_append, List.countP_append, lineAt]

theorem rtakeWhile_append_break (hb : isBreak b = true) (pre cs : List Char) :
    (pre ++ b :: cs).rtakeWhile (fun c => !isBreak c) = cs.rtakeWhile fun c => !isBreak c := by
  induction cs using List.reverseRecOn with
  | nil => rw [List.rtakeWhile_concat_neg _ _ b (by simp [hb]), List.rtakeWhile_nil]
  | append_singleton cs c ih =>
    rw [← List.cons_append, ← List.append_assoc, List.rtakeWhile_concat, List.rtakeWhile_concat, ih]

/-- Columns begin anew after a break. -/
theorem columnAt_append_break (hb : isBreak b = true) (pre cs : List Char) (i : Nat) :
    columnAt isBreak (pre ++ b :: cs) (pre.length + (1 + i)) = columnAt isBreak cs i := by
  rw [columnAt, List.take_length_add_append, Nat.add_comm 1 i, List.take_succ_cons,
    rtakeWhile_append_break hb, columnAt]

/-- A place is as far from the beginning of its line as from that of the text exactly if it is in
the first line. -/
theorem columnAt_eq_self_iff (hi : i ≤ cs.length) :
    columnAt isBreak cs i = i ↔ ∀ c ∈ cs.take i, isBreak c = false := by
  have hlength : (cs.take i).length = i := List.length_take_of_le hi
  have hsuffix := List.rtakeWhile_suffix (fun c => !isBreak c) (cs.take i)
  calc columnAt isBreak cs i = i
      ↔ ((cs.take i).rtakeWhile fun c => !isBreak c).length = (cs.take i).length := by
        rw [hlength, columnAt]
    _ ↔ ((cs.take i).rtakeWhile fun c => !isBreak c) = cs.take i := hsuffix.sublist.length_eq
    _ ↔ ∀ c ∈ cs.take i, isBreak c = false := by
        simp only [List.rtakeWhile_eq_self_iff, Bool.not_eq_true']

/-! ## The place of the caret -/

namespace ParseError

/-- The number of characters that are shown in front of the input. -/
def quotePlace (e : ParseError) : Nat :=
  e.cause.message.length + 2

/-- The place of the reported character in the input: the one in front of the offset. -/
def place (e : ParseError) : Nat :=
  (e.position.offset - 1).toNat

/-- The place of the last character that is shown. -/
def caretPlace (e : ParseError) : Nat :=
  e.message.length - 1

/-- The line that is shown last holds spaces and a caret, it is the one after the line that shows
the reported character, and the caret is in the column of this character. -/
structure CaretBelow (isBreak : Char → Bool) (e : ParseError) : Prop where
  ends_with_caret : ∃ shown, e.message.toList =
    shown ++ '\n' :: (List.replicate (columnAt isBreak e.message.toList e.caretPlace) ' ' ++ ['^'])
  line_eq : lineAt isBreak e.message.toList e.caretPlace =
    lineAt isBreak e.message.toList (e.quotePlace + e.place) + 1
  column_eq : columnAt isBreak e.message.toList e.caretPlace =
    columnAt isBreak e.message.toList (e.quotePlace + e.place)

variable (e : ParseError)

/-- A message is what says what is wrong, an empty line, the input, and the caret line. -/
theorem toList_message : e.message.toList =
    (e.cause.message.toList ++ ['\n']) ++ '\n' :: (e.position.text.toList ++
      '\n' :: (List.replicate e.place ' ' ++ ['^'])) := by
  simp [message, Position.render, Position.caret, place]

theorem toList_message_caret : e.message.toList =
    (e.cause.message.toList ++ ['\n'] ++ '\n' :: e.position.text.toList) ++
      '\n' :: (List.replicate e.place ' ' ++ ['^']) := by
  simp [toList_message]

theorem length_before_quote : (e.cause.message.toList ++ ['\n']).length + 1 = e.quotePlace := by
  rw [List.length_append, String.length_toList, quotePlace]
  rfl

theorem caretPlace_eq :
    e.caretPlace = e.quotePlace + (e.position.text.toList.length + (1 + e.place)) := by
  rw [caretPlace, ← String.length_toList, toList_message, ← length_before_quote]
  simp only [List.length_append, List.length_cons, List.length_replicate, List.length_nil]
  omega

/-- The caret stands as far from the left as the reported character from the beginning of the
input. -/
theorem columnAt_caretPlace (hnewline : isBreak '\n' = true) (hspace : isBreak ' ' = false) :
    columnAt isBreak e.message.toList e.caretPlace = e.place := by
  have hplace : e.caretPlace = (e.cause.message.toList ++ ['\n'] ++
      '\n' :: e.position.text.toList).length + (1 + e.place) := by
    rw [caretPlace_eq, ← length_before_quote]
    simp only [List.length_append, List.length_cons]
    omega
  have htake : (List.replicate e.place ' ' ++ ['^']).take e.place = List.replicate e.place ' ' :=
    List.take_left' List.length_replicate
  rw [toList_message_caret, hplace, columnAt_append_break hnewline, columnAt_eq_self_iff (by simp),
    htake]
  intro c hc
  rw [List.eq_of_mem_replicate hc, hspace]

theorem columnAt_reported (hnewline : isBreak '\n' = true)
    (hplace : e.place ≤ e.position.text.toList.length) :
    columnAt isBreak e.message.toList (e.quotePlace + e.place) =
      columnAt isBreak e.position.text.toList e.place := by
  rw [toList_message, ← length_before_quote, Nat.add_assoc, columnAt_append_break hnewline,
    columnAt, List.take_append_of_le_length hplace, columnAt]

/-- The caret line comes after all lines of the input that are below that of the reported
character. -/
theorem lineAt_caretPlace (hnewline : isBreak '\n' = true) (hspace : isBreak ' ' = false)
    (hplace : e.place ≤ e.position.text.toList.length) :
    lineAt isBreak e.message.toList e.caretPlace =
      lineAt isBreak e.message.toList (e.quotePlace + e.place) +
        (e.position.text.toList.drop e.place).countP isBreak + 1 := by
  have hshown : e.message.toList = e.cause.message.toList ++ ['\n'] ++ ['\n'] ++
      (e.position.text.toList ++ ('\n' :: (List.replicate e.place ' ' ++ ['^']))) := by
    simp [toList_message]
  have hquote : e.quotePlace = (e.cause.message.toList ++ ['\n'] ++ ['\n']).length := by
    rw [List.length_append, ← length_before_quote, List.length_singleton]
  have hcaret : lineAt isBreak ('\n' :: (List.replicate e.place ' ' ++ ['^'])) (1 + e.place) =
      1 := by
    rw [lineAt, Nat.add_comm, List.take_succ_cons, List.take_left' List.length_replicate,
      List.countP_cons, List.countP_replicate, hspace, hnewline]
    rfl
  have hreported : lineAt isBreak (e.position.text.toList ++
      '\n' :: (List.replicate e.place ' ' ++ ['^'])) e.place =
      (e.position.text.toList.take e.place).countP isBreak := by
    rw [lineAt, List.take_append_of_le_length hplace]
  have hsplit : e.position.text.toList.countP isBreak =
      (e.position.text.toList.take e.place).countP isBreak +
        (e.position.text.toList.drop e.place).countP isBreak := by
    rw [← List.countP_append, List.take_append_drop]
  rw [caretPlace_eq, hshown, hquote, lineAt_append, lineAt_append, lineAt_append, hreported, hcaret,
    hsplit]
  omega

/-- The caret stands right below the reported character exactly if no line is broken in the
input. -/
theorem caretBelow_iff (hnewline : isBreak '\n' = true) (hspace : isBreak ' ' = false)
    (hplace : e.place ≤ e.position.text.toList.length) :
    e.CaretBelow isBreak ↔ ∀ c ∈ e.position.text.toList, isBreak c = false := by
  have hcolumn := columnAt_caretPlace e hnewline hspace
  have hreported := columnAt_reported e hnewline hplace
  have hline := lineAt_caretPlace e hnewline hspace hplace
  constructor
  · intro h c hc
    -- breaks in front of the reported character move its column, those behind it the caret line
    have hfront : ∀ c ∈ e.position.text.toList.take e.place, isBreak c = false := by
      rw [← columnAt_eq_self_iff hplace, ← hreported, ← h.column_eq, hcolumn]
    have hback : (e.position.text.toList.drop e.place).countP isBreak = 0 := by
      have hbelow := h.line_eq
      omega
    rw [← List.take_append_drop e.place e.position.text.toList, List.mem_append] at hc
    rcases hc with hc | hc
    · exact hfront c hc
    · exact Bool.eq_false_iff.mpr (List.countP_eq_zero.mp hback c hc)
  · intro h
    have hback : (e.position.text.toList.drop e.place).countP isBreak = 0 :=
      List.countP_eq_zero.mpr fun c hc => Bool.eq_false_iff.mp (h c (List.mem_of_mem_drop hc))
    refine ⟨⟨_, by rw [hcolumn, ← toList_message_caret]⟩, ?_, ?_⟩
    · rw [hline, hback]
    · rw [hcolumn, hreported, (columnAt_eq_self_iff hplace).mpr fun c hc =>
        h c (List.mem_of_mem_take hc)]

end ParseError

/-! ## The diagnostics of inputs -/

theorem Expr.text_of_parse_eq_error {config : ParserConfig} {text : String} {e : ParseError}
    (h : Expr.parse config text = .error e) : e.position.text = text := by
  obtain ⟨f, -, rfl⟩ := Expr.exists_scope_error h
  rfl

/-- **Carets under lines**: the diagnostic of a text that reports one of its characters has its
caret right below this character exactly if the text is a single line. -/
theorem Expr.parse_caretBelow_iff {config : ParserConfig} {text : String} {e : ParseError}
    (hparse : Expr.parse config text = .error e) (hfirst : 1 ≤ e.position.offset)
    (hlast : e.position.offset ≤ text.length) (hnewline : isBreak '\n' = true)
    (hspace : isBreak ' ' = false) :
    e.CaretBelow isBreak ↔ ∀ c ∈ text.toList, isBreak c = false := by
  have htext := Expr.text_of_parse_eq_error hparse
  have hplace : e.place ≤ e.position.text.toList.length := by
    rw [ParseError.place, htext, String.length_toList]
    omega
  rw [e.caretBelow_iff hnewline hspace hplace, htext]

/-- Three numbers on a line, and no operator. -/
theorem Expr.parse_caretBelow_numbers :
    Expr.parse {} "1 2 3" = .error ⟨.surplusExpression, ⟨"1 2 3", 5⟩⟩ ∧
      ParseError.CaretBelow (· = '\n') ⟨.surplusExpression, ⟨"1 2 3", 5⟩⟩ := by
  have hparse : Expr.parse {} "1 2 3" = .error ⟨.surplusExpression, ⟨"1 2 3", 5⟩⟩ := by
    decide +kernel
  exact ⟨hparse, (Expr.parse_caretBelow_iff hparse (by decide) (by decide) (by decide)
    (by decide)).mpr (by simp)⟩

/-- The dollar sign is the third character of its line, and the caret the seventh of the line
below. -/
theorem Expr.parse_caret_second_line :
    Expr.parse {} "1 +\n2 $" = .error ⟨.invalidToken '$', ⟨"1 +\n2 $", 7⟩⟩ ∧
      ¬ ParseError.CaretBelow (· = '\n') ⟨.invalidToken '$', ⟨"1 +\n2 $", 7⟩⟩ :=
  ⟨by decide +kernel, fun h => absurd h.column_eq (by decide)⟩

end Calculator
