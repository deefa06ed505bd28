/-!
# Splitting

A text cut into parts at a separator, such as the lines of a text or the names of a path.

## Main definitions

* `splitOn sep cs`: the parts of `cs` between the separators

## Main results

* `intercalate_splitOn`: the parts with separators between them make the text again
-/

namespace Calculator.Text

/-- The parts of a text between separators: one more than there are separators. -/
def splitOn (sep : Char) : List Char → List (List Char)
  | [] => [[]]
  | c :: cs => if c = sep then [] :: splitOn sep cs else (splitOn sep cs).modifyHead (c :: ·)

@[simp] theorem splitOn_nil (sep : Char) : splitOn sep [] = [[]] := rfl

theorem splitOn_ne_nil (sep : Char) (cs : List Char) : splitOn sep cs ≠ [] := by
  cases cs with
  | nil => simp
  | cons c cs =>
    by_cases h : c = sep
    · simp [splitOn, h]
    · simpa [splitOn, h] using splitOn_ne_nil sep cs

/-- The parts with separators between them make the text again. -/
theorem intercalate_splitOn (sep : Char) (cs : List Char) :
    [sep].intercalate (splitOn sep cs) = cs := by
  induction cs with
  | nil => rfl
  | cons c cs ih =>
    obtain ⟨part, parts, h⟩ := List.exists_cons_of_ne_nil (splitOn_ne_nil sep cs)
    rw [h] at ih
    by_cases hc : c = sep
    · simp [splitOn, hc, h, List.intercalate_cons_cons, ih]
    · cases parts with
      | nil => simpa [splitOn, hc, h] using ih
      | cons next parts => simpa [splitOn, hc, h, List.intercalate_cons_cons] using ih

end Calculator.Text
