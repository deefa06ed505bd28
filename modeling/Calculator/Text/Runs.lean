/-!
# Runs of code points

A property of characters is kept as the runs of code points that have it.

## Main definitions

* `Runs`: the ends of the runs, in increasing order
* `Runs.contains runs n`: `n` lies in one of the runs
-/

namespace Calculator.Text

/-- A set of code points as the increasing list of the ends of its runs: a run begins at each entry
of even place and ends before the entry that follows. -/
abbrev Runs := List Nat

/-- Whether a code point lies in one of the runs. -/
def Runs.contains : Runs → Nat → Bool
  | first :: past :: runs, n => first ≤ n && (n < past || Runs.contains runs n)
  | _, _ => false

@[simp] theorem Runs.contains_nil (n : Nat) : Runs.contains [] n = false := rfl

@[simp] theorem Runs.contains_cons_cons (first past : Nat) (runs : Runs) (n : Nat) :
    Runs.contains (first :: past :: runs) n =
      (decide (first ≤ n) && (decide (n < past) || Runs.contains runs n)) := rfl

end Calculator.Text
