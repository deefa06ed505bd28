/-!
# Similar words

The words that a mistyped one may have meant.  Two words are compared by the letters that they share
in order: those of the longest common run, and then those on either side of it.

## Main definitions

* `sharedLetters a b`: the number of letters that two words share
* `similarWords word candidates`: the candidates close to a word, at most three
-/

namespace Calculator.CommandLine

/-- The length of the common beginning of two words. -/
def commonLength : List Char → List Char → Nat
  | a :: as, b :: bs => if a = b then commonLength as bs + 1 else 0
  | _, _ => 0

/-- The longest common run of two words: where it begins in each, and its length.  Of several the
first in `a` is taken, and then the first in `b`. -/
def longestRun (a b : List Char) : Nat × Nat × Nat :=
  (List.range a.length).foldl (fun best i =>
    (List.range b.length).foldl (fun best j =>
      let length := commonLength (a.drop i) (b.drop j)
      if best.2.2 < length then (i, j, length) else best) best) (0, 0, 0)

/-- The number of letters that two words share in order; `depth` bounds the number of runs in a row
that are taken apart. -/
def sharedFrom (depth : Nat) (a b : List Char) : Nat :=
  match depth with
  | 0 => 0
  | depth + 1 =>
    match longestRun a b with
    | (_, _, 0) => 0
    | (i, j, length) =>
      length + sharedFrom depth (a.take i) (b.take j) +
        sharedFrom depth (a.drop (i + length)) (b.drop (j + length))

/-- The number of letters that two words share in order. -/
def sharedLetters (a b : String) : Nat :=
  sharedFrom a.length a.toList b.toList

/-- A candidate and its likeness to a word: twice the shared letters over the letters of both. -/
structure Likeness where
  /-- The candidate. -/
  candidate : String
  /-- Twice the number of shared letters. -/
  shared : Nat
  /-- The number of letters of both words. -/
  total : Nat

namespace Likeness

/-- Whether one candidate is more like the word than another; of equally like ones the later in the
order of words comes first. -/
def before (x y : Likeness) : Bool :=
  y.shared * x.total < x.shared * y.total ||
    (y.shared * x.total = x.shared * y.total && y.candidate < x.candidate)

/-- Puts a candidate into a list that is ordered by likeness. -/
def place (x : Likeness) : List Likeness → List Likeness
  | [] => [x]
  | y :: rest => if x.before y then x :: y :: rest else y :: place x rest

end Likeness

/-- The candidates with a likeness of at least three fifths, the three most alike of them, in the
order of words. -/
def similarWords (word : String) (candidates : List String) : List String :=
  let all := candidates.map fun c =>
    (⟨c, 2 * sharedLetters c word, c.length + word.length⟩ : Likeness)
  let close := all.filter fun x => 3 * x.total ≤ 5 * x.shared
  let best := (close.foldr Likeness.place []).take 3
  (best.map (·.candidate)).mergeSort

end Calculator.CommandLine
