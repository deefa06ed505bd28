import Calculator.Text.Width

/-!
# Clusters

The characters of a text that a terminal shows as one.  A character that fills no cell belongs to
the one before it, a joiner takes along the character after it, and an emoji selector makes a text
pictograph an emoji of two cells.

## Main definitions

* `Cluster`: some characters and the cells that they fill together
* `clusters cs`: the clusters of a text
* `cellWidth cs`: the cells that a text fills

## Main results

* `flatMap_chars_clusters`: the clusters hold the characters of the text in their order
-/

namespace Calculator.Text

/-- The character that joins the one before it and the one after it. -/
def joiner : Char := '\u200d'

/-- The character that asks for the emoji form of the one before it. -/
def emojiSelector : Char := '\ufe0f'

/-- Characters that are shown as one. -/
structure Cluster where
  /-- The characters. -/
  chars : List Char
  /-- The cells that they fill. -/
  width : Nat
deriving DecidableEq, Repr

namespace Cluster

/-- A character by itself. -/
def ofChar (c : Char) : Cluster := ⟨[c], charWidth c⟩

/-- A cluster with a character more, which makes it wider by some cells. -/
def push (k : Cluster) (c : Char) (cells : Nat) : Cluster := ⟨k.chars ++ [c], k.width + cells⟩

@[simp] theorem chars_ofChar (c : Char) : (ofChar c).chars = [c] := rfl

@[simp] theorem chars_push (k : Cluster) (c : Char) (cells : Nat) :
    (k.push c cells).chars = k.chars ++ [c] := rfl

/-- The cells that some clusters fill. -/
def totalWidth (ks : List Cluster) : Nat :=
  ks.foldr (fun k n => k.width + n) 0

end Cluster

/-- The clusters of a text and an unfinished one before it.  `shown` is the last character that
fills a cell, unless its emoji form was already asked for. -/
def clustersAfter (k : Cluster) (shown : Option Char) : List Char → List Cluster
  | [] => [k]
  | c :: cs =>
    if c = joiner then
      match cs with
      | [] => [k.push c 0]
      | d :: cs => clustersAfter ((k.push c 0).push d 0) shown cs
    else if c = emojiSelector then
      clustersAfter (k.push c (if shown.any isTextPictograph then 1 else 0)) none cs
    else if charWidth c = 0 then clustersAfter (k.push c 0) shown cs
    else k :: clustersAfter (.ofChar c) (some c) cs

/-- The clusters of a text. -/
def clusters : List Char → List Cluster
  | [] => []
  | c :: cs => clustersAfter (.ofChar c) (if charWidth c = 0 then none else some c) cs

/-- A text without the joiners at its beginning and the characters that they take along. -/
def dropJoined : List Char → List Char
  | c :: d :: cs => if c = joiner then dropJoined cs else c :: d :: cs
  | cs => cs

/-- The number of cells that a text fills.  What joiners at its beginning take along is not
counted. -/
def cellWidth (cs : List Char) : Nat :=
  Cluster.totalWidth (clusters (dropJoined cs))

@[simp] theorem cellWidth_nil : cellWidth [] = 0 := rfl

theorem flatMap_chars_clustersAfter (k : Cluster) (shown : Option Char) (cs : List Char) :
    (clustersAfter k shown cs).flatMap Cluster.chars = k.chars ++ cs := by
  fun_induction clustersAfter k shown cs <;> simp_all

/-- The clusters hold the characters of the text in their order. -/
theorem flatMap_chars_clusters (cs : List Char) : (clusters cs).flatMap Cluster.chars = cs := by
  cases cs with
  | nil => rfl
  | cons c cs => simp [clusters, flatMap_chars_clustersAfter]

end Calculator.Text
