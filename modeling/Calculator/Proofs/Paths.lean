import Mathlib.Data.String.Basic
import Calculator.Files.Store

/-!
# Paths as they are given

A path is checked as it is given, with all its slashes and dots, and used without the empty names
and single dots in it.  What is left out changes neither where the path leads nor whether it may be
used at all: the text only gets shorter.

## Main results

* `Path.sublist_text`: the text of a path is what was given, with some characters left out
* `FileStore.read_of_nodeAsGiven?`: the file that a path leads to is read
-/

namespace Calculator

open Text

/-! ## The text of a path -/

section Parts

variable {α : Type}

theorem sublist_intercalate_cons (sep x : List α) (xs : List (List α)) :
    (sep.intercalate xs).Sublist (sep.intercalate (x :: xs)) := by
  rcases xs with _ | ⟨y, ys⟩
  · exact List.nil_sublist _
  · rw [List.intercalate_cons_cons, List.append_assoc]
    exact (List.sublist_append_right _ _).trans (List.sublist_append_right _ _)

theorem intercalate_filter_sublist (sep : List α) (p : List α → Bool) (xs : List (List α)) :
    (sep.intercalate (xs.filter p)).Sublist (sep.intercalate xs) := by
  induction xs with
  | nil => exact .refl _
  | cons x xs ih =>
    cases hx : p x with
    | false =>
      rw [List.filter_cons_of_neg (by simp [hx])]
      exact ih.trans (sublist_intercalate_cons sep x xs)
    | true =>
      rw [List.filter_cons_of_pos hx]
      rcases xs with _ | ⟨y, ys⟩
      · exact .refl _
      · rw [List.intercalate_cons_cons]
        cases hfilter : (y :: ys).filter p with
        | nil =>
          rw [List.intercalate_singleton, List.append_assoc]
          exact List.sublist_append_left _ _
        | cons z zs =>
          rw [List.intercalate_cons_cons, ← hfilter]
          exact .append (.refl _) ih

end Parts

namespace Path

variable {cs : List Char}

/-- Whether a part of a path is kept as a name. -/
def isKept (part : List Char) : Bool :=
  part ≠ [] ∧ part ≠ ['.']

/-- The names that are kept, with slashes between them. -/
def joined (cs : List Char) : List Char :=
  ['/'].intercalate ((splitOn '/' cs).filter isKept)

theorem joined_sublist (cs : List Char) : (joined cs).Sublist cs := by
  have h := intercalate_filter_sublist ['/'] isKept (splitOn '/' cs)
  rwa [intercalate_splitOn] at h

/-- A slash at the beginning has an empty name in front of it. -/
theorem joined_slash (cs : List Char) : joined ('/' :: cs) = joined cs := by
  rw [joined, splitOn, if_pos rfl, List.filter_cons_of_neg (by decide), joined]

/-- Two slashes make a root of their own. -/
theorem rootOf_slash (cs : List Char) :
    rootOf ('/' :: cs) = "/" ∨ rootOf ('/' :: cs) = "//" ∧ ∃ rest, cs = '/' :: rest := by
  rw [rootOf, List.takeWhile_cons_of_pos (by decide)]
  rcases cs with _ | ⟨c, cs⟩
  · exact .inl rfl
  by_cases hc : c = '/'
  · subst hc
    rw [List.takeWhile_cons_of_pos (by decide)]
    rcases cs.takeWhile (· == '/') with _ | ⟨d, ds⟩
    · exact .inr ⟨rfl, cs, rfl⟩
    · exact .inl rfl
  · rw [List.takeWhile_cons_of_neg (by simpa using hc)]
    exact .inl rfl

theorem rootOf_append_joined_sublist (cs : List Char) :
    ((rootOf cs).toList ++ joined cs).Sublist cs := by
  rcases cs with _ | ⟨c, cs⟩
  · exact .refl _
  by_cases hc : c = '/'
  · -- the root stands for the first slashes, and the empty names before them are left out
    subst hc
    rw [joined_slash]
    rcases rootOf_slash cs with hroot | ⟨hroot, rest, rfl⟩
    · rw [hroot]
      exact (joined_sublist cs).cons_cons '/'
    · rw [hroot, joined_slash]
      exact ((joined_sublist rest).cons_cons '/').cons_cons '/'
  · have hroot : rootOf (c :: cs) = "" := by
      rw [rootOf, List.takeWhile_cons_of_neg (by simpa using hc)]
    rw [hroot]
    exact joined_sublist (c :: cs)

theorem map_toList_names (given : String) :
    (ofString given).names.map String.toList = (splitOn '/' given.toList).filter isKept := by
  rw [ofString, namesIn, List.filter_map, List.map_map]
  have htoList : String.toList ∘ String.ofList = id := funext fun cs => String.toList_ofList
  rw [htoList, List.map_id]
  congr 1
  funext part
  simp only [Function.comp_apply, isKept, ne_eq, ← String.toList_inj, String.toList_ofList]
  rfl

/-- **The text of a path** leaves out some of the characters that were given, unless it is the dot
of the working directory. -/
theorem sublist_text (given : String) :
    (ofString given).text = "." ∨ (ofString given).text.toList.Sublist given.toList := by
  rw [text]
  split
  · exact .inl rfl
  · rw [String.toList_append, String.toList_intercalate, map_toList_names]
    exact .inr (rootOf_append_joined_sublist given.toList)

end Path

/-! ## Where a path leads -/

namespace FileStore

variable {store : FileStore} {start place : Location} {given : String} {bytes : List UInt8}

theorem step_eq_ok {name : String} (h : store.step start name = .ok place) :
    place = enter start name := by
  rw [step] at h
  split at h
  · cases h
  · cases h
  · split at h
    · cases h
    · exact (Except.ok.inj h).symm

/-- Empty names and single dots lead nowhere. -/
theorem foldlM_step_filter {names : List String} (h : names.foldlM store.step start = .ok place) :
    (names.filter fun name => name ≠ "" ∧ name ≠ ".").foldlM store.step start = .ok place := by
  induction names generalizing start with
  | nil => exact h
  | cons name names ih =>
    rw [List.foldlM_cons] at h
    cases hstep : store.step start name with
    | error problem =>
      rw [hstep] at h
      cases h
    | ok next =>
      rw [hstep] at h
      by_cases hname : name ≠ "" ∧ name ≠ "."
      · rw [List.filter_cons_of_pos (by simpa using hname), List.foldlM_cons, hstep]
        exact ih h
      · -- the walk stays where it is
        have hnext : next = start := by
          rw [step_eq_ok hstep, enter, if_pos (by rwa [ne_eq, ne_eq, ← not_or, not_not] at hname)]
        rw [List.filter_cons_of_neg (by simpa using hname)]
        exact ih (hnext ▸ h)

/-- What can be followed as it was given can be followed as a path, to the same place. -/
theorem locate_of_follow (h : store.follow given (Path.rootOf given.toList) (Path.namesIn given) =
      .ok place) :
    store.locate (Path.ofString given) = .ok place := by
  rw [follow] at h
  split at h
  · cases h
  rename_i hnull
  split at h
  · cases h
  rename_i hlong
  have htext : (Path.ofString given).text.toList.contains '\x00' = false ∧
      (Path.ofString given).text.utf8ByteSize ≤ maxPathBytes := by
    rcases Path.sublist_text given with hdot | hsub
    · rw [hdot]
      decide
    · constructor
      · rw [List.contains_eq_mem, decide_eq_false_iff_not]
        intro hmem
        exact hnull (by simpa using hsub.subset hmem)
      · have hlen := String.utf8Len_le_of_sublist hsub
        rw [← String.utf8ByteSize_ofList, ← String.utf8ByteSize_ofList, String.ofList_toList,
          String.ofList_toList] at hlen
        omega
  rw [locate, follow, htext.1, if_neg Bool.false_ne_true, if_neg (by omega)]
  exact foldlM_step_filter h

/-- **The file that a path leads to is read**, whatever slashes and dots the path was given with. -/
theorem read_of_nodeAsGiven? (h : store.nodeAsGiven? given = some (.file bytes)) :
    store.read (Path.ofString given) = .ok bytes := by
  rw [nodeAsGiven?] at h
  split at h
  · cases h
  · split at h
    · rename_i place hplace
      simp only [read, locate_of_follow hplace, h]
    · cases h

end FileStore

end Calculator
