import Mathlib
import Calculator.Files.Store

/-!
# Reading and writing files

Whether a file can be written does not depend on its bytes, and a file that was written is read back
with the bytes that were written: writing sets one place, which was no directory, so its path leads
to the same place before and after.

## Main definitions

* `FileStore.IsWritable store p`: a file can be written at the path `p`

## Main results

* `FileStore.node?_setNode_of_ne`: setting a place leaves all others as they are
* `FileStore.locate_setNode`: a path leads to the same place after a file is written there
* `FileStore.exists_writeDeep`: files are written wherever they can be written
* `FileStore.read_writeDeep`: what is written is read
-/

namespace Calculator.FileStore

variable {store store' : FileStore} {place other : Location} {node : Node} {p : Path}
  {bytes : List UInt8}

theorem lookup_filter_ne {nodes : List (Location × Node)} (h : other ≠ place) :
    (nodes.filter (·.1 ≠ place)).lookup other = nodes.lookup other := by
  induction nodes with
  | nil => rfl
  | cons entry nodes ih =>
    obtain ⟨q, n⟩ := entry
    by_cases hq : q = place
    · have hne : (other == q) = false := beq_eq_false_iff_ne.mpr fun heq => h (heq.trans hq)
      rw [List.filter_cons_of_neg (by simpa using hq), ih, List.lookup_cons, hne]
    · rw [List.filter_cons_of_pos (by simpa using hq), List.lookup_cons, List.lookup_cons, ih]

theorem node?_setNode_of_ne (h : other ≠ place) :
    (store.setNode place node).node? other = store.node? other := by
  have hne : (other == place) = false := beq_eq_false_iff_ne.mpr h
  rw [node?, node?, setNode, List.lookup_cons, hne]
  simp only [lookup_filter_ne h]

/-- A place that is no directory can be set. -/
theorem node?_setNode_self (h : store.node? place ≠ some .directory) :
    (store.setNode place node).node? place = some node := by
  rw [node?] at h ⊢
  split
  · rename_i hfixed
    rw [if_pos hfixed] at h
    exact absurd rfl h
  · rw [setNode, List.lookup_cons, BEq.rfl]

/-- Names lead through directories only, and so past no place that is none. -/
theorem foldlM_step_setNode {names : List String} {start : Location}
    (h : names.foldlM store.step start = .ok place) (hplace : store.node? place ≠ some .directory) :
    names.foldlM (store.setNode place node).step start = .ok place := by
  induction names generalizing start with
  | nil => exact h
  | cons name names ih =>
    rw [List.foldlM_cons] at h ⊢
    -- the walk goes on, so it stands in a directory and not yet at the place that was set
    have hstart : store.node? start = some .directory := by
      rcases hnode : store.node? start with _ | ⟨_ | bytes⟩
      · rw [step, hnode] at h
        cases h
      · rfl
      · rw [step, hnode] at h
        cases h
    have hne : start ≠ place := fun heq => hplace (heq ▸ hstart)
    have hstep : (store.setNode place node).step start name = store.step start name := by
      rw [step, step, node?_setNode_of_ne hne]
    rw [hstep]
    cases hname : store.step start name with
    | error problem =>
      rw [hname] at h
      cases h
    | ok next =>
      rw [hname] at h
      exact ih h

theorem locate_setNode (h : store.locate p = .ok place)
    (hplace : store.node? place ≠ some .directory) :
    (store.setNode place node).locate p = .ok place := by
  rw [locate, follow] at h ⊢
  split at h
  · cases h
  · rename_i hnull
    rw [if_neg hnull]
    split at h
    · cases h
    · rename_i hlong
      rw [if_neg hlong]
      exact foldlM_step_setNode h hplace

theorem read_write (h : store.locate p = .ok place) (hplace : store.node? place ≠ some .directory) :
    (store.setNode place (.file bytes)).read p = .ok bytes := by
  simp only [read, locate_setNode h hplace, node?_setNode_self hplace]

theorem write_eq_ok_iff :
    store.write p bytes = .ok store' ↔
      ∃ place, store.locate p = .ok place ∧ store.node? place ≠ some .directory ∧
        store' = store.setNode place (.file bytes) := by
  rw [write]
  cases store.locate p with
  | error problem => simp
  | ok place =>
    rcases hnode : store.node? place with _ | ⟨_ | old⟩ <;> simp [hnode, eq_comm]

/-- The directories that a file needs are there or can be made, and no directory stands in its
place. -/
def IsWritable (store : FileStore) (p : Path) : Prop :=
  ∃ made place, store.makeDirectories p.parent = (made, .ok ()) ∧ made.locate p = .ok place ∧
    made.node? place ≠ some .directory

/-- **A file is written** wherever it can be, whatever its bytes. -/
theorem exists_writeDeep (h : store.IsWritable p) (bytes : List UInt8) :
    ∃ store', store.writeDeep p bytes = (store', .ok ()) := by
  obtain ⟨made, place, hmade, hlocate, hplace⟩ := h
  have hwrite : made.write p bytes = .ok (made.setNode place (.file bytes)) :=
    write_eq_ok_iff.mpr ⟨place, hlocate, hplace, rfl⟩
  exact ⟨made.setNode place (.file bytes), by simp only [writeDeep, hmade, hwrite]⟩

/-- **What is written is read**, wherever the directories of the file came from. -/
theorem read_writeDeep (h : store.writeDeep p bytes = (store', .ok ())) :
    store'.read p = .ok bytes := by
  rw [writeDeep] at h
  split at h
  · cases h
  · split at h
    · rename_i after hwrite
      obtain ⟨rfl, -⟩ := Prod.mk.inj h
      obtain ⟨place, hlocate, hplace, rfl⟩ := write_eq_ok_iff.mp hwrite
      exact read_write hlocate hplace
    · cases h

end Calculator.FileStore
