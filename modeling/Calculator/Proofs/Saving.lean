import Calculator.Proofs.Files
import Calculator.Proofs.History
import Calculator.Proofs.Json.Writing
import Calculator.Proofs.Loading

/-!
# Saving variables and loading them again

The document of the user's variables is read back as these variables, so a file that was saved can
be loaded, and what it gives is laid over the user's variables of the table that loads it.  The
order in which the variables were set is lost in the document, which is sorted.

## Main results

* `VariablesFile.writable_document`: nothing is lost in the document of variables
* `VariablesFile.decode_encode`: the variables of a file are those that were encoded, in order
* `VariablesFile.encode_congr`: variables with the same values are encoded in the same way
* `Table.runLoad_save`: what a file that was saved gives to the table that loads it
-/

namespace Calculator

namespace VariablesFile

variable {cs : List Char} {values : NameMap Float} {path : String}

theorem unifyLines_eq_self (h : '\r' ∉ cs) : unifyLines cs = cs := by
  fun_induction unifyLines cs with
  | case1 => rfl
  | case2 cs ih => simp at h
  | case3 cs hcs ih => simp at h
  | case4 c cs _ _ ih =>
    rw [List.mem_cons, not_or] at h
    rw [ih h.2]

/-- The document of variables names each of them once. -/
theorem writable_document (values : NameMap Float) : (document values).Writable := by
  have hdocument : document values = .object ((values.sorted.map fun entry =>
      (entry.1, Json.real entry.2)).map fun m => (CodePoints.ofString m.1, m.2)) := by
    rw [List.map_map]
    rfl
  rw [hdocument]
  apply Json.writable_ofStrings
  · rw [List.map_map]
    exact values.nodup_sorted
  · intro m hm
    obtain ⟨entry, -, rfl⟩ := List.mem_map.mp hm
    exact .real entry.2

/-- **Reading back what was encoded**, if an input can refer to all names. -/
theorem decode_encode (h : ∀ entry ∈ values.entries, isIdentifier entry.1 = true) :
    decode path (encode values) = .ok values.sorted := by
  have hwritable := writable_document values
  have htext : (Json.write .unicode (document values)).toList =
      Json.chars .unicode 0 (document values) := String.toList_ofList
  rw [decode_eq_ok_iff]
  refine ⟨_, values.sorted.map fun entry => (CodePoints.ofString entry.1, .real entry.2), rfl,
    ?_, ?_⟩
  · rw [htext, unifyLines_eq_self (Json.return_not_mem_chars hwritable 0)]
    exact Json.read_chars hwritable
  · rw [List.forall₂_map_left_iff, List.forall₂_same]
    intro entry hentry
    exact entry_eq_ok_iff.mpr ⟨rfl, h entry (values.perm_sorted.subset hentry), rfl⟩

/-- **The bytes do not show** the order in which the variables were set. -/
theorem encode_congr {other : NameMap Float} (h : ∀ name, values.find? name = other.find? name) :
    encode values = encode other := by
  rw [encode, encode, document, document, NameMap.sorted_congr h]

end VariablesFile

namespace Table

variable {t : Table} {includeBuiltins : Bool} {store : FileStore} {p : Path}

/-- What a table saves is read back as its variables. -/
theorem Reachable.decode_encode (ht : t.Reachable includeBuiltins) (path : String) :
    VariablesFile.decode path (VariablesFile.encode t.user) = .ok t.user.sorted :=
  VariablesFile.decode_encode fun _ hentry => ht.isIdentifier (NameMap.contains_of_mem hentry)

/-- A file that was saved gives its variables to the table that loads it. -/
theorem runLoad_of_read (ht : t.Reachable includeBuiltins)
    (hread : store.read p = .ok (VariablesFile.encode t.user)) (s : Table) :
    ∃ after, s.runLoad store p = (.ok t.user.size, after) ∧ after.builtins = s.builtins ∧
      ∀ name, after.user.find? name = (t.user.find? name).or (s.user.find? name) := by
  have hload := runLoad_of_decode_ok (t := s) hread (ht.decode_encode p.text)
  rw [t.user.length_sorted] at hload
  refine ⟨_, hload, rfl, fun name => ?_⟩
  rw [NameMap.find?_foldl_insert t.user.nodup_sorted, NameMap.lookup_sorted]

/-- **Saving variables and loading them again.**  Wherever a file can be written, the variables of a
table are saved.  A table that loads the file gets as many variables as were saved, laid over those
it had.  What is written is the same for all tables with the same variables, so also for one that
had no variables when it loaded the file. -/
theorem runLoad_save (ht : t.Reachable includeBuiltins) (hp : store.IsWritable p) :
    ∃ store' bytes, t.save store p = (store', .ok ()) ∧ store'.read p = .ok bytes ∧
      (∀ s : Table, ∃ after, s.runLoad store' p = (.ok t.user.size, after) ∧
        after.builtins = s.builtins ∧
        ∀ name, after.user.find? name = (t.user.find? name).or (s.user.find? name)) ∧
      (∀ u : Table, (∀ name, u.user.find? name = t.user.find? name) →
        ∀ w q, FileStore.IsWritable w q →
          ∃ w', u.save w q = (w', .ok ()) ∧ w'.read q = .ok bytes) ∧
      ∀ s : Table, (∀ name, s.user.find? name = none) → ∀ w q, FileStore.IsWritable w q →
        ∃ w', (s.runLoad store' p).2.save w q = (w', .ok ()) ∧ w'.read q = .ok bytes := by
  obtain ⟨store', hsave⟩ := FileStore.exists_writeDeep hp (VariablesFile.encode t.user)
  have hread := FileStore.read_writeDeep hsave
  -- the sorted document is all that tables with the same variables have in common
  have hsame (u : Table) (hu : ∀ name, u.user.find? name = t.user.find? name) (w : FileStore)
      (q : Path) (hq : w.IsWritable q) :
      ∃ w', u.save w q = (w', .ok ()) ∧ w'.read q = .ok (VariablesFile.encode t.user) := by
    rw [save, VariablesFile.encode_congr hu]
    obtain ⟨w', hw⟩ := FileStore.exists_writeDeep hq (VariablesFile.encode t.user)
    exact ⟨w', hw, FileStore.read_writeDeep hw⟩
  refine ⟨store', _, hsave, hread, runLoad_of_read ht hread, hsame, fun s hs w q hq => ?_⟩
  obtain ⟨after, hload, -, hvalues⟩ := runLoad_of_read ht hread s
  rw [hload]
  refine hsame after (fun name => ?_) w q hq
  rw [hvalues, hs, Option.or_none]

/-- Negative zero and what is not a number are kept apart from all other values, and a table in
which they were set the other way round writes the same bytes. -/
theorem runLoad_save_special :
    let nan := Float.ofBits 0x7ff8000000000000
    let zero := Float.ofBits 0x8000000000000000
    let t : Table := ⟨.empty, (NameMap.empty.insert "x" nan).insert "y" zero⟩
    let u : Table := ⟨.empty, (NameMap.empty.insert "y" zero).insert "x" nan⟩
    t.Reachable false ∧ FileStore.empty.IsWritable ⟨"", ["v"]⟩ ∧
      (t.user.keys = ["x", "y"] ∧ u.user.keys = ["y", "x"]) ∧
      ∃ store' bytes after, t.save .empty ⟨"", ["v"]⟩ = (store', .ok ()) ∧
        store'.read ⟨"", ["v"]⟩ = .ok bytes ∧
        (Table.start true).runLoad store' ⟨"", ["v"]⟩ = (.ok 2, after) ∧
        after.user.find? "x" = some nan ∧ after.user.find? "y" = some zero ∧
        ∃ w', u.save .empty ⟨"", ["v"]⟩ = (w', .ok ()) ∧ w'.read ⟨"", ["v"]⟩ = .ok bytes := by
  intro nan zero t u
  have hx : (Table.start false).set "x" nan = .ok ⟨.empty, NameMap.empty.insert "x" nan⟩ :=
    if_pos (by decide)
  have hy : Table.set ⟨.empty, NameMap.empty.insert "x" nan⟩ "y" zero = .ok t :=
    if_pos (by decide)
  have ht : t.Reachable false := .step (.step .start (.set hx)) (.set hy)
  have hp : FileStore.empty.IsWritable ⟨"", ["v"]⟩ :=
    ⟨.empty, ["v"], rfl, rfl, by decide⟩
  obtain ⟨store', bytes, hsave, hread, hload, hsame, -⟩ := runLoad_save ht hp
  obtain ⟨after, hafter, -, hvalues⟩ := hload (.start true)
  have hsize : t.user.size = 2 := rfl
  rw [hsize] at hafter
  have hvariables (name : String) : u.user.find? name = t.user.find? name := by
    by_cases hname : name = "x"
    · simp [t, u, hname]
    · simp [t, u, hname]
  refine ⟨ht, hp, ⟨rfl, rfl⟩, store', bytes, after, hsave, hread, hafter, ?_, ?_,
    hsame u hvariables .empty _ hp⟩
  · rw [hvalues]
    simp [t]
  · rw [hvalues]
    simp [t]

end Table

end Calculator
