import Mathlib
import Calculator.Json.Basic

/-!
# The members of objects

A member that is set keeps its place if its name is there already.  So an object that is read has
every name once, with the last of the values that the document gives it.

## Main definitions

* `Json.last? ms name`: the last value that a list of members gives a name

## Main results

* `Json.lookup_members`: every name has its last value
* `Json.nodup_members`, `Json.length_members`: every name stands once
* `Json.members_eq_self`: members with different names are kept as they are
-/

namespace Calculator.Json

variable {name other : CodePoints} {v : Json} {ms kept : List (CodePoints × Json)}

/-- The last value that a list of members gives a name. -/
def last? (ms : List (CodePoints × Json)) (name : CodePoints) : Option Json :=
  ms.reverse.lookup name

theorem lookup_cons (member : CodePoints × Json) (ms : List (CodePoints × Json))
    (name : CodePoints) :
    (member :: ms).lookup name = if name = member.1 then some member.2 else ms.lookup name := by
  obtain ⟨key, w⟩ := member
  by_cases h : name = key
  · simp [h]
  · rw [List.lookup_cons, beq_eq_false_iff_ne.mpr h, if_neg h]

/-- What setting a member does to every look-up. -/
theorem lookup_setMember (name : CodePoints) (v : Json) (ms : List (CodePoints × Json))
    (other : CodePoints) :
    (setMember name v ms).lookup other = if other = name then some v else ms.lookup other := by
  induction ms with
  | nil => rw [setMember, lookup_cons]
  | cons member ms ih =>
    obtain ⟨key, w⟩ := member
    rw [setMember]
    split
    · rename_i hkey
      subst hkey
      rw [lookup_cons, lookup_cons]
      split <;> rfl
    · rename_i hkey
      rw [lookup_cons, lookup_cons, ih]
      by_cases hother : other = key
      · have hne : other ≠ name := fun h => hkey (hother.symm.trans h)
        rw [if_pos hother, if_neg hne, if_pos hother]
      · rw [if_neg hother, if_neg hother]

/-- A name that is new stands at the end. -/
theorem names_setMember (name : CodePoints) (v : Json) (ms : List (CodePoints × Json)) :
    (setMember name v ms).map Prod.fst =
      if name ∈ ms.map Prod.fst then ms.map Prod.fst else ms.map Prod.fst ++ [name] := by
  induction ms with
  | nil => rfl
  | cons member ms ih =>
    obtain ⟨key, w⟩ := member
    rw [setMember]
    split
    · rename_i hkey
      simp [hkey]
    · rename_i hkey
      have hne : name ≠ key := fun h => hkey h.symm
      rw [List.map_cons, ih]
      by_cases hmem : name ∈ ms.map Prod.fst
      · simp [hmem]
      · simp [hmem, hne]

theorem nodup_setMember (h : (kept.map Prod.fst).Nodup) (name : CodePoints) (v : Json) :
    ((setMember name v kept).map Prod.fst).Nodup := by
  rw [names_setMember]
  split
  · exact h
  · rename_i hmem
    refine List.nodup_append.mpr ⟨h, List.nodup_singleton name, ?_⟩
    rintro key hkey other hother rfl
    exact hmem (List.mem_singleton.mp hother ▸ hkey)

/-! ## The members that a document leaves -/

/-- Setting members one after the other. -/
theorem foldl_setMember (ms kept : List (CodePoints × Json)) (name : CodePoints) :
    (ms.foldl (fun kept member => setMember member.1 member.2 kept) kept).lookup name =
      (last? ms name).or (kept.lookup name) := by
  induction ms generalizing kept with
  | nil => rfl
  | cons member ms ih =>
    rw [List.foldl_cons, ih, lookup_setMember, last?, last?, List.reverse_cons, List.lookup_append,
      lookup_cons]
    cases ms.reverse.lookup name with
    | some w => rfl
    | none =>
      by_cases h : name = member.1
      · simp [h]
      · simp [h]

/-- **Repeated names**: every name has the last of its values. -/
theorem lookup_members (ms : List (CodePoints × Json)) (name : CodePoints) :
    (members ms).lookup name = last? ms name := by
  rw [members, foldl_setMember, List.lookup_nil, Option.or_none]

theorem nodup_members (ms : List (CodePoints × Json)) : ((members ms).map Prod.fst).Nodup := by
  have key (ms kept : List (CodePoints × Json)) (h : (kept.map Prod.fst).Nodup) :
      ((ms.foldl (fun kept member => setMember member.1 member.2 kept) kept).map
        Prod.fst).Nodup := by
    induction ms generalizing kept with
    | nil => exact h
    | cons member ms ih => exact ih _ (nodup_setMember h _ _)
  exact key ms [] List.nodup_nil

theorem mem_names_iff {name : CodePoints} :
    name ∈ ms.map Prod.fst ↔ ∃ v, ms.lookup name = some v := by
  induction ms with
  | nil => simp
  | cons member ms ih =>
    rw [lookup_cons, List.map_cons, List.mem_cons, ih]
    by_cases h : name = member.1 <;> simp [h]

theorem mem_of_lookup (h : ms.lookup name = some v) : (name, v) ∈ ms := by
  obtain ⟨before, after, rfl, -⟩ := List.lookup_eq_some_iff.mp h
  exact List.mem_append_right before List.mem_cons_self

/-- Where every name stands once, what stands there is what is looked up. -/
theorem lookup_of_mem (hnodup : (ms.map Prod.fst).Nodup) (h : (name, v) ∈ ms) :
    ms.lookup name = some v := by
  induction ms with
  | nil => cases h
  | cons member ms ih =>
    rw [List.map_cons, List.nodup_cons] at hnodup
    rw [lookup_cons]
    rcases List.mem_cons.mp h with rfl | h
    · rw [if_pos rfl]
    · rw [if_neg, ih hnodup.2 h]
      intro hname
      exact hnodup.1 (hname ▸ List.mem_map_of_mem h)

theorem mem_members_iff : (name, v) ∈ members ms ↔ last? ms name = some v := by
  rw [← lookup_members]
  exact ⟨lookup_of_mem (nodup_members ms), mem_of_lookup⟩

theorem mem_names_members : name ∈ (members ms).map Prod.fst ↔ name ∈ ms.map Prod.fst := by
  rw [mem_names_iff, lookup_members, last?, ← mem_names_iff, List.map_reverse, List.mem_reverse]

/-- **The number of members** is that of the different names. -/
theorem length_members (ms : List (CodePoints × Json)) :
    (members ms).length = (ms.map Prod.fst).dedup.length := by
  have hperm : List.Perm ((members ms).map Prod.fst) (ms.map Prod.fst).dedup := by
    rw [List.perm_ext_iff_of_nodup (nodup_members ms) (List.nodup_dedup _)]
    intro name
    rw [List.mem_dedup, mem_names_members]
  rw [← hperm.length_eq, List.length_map]

theorem setMember_of_not_mem (h : name ∉ kept.map Prod.fst) (v : Json) :
    setMember name v kept = kept ++ [(name, v)] := by
  induction kept with
  | nil => rfl
  | cons member kept ih =>
    obtain ⟨key, w⟩ := member
    rw [List.map_cons, List.mem_cons, not_or] at h
    rw [setMember, if_neg fun hkey => h.1 hkey.symm, ih h.2, List.cons_append]

/-- Members with different names are kept as they are. -/
theorem members_eq_self (h : (ms.map Prod.fst).Nodup) : members ms = ms := by
  have key (ms kept : List (CodePoints × Json)) (h : ((kept ++ ms).map Prod.fst).Nodup) :
      ms.foldl (fun kept member => setMember member.1 member.2 kept) kept = kept ++ ms := by
    -- what is already kept has none of the names that are still to come
    induction ms generalizing kept with
    | nil => rw [List.append_nil]; rfl
    | cons member ms ih =>
      have hmem : member.1 ∉ kept.map Prod.fst := by
        intro hmem
        rw [List.map_append, List.map_cons] at h
        exact (List.nodup_append.mp h).2.2 _ hmem _ List.mem_cons_self rfl
      rw [List.foldl_cons, setMember_of_not_mem hmem, ih]
      · rw [List.append_assoc]
        rfl
      · rw [List.append_assoc]
        exact h
  exact key ms [] h

end Calculator.Json
