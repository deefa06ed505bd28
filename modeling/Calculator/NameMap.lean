/-!
# Maps from names

Finite maps whose keys are names, kept as a list of entries in the order in which the names were
first bound.  So maps with the same look-ups may differ in their order; where the entries are
written out they are sorted by name, and then the order does not show.

## Main definitions

* `NameMap α`: a map from names to `α`
* `NameMap.find?`, `NameMap.insert`, `NameMap.erase`, `NameMap.overlay`, `NameMap.keys`
* `NameMap.sorted`: the entries in increasing order of their names
* `NameMap.sortNames names`: the names of a list in order

## Main results

* `NameMap.find?_insert`, `NameMap.find?_erase`, `NameMap.find?_overlay`: what a change does to
  every look-up
* `NameMap.find?_foldl_insert`, `NameMap.find?_foldl_insert_reverse`: names bound one after the
  other
* `NameMap.sorted_congr`: maps with the same look-ups have the same entries in order
* `NameMap.mem_keys_iff`, `NameMap.mem_sortNames_iff`: the names of a map, and names in order
-/

namespace Calculator

/-- A map from names to `α`: its entries in the order in which their names were first bound. -/
structure NameMap (α : Type) where
  /-- The entries, the name bound first in front. -/
  entries : List (String × α)
  /-- No name stands twice. -/
  nodup : (entries.map (·.1)).Nodup

namespace NameMap

variable {α : Type} {l : List (String × α)} {m n : NameMap α} {name other : String} {value : α}
  {names : List String}

/-- The entries with `name` bound to `value`: in the place of an earlier binding, or at the end. -/
def insertEntry (name : String) (value : α) : List (String × α) → List (String × α)
  | [] => [(name, value)]
  | entry :: rest =>
    if name = entry.1 then (name, value) :: rest
    else entry :: insertEntry name value rest

theorem mem_names_insertEntry (h : other ∈ (insertEntry name value l).map (·.1)) :
    other = name ∨ other ∈ l.map (·.1) := by
  induction l with
  | nil => simpa [insertEntry] using h
  | cons entry rest ih =>
    unfold insertEntry at h
    split at h
    · rw [List.map_cons, List.mem_cons] at h ⊢
      exact h.imp_right .inr
    · rw [List.map_cons, List.mem_cons] at h ⊢
      rcases h with h | h
      · exact .inr (.inl h)
      · exact (ih h).imp_right .inr

theorem nodup_insertEntry (h : (l.map (·.1)).Nodup) :
    ((insertEntry name value l).map (·.1)).Nodup := by
  induction l with
  | nil => simp [insertEntry]
  | cons entry rest ih =>
    rw [List.map_cons, List.nodup_cons] at h
    unfold insertEntry
    split
    · rename_i heq
      rw [List.map_cons, heq]
      exact List.nodup_cons.mpr h
    · rename_i hne
      refine List.nodup_cons.mpr ⟨fun hmem => ?_, ih h.2⟩
      rcases mem_names_insertEntry hmem with heq | hmem
      · exact hne heq.symm
      · exact h.1 hmem

/-- The map without entries. -/
def empty : NameMap α := ⟨[], List.nodup_nil⟩

/-- The value bound to a name. -/
def find? (m : NameMap α) (name : String) : Option α :=
  m.entries.lookup name

/-- Whether a name is bound. -/
def contains (m : NameMap α) (name : String) : Bool :=
  (m.find? name).isSome

/-- Binds a name to a value. -/
def insert (m : NameMap α) (name : String) (value : α) : NameMap α :=
  ⟨insertEntry name value m.entries, nodup_insertEntry m.nodup⟩

/-- Removes the binding of a name, if there is one. -/
def erase (m : NameMap α) (name : String) : NameMap α :=
  ⟨m.entries.filter (·.1 ≠ name), m.nodup.sublist (List.filter_sublist.map _)⟩

/-- The map with the entries of a list, the later ones first in force. -/
def ofList (l : List (String × α)) : NameMap α :=
  l.foldl (fun m entry => m.insert entry.1 entry.2) empty

/-- The bindings of `upper` laid over those of `m`. -/
def overlay (m upper : NameMap α) : NameMap α :=
  upper.entries.foldl (fun m entry => m.insert entry.1 entry.2) m

/-- The names that are bound, the name bound first in front. -/
def keys (m : NameMap α) : List String :=
  m.entries.map (·.1)

/-- The entries in increasing order of their names. -/
def sorted (m : NameMap α) : List (String × α) :=
  m.entries.mergeSort fun a b => decide (a.1 ≤ b.1)

/-- Names in increasing order, each once. -/
def sortNames (names : List String) : List String :=
  (ofList (names.map fun name => (name, ()))).sorted.map (·.1)

/-- The number of names that are bound. -/
def size (m : NameMap α) : Nat :=
  m.entries.length

/-! ## Look-ups -/

@[simp] theorem find?_empty (name : String) : (empty : NameMap α).find? name = none := rfl

theorem lookup_cons (entry : String × α) (rest : List (String × α)) (name : String) :
    (entry :: rest).lookup name = if name = entry.1 then some entry.2 else rest.lookup name := by
  obtain ⟨key, value⟩ := entry
  rw [List.lookup_cons]
  by_cases h : name = key
  · simp [h]
  · simp [beq_eq_false_iff_ne.mpr h, h]

theorem lookup_eq_none (h : name ∉ l.map (·.1)) : l.lookup name = none := by
  rw [List.lookup_eq_none_iff]
  intro entry hentry
  rw [bne_iff_ne]
  rintro rfl
  exact h (List.mem_map_of_mem hentry)

theorem lookup_insertEntry (l : List (String × α)) (name : String) (value : α) (other : String) :
    (insertEntry name value l).lookup other =
      if other = name then some value else l.lookup other := by
  induction l with
  | nil => simp [insertEntry, lookup_cons]
  | cons entry rest ih =>
    unfold insertEntry
    split
    · rename_i heq
      by_cases h : other = name <;> simp [lookup_cons, ← heq, h]
    · rename_i hne
      by_cases h : other = name
      · subst h
        simp [lookup_cons, ih, hne]
      · simp [lookup_cons, ih, h]

@[simp] theorem find?_insert (m : NameMap α) (name : String) (value : α) (other : String) :
    (m.insert name value).find? other = if other = name then some value else m.find? other :=
  lookup_insertEntry m.entries name value other

@[simp] theorem find?_erase (m : NameMap α) (name other : String) :
    (m.erase name).find? other = if other = name then none else m.find? other := by
  obtain ⟨l, hl⟩ := m
  simp only [find?, erase]
  clear hl
  induction l with
  | nil => simp
  | cons entry rest ih =>
    rw [List.filter_cons]
    by_cases hname : entry.1 = name
    · by_cases h : other = name
      · simpa [hname, h] using ih
      · simpa [hname, h, lookup_cons] using ih
    · by_cases h : other = name
      · subst h
        have hne : ¬ other = entry.1 := fun e => hname e.symm
        simpa [hname, hne, lookup_cons] using ih
      · by_cases he : other = entry.1 <;> simp_all [lookup_cons]

/-- Names that are bound one after the other, each once. -/
theorem find?_foldl_insert (h : (l.map (·.1)).Nodup) (m : NameMap α) (name : String) :
    (l.foldl (fun m entry => m.insert entry.1 entry.2) m).find? name =
      (l.lookup name).or (m.find? name) := by
  induction l generalizing m with
  | nil => rfl
  | cons entry rest ih =>
    rw [List.map_cons, List.nodup_cons] at h
    rw [List.foldl_cons, ih h.2, find?_insert, lookup_cons]
    by_cases hname : name = entry.1
    · -- the name is bound once, so nothing after it is in force
      subst hname
      rw [lookup_eq_none h.1, if_pos rfl, if_pos rfl]
      rfl
    · rw [if_neg hname, if_neg hname]

/-- Of several values that a name is bound to, the last is in force. -/
theorem find?_foldl_insert_reverse (l : List (String × α)) (m : NameMap α) (name : String) :
    (l.foldl (fun m entry => m.insert entry.1 entry.2) m).find? name =
      (l.reverse.lookup name).or (m.find? name) := by
  induction l generalizing m with
  | nil => rfl
  | cons entry rest ih =>
    rw [List.foldl_cons, ih, find?_insert, List.reverse_cons, List.lookup_append, Option.or_assoc,
      lookup_cons]
    by_cases hname : name = entry.1 <;> simp [hname]

@[simp] theorem find?_overlay (m upper : NameMap α) (name : String) :
    (m.overlay upper).find? name = (upper.find? name).or (m.find? name) :=
  find?_foldl_insert upper.nodup m name

theorem mem_iff_lookup (hl : (l.map (·.1)).Nodup) :
    (name, value) ∈ l ↔ l.lookup name = some value := by
  induction l with
  | nil => simp
  | cons entry rest ih =>
    rw [List.map_cons, List.nodup_cons] at hl
    rw [List.mem_cons, lookup_cons, ih hl.2]
    by_cases hname : name = entry.1
    · subst hname
      rw [lookup_eq_none hl.1, if_pos rfl, Option.some_inj]
      simp [Prod.ext_iff, eq_comm]
    · simp [Prod.ext_iff, hname]

theorem mem_entries_iff : (name, value) ∈ m.entries ↔ m.find? name = some value :=
  mem_iff_lookup m.nodup

theorem contains_of_mem {entry : String × α} (h : entry ∈ m.entries) :
    m.contains entry.1 = true := by
  rw [contains, mem_entries_iff.mp h]
  rfl

theorem mem_keys_iff : name ∈ m.keys ↔ m.contains name = true := by
  rw [keys, List.mem_map]
  constructor
  · rintro ⟨entry, hentry, rfl⟩
    exact contains_of_mem hentry
  · intro h
    obtain ⟨value, hvalue⟩ := Option.isSome_iff_exists.mp h
    exact ⟨(name, value), mem_entries_iff.mpr hvalue, rfl⟩

/-! ## Entries in order -/

theorem perm_sorted (m : NameMap α) : m.sorted.Perm m.entries :=
  List.mergeSort_perm _ _

theorem nodup_sorted (m : NameMap α) : (m.sorted.map (·.1)).Nodup :=
  m.nodup.perm (m.perm_sorted.map _).symm

/-- The sorted entries are as good for look-ups as those in the map. -/
theorem lookup_sorted (m : NameMap α) (name : String) : m.sorted.lookup name = m.find? name := by
  ext value
  rw [← mem_iff_lookup m.nodup_sorted, m.perm_sorted.mem_iff, mem_entries_iff]

theorem pairwise_sorted (m : NameMap α) : m.sorted.Pairwise (fun a b => a.1 < b.1) := by
  have hle : m.sorted.Pairwise (fun a b => decide (a.1 ≤ b.1) = true) := by
    apply List.pairwise_mergeSort
    · intro a b c hab hbc
      rw [decide_eq_true_eq] at hab hbc ⊢
      exact String.le_trans hab hbc
    · intro a b
      rw [Bool.or_eq_true, decide_eq_true_eq, decide_eq_true_eq]
      exact String.le_total a.1 b.1
  have hne : m.sorted.Pairwise (fun a b => a.1 ≠ b.1) := List.pairwise_map.mp m.nodup_sorted
  refine hle.imp₂ (fun a b hab hne => ?_) hne
  rw [decide_eq_true_eq] at hab
  exact String.not_le.mp fun hba => hne (String.le_antisymm hab hba)

/-- **The order in which names were bound does not show** in the sorted entries: maps with the same
look-ups have the same ones. -/
theorem sorted_congr (h : ∀ name, m.find? name = n.find? name) : m.sorted = n.sorted := by
  have hperm : m.entries.Perm n.entries := by
    have nodup_entries (k : NameMap α) : k.entries.Nodup :=
      (List.pairwise_map.mp k.nodup).imp fun hne heq => hne (congrArg Prod.fst heq)
    refine (List.perm_ext_iff_of_nodup (nodup_entries m) (nodup_entries n)).mpr ?_
    rintro ⟨name, value⟩
    rw [mem_entries_iff, mem_entries_iff, h]
  refine List.Perm.eq_of_pairwise (fun a b _ _ hab hba => ?_) m.pairwise_sorted n.pairwise_sorted
    ((m.perm_sorted.trans hperm).trans n.perm_sorted.symm)
  exact absurd (String.lt_trans hab hba) (String.lt_irrefl _)

theorem length_sorted (m : NameMap α) : m.sorted.length = m.size :=
  m.perm_sorted.length_eq

theorem pairwise_sortNames (names : List String) : (sortNames names).Pairwise (· < ·) :=
  List.pairwise_map.mpr (pairwise_sorted _)

theorem mem_sortNames_iff : name ∈ sortNames names ↔ name ∈ names := by
  have hkeys (m : NameMap Unit) : name ∈ m.sorted.map (·.1) ↔ m.contains name = true := by
    rw [(m.perm_sorted.map _).mem_iff]
    exact mem_keys_iff
  rw [sortNames, hkeys, contains, ofList, find?_foldl_insert_reverse, find?_empty, Option.or_none,
    List.lookup_isSome_iff]
  simp

end NameMap

end Calculator
