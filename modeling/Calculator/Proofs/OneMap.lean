import Mathlib.Data.List.Sort
import Mathlib.Data.String.Basic
import Mathlib.Logic.Relation
import Calculator.Proofs.History

/-!
# A table is one map

A table has two layers, and each of the questions that it answers reads them in its own way.  All
answers describe one map: the constants with the values of the user laid over them.  What the
answers name can be referred to by an input, whatever has happened to the table.

## Main results

* `Table.Reachable.of_make`, `Table.Reachable.of_steps`: how a table comes about
* `Table.names_perm_keys`: the names of both layers are those of the one map
* `Table.Reachable.isIdentifier_of_mem_names`: an input can refer to every name that has a value
* `Table.one_map`: the answers of a table after any history
-/

namespace Calculator

/-- An input can refer to every constant. -/
theorem Constants.isIdentifier_of_mem {name : String} (h : name ∈ Constants.builtins.keys) :
    isIdentifier name = true := by
  have hall : Constants.builtins.keys.all isIdentifier = true := by decide +kernel
  exact List.all_eq_true.mp hall name h

namespace Table

variable {t u : Table} {name : String} {includeBuiltins : Bool}

/-! ## Histories -/

theorem Reachable.of_foldlM (h : t.Reachable includeBuiltins) {given : List (String × Json)}
    (hgiven : given.foldlM (fun t entry => t.setJson entry.1 entry.2) t = .ok u) :
    u.Reachable includeBuiltins := by
  induction given generalizing t with
  | nil =>
    obtain rfl := Except.ok.inj hgiven
    exact h
  | cons entry given ih =>
    obtain ⟨v, hv, hgiven⟩ := bind_eq_ok hgiven
    exact ih (.step h (.setJson hv)) hgiven

/-- The values that a table is made with are set first. -/
theorem Reachable.of_make {given : List (String × Json)} (h : make includeBuiltins given = .ok t) :
    t.Reachable includeBuiltins :=
  .of_foldlM .start h

theorem Reachable.of_steps (h : t.Reachable includeBuiltins)
    (hsteps : Relation.ReflTransGen Step t u) : u.Reachable includeBuiltins := by
  induction hsteps with
  | refl => exact h
  | tail _ hstep ih => exact .step ih hstep

/-! ## The names of a table -/

theorem mem_names_iff : name ∈ t.names ↔ name ∈ t.builtins.keys ∨ name ∈ t.user.keys := by
  rw [names, NameMap.mem_sortNames_iff, List.mem_append]

theorem mem_keys_bindings_iff :
    name ∈ t.bindings.keys ↔ name ∈ t.builtins.keys ∨ name ∈ t.user.keys := by
  rw [NameMap.mem_keys_iff, contains_bindings, contains, Bool.or_eq_true, NameMap.mem_keys_iff,
    NameMap.mem_keys_iff, or_comm]

/-- The names of both layers are those of the one map. -/
theorem names_perm_keys (t : Table) : t.names.Perm t.bindings.keys := by
  refine (List.perm_ext_iff_of_nodup ?_ t.bindings.nodup).mpr fun name => ?_
  · exact (NameMap.pairwise_sortNames _).imp ne_of_lt
  · exact mem_names_iff.trans mem_keys_bindings_iff.symm

theorem Reachable.isIdentifier_of_mem_names (h : t.Reachable includeBuiltins)
    (hname : name ∈ t.names) : Calculator.isIdentifier name = true := by
  rcases mem_names_iff.mp hname with hbuiltin | huser
  · rw [h.builtins_eq, Table.start] at hbuiltin
    cases includeBuiltins with
    | true => exact Constants.isIdentifier_of_mem hbuiltin
    | false => exact absurd hbuiltin List.not_mem_nil
  · exact h.isIdentifier (NameMap.mem_keys_iff.mp huser)

/-- A name that has a value is an expression with this value. -/
theorem Reachable.eval_name (h : t.Reachable includeBuiltins) (hname : name ∈ t.names)
    (config : ParserConfig) :
    ∃ tree value, Expr.parse config name = .ok tree ∧ tree.eval t.bindings = .ok value ∧
      t.get? name = some value := by
  have hcontains : t.bindings.contains name = true := by
    rwa [t.names_perm_keys.mem_iff, NameMap.mem_keys_iff] at hname
  obtain ⟨value, hvalue⟩ := Option.isSome_iff_exists.mp hcontains
  have heval : (Expr.var name).eval t.bindings = .ok value := by
    rw [Expr.eval, Expr.evalWith, NameMap.lookup, hvalue]
  rw [find?_bindings] at hvalue
  exact ⟨_, value, Expr.parse_of_isIdentifier (h.isIdentifier_of_mem_names hname) config, heval,
    hvalue⟩

/-! ## The answers of a table -/

theorem isBuiltin_iff :
    t.isBuiltin name = true ↔ name ∈ t.builtins.keys ∧ name ∉ t.user.keys := by
  rw [isBuiltin, NameMap.mem_keys_iff, NameMap.mem_keys_iff, Bool.and_eq_true, Bool.not_eq_true',
    Bool.not_eq_true]

theorem runDelete_eq_true_iff : (t.runDelete name).1 = true ↔ name ∈ t.user.keys := by
  rw [NameMap.mem_keys_iff]
  rfl

/-- A deletion brings back the constant, if there is one, and changes no other value. -/
theorem get?_runDelete (other : String) :
    (t.runDelete name).2.get? other =
      if other = name then t.builtins.find? other else t.get? other :=
  get?_delete t name other

/-- **A table is one map**, whatever values it was made with and whatever happened to it: names set,
deleted or reset, files loaded and lines run, those that failed included.  Its constants are those
it was made with, and an input can refer to every name of the user.  Look-ups, membership, the names
in increasing order, their number, and whether a name is that of a constant, all describe the
constants with the user's values laid over them; a deletion tells whether the user's layer had the
name, and takes it from there.  Every name that has a value is an expression with this value. -/
theorem one_map {given : List (String × Json)} {made : Table}
    (hmade : make includeBuiltins given = .ok made)
    (hsteps : Relation.ReflTransGen Step made t) :
    (t.builtins = made.builtins ∧ made.builtins = (start includeBuiltins).builtins) ∧
    (∀ name ∈ t.user.keys, isIdentifier name = true) ∧
    (∀ name, t.bindings.find? name = (t.user.find? name).or (t.builtins.find? name)) ∧
    (∀ name, t.get? name = t.bindings.find? name) ∧
    (∀ name, t.contains name = true ↔ name ∈ t.bindings.keys) ∧
    (t.names.Pairwise (· < ·) ∧ t.names.Perm t.bindings.keys ∧
      t.size = t.bindings.keys.length) ∧
    (∀ name, t.isBuiltin name = true ↔ name ∈ t.builtins.keys ∧ name ∉ t.user.keys) ∧
    (∀ name, ((t.runDelete name).1 = true ↔ name ∈ t.user.keys) ∧
      ∀ other, (t.runDelete name).2.get? other =
        if other = name then t.builtins.find? other else t.get? other) ∧
    ∀ name ∈ t.names, ∀ config, ∃ tree value, Expr.parse config name = .ok tree ∧
      tree.eval t.bindings = .ok value ∧ t.get? name = some value := by
  have hstart := Reachable.of_make hmade
  have ht := hstart.of_steps hsteps
  refine ⟨⟨ht.builtins_eq.trans hstart.builtins_eq.symm, hstart.builtins_eq⟩, ?_, ?_, ?_, ?_, ?_,
    fun name => isBuiltin_iff, fun name => ⟨runDelete_eq_true_iff, get?_runDelete⟩,
    fun name hname config => ht.eval_name hname config⟩
  · exact fun name hname => ht.isIdentifier (NameMap.mem_keys_iff.mp hname)
  · exact fun name => find?_bindings t name
  · exact fun name => (find?_bindings t name).symm
  · intro name
    rw [NameMap.mem_keys_iff, contains_bindings]
  · exact ⟨NameMap.pairwise_sortNames _, t.names_perm_keys, t.names_perm_keys.length_eq⟩

/-- A value that hides a constant, before a line that fails and a file that does not exist: the
constant comes back with the deletion of the value. -/
theorem one_map_hidden_constant :
    let made : Table := ⟨Constants.builtins, NameMap.empty.insert "pi" 0⟩
    let failed := ((Session.mk made {}).run "x = 1 +").2.table
    let t := (failed.runLoad .empty ⟨"", ["v"]⟩).2
    make true [("pi", .real 0)] = .ok made ∧ Relation.ReflTransGen Step made t ∧
      (t.runDelete "pi").2.get? "pi" = some Constants.pi ∧
      ∃ tree value, Expr.parse {} "pi" = .ok tree ∧ tree.eval t.bindings = .ok value ∧
        t.get? "pi" = some value := by
  intro made failed t
  have hmade : make true [("pi", .real 0)] = .ok made := rfl
  have hsteps : Relation.ReflTransGen Step made t :=
    .tail (.single (.line {} "x = 1 +")) (.load .empty ⟨"", ["v"]⟩)
  obtain ⟨⟨hbuiltins, -⟩, -, -, -, -, -, -, hdelete, hvalues⟩ := one_map hmade hsteps
  have hpi : made.builtins.find? "pi" = some Constants.pi := by decide +kernel
  refine ⟨hmade, hsteps, ?_, hvalues "pi" (mem_names_iff.mpr (.inl ?_)) {}⟩
  · rw [(hdelete "pi").2, if_pos rfl, hbuiltins, hpi]
  · rw [hbuiltins, NameMap.mem_keys_iff, NameMap.contains, hpi]
    rfl

end Table

end Calculator
