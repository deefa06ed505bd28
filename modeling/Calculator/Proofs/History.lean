import Calculator.Proofs.Session
import Calculator.VariablesFile

/-!
# The tables that a run can come to

A table is made once and then changed by calls, by files that are loaded and by the lines of
sessions.  None of them touches the constants, and none gives a value to a name that an input cannot
refer to; this also holds of calls, files and lines that fail.

## Main definitions

* `Table.Evolves t u`: what may differ between a table and a later one
* `Table.Step t u`: one change of the table `t`
* `Table.Reachable includeBuiltins t`: a history leads to the table `t`

## Main results

* `Table.Step.evolves`: what one change may do
* `Table.Reachable.builtins_eq`: the constants are those from the start
* `Table.Reachable.isIdentifier`: an input can refer to every name of the user
-/

namespace Calculator

/-- A line that is run gives at most one name a value, and one that an input can refer to. -/
theorem Session.run_eq_or_assigned (s : Session) (line : String) :
    (s.run line).2 = s ∨
      ∃ name value, isIdentifier name = true ∧ (s.run line).2 = s.assigned name value := by
  by_cases hmem : '=' ∈ line.toList
  · obtain ⟨target, right, hline, htarget⟩ := List.eq_append_cons_of_mem hmem
    rw [run_of_mem hline htarget]
    cases hname : isIdentifier (String.ofList (Text.trim target)) with
    | false =>
      rw [runOn_assign_of_invalid hname]
      exact .inl rfl
    | true =>
      rw [runOn_assign hname]
      rcases s.evaluate line (target.length + 1) with e | ⟨tree, value⟩
      · exact .inl rfl
      · exact .inr ⟨_, value, hname, rfl⟩
  · cases hblank : Text.isBlank line.toList with
    | true =>
      rw [run_of_isBlank hblank]
      exact .inl rfl
    | false =>
      rw [run_of_not_mem hblank hmem]
      exact .inl rfl

namespace Table

variable {t u v : Table} {name : String} {x : Float}

/-- What may differ between a table and a later one: the user's values, and new ones only for names
that an input can refer to. -/
structure Evolves (t u : Table) : Prop where
  builtins_eq : u.builtins = t.builtins
  isUser : ∀ name, u.isUser name = true → t.isUser name = true ∨ isIdentifier name = true

theorem Evolves.refl (t : Table) : t.Evolves t :=
  ⟨rfl, fun _ h => .inl h⟩

theorem Evolves.trans (h : t.Evolves u) (h' : u.Evolves v) : t.Evolves v := by
  refine ⟨h'.builtins_eq.trans h.builtins_eq, ?_⟩
  intro name hname
  rcases h'.isUser name hname with hu | hidentifier
  · exact h.isUser name hu
  · exact .inr hidentifier

theorem evolves_insert (hname : isIdentifier name = true) :
    t.Evolves { t with user := t.user.insert name x } := by
  refine ⟨rfl, ?_⟩
  intro other hother
  rw [isUser, NameMap.contains, NameMap.find?_insert] at hother
  split at hother
  · rename_i heq
    exact .inr (heq ▸ hname)
  · exact .inl hother

theorem evolves_set (h : t.set name x = .ok u) : t.Evolves u := by
  rw [set] at h
  split at h
  · rename_i hname
    cases h
    exact evolves_insert hname
  · cases h

theorem evolves_setJson {v : Json} (h : t.setJson name v = .ok u) : t.Evolves u := by
  rw [setJson] at h
  split at h
  · split at h
    · exact evolves_set h
    · cases h
  · cases h

theorem evolves_delete : t.Evolves (t.delete name) := by
  refine ⟨rfl, ?_⟩
  intro other hother
  rw [isUser, delete, NameMap.contains, NameMap.find?_erase] at hother
  split at hother
  · cases hother
  · exact .inl hother

theorem evolves_reset : t.Evolves t.reset :=
  ⟨rfl, fun _ h => by cases h⟩

/-- What was set before a name is refused stays set. -/
theorem evolves_setEach (values : List (String × Float)) : t.Evolves (t.setEach values).2 := by
  induction values generalizing t with
  | nil => exact .refl t
  | cons value values ih =>
    obtain ⟨name, x⟩ := value
    rw [setEach]
    cases hset : t.set name x with
    | ok u => exact (evolves_set hset).trans ih
    | error e => exact .refl t

theorem evolves_runLoad (store : FileStore) (p : Path) : t.Evolves (t.runLoad store p).2 := by
  rw [runLoad]
  split
  · exact .refl t
  · split
    · exact .refl t
    · rename_i values _
      have hset := @evolves_setEach t values
      split <;> rename_i heq <;> rwa [heq] at hset

theorem evolves_line (config : ParserConfig) (line : String) :
    t.Evolves ((Session.mk t config).run line).2.table := by
  rcases Session.run_eq_or_assigned ⟨t, config⟩ line with h | ⟨name, value, hname, h⟩
  · rw [h]
    exact .refl t
  · rw [h]
    exact evolves_insert hname

/-- One change of a table.  A call that is refused changes nothing; a file and a line of a session
also count if they fail. -/
inductive Step (t : Table) : Table → Prop
  | set {name : String} {x : Float} {u : Table} (h : t.set name x = .ok u) : Step t u
  | setJson {name : String} {v : Json} {u : Table} (h : t.setJson name v = .ok u) : Step t u
  | delete (name : String) : Step t (t.delete name)
  | reset : Step t t.reset
  | load (store : FileStore) (p : Path) : Step t (t.runLoad store p).2
  | line (config : ParserConfig) (line : String) : Step t ((Session.mk t config).run line).2.table

/-- A table that is made with or without the builtin constants and then changed.  Values that a
table is made with are set first. -/
inductive Reachable (includeBuiltins : Bool) : Table → Prop
  | start : Reachable includeBuiltins (.start includeBuiltins)
  | step {t u : Table} (h : Reachable includeBuiltins t) (hstep : t.Step u) :
      Reachable includeBuiltins u

/-- **One change** of a table. -/
theorem Step.evolves (h : t.Step u) : t.Evolves u := by
  cases h with
  | set h => exact evolves_set h
  | setJson h => exact evolves_setJson h
  | delete name => exact evolves_delete
  | reset => exact evolves_reset
  | load store p => exact evolves_runLoad store p
  | line config line => exact evolves_line config line

variable {includeBuiltins : Bool}

/-- **A history** does no more than its changes. -/
theorem Reachable.evolves (h : t.Reachable includeBuiltins) :
    (Table.start includeBuiltins).Evolves t := by
  induction h with
  | start => exact .refl _
  | step _ hstep ih => exact ih.trans hstep.evolves

/-- **The constants** are those from the start. -/
theorem Reachable.builtins_eq (h : t.Reachable includeBuiltins) :
    t.builtins = (Table.start includeBuiltins).builtins :=
  h.evolves.builtins_eq

/-- **An input can refer to every name of the user.** -/
theorem Reachable.isIdentifier (h : t.Reachable includeBuiltins) (hname : t.isUser name = true) :
    isIdentifier name = true := by
  rcases h.evolves.isUser name hname with hstart | hidentifier
  · cases hstart
  · exact hidentifier

end Table

end Calculator
