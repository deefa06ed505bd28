import Calculator.CommandLine.Run
import Calculator.Proofs.Saving

/-!
# Runs of the interactive loop

A line of a session fails because it is malformed or because a variable has no value, and the loop
reports both.  So the loop ends only where it is told to or where the input ends, and the session is
then the one that the lines make which did not fail.

## Main definitions

* `Session.advance s line`: the session after a line, or as before if the line fails
* `Session.advanceAll s lines`: the session after lines, without those that fail
* `Repl.executed lines`: the lines that the loop gives to the session

## Main results

* `Session.run_error_cases`: why a line fails
* `Repl.step_cases`: what becomes of the loop at a line
* `Repl.run_eq_advanceAll`: the session at the end of the loop
* `CommandLine.interact_drops_failures`: what the loop leaves in the files
-/

namespace Calculator

open Text

/-! ## Lines that fail -/

namespace Session

variable {s : Session} {line : String} {start : Nat} {e : LineError}

theorem evaluate_error (h : s.evaluate line start = .error e) :
    (∃ p, e = .parse p) ∨ ∃ u, e = .unbound u := by
  rcases bind_eq_error h with hparse | ⟨tree, -, h⟩
  · obtain ⟨p, -, rfl⟩ := mapError_eq_error hparse
    exact .inl ⟨p, rfl⟩
  rcases bind_eq_error h with heval | ⟨value, -, h⟩
  · obtain ⟨u, -, rfl⟩ := mapError_eq_error heval
    exact .inr ⟨u, rfl⟩
  · cases h

/-- **Why a line fails**: it is malformed, or a variable has no value.  The table refuses nothing,
as a line that comes to the table has a name for its value. -/
theorem run_error_cases (h : (s.run line).1 = .error e) :
    (∃ p, e = .parse p) ∨ ∃ u, e = .unbound u := by
  by_cases hmem : '=' ∈ line.toList
  · obtain ⟨target, right, hline, htarget⟩ := List.eq_append_cons_of_mem hmem
    rw [run_of_mem hline htarget] at h
    cases hname : isIdentifier (String.ofList (trim target)) with
    | false =>
      rw [runOn_assign_of_invalid hname] at h
      cases h
      exact .inl ⟨_, rfl⟩
    | true =>
      rw [runOn_assign hname] at h
      cases hvalue : s.evaluate line (target.length + 1) with
      | error e' =>
        rw [hvalue] at h
        cases h
        exact evaluate_error hvalue
      | ok result =>
        rw [hvalue] at h
        cases h
  · cases hblank : isBlank line.toList with
    | true =>
      rw [run_of_isBlank hblank] at h
      cases h
    | false =>
      rw [run_of_not_mem hblank hmem] at h
      exact evaluate_error (map_eq_error h)

theorem execute_eq_error_iff : s.execute line = .error e ↔ (s.run line).1 = .error e := by
  rw [execute]
  rcases s.run line with ⟨e' | outcome, after⟩ <;> simp [Except.map]

/-- The session after a line.  A line that fails is dropped. -/
def advance (s : Session) (line : String) : Session :=
  match s.execute line with
  | .ok (_, after) => after
  | .error _ => s

/-- The session after lines, of which those that fail are dropped. -/
def advanceAll (s : Session) (lines : List String) : Session :=
  lines.foldl advance s

theorem advance_eq_run (s : Session) (line : String) : s.advance line = (s.run line).2 := by
  cases h : s.execute line with
  | ok result =>
    obtain ⟨outcome, after⟩ := result
    rw [advance, h, execute_eq_ok_iff.mp h]
  | error e =>
    rw [advance, h, run_error (execute_eq_error_iff.mp h)]

/-- Lines are changes of the table. -/
theorem reachable_advanceAll {includeBuiltins : Bool} (h : s.table.Reachable includeBuiltins)
    (lines : List String) : (s.advanceAll lines).table.Reachable includeBuiltins := by
  induction lines generalizing s with
  | nil => exact h
  | cons line lines ih =>
    refine ih (.step h ?_)
    rw [advance_eq_run]
    exact .line s.config line

end Session

/-! ## The loop -/

namespace Repl

variable {s : Session} {line : String} {lines : List String}

theorem step_of_quit (h : command line = ":quit") : step s line = .quits := by
  rw [step, if_pos h]

theorem step_of_vars (h : command line = ":vars") :
    step s line = .shows (Display.variableTable s.table) s := by
  have hquit : command line ≠ ":quit" := by
    rw [h]
    decide
  rw [step, if_neg hquit, if_pos h]

/-- A line that is no command is run, and a failure is shown like a result. -/
theorem step_of_line (hquit : command line ≠ ":quit") (hvars : command line ≠ ":vars") :
    ∃ shown, step s line = .shows shown (s.advance line) := by
  rw [step, if_neg hquit, if_neg hvars, s.advance_eq_run]
  rcases hrun : s.run line with ⟨e | outcome, after⟩
  · have herror : (s.run line).1 = .error e := by rw [hrun]
    rcases Session.run_error_cases herror with ⟨p, rfl⟩ | ⟨u, rfl⟩
    · exact ⟨_, rfl⟩
    · exact ⟨_, rfl⟩
  · cases outcome with
    | blank => exact ⟨_, rfl⟩
    | expression tree value => exact ⟨_, rfl⟩
    | assignment name tree value => exact ⟨_, rfl⟩

/-- **A line of the loop**: `:quit` ends it, `:vars` leaves the session as it is, and every other
line leaves what it makes of the session. -/
theorem step_cases (s : Session) (line : String) :
    (command line = ":quit" ∧ step s line = .quits) ∨
    (command line ≠ ":quit" ∧ command line = ":vars" ∧ ∃ shown, step s line = .shows shown s) ∨
    (command line ≠ ":quit" ∧ command line ≠ ":vars" ∧
      ∃ shown, step s line = .shows shown (s.advance line)) := by
  by_cases hquit : command line = ":quit"
  · exact .inl ⟨hquit, step_of_quit hquit⟩
  · by_cases hvars : command line = ":vars"
    · exact .inr (.inl ⟨hquit, hvars, _, step_of_vars hvars⟩)
    · exact .inr (.inr ⟨hquit, hvars, step_of_line hquit hvars⟩)

theorem step_eq_quits_iff : step s line = .quits ↔ command line = ":quit" := by
  refine ⟨fun h => ?_, step_of_quit⟩
  rcases step_cases s line with ⟨hquit, -⟩ | ⟨-, -, shown, hstep⟩ | ⟨-, -, shown, hstep⟩
  · exact hquit
  · cases hstep.symm.trans h
  · cases hstep.symm.trans h

theorem step_ne_breaks (s : Session) (line : String) (e : TableError) :
    step s line ≠ .breaks e := by
  intro h
  rcases step_cases s line with ⟨-, hstep⟩ | ⟨-, -, shown, hstep⟩ | ⟨-, -, shown, hstep⟩
  · cases hstep.symm.trans h
  · cases hstep.symm.trans h
  · cases hstep.symm.trans h

/-! ## The lines that reach the session -/

/-- The lines that the loop gives to the session: those before the first `:quit`, and of these all
but `:vars`. -/
def executed (lines : List String) : List String :=
  (lines.takeWhile (command · ≠ ":quit")).filter (command · ≠ ":vars")

theorem executed_cons_of_quit (h : command line = ":quit") : executed (line :: lines) = [] := by
  rw [executed, List.takeWhile_cons_of_neg (by simpa using h), List.filter_nil]

theorem executed_cons_of_vars (hquit : command line ≠ ":quit") (hvars : command line = ":vars") :
    executed (line :: lines) = executed lines := by
  rw [executed, List.takeWhile_cons_of_pos (by simpa using hquit),
    List.filter_cons_of_neg (by simpa using hvars), executed]

theorem executed_cons_of_line (hquit : command line ≠ ":quit") (hvars : command line ≠ ":vars") :
    executed (line :: lines) = line :: executed lines := by
  rw [executed, List.takeWhile_cons_of_pos (by simpa using hquit),
    List.filter_cons_of_pos (by simpa using hvars), executed]

theorem run_cons_of_shows {after : Session} {shown : String}
    (h : step s line = .shows shown after) :
    run s (line :: lines) = (prompt ++ shown ++ (run after lines).1, (run after lines).2) := by
  rw [run, h]

/-- **The session at the end of the loop** is what the lines make that are given to it, without
those that fail. -/
theorem run_eq_advanceAll (s : Session) (lines : List String) :
    ∃ shown, run s lines = (shown, .ok (s.advanceAll (executed lines))) := by
  induction lines generalizing s with
  | nil => exact ⟨_, rfl⟩
  | cons line lines ih =>
    rcases step_cases s line with
      ⟨hquit, hstep⟩ | ⟨hquit, hvars, first, hstep⟩ | ⟨hquit, hvars, first, hstep⟩
    · rw [executed_cons_of_quit hquit, run, hstep]
      exact ⟨_, rfl⟩
    · obtain ⟨shown, hrun⟩ := ih s
      rw [executed_cons_of_vars hquit hvars, run_cons_of_shows hstep, hrun]
      exact ⟨_, rfl⟩
    · obtain ⟨shown, hrun⟩ := ih (s.advance line)
      rw [executed_cons_of_line hquit hvars, run_cons_of_shows hstep, hrun]
      exact ⟨_, rfl⟩

end Repl

/-! ## What the loop leaves behind -/

namespace CommandLine

variable {store : FileStore} {source : VariableSource} {t : Table}

theorem reachable_of_foldlM_set {includeBuiltins : Bool} {after : Table}
    {given : List (String × Float)} (ht : t.Reachable includeBuiltins)
    (h : given.foldlM (fun (t : Table) (name, x) => t.set name x) t = .ok after) :
    after.Reachable includeBuiltins := by
  induction given generalizing t with
  | nil => exact Except.ok.inj h ▸ ht
  | cons entry given ih =>
    obtain ⟨next, hset, h⟩ := bind_eq_ok h
    exact ih (.step ht (.set hset)) h

/-- A table that is built comes about by loading a file and setting variables. -/
theorem reachable_of_buildTable (h : buildTable store source = .ok t) :
    t.Reachable source.builtins := by
  obtain ⟨start, hload, hgiven⟩ := bind_eq_ok h
  refine reachable_of_foldlM_set ?_ (mapError_eq_ok_iff.mp hgiven)
  rcases hfile : source.file with _ | path
  · rw [hfile] at hload
    exact Except.ok.inj hload ▸ .start
  · rw [hfile] at hload
    have hstep := Table.Step.load (t := .start source.builtins) store (Path.ofString path)
    simp only [loadFile, Table.load] at hload
    rcases hrun : (Table.start source.builtins).runLoad store (Path.ofString path) with
      ⟨e | n, after⟩
    · rw [hrun] at hload
      cases hload
    · rw [hrun] at hload hstep
      exact Except.ok.inj hload ▸ .step .start hstep

/-- Every input comes to the end of the session. -/
theorem interact_eq_endSession (h : buildTable store source = .ok t) (saveTo : Option String)
    (input : String) :
    ∃ shown, interact store source saveTo input =
      endSession store shown
        (Session.advanceAll { table := t }
          (Repl.executed (Repl.inputLines input.toList))).table saveTo := by
  obtain ⟨shown, hrun⟩ :=
    Repl.run_eq_advanceAll { table := t } (Repl.inputLines input.toList)
  rw [interact, h]
  simp only [hrun]
  exact ⟨_, rfl⟩

theorem store_saveSession (store : FileStore) (output : String) (t : Table) (path : String) :
    (saveSession store output t path).store = (t.save store (Path.ofString path)).1 := by
  rw [saveSession]
  rcases t.save store (Path.ofString path) with ⟨after, e | -⟩
  · rfl
  · dsimp only
    cases savedMessage t.user.size path <;> rfl

theorem read_save {p : Path} (h : store.IsWritable p) (t : Table) :
    (t.save store p).1.read p = .ok (VariablesFile.encode t.user) := by
  obtain ⟨after, hsave⟩ := FileStore.exists_writeDeep h (VariablesFile.encode t.user)
  rw [Table.save, hsave]
  exact FileStore.read_writeDeep hsave

/-- **No line breaks the loop off**, whatever came before it: a line fails only because it is
malformed or because a variable has no value, and both are reported.  At the end of the loop, which
is the first `:quit` or the end of the input, the session is what the lines before make of it,
without `:vars` and without those that fail; and so are the variables that are saved, if a file is
named for them: those of the session, and no others, are read back from it. -/
theorem interact_drops_failures (h : buildTable store source = .ok t) :
    (∀ (s : Session) (line : String) (e : LineError), s.execute line = .error e →
      (∃ p, e = .parse p) ∨ ∃ u, e = .unbound u) ∧
    (∀ (s : Session) (line : String),
      (Repl.step s line = .quits ↔ Repl.command line = ":quit") ∧
      ∀ e, Repl.step s line ≠ .breaks e) ∧
    (∀ (s : Session) (lines : List String),
      ∃ shown, Repl.run s lines = (shown, .ok (s.advanceAll (Repl.executed lines)))) ∧
    ∀ (saveTo : Option String) (input : String),
      let after := (Session.advanceAll { table := t }
        (Repl.executed (Repl.inputLines input.toList))).table
      (saveTo.getD "" = "" → ∃ shown, interact store source saveTo input = .success store shown) ∧
      (∃ values, values.Perm after.user.entries ∧
        ∀ place, VariablesFile.decode place (VariablesFile.encode after.user) = .ok values) ∧
      ∀ path, path ≠ "" → saveTo = some path →
        (interact store source saveTo input).store =
            (after.save store (Path.ofString path)).1 ∧
          (store.IsWritable (Path.ofString path) →
            (interact store source saveTo input).store.read (Path.ofString path) =
              .ok (VariablesFile.encode after.user)) := by
  refine ⟨fun s line e he => Session.run_error_cases (Session.execute_eq_error_iff.mp he),
    fun s line => ⟨Repl.step_eq_quits_iff, Repl.step_ne_breaks s line⟩, Repl.run_eq_advanceAll, ?_⟩
  intro saveTo input after
  obtain ⟨shown, hend⟩ := interact_eq_endSession h saveTo input
  have hafter : after.Reachable source.builtins :=
    Session.reachable_advanceAll (s := { table := t }) (reachable_of_buildTable h) _
  refine ⟨?_, ⟨_, after.user.perm_sorted, hafter.decode_encode⟩, ?_⟩
  · intro hnone
    rcases saveTo with _ | path
    · exact ⟨_, hend⟩
    · obtain rfl : path = "" := hnone
      exact ⟨_, hend⟩
  · rintro path hpath rfl
    have hsaves : interact store source (some path) input =
        saveSession store shown after path := by
      rw [hend, endSession, Option.filter_some_pos (by simpa using hpath)]
    rw [hsaves, store_saveSession]
    exact ⟨rfl, fun hwritable => read_save hwritable after⟩

/-- Lines that fail before and after an assignment, and lines after the end. -/
theorem interact_drops_failures_between :
    let source : VariableSource := ⟨[], none, true⟩
    let input := "x = 1 +\n:vars\nx = 2\ny\n :quit\nx = 3\n"
    let after := (Session.advanceAll { table := .start true }
      (Repl.executed (Repl.inputLines input.toList))).table
    buildTable .empty source = .ok (.start true) ∧
      FileStore.empty.IsWritable (Path.ofString "v") ∧ after.user.entries = [("x", 2)] ∧
      (interact .empty source (some "v") input).store.read (Path.ofString "v") =
        .ok (VariablesFile.encode after.user) ∧
      VariablesFile.decode "v" (VariablesFile.encode after.user) = .ok [("x", 2)] := by
  intro source input after
  have hbuild : buildTable .empty source = .ok (.start true) := rfl
  have hwritable : FileStore.empty.IsWritable (Path.ofString "v") :=
    ⟨.empty, ["v"], rfl, rfl, by decide⟩
  have hentries : after.user.entries = [("x", 2)] := by decide +kernel
  obtain ⟨-, -, -, hloop⟩ := interact_drops_failures hbuild
  obtain ⟨-, ⟨values, hvalues, hdecode⟩, hsaves⟩ := hloop (some "v") input
  obtain rfl : values = [("x", 2)] := by
    rw [← List.perm_singleton, ← hentries]
    exact hvalues
  exact ⟨hbuild, hwritable, hentries, (hsaves "v" (by decide) rfl).2 hwritable, hdecode "v"⟩

end CommandLine

end Calculator
