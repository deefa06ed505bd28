import Calculator.Proofs.Dependence
import Calculator.Proofs.Loading
import Calculator.Proofs.NormalForm

/-!
# Names

The check that a table makes of a name and the reading of an expression are separate, and they
agree: the names that pass the check are the texts that are read as the variable of this very name.
So what a table accepts can be written in an expression, and what an expression mentions can be set.

## Main results

* `Expr.isIdentifier_iff`: the check of a name and the reading of a text
* `Table.set_succeeds_iff`: the names that a table accepts
* `Table.exists_setEach_of_runLoad`: the names that a file brings into a table
* `Expr.names_agree`: tables, files and expressions have the same names
-/

namespace Calculator

/-! ## Names in expressions -/

/-- **Names and expressions**: a text passes the check of names exactly if it is read as the
variable of this name.  Brackets and white space around a name are read too, but then it is not the
text. -/
theorem Expr.isIdentifier_iff {config : ParserConfig} {name : String} :
    isIdentifier name = true ↔ Expr.parse config name = .ok (.var name) := by
  constructor
  · intro h
    exact Expr.parse_of_isIdentifier h config
  · intro h
    -- the variable that was read is the only one of the expression
    exact Expr.isIdentifier_of_parse h name List.mem_cons_self

/-! ## Names in tables -/

namespace Table

variable {t after : Table} {name : String} {x : Float} {store : FileStore} {p : Path} {n : Nat}

theorem set_eq_ok (h : isIdentifier name = true) (t : Table) (x : Float) :
    t.set name x = .ok { t with user := t.user.insert name x } :=
  if_pos h

theorem set_succeeds_iff : (∃ after, t.set name x = .ok after) ↔ isIdentifier name = true := by
  constructor
  · rintro ⟨after, h⟩
    rw [set] at h
    split at h
    · assumption
    · cases h
  · intro h
    exact ⟨_, set_eq_ok h t x⟩

/-- A file that is loaded brings the variables that were decoded, none of which is refused. -/
theorem exists_setEach_of_runLoad (h : t.runLoad store p = (.ok n, after)) :
    ∃ bytes values, store.read p = .ok bytes ∧ VariablesFile.decode p.text bytes = .ok values ∧
      t.setEach values = (.ok (), after) := by
  cases hread : store.read p with
  | error e =>
    simp only [runLoad, hread] at h
    cases h
  | ok bytes =>
    cases hdecode : VariablesFile.decode p.text bytes with
    | error e =>
      rw [runLoad_of_decode_error hread hdecode] at h
      cases h
    | ok values =>
      -- what was decoded has passed the check that the table makes
      refine ⟨bytes, values, rfl, hdecode, ?_⟩
      rw [runLoad_of_decode_ok hread hdecode] at h
      obtain ⟨-, rfl⟩ := Prod.mk.inj h
      exact setEach_of_isIdentifier (VariablesFile.isIdentifier_of_decode hdecode) t

end Table

/-! ## The two sides -/

/-- **Tables, files and expressions have the same names.**  A text passes the check of names exactly
if it is read as the variable of this name, and these are the names that a table accepts.  All names
of a file that is loaded are among them, and so are all variables of whatever is parsed, so that
they can be set. -/
theorem Expr.names_agree (config : ParserConfig) :
    (∀ name, isIdentifier name = true ↔ Expr.parse config name = .ok (.var name)) ∧
    (∀ (t : Table) (name : String) (x : Float),
      (∃ after, t.set name x = .ok after) ↔ Expr.parse config name = .ok (.var name)) ∧
    (∀ (t after : Table) (store : FileStore) (p : Path) (n : Nat),
      t.runLoad store p = (.ok n, after) →
        ∃ bytes values, store.read p = .ok bytes ∧
          VariablesFile.decode p.text bytes = .ok values ∧ t.setEach values = (.ok (), after) ∧
          ∀ value ∈ values, Expr.parse config value.1 = .ok (.var value.1)) ∧
    ∀ (text : String) (e : Expr), Expr.parse config text = .ok e → ∀ name ∈ e.variableNames,
      ∀ (t : Table) (x : Float), ∃ after, t.set name x = .ok after ∧ after.get? name = some x := by
  refine ⟨fun name => Expr.isIdentifier_iff, ?_, ?_, ?_⟩
  · intro t name x
    rw [Table.set_succeeds_iff]
    exact Expr.isIdentifier_iff
  · intro t after store p n h
    obtain ⟨bytes, values, hread, hdecode, hset⟩ := Table.exists_setEach_of_runLoad h
    refine ⟨bytes, values, hread, hdecode, hset, ?_⟩
    intro value hvalue
    exact Expr.isIdentifier_iff.mp (VariablesFile.isIdentifier_of_decode hdecode value hvalue)
  · intro text e h name hname t x
    rw [Expr.mem_variableNames_iff] at hname
    have hset := Table.set_eq_ok (Expr.isIdentifier_of_parse h name hname) t x
    refine ⟨_, hset, ?_⟩
    rw [Table.get?_set hset, if_pos rfl]

/-- A numeric character that is no digit of ASCII goes on a name and does not begin one. -/
theorem Expr.names_agree_superscript :
    let bytes := Utf8.encode "\x7b\"x²\": 4\x7d".toList
    let store : FileStore := ⟨[(["vars"], .file bytes)]⟩
    isIdentifier "²x" = false ∧ Expr.parse {} "²x" ≠ .ok (.var "²x") ∧
      Expr.parse {} " (x²) " = .ok (.var "x²") ∧
      (∃ after, (Table.start true).set "x²" 2 = .ok after ∧ after.get? "x²" = some 2) ∧
      ∃ after bytes values, (Table.start true).runLoad store ⟨"", ["vars"]⟩ = (.ok 1, after) ∧
        VariablesFile.decode "vars" bytes = .ok values ∧
        ∀ value ∈ values, Expr.parse {} value.1 = .ok (.var value.1) := by
  intro bytes store
  obtain ⟨hnames, -, hfiles, hvariables⟩ := Expr.names_agree {}
  have hbegins : isIdentifier "²x" = false := by decide +kernel
  have hbrackets : Expr.parse {} " (x²) " = .ok (.var "x²") := by decide +kernel
  refine ⟨hbegins, ?_, hbrackets, ?_, ?_⟩
  · intro h
    rw [(hnames "²x").mpr h] at hbegins
    cases hbegins
  · exact hvariables _ _ hbrackets "x²" (Expr.mem_variableNames_iff.mpr List.mem_cons_self)
      (Table.start true) 2
  · have hcount : ((Table.start true).runLoad store ⟨"", ["vars"]⟩).1.toOption = some 1 := by
      decide +kernel
    rcases hload : (Table.start true).runLoad store ⟨"", ["vars"]⟩ with ⟨e | n, after⟩
    · rw [hload] at hcount
      cases hcount
    · rw [hload] at hcount
      obtain rfl := Option.some.inj hcount
      obtain ⟨bytes', values, -, hdecode, -, hvalues⟩ := hfiles _ _ _ _ _ hload
      exact ⟨after, bytes', values, rfl, hdecode, hvalues⟩

end Calculator
