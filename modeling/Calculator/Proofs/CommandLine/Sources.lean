import Calculator.CommandLine.Run
import Calculator.Proofs.CommandLine.Words
import Calculator.Proofs.Loading
import Calculator.Proofs.Paths

/-!
# The variables that options ask for

The options of a command are checked before its table is built.  A check is passed or reported, and
so is every step of building the table; only a path with the null character is neither.  A table
that is built has the constants, unless they are switched off, with the variables of the file and
then the bindings of the options laid over them.

## Main definitions

* `IsBinding item entry`: the name and the number that the value of an option binds
* `IsMembers store file ms`: the members of the object in a file, none without a file
* `Provides store options bindings`: the variables that options ask for

## Main results

* `readBinding_eq_ok_iff`: the bindings that are accepted
* `checkOptions_sources`: how the check of the options ends
* `buildTable_sources`: the table after a check that was passed
-/

namespace Calculator.CommandLine

open Text

/-! ## Bindings -/

/-- The name before the first equals sign, without white space around it, and the number after the
sign. -/
def IsBinding (item : String) (entry : String × Float) : Prop :=
  ∃ target raw, item.toList = target ++ '=' :: raw ∧ '=' ∉ target ∧
    entry.1 = String.ofList (trim target) ∧ readNumber? raw = some entry.2

theorem splitValue_of_eq {item : String} {target raw : List Char}
    (hitem : item.toList = target ++ '=' :: raw) (htarget : '=' ∉ target) :
    splitValue item = (String.ofList target, some (String.ofList raw)) := by
  have hword : item = String.ofList target ++ "=" ++ String.ofList raw := by
    rw [← String.toList_inj, hitem]
    simp
  rw [hword]
  exact splitValue_joined (by rwa [String.toList_ofList]) _

/-- **The bindings that are accepted.** -/
theorem readBinding_eq_ok_iff {item : String} {entry : String × Float} :
    readBinding item = .ok entry ↔ IsBinding item entry := by
  constructor
  · intro h
    by_cases hmem : '=' ∈ item.toList
    · obtain ⟨target, raw, hitem, htarget⟩ := List.eq_append_cons_of_mem hmem
      rw [readBinding, splitValue_of_eq hitem htarget] at h
      simp only [String.toList_ofList] at h
      split at h
      · rename_i x hx
        cases h
        exact ⟨target, raw, hitem, htarget, rfl, hx⟩
      · cases h
    · rw [readBinding, splitValue_of_not_mem hmem] at h
      cases h
  · rintro ⟨target, raw, hitem, htarget, hname, hvalue⟩
    rw [readBinding, splitValue_of_eq hitem htarget]
    simp only [String.toList_ofList, hvalue, ← hname]

theorem readBinding_ne_unusable (item : String) (e : FileError) :
    readBinding item ≠ .error (.unusable e) := by
  intro h
  rw [readBinding] at h
  split at h
  · cases h
  · split at h <;> cases h

/-! ## The options -/

namespace SourceOption

/-- The values of the options that bind a name. -/
def items (options : List SourceOption) : List String :=
  options.filterMap fun
    | binding item _ => some item
    | _ => none

/-- The values of the options that name a file. -/
def paths (options : List SourceOption) : List String :=
  options.filterMap fun
    | file path _ => some path
    | _ => none

end SourceOption

/-- The words that options and one argument are read as. -/
def sourceWords (options : List SourceOption) (expression : String) : Words :=
  ⟨options.map SourceOption.entry, [expression]⟩

section Options

variable {store : FileStore} {options : List SourceOption} {expression : String}

open SourceOption

theorem valuesOf_sourceWords (name : String) :
    (sourceWords options expression).valuesOf name =
      options.filterMap fun option =>
        if option.entry.1 = name then some option.entry.2 else none := by
  induction options with
  | nil => rfl
  | cons option options ih =>
    rw [Words.valuesOf, sourceWords] at ih ⊢
    by_cases h : option.entry.1 = name <;> simp [h, ih]

theorem valuesOf_var : (sourceWords options expression).valuesOf "--var" = items options := by
  rw [valuesOf_sourceWords, items]
  congr 1
  funext option
  cases option <;> rfl

theorem valuesOf_file :
    (sourceWords options expression).valuesOf "--vars-file" = paths options := by
  rw [valuesOf_sourceWords, paths]
  congr 1
  funext option
  cases option <;> rfl

theorem has_builtins :
    (sourceWords options expression).has "--no-builtins" = decide (withoutBuiltins ∈ options) := by
  rw [Bool.eq_iff_iff, decide_eq_true_iff, Words.has, sourceWords, List.any_map, List.any_eq_true]
  constructor
  · rintro ⟨option, hoption, h⟩
    cases option with
    | withoutBuiltins => exact hoption
    | _ => simp [entry] at h
  · intro h
    exact ⟨_, h, by decide⟩

/-- No other option is read. -/
theorem has_eq_false {name : String} (h : name ∉ ["--var", "--vars-file", "--no-builtins"]) :
    (sourceWords options expression).has name = false := by
  rw [Words.has, sourceWords, List.any_map, List.any_eq_false]
  intro option _
  rw [Function.comp_apply, decide_eq_true_iff]
  rintro rfl
  cases option <;> simp [entry] at h

theorem mem_optionNames_iff {name : String} :
    name ∈ (sourceWords options expression).optionNames ↔ ∃ o ∈ options, o.entry.1 = name := by
  rw [Words.optionNames, List.mem_eraseDups, sourceWords, List.map_map, List.mem_map]
  rfl

theorem mem_optionNames_iff_valuesOf {w : Words} {name : String} :
    name ∈ w.optionNames ↔ w.valuesOf name ≠ [] := by
  rw [Words.optionNames, List.mem_eraseDups, Words.valuesOf, ne_eq, List.map_eq_nil_iff,
    List.filter_eq_nil_iff, List.mem_map]
  simp

/-! ## The checks -/

theorem forM_cases {α ε : Type} (f : α → Except ε Unit) (xs : List α) :
    (∃ x ∈ xs, ∃ e, f x = .error e ∧ xs.forM f = .error e) ∨
      (xs.forM f = .ok () ∧ ∀ x ∈ xs, f x = .ok ()) := by
  induction xs with
  | nil => exact .inr ⟨rfl, fun x hx => absurd hx List.not_mem_nil⟩
  | cons x xs ih =>
    have hcons : (x :: xs).forM f = f x >>= fun _ => xs.forM f := rfl
    rw [hcons]
    cases hx : f x with
    | error e => exact .inl ⟨x, List.mem_cons_self, e, hx, rfl⟩
    | ok u =>
      rcases ih with ⟨y, hy, e, hf, hxs⟩ | ⟨hxs, hall⟩
      · exact .inl ⟨y, List.mem_cons_of_mem _ hy, e, hf, hxs⟩
      · exact .inr ⟨hxs, List.forall_mem_cons.mpr ⟨hx, hall⟩⟩

/-- Where nothing fails, leaving out what fails leaves out nothing. -/
theorem filterMap_toOption {α β ε : Type} {f : α → Except ε β} {xs : List α} {ys : List β}
    (h : List.Forall₂ (fun x y => f x = .ok y) xs ys) :
    (xs.filterMap fun x => (f x).toOption) = ys := by
  induction h with
  | nil => rfl
  | @cons x y xs ys hx _ ih =>
    have hsome : (f x).toOption = some y := by rw [hx]; rfl
    simp only [List.filterMap_cons, hsome, ih]

theorem checkPath_cases (store : FileStore) (path : String) :
    (∃ problem, checkPath store true path = .error problem ∧
      ∀ e, problem = .unusable e → '\x00' ∈ path.toList) ∨
    (checkPath store true path = .ok () ∧
      ∃ bytes, store.read (Path.ofString path) = .ok bytes) := by
  rw [checkPath]
  split
  · rename_i hnull
    exact .inl ⟨_, rfl, fun _ _ => by simpa using hnull⟩
  · cases hnode : store.nodeAsGiven? path with
    | none => exact .inl ⟨_, rfl, nofun⟩
    | some node =>
      cases node with
      | directory => exact .inl ⟨_, rfl, nofun⟩
      | file bytes => exact .inr ⟨rfl, bytes, FileStore.read_of_nodeAsGiven? hnode⟩

theorem checkOption_var (store : FileStore) (options : List SourceOption) (expression : String) :
    checkOption store (sourceWords options expression) "--var" =
      ((items options).mapM readBinding >>= fun _ => .ok ()).mapError (.invalidValue "--var") := by
  rw [← @valuesOf_var options expression]
  rfl

theorem checkOption_file {path : String} (h : (paths options).getLast? = some path) :
    checkOption store (sourceWords options expression) "--vars-file" =
      (checkPath store true path).mapError (.invalidValue "--vars-file") := by
  have hvalue : (sourceWords options expression).value? "--vars-file" = some path := by
    rw [Words.value?, valuesOf_file, h]
  unfold checkOption
  rw [hvalue]
  rfl

/-- What is wrong with the options is reported, unless a path has the null character. -/
theorem fileError?_of_checkOption {name : String} {problem : UsageProblem}
    (hname : name ∈ (sourceWords options expression).optionNames)
    (h : checkOption store (sourceWords options expression) name = .error problem)
    {synopsis : Synopsis} {e : FileError}
    (he : (UsageError.mk synopsis problem).fileError? = some e) :
    ∃ path ∈ paths options, '\x00' ∈ path.toList := by
  obtain ⟨option, -, rfl⟩ := mem_optionNames_iff.mp hname
  cases option with
  | binding item joined =>
    -- a binding that is refused is no fault of a file
    rw [SourceOption.entry, checkOption_var] at h
    obtain ⟨refused, hrefused, rfl⟩ := mapError_eq_error h
    rcases bind_eq_error hrefused with hitems | ⟨given, -, hnone⟩
    · obtain ⟨item, -, hitem⟩ := mapM_eq_error hitems
      cases refused with
      | unusable e' => exact absurd hitem (readBinding_ne_unusable item e')
      | _ => cases he
    · cases hnone
  | file path joined =>
    rw [mem_optionNames_iff_valuesOf, SourceOption.entry, valuesOf_file] at hname
    obtain ⟨last, hlast⟩ := Option.isSome_iff_exists.mp (List.getLast?_isSome.mpr hname)
    rw [SourceOption.entry, checkOption_file hlast] at h
    obtain ⟨refused, hrefused, rfl⟩ := mapError_eq_error h
    rcases checkPath_cases store last with ⟨problem, hproblem, hnull⟩ | ⟨hok, -⟩
    · obtain rfl := Except.error.inj (hproblem.symm.trans hrefused)
      cases problem with
      | unusable e' => exact ⟨last, List.mem_of_getLast? hlast, hnull e' rfl⟩
      | _ => cases he
    · cases hok.symm.trans hrefused
  | withoutBuiltins => cases h

section Passed

variable (hpass : ∀ name ∈ (sourceWords options expression).optionNames,
  checkOption store (sourceWords options expression) name = .ok ())

include hpass

theorem isBinding_given : List.Forall₂ IsBinding (items options)
    (variableSource (sourceWords options expression)).given := by
  obtain ⟨given, hgiven⟩ : ∃ given, (items options).mapM readBinding = .ok given := by
    by_cases hnil : items options = []
    · rw [hnil]
      exact ⟨[], rfl⟩
    · -- bindings are checked if there are any
      have hvar := hpass "--var" (mem_optionNames_iff_valuesOf.mpr (by rwa [valuesOf_var]))
      rw [checkOption_var, mapError_eq_ok_iff] at hvar
      obtain ⟨given, hgiven, -⟩ := bind_eq_ok hvar
      exact ⟨given, hgiven⟩
  have hforall := mapM_eq_ok_iff.mp hgiven
  rw [variableSource, valuesOf_var, filterMap_toOption hforall]
  exact hforall.imp fun _ _ => readBinding_eq_ok_iff.mp

theorem exists_read_of_getLast? {path : String} (h : (paths options).getLast? = some path) :
    ∃ bytes, store.read (Path.ofString path) = .ok bytes := by
  have hmem : "--vars-file" ∈ (sourceWords options expression).optionNames := by
    rw [mem_optionNames_iff_valuesOf, valuesOf_file]
    exact List.ne_nil_of_mem (List.mem_of_getLast? h)
  have hfile := hpass "--vars-file" hmem
  rw [checkOption_file h, mapError_eq_ok_iff] at hfile
  rcases checkPath_cases store path with ⟨problem, hproblem, -⟩ | ⟨-, hread⟩
  · cases hproblem.symm.trans hfile
  · exact hread

end Passed

/-- **The check of the options** is passed, with bindings and a file to be read, or it is reported
what is wrong; only a path with the null character escapes. -/
theorem checkOptions_sources (store : FileStore) (options : List SourceOption)
    (expression : String) :
    (∃ problem, checkOptions store (sourceWords options expression) = .error problem ∧
      ∀ synopsis e, (UsageError.mk synopsis problem).fileError? = some e →
        ∃ path ∈ paths options, '\x00' ∈ path.toList) ∨
    (checkOptions store (sourceWords options expression) = .ok () ∧
      List.Forall₂ IsBinding (items options)
        (variableSource (sourceWords options expression)).given ∧
      ∀ path, (paths options).getLast? = some path →
        ∃ bytes, store.read (Path.ofString path) = .ok bytes) := by
  rcases forM_cases (checkOption store (sourceWords options expression))
      (sourceWords options expression).optionNames with
    ⟨name, hname, problem, hproblem, hfails⟩ | ⟨hpasses, hpass⟩
  · exact .inl ⟨problem, hfails, fun _ _ => fileError?_of_checkOption hname hproblem⟩
  · exact .inr ⟨hpasses, isBinding_given hpass, fun _ => exists_read_of_getLast? hpass⟩

end Options

/-! ## The table -/

/-- The members of the object in a file, none if there is no file. -/
def IsMembers (store : FileStore) (file : Option String) (ms : List (CodePoints × Json)) : Prop :=
  match file with
  | none => ms = []
  | some path => ∃ cs, store.read (Path.ofString path) = .ok (Utf8.encode cs) ∧
      Json.IsObject (VariablesFile.unifyLines cs) ms

/-- The variables that options ask for: the last binding of a name, else its last value in the file
that is named last, else the constant, unless constants are switched off. -/
def Provides (store : FileStore) (options : List SourceOption) (bindings : NameMap Float) : Prop :=
  ∃ given ms, List.Forall₂ IsBinding (SourceOption.items options) given ∧
    IsMembers store (SourceOption.paths options).getLast? ms ∧
    ∀ name, bindings.find? name =
      (given.reverse.lookup name).or
        (((Json.last? ms (CodePoints.ofString name)).bind Json.double?).or
          (if .withoutBuiltins ∈ options then none else Constants.builtins.find? name))

section Tables

variable {store : FileStore}

/-- A file that can be read is loaded, or it is reported what is wrong with it. -/
theorem loadFile_cases {file : Option String}
    (hread : ∀ path, file = some path → ∃ bytes, store.read (Path.ofString path) = .ok bytes)
    (t : Table) :
    (∃ text, loadFile store t file = .error (.reported text)) ∨
      ∃ after ms, loadFile store t file = .ok after ∧ IsMembers store file ms ∧
        after.builtins = t.builtins ∧
        ∀ name, after.user.find? name =
          ((Json.last? ms (CodePoints.ofString name)).bind Json.double?).or
            (t.user.find? name) := by
  rcases file with _ | path
  · exact .inr ⟨t, [], rfl, rfl, rfl, fun name => rfl⟩
  obtain ⟨bytes, hbytes⟩ := hread path rfl
  cases hdecode : VariablesFile.decode (Path.ofString path).text bytes with
  | error e =>
    have hload : t.load store (Path.ofString path) = .error e := by
      rw [Table.load, Table.runLoad_of_decode_error hbytes hdecode]
      rfl
    unfold loadFile
    dsimp only
    rw [hload]
    -- the file was read, so the error lies in its contents
    have hrefusal := VariablesFile.isRefusal_of_decode hdecode
    cases e with
    | file | table => exact hrefusal.elim
    | _ => exact .inl ⟨_, rfl⟩
  | ok values =>
    obtain ⟨cs, ms, rfl, hobject, hnodup, hlookup⟩ := VariablesFile.lookup_of_decode hdecode
    have hload : t.load store (Path.ofString path) =
        .ok ({ t with user := values.foldl (fun m value => m.insert value.1 value.2) t.user },
          values.length) := by
      rw [Table.load, Table.runLoad_of_decode_ok hbytes hdecode]
      rfl
    unfold loadFile
    dsimp only
    rw [hload]
    refine .inr ⟨_, ms, rfl, ⟨cs, hbytes, hobject⟩, rfl, fun name => ?_⟩
    rw [NameMap.find?_foldl_insert hnodup, hlookup]

theorem foldlM_set_cases (given : List (String × Float)) (t : Table) :
    (∃ e, given.foldlM (fun (t : Table) (name, x) => t.set name x) t = .error e) ∨
      given.foldlM (fun (t : Table) (name, x) => t.set name x) t =
        .ok { t with user := given.foldl (fun m entry => m.insert entry.1 entry.2) t.user } := by
  induction given generalizing t with
  | nil => exact .inr rfl
  | cons entry given ih =>
    obtain ⟨name, x⟩ := entry
    rw [List.foldlM_cons]
    dsimp only
    rw [Table.set]
    split
    · exact ih { t with user := t.user.insert name x }
    · exact .inl ⟨_, rfl⟩

theorem buildTable_of_loadFile_error {source : VariableSource} {stop : Stop}
    (h : loadFile store (Table.start source.builtins) source.file = .error stop) :
    buildTable store source = .error stop := by
  rw [buildTable, h]
  rfl

theorem buildTable_of_loadFile {source : VariableSource} {t : Table}
    (h : loadFile store (Table.start source.builtins) source.file = .ok t) :
    buildTable store source =
      (source.given.foldlM (fun (t : Table) (name, x) => t.set name x) t).mapError
        fun (e : TableError) => complaint e.message := by
  rw [buildTable, h]
  rfl

/-- **The table after a check that was passed** has the variables that the options ask for, or it is
reported why there is no table. -/
theorem buildTable_sources {options : List SourceOption} {expression : String}
    (hgiven : List.Forall₂ IsBinding (SourceOption.items options)
      (variableSource (sourceWords options expression)).given)
    (hread : ∀ path, (SourceOption.paths options).getLast? = some path →
      ∃ bytes, store.read (Path.ofString path) = .ok bytes) :
    (∃ text, buildTable store (variableSource (sourceWords options expression)) =
        .error (.reported text)) ∨
      ∃ t, buildTable store (variableSource (sourceWords options expression)) = .ok t ∧
        Provides store options t.bindings := by
  have hfile : (variableSource (sourceWords options expression)).file =
      (SourceOption.paths options).getLast? := by
    rw [variableSource, Words.value?, valuesOf_file]
  have hbuiltins : (variableSource (sourceWords options expression)).builtins =
      !decide (SourceOption.withoutBuiltins ∈ options) := by
    rw [variableSource, has_builtins]
  generalize variableSource (sourceWords options expression) = source at *
  have hload := loadFile_cases hread (Table.start source.builtins)
  rw [← hfile] at hload
  rcases hload with ⟨text, hload⟩ | ⟨t, ms, hload, hms, hstart, huser⟩
  · exact .inl ⟨text, buildTable_of_loadFile_error hload⟩
  rw [buildTable_of_loadFile hload]
  rcases foldlM_set_cases source.given t with ⟨e, hset⟩ | hset
  · rw [hset]
    exact .inl ⟨_, rfl⟩
  · rw [hset]
    refine .inr ⟨_, rfl, source.given, ms, hgiven, hfile ▸ hms, fun name => ?_⟩
    -- the three layers: the bindings, the file and the constants
    rw [Table.find?_bindings, Table.get?, NameMap.find?_foldl_insert_reverse, huser, hstart,
      hbuiltins]
    by_cases hswitch : SourceOption.withoutBuiltins ∈ options <;>
      simp [Table.start, hswitch, Option.or_assoc]

end Tables

end Calculator.CommandLine
