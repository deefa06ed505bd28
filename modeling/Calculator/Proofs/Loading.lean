import Calculator.Proofs.Json.Grammar
import Calculator.Proofs.Json.Members
import Calculator.Proofs.Number.Rounding
import Calculator.Proofs.Reduction
import Calculator.Proofs.Text.Encoding
import Calculator.VariablesFile

/-!
# Loading variables

The variables of a file are checked before the first of them is set, and whatever passes the check
is not refused by the table.  So a file is loaded as a whole or not at all.

## Main definitions

* `Json.double? v`: the double of a JSON number
* `LoadError.IsRefusal path e`: the contents of the file at `path` are refused

## Main results

* `Json.integerToFloat?_eq_some_iff`, `Json.integerToFloat?_eq_none_iff`: the double of a whole
  number is the nearest one, and there is none exactly beyond the range of doubles
* `VariablesFile.entry_eq_ok_iff`: the members that give a variable
* `VariablesFile.decode_eq_ok_iff`: the contents of files that are loaded
* `VariablesFile.lookup_of_decode`: the variables of a file
* `Table.runLoad_spec`: what loading a file does to a table
-/

namespace Calculator

/-! ## The members of a file -/

/-- The double that a JSON number stands for, if it is in range. -/
def Json.double? : Json → Option Float
  | integer n => integerToFloat? n
  | real x => some x
  | _ => none

/-- **The double of a whole number** is the nearest one, the even one of two that are equally near,
unless that is an infinity. -/
theorem Json.integerToFloat?_eq_some_iff {n : Int} {x : Float} :
    integerToFloat? n = some x ↔
      ∃ b < Pattern.infinity, Pattern.IsNearest (n.natAbs * 2 ^ 1074) b ∧
        x = Pattern.toFloat (n < 0) b := by
  have hnearest := Decimal.isNearest_pattern ⟨n.natAbs, 0⟩
  rw [Decimal.value, zpow_zero, mul_one] at hnearest
  rw [integerToFloat?]
  constructor
  · intro h
    split at h
    · cases h
    · rename_i hfinite
      exact ⟨_, lt_of_le_of_ne hnearest.le_infinity hfinite, hnearest, (Option.some.inj h).symm⟩
  · rintro ⟨b, hb, hnear, rfl⟩
    obtain rfl := hnear.unique hnearest
    exact if_neg hb.ne

/-- **The whole numbers without a double** lie beyond the middle of the last gap between doubles. -/
theorem Json.integerToFloat?_eq_none_iff {n : Int} :
    integerToFloat? n = none ↔ (2 : ℚ) ^ 1024 - 2 ^ 970 ≤ n.natAbs := by
  have hnearest := Decimal.isNearest_pattern ⟨n.natAbs, 0⟩
  rw [Decimal.value, zpow_zero, mul_one] at hnearest
  rw [← Pattern.isNearest_infinity_iff, integerToFloat?, ite_eq_left_iff]
  constructor
  · intro h
    by_contra hne
    cases h fun heq => hne (heq ▸ hnearest)
  · intro h hne
    exact absurd (hnearest.unique h) hne

/-- **The numbers in range** are the real ones and the whole ones the nearest double of which is
finite. -/
theorem Json.double?_eq_some_iff {v : Json} {x : Float} :
    v.double? = some x ↔ v = .real x ∨ ∃ n b, v = .integer n ∧ b < Pattern.infinity ∧
      Pattern.IsNearest (n.natAbs * 2 ^ 1074) b ∧ x = Pattern.toFloat (n < 0) b := by
  cases v with
  | integer m =>
    rw [double?, integerToFloat?_eq_some_iff]
    constructor
    · rintro ⟨b, hb⟩
      exact .inr ⟨m, b, rfl, hb⟩
    · rintro (h | ⟨n, b, h, hb⟩)
      · cases h
      · obtain rfl := Json.integer.inj h
        exact ⟨b, hb⟩
  | real y => simp [double?, eq_comm]
  | _ => simp [double?]

/-- The contents of the file at `path` are refused. -/
def LoadError.IsRefusal (path : String) : LoadError → Prop
  | encoding _ => True
  | malformed place _ => place = path
  | notObject place => place = path
  | invalidName _ place => place = path
  | notNumber _ place _ => place = path
  | outOfRange _ place => place = path
  | file _ | table _ => False

theorem mapM_eq_ok_iff {α β ε : Type} {f : α → Except ε β} {xs : List α} {ys : List β} :
    xs.mapM f = .ok ys ↔ List.Forall₂ (fun x y => f x = .ok y) xs ys := by
  induction xs generalizing ys with
  | nil =>
    rw [List.mapM_nil, List.forall₂_nil_left_iff]
    exact ⟨fun h => (Except.ok.inj h).symm, fun h => congrArg Except.ok h.symm⟩
  | cons x xs ih =>
    rw [List.mapM_cons, List.forall₂_cons_left_iff]
    constructor
    · intro h
      obtain ⟨y, hy, h⟩ := bind_eq_ok h
      obtain ⟨zs, hzs, h⟩ := bind_eq_ok h
      exact ⟨y, zs, hy, ih.mp hzs, (Except.ok.inj h).symm⟩
    · rintro ⟨y, zs, hy, hzs, rfl⟩
      rw [hy, ih.mpr hzs]
      rfl

theorem exists_forall₂_iff {α β : Type} {R : α → β → Prop} {xs : List α} :
    (∃ ys, List.Forall₂ R xs ys) ↔ ∀ x ∈ xs, ∃ y, R x y := by
  induction xs with
  | nil => exact ⟨fun _ _ hx => (List.not_mem_nil hx).elim, fun _ => ⟨[], .nil⟩⟩
  | cons x xs ih =>
    rw [List.forall_mem_cons, ← ih]
    constructor
    · rintro ⟨ys, h⟩
      obtain ⟨y, zs, hy, hzs, -⟩ := List.forall₂_cons_left_iff.mp h
      exact ⟨⟨y, hy⟩, zs, hzs⟩
    · rintro ⟨⟨y, hy⟩, zs, hzs⟩
      exact ⟨y :: zs, .cons hy hzs⟩

theorem mapM_eq_error {α β ε : Type} {f : α → Except ε β} {xs : List α} {e : ε}
    (h : xs.mapM f = .error e) : ∃ x ∈ xs, f x = .error e := by
  induction xs with
  | nil => cases h
  | cons x xs ih =>
    rw [List.mapM_cons] at h
    rcases hx : f x with e' | y
    · rw [hx] at h
      cases h
      exact ⟨x, List.mem_cons_self, hx⟩
    · rw [hx] at h
      rcases hxs : xs.mapM f with e' | ys
      · rw [hxs] at h
        cases h
        obtain ⟨z, hz, hfz⟩ := ih hxs
        exact ⟨z, List.mem_cons_of_mem _ hz, hfz⟩
      · rw [hxs] at h
        cases h

namespace VariablesFile

variable {path : String} {name : CodePoints} {v : Json} {s : String} {x : Float} {e : LoadError}

/-- **The variable of a member**: its name is one that an input can refer to, and its value is a
number in range. -/
theorem entry_eq_ok_iff :
    entry path name v = .ok (s, x) ↔
      name = CodePoints.ofString s ∧ isIdentifier s = true ∧ v.double? = some x := by
  have hname : name.toString?.filter isIdentifier = some s ↔
      name = CodePoints.ofString s ∧ isIdentifier s = true := by
    rw [Option.filter_eq_some_iff, CodePoints.toString?_eq_some_iff]
  rw [entry, ← and_assoc, ← hname]
  cases name.toString?.filter isIdentifier with
  | none => simp
  | some t =>
    cases v with
    | integer n =>
      simp only [Json.double?]
      cases Json.integerToFloat? n <;> simp
    | real y => simp [Json.double?]
    | _ => simp [Json.double?]

theorem isRefusal_of_entry (h : entry path name v = .error e) : e.IsRefusal path := by
  rw [entry] at h
  split at h
  · cases h
    rfl
  · split at h
    · split at h <;> cases h
      rfl
    · cases h
    · cases h
      rfl

/-! ## The contents of a file -/

variable {bytes : List UInt8} {cs : List Char} {ms : List (CodePoints × Json)}
  {values : List (String × Float)}

theorem decode_eq_ok_iff :
    decode path bytes = .ok values ↔
      ∃ cs ms, bytes = Utf8.encode cs ∧ Json.read (unifyLines cs) = .ok (.object ms) ∧
        List.Forall₂ (fun member value => entry path member.1 member.2 = .ok value) ms values := by
  constructor
  · intro h
    obtain ⟨cs, hcs, h⟩ := bind_eq_ok h
    obtain ⟨v, hv, h⟩ := bind_eq_ok h
    cases v with
    | object ms =>
      exact ⟨cs, ms, Utf8.decode_eq_ok_iff.mp (mapError_eq_ok_iff.mp hcs), mapError_eq_ok_iff.mp hv,
        mapM_eq_ok_iff.mp h⟩
    | _ => cases h
  · rintro ⟨cs, ms, hbytes, hread, hentries⟩
    rw [decode, Utf8.decode_eq_ok_iff.mpr hbytes]
    show ((Json.read (unifyLines cs)).mapError _ >>= _) = _
    rw [hread]
    exact mapM_eq_ok_iff.mpr hentries

/-- Whatever is wrong with a file lies in its contents. -/
theorem isRefusal_of_decode (h : decode path bytes = .error e) : e.IsRefusal path := by
  rw [decode] at h
  cases hcs : Utf8.decode bytes with
  | error u =>
    rw [hcs] at h
    cases h
    trivial
  | ok cs =>
    rw [hcs] at h
    change ((Json.read (unifyLines cs)).mapError _ >>= _) = _ at h
    cases hv : Json.read (unifyLines cs) with
    | error q =>
      rw [hv] at h
      cases h
      rfl
    | ok v =>
      rw [hv] at h
      cases v with
      | object ms =>
        obtain ⟨member, -, hentry⟩ := mapM_eq_error h
        exact isRefusal_of_entry hentry
      | _ =>
        cases h
        rfl

/-- **The files that can be loaded**: UTF-8 that writes an object, in which the last value of every
name is a number in range and the name one that an input can refer to. -/
theorem exists_decode_iff :
    (∃ values, decode path bytes = .ok values) ↔
      ∃ cs ms, bytes = Utf8.encode cs ∧ Json.IsObject (unifyLines cs) ms ∧
        ∀ name v, Json.last? ms name = some v →
          ∃ s x, name = CodePoints.ofString s ∧ isIdentifier s = true ∧ v.double? = some x := by
  -- each of the members that are kept gives a variable
  have hentries (ms : List (CodePoints × Json)) :
      (∃ values, List.Forall₂ (fun member value => entry path member.1 member.2 = .ok value)
        (Json.members ms) values) ↔
      ∀ name v, Json.last? ms name = some v →
        ∃ s x, name = CodePoints.ofString s ∧ isIdentifier s = true ∧ v.double? = some x := by
    rw [exists_forall₂_iff, Prod.forall]
    simp only [Json.mem_members_iff, Prod.exists, entry_eq_ok_iff]
  constructor
  · rintro ⟨values, h⟩
    obtain ⟨cs, kept, hbytes, hread, hvalues⟩ := decode_eq_ok_iff.mp h
    obtain ⟨ms, hobject, rfl⟩ := Json.read_eq_object_iff.mp hread
    exact ⟨cs, ms, hbytes, hobject, (hentries ms).mp ⟨values, hvalues⟩⟩
  · rintro ⟨cs, ms, hbytes, hobject, hms⟩
    obtain ⟨values, hvalues⟩ := (hentries ms).mpr hms
    have hread := Json.read_eq_object_iff.mpr ⟨ms, hobject, rfl⟩
    exact ⟨values, decode_eq_ok_iff.mpr ⟨cs, _, hbytes, hread, hvalues⟩⟩

/-- What the members of an object give as variables: the same names, with their doubles. -/
theorem entries_spec
    (h : List.Forall₂ (fun member value => entry path member.1 member.2 = .ok value) ms values) :
    ms.map Prod.fst = values.map (fun value => CodePoints.ofString value.1) ∧
      (∀ value ∈ values, isIdentifier value.1 = true) ∧
      ∀ s, values.lookup s = (ms.lookup (CodePoints.ofString s)).bind Json.double? := by
  induction h with
  | nil => exact ⟨rfl, by simp, fun s => rfl⟩
  | @cons member value ms values hentry h ih =>
    obtain ⟨name, v⟩ := member
    obtain ⟨s, x⟩ := value
    obtain ⟨rfl, hs, hx⟩ := entry_eq_ok_iff.mp hentry
    obtain ⟨hnames, hidentifiers, hlookup⟩ := ih
    refine ⟨?_, List.forall_mem_cons.mpr ⟨hs, hidentifiers⟩, ?_⟩
    · rw [List.map_cons, List.map_cons, hnames]
    · intro t
      rw [NameMap.lookup_cons, Json.lookup_cons]
      by_cases ht : t = s
      · rw [if_pos ht, if_pos (congrArg _ ht)]
        exact hx.symm
      · rw [if_neg ht, if_neg fun heq => ht (CodePoints.ofString_injective heq), hlookup]

/-- An input can refer to the variables of a file. -/
theorem isIdentifier_of_decode (h : decode path bytes = .ok values) :
    ∀ value ∈ values, isIdentifier value.1 = true := by
  obtain ⟨cs, ms, -, -, hentries⟩ := decode_eq_ok_iff.mp h
  exact (entries_spec hentries).2.1

/-- **The variables of a file** are the last values of the names in its object, each name once. -/
theorem lookup_of_decode (h : decode path bytes = .ok values) :
    ∃ cs ms, bytes = Utf8.encode cs ∧ Json.IsObject (unifyLines cs) ms ∧
      (values.map Prod.fst).Nodup ∧
      ∀ s, values.lookup s = (Json.last? ms (CodePoints.ofString s)).bind Json.double? := by
  obtain ⟨cs, kept, hbytes, hread, hvalues⟩ := decode_eq_ok_iff.mp h
  obtain ⟨ms, hobject, rfl⟩ := Json.read_eq_object_iff.mp hread
  obtain ⟨hnames, -, hlookup⟩ := entries_spec hvalues
  refine ⟨cs, ms, hbytes, hobject, ?_, fun s => ?_⟩
  · have hmembers := Json.nodup_members ms
    rw [hnames, ← Function.comp_def, ← List.map_map] at hmembers
    exact hmembers.of_map _
  · rw [hlookup, Json.lookup_members]

end VariablesFile

/-! ## Setting variables -/

namespace Table

variable {t after : Table} {store : FileStore} {p : Path} {bytes : List UInt8}
  {values : List (String × Float)}

/-- What an input can refer to is not refused. -/
theorem setEach_of_isIdentifier (h : ∀ value ∈ values, isIdentifier value.1 = true) (t : Table) :
    t.setEach values = (.ok (),
      { t with user := values.foldl (fun m value => m.insert value.1 value.2) t.user }) := by
  induction values generalizing t with
  | nil => rfl
  | cons value values ih =>
    obtain ⟨name, x⟩ := value
    have hname : isIdentifier name = true := h _ List.mem_cons_self
    rw [setEach, set, if_pos hname]
    exact ih (fun value hvalue => h value (List.mem_cons_of_mem _ hvalue)) _

/-- A file whose contents are refused changes nothing. -/
theorem runLoad_of_decode_error {e : LoadError} (hread : store.read p = .ok bytes)
    (h : VariablesFile.decode p.text bytes = .error e) : t.runLoad store p = (.error e, t) := by
  simp only [runLoad, hread, h]

/-- A file whose contents pass the check is loaded as a whole. -/
theorem runLoad_of_decode_ok (hread : store.read p = .ok bytes)
    (h : VariablesFile.decode p.text bytes = .ok values) :
    t.runLoad store p = (.ok values.length,
      { t with user := values.foldl (fun m value => m.insert value.1 value.2) t.user }) := by
  have hidentifiers := VariablesFile.isIdentifier_of_decode h
  simp only [runLoad, hread, h, setEach_of_isIdentifier hidentifiers]

end Table

namespace Table

/-- **Loading a file** that exists.  It succeeds exactly if the file is UTF-8 and its text is a JSON
object in which the last value of every name is a number in range, and the name one that an input
can refer to.  Then these values are laid over those of the user, and their number is that of the
different names.  Otherwise the contents of the file are refused, and the table stays as it is.  A
whole number is in range if the nearest double is finite, and stands for that one. -/
theorem runLoad_spec (t : Table) (store : FileStore) (p : Path) {bytes : List UInt8}
    (hread : store.read p = .ok bytes) :
    ((∃ n, (t.runLoad store p).1 = .ok n) ↔
      ∃ cs ms, bytes = Utf8.encode cs ∧ Json.IsObject (VariablesFile.unifyLines cs) ms ∧
        ∀ name v, Json.last? ms name = some v →
          ∃ s x, name = CodePoints.ofString s ∧ isIdentifier s = true ∧ v.double? = some x) ∧
    (∀ cs ms n after, bytes = Utf8.encode cs →
      Json.IsObject (VariablesFile.unifyLines cs) ms → t.runLoad store p = (.ok n, after) →
        n = (ms.map Prod.fst).dedup.length ∧ after.builtins = t.builtins ∧
          ∀ s, after.user.find? s =
            ((Json.last? ms (CodePoints.ofString s)).bind Json.double?).or (t.user.find? s)) ∧
    (∀ e after, t.runLoad store p = (.error e, after) → after = t ∧ e.IsRefusal p.text) ∧
    ∀ (v : Json) (x : Float), v.double? = some x ↔
      v = .real x ∨ ∃ n b, v = .integer n ∧ b < Pattern.infinity ∧
        Pattern.IsNearest (n.natAbs * 2 ^ 1074) b ∧ x = Pattern.toFloat (n < 0) b := by
  refine ⟨?_, ?_, ?_, fun v x => Json.double?_eq_some_iff⟩
  · rw [← @VariablesFile.exists_decode_iff p.text]
    cases hdecode : VariablesFile.decode p.text bytes with
    | error e =>
      rw [runLoad_of_decode_error hread hdecode]
      simp
    | ok values =>
      rw [runLoad_of_decode_ok hread hdecode]
      simp
  · intro cs ms n after hbytes hobject h
    cases hdecode : VariablesFile.decode p.text bytes with
    | error e =>
      rw [runLoad_of_decode_error hread hdecode] at h
      cases h
    | ok values =>
      rw [runLoad_of_decode_ok hread hdecode] at h
      obtain ⟨hn, rfl⟩ := Prod.mk.inj h
      obtain rfl := Except.ok.inj hn
      -- the members that are kept are those of the given object
      obtain ⟨cs', kept, hbytes', hkept, hvalues⟩ := VariablesFile.decode_eq_ok_iff.mp hdecode
      obtain rfl : cs' = cs := by
        have hcs := Utf8.decode_eq_ok_iff.mpr hbytes
        exact Except.ok.inj ((Utf8.decode_eq_ok_iff.mpr hbytes').symm.trans hcs)
      rw [Json.read_eq_object_iff.mpr ⟨ms, hobject, rfl⟩] at hkept
      obtain rfl := Json.object.inj (Except.ok.inj hkept)
      obtain ⟨hnames, -, hlookup⟩ := VariablesFile.entries_spec hvalues
      have hnodup : (values.map Prod.fst).Nodup := by
        have hmembers := Json.nodup_members ms
        rw [hnames, ← Function.comp_def, ← List.map_map] at hmembers
        exact hmembers.of_map _
      refine ⟨?_, rfl, ?_⟩
      · rw [← Json.length_members, hvalues.length_eq]
      · intro s
        rw [NameMap.find?_foldl_insert hnodup, hlookup, Json.lookup_members]
  · intro e after h
    cases hdecode : VariablesFile.decode p.text bytes with
    | error e' =>
      rw [runLoad_of_decode_error hread hdecode] at h
      cases h
      exact ⟨rfl, VariablesFile.isRefusal_of_decode hdecode⟩
    | ok values =>
      rw [runLoad_of_decode_ok hread hdecode] at h
      cases h

/-- A variable that could be loaded stands before one that cannot. -/
theorem runLoad_spec_refused :
    let bytes := Utf8.encode "\x7b\"a\": 1, \"b\": true\x7d".toList
    let store : FileStore := ⟨[(["vars"], .file bytes)]⟩
    store.read ⟨"", ["vars"]⟩ = .ok bytes ∧
      ∃ e, (Table.start true).runLoad store ⟨"", ["vars"]⟩ = (.error e, Table.start true) ∧
        e.IsRefusal "vars" := by
  intro bytes store
  have hread : store.read ⟨"", ["vars"]⟩ = .ok bytes := by decide +kernel
  refine ⟨hread, ?_⟩
  have hspec := (runLoad_spec (Table.start true) store ⟨"", ["vars"]⟩ hread).2.2.1
  rcases hload : (Table.start true).runLoad store ⟨"", ["vars"]⟩ with ⟨e | n, after⟩
  · obtain ⟨rfl, he⟩ := hspec e after hload
    exact ⟨e, rfl, he⟩
  · have hfails : ((Table.start true).runLoad store ⟨"", ["vars"]⟩).1.toOption = none := by
      decide +kernel
    rw [hload] at hfails
    cases hfails

end Table

end Calculator
