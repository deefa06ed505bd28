import Mathlib
import Calculator.Json.Read

/-!
# The grammar of JSON

The lexemes of a document denote a value by a grammar of values, items and members.  The reader,
which keeps the open arrays and objects on a stack, accepts what the grammar derives, and nothing
else.

## Main definitions

* `Json.Phrase`: a value, the items of an array, or the members of an object
* `Json.Denotes ls p`: the lexemes `ls` derive as the phrase `p`
* `Json.Completes around v ls r`: after the value `v` the lexemes `ls` close what is open, and the
  document comes to `r`
* `Json.Continues expecting around ls r`: the same for whatever has to come next
* `Json.IsObject cs ms`: a text is an object with the members `ms`, as they are written

## Main results

* `Json.isRead_of_denotes`: what derives is read
* `Json.continues_of_readLexemes`: what is read derives
* `Json.read_eq_ok_iff`: the documents that are read, and their values
* `Json.read_eq_object_iff`: the objects among them
-/

namespace Calculator.Json

/-- What a run of lexemes can denote. -/
inductive Phrase where
  /-- A value. -/
  | value (v : Json)
  /-- The items of an array. -/
  | items (vs : List Json)
  /-- The members of an object, as they are written. -/
  | members (ms : List (CodePoints × Json))

/-- The grammar of documents.  Items and members stand between commas, and none is left out. -/
inductive Denotes : List Lexeme → Phrase → Prop where
  | scalar (v : Json) : Denotes [.scalar v] (.value v)
  | text (s : CodePoints) : Denotes [.text s] (.value (.text s))
  | array {ls : List Lexeme} {vs : List Json} (h : Denotes ls (.items vs)) :
      Denotes (.openArray :: (ls ++ [.closeArray])) (.value (.array vs))
  | object {ls : List Lexeme} {ms : List (CodePoints × Json)} (h : Denotes ls (.members ms)) :
      Denotes (.openObject :: (ls ++ [.closeObject])) (.value (.object (Json.members ms)))
  | noItems : Denotes [] (.items [])
  | item {ls : List Lexeme} {v : Json} (h : Denotes ls (.value v)) : Denotes ls (.items [v])
  | items {ls ks : List Lexeme} {v : Json} {vs : List Json} (h : Denotes ls (.value v))
      (hvs : vs ≠ []) (k : Denotes ks (.items vs)) : Denotes (ls ++ .comma :: ks) (.items (v :: vs))
  | noMembers : Denotes [] (.members [])
  | member (name : CodePoints) {ls : List Lexeme} {v : Json} (h : Denotes ls (.value v)) :
      Denotes (.text name :: .colon :: ls) (.members [(name, v)])
  | members (name : CodePoints) {ls ks : List Lexeme} {v : Json} {ms : List (CodePoints × Json)}
      (h : Denotes ls (.value v)) (hms : ms ≠ []) (k : Denotes ks (.members ms)) :
      Denotes (.text name :: .colon :: (ls ++ .comma :: ks)) (.members ((name, v) :: ms))

variable {ending : Nat} {around : List Open} {ls ks : List Lexeme} {r v : Json}
  {located rest : List (Lexeme × Nat)}

/-! ## What derives is read -/

/-- What the reader makes of a phrase: it passes over a value, and over the rest of an array or
object up to its end.  Nothing may be missing before the end unless nothing was read before it. -/
def Phrase.IsRead (ending : Nat) (located : List (Lexeme × Nat)) : Phrase → Prop
  | .value v => ∀ closable around rest,
      readLexemes ending (.value closable) around (located ++ rest) =
        readLexemes ending (.afterValue v) around rest
  | .items vs => ∀ closable read around place rest, (vs = [] → closable = true ∧ read = []) →
      readLexemes ending (.value closable) (.array read :: around)
          (located ++ (.closeArray, place) :: rest) =
        readLexemes ending (.afterValue (.array (read.reverse ++ vs))) around rest
  | .members ms => ∀ closable read around place rest, (ms = [] → closable = true ∧ read = []) →
      readLexemes ending (.name read closable) around
          (located ++ (.closeObject, place) :: rest) =
        readLexemes ending (.afterValue (.object (Json.members (read.reverse ++ ms)))) around rest

theorem exists_place {l : Lexeme} (h : located.map Prod.fst = l :: ls) :
    ∃ place rest, located = (l, place) :: rest ∧ rest.map Prod.fst = ls := by
  obtain ⟨⟨l', place⟩, rest, rfl, rfl, hrest⟩ := List.map_eq_cons_iff.mp h
  exact ⟨place, rest, rfl, hrest⟩

theorem exists_single_place {l : Lexeme} (h : located.map Prod.fst = [l]) :
    ∃ place, located = [(l, place)] := by
  obtain ⟨place, rest, rfl, hrest⟩ := exists_place h
  exact ⟨place, by rw [List.map_eq_nil_iff.mp hrest]⟩

theorem exists_place_between {l : Lexeme} (h : located.map Prod.fst = ls ++ l :: ks) :
    ∃ us place ts, located = us ++ (l, place) :: ts ∧ us.map Prod.fst = ls ∧
      ts.map Prod.fst = ks := by
  obtain ⟨us, ts, rfl, hus, hts⟩ := List.map_eq_append_iff.mp h
  obtain ⟨place, ts, rfl, hks⟩ := exists_place hts
  exact ⟨us, place, ts, rfl, hus, hks⟩

/-- What stands between an opening and its end. -/
theorem exists_places_around {l k : Lexeme} (h : located.map Prod.fst = l :: (ls ++ [k])) :
    ∃ start inner stop, located = (l, start) :: (inner ++ [(k, stop)]) ∧
      inner.map Prod.fst = ls := by
  obtain ⟨start, located, rfl, hrest⟩ := exists_place h
  obtain ⟨inner, stop, ts, rfl, hinner, hts⟩ := exists_place_between hrest
  obtain rfl := List.map_eq_nil_iff.mp hts
  exact ⟨start, inner, stop, rfl, hinner⟩

/-- **Completeness**: the reader passes over what derives, wherever its lexemes stand. -/
theorem isRead_of_denotes {p : Phrase} (h : Denotes ls p) (hls : located.map Prod.fst = ls) :
    p.IsRead ending located := by
  induction h generalizing located with
  | scalar v =>
    obtain ⟨place, rfl⟩ := exists_single_place hls
    intro closable around rest
    rw [List.singleton_append, readLexemes]
  | text s =>
    obtain ⟨place, rfl⟩ := exists_single_place hls
    intro closable around rest
    rw [List.singleton_append, readLexemes]
  | array h ih =>
    obtain ⟨start, inner, stop, rfl, hinner⟩ := exists_places_around hls
    intro closable around rest
    have hread := ih hinner true [] around stop rest fun _ => ⟨rfl, rfl⟩
    rw [List.cons_append, List.append_assoc, List.singleton_append, readLexemes, hread]
    rfl
  | object h ih =>
    obtain ⟨start, inner, stop, rfl, hinner⟩ := exists_places_around hls
    intro closable around rest
    have hread := ih hinner true [] around stop rest fun _ => ⟨rfl, rfl⟩
    rw [List.cons_append, List.append_assoc, List.singleton_append, readLexemes, hread]
    rfl
  | noItems =>
    obtain rfl := List.map_eq_nil_iff.mp hls
    intro closable read around place rest hnil
    obtain ⟨rfl, rfl⟩ := hnil rfl
    rw [List.nil_append, readLexemes]
    rfl
  | item h ih =>
    intro closable read around place rest _
    rw [ih hls, readLexemes, List.reverse_cons]
  | @items ls ks v vs h hvs k ih ihk =>
    obtain ⟨us, comma, ts, rfl, hus, hts⟩ := exists_place_between hls
    intro closable read around place rest _
    -- after a comma the array may not close, and it does not: there are more items
    have hread := ihk hts false (v :: read) around place rest fun hnil => absurd hnil hvs
    rw [List.append_assoc, List.cons_append, ih hus, readLexemes, hread, List.reverse_cons,
      List.append_assoc, List.singleton_append]
  | noMembers =>
    obtain rfl := List.map_eq_nil_iff.mp hls
    intro closable read around place rest hnil
    obtain ⟨rfl, rfl⟩ := hnil rfl
    rw [List.nil_append, readLexemes]
    rfl
  | member name h ih =>
    obtain ⟨first, located, rfl, hrest⟩ := exists_place hls
    obtain ⟨colon, located, rfl, hvalue⟩ := exists_place hrest
    intro closable read around place rest _
    rw [List.cons_append, List.cons_append, readLexemes, readLexemes, ih hvalue, readLexemes,
      List.reverse_cons]
  | @members name ls ks v ms h hms k ih ihk =>
    obtain ⟨first, located, rfl, hrest⟩ := exists_place hls
    obtain ⟨colon, located, rfl, hmembers⟩ := exists_place hrest
    obtain ⟨us, comma, ts, rfl, hus, hts⟩ := exists_place_between hmembers
    intro closable read around place rest _
    -- after a comma a name is needed, as in an array an item
    have hread := ihk hts false ((name, v) :: read) around place rest fun hnil => absurd hnil hms
    rw [List.cons_append, List.cons_append, List.append_assoc, List.cons_append, readLexemes,
      readLexemes, ih hus, readLexemes, hread, List.reverse_cons, List.append_assoc,
      List.singleton_append]

/-! ## What is read derives -/

/-- After the value `v` the lexemes `ls` close what is open around it, and the document comes to
`r`.  In an open array or object the lexemes before its end are what may follow the value there. -/
def Completes : List Open → Json → List Lexeme → Json → Prop
  | [], v, ls, r => ls = [] ∧ v = r
  | .array read :: around, v, ls, r =>
    ∃ more vs rest, ls = more ++ .closeArray :: rest ∧
      (∀ us, Denotes us (.value v) → Denotes (us ++ more) (.items (v :: vs))) ∧
      Completes around (.array (read.reverse ++ v :: vs)) rest r
  | .object read name :: around, v, ls, r =>
    ∃ more ms rest, ls = more ++ .closeObject :: rest ∧
      (∀ us, Denotes us (.value v) →
        Denotes (.text name :: .colon :: (us ++ more)) (.members ((name, v) :: ms))) ∧
      Completes around (.object (Json.members (read.reverse ++ (name, v) :: ms))) rest r

/-- What has to come next is at the beginning of the lexemes `ls`, and after it the document comes
to `r`. -/
def Continues : Expecting → List Open → List Lexeme → Json → Prop
  | .value closable, around, ls, r =>
    (∃ us v rest, ls = us ++ rest ∧ Denotes us (.value v) ∧ Completes around v rest r) ∨
      closable = true ∧ ∃ read outer rest, around = .array read :: outer ∧
        ls = .closeArray :: rest ∧ Completes outer (.array []) rest r
  | .name read closable, around, ls, r =>
    (∃ us ms rest, ls = us ++ .closeObject :: rest ∧ ms ≠ [] ∧ Denotes us (.members ms) ∧
      Completes around (.object (Json.members (read.reverse ++ ms))) rest r) ∨
      closable = true ∧ ∃ rest, ls = .closeObject :: rest ∧ Completes around (.object []) rest r
  | .colon read name, around, ls, r =>
    ∃ us v rest, ls = .colon :: (us ++ rest) ∧ Denotes us (.value v) ∧
      Completes (.object read name :: around) v rest r
  | .afterValue v, around, ls, r => Completes around v ls r

variable {closable : Bool} {name : CodePoints} {items : List Json}
  {read : List (CodePoints × Json)} {s : CodePoints}

theorem continues_of_denotes (closable : Bool) (hls : Denotes ls (.value v))
    (h : Completes around v ks r) : Continues (.value closable) around (ls ++ ks) r :=
  .inl ⟨ls, v, ks, rfl, hls, h⟩

/-- A value that begins with the opening of an array. -/
theorem continues_openArray (h : Continues (.value true) (.array [] :: around) ls r) :
    Continues (.value closable) around (.openArray :: ls) r := by
  rcases h with ⟨us, v, rest, rfl, hus, more, vs, rest, rfl, hmore, hrest⟩ |
    ⟨-, read, outer, rest, houter, rfl, hrest⟩
  · have harray := continues_of_denotes closable (.array (hmore us hus)) hrest
    simpa using harray
  · obtain ⟨-, rfl⟩ := List.cons.inj houter
    exact continues_of_denotes closable (.array .noItems) hrest

/-- A value that begins with the opening of an object. -/
theorem continues_openObject (h : Continues (.name [] true) around ls r) :
    Continues (.value closable) around (.openObject :: ls) r := by
  rcases h with ⟨us, ms, rest, rfl, -, hus, hrest⟩ | ⟨-, rest, rfl, hrest⟩
  · have hobject := continues_of_denotes closable (.object hus) hrest
    simpa using hobject
  · exact continues_of_denotes closable (.object .noMembers) hrest

/-- A member that begins with its name. -/
theorem continues_name (h : Continues (.colon read s) around ls r) :
    Continues (.name read closable) around (.text s :: ls) r := by
  obtain ⟨us, v, rest, rfl, hus, more, ms, rest, rfl, hmore, hrest⟩ := h
  exact .inl ⟨_, _, rest, by simp, List.cons_ne_nil _ _, hmore us hus, hrest⟩

theorem continues_colon (h : Continues (.value false) (.object read name :: around) ls r) :
    Continues (.colon read name) around (.colon :: ls) r := by
  rcases h with ⟨us, v, rest, rfl, hus, hrest⟩ | ⟨hclosable, -⟩
  · exact ⟨us, v, rest, rfl, hus, hrest⟩
  · cases hclosable

/-- Another item after a comma. -/
theorem completes_item (h : Continues (.value false) (.array (v :: items) :: around) ls r) :
    Completes (.array items :: around) v (.comma :: ls) r := by
  rcases h with ⟨us, w, rest, rfl, hus, more, vs, rest, rfl, hmore, hrest⟩ | ⟨hclosable, -⟩
  · refine ⟨.comma :: (us ++ more), w :: vs, rest, by simp, ?_, by simpa using hrest⟩
    intro ks hks
    exact .items hks (List.cons_ne_nil _ _) (hmore us hus)
  · cases hclosable

theorem completes_closeArray (h : Completes around (.array (v :: items).reverse) ls r) :
    Completes (.array items :: around) v (.closeArray :: ls) r := by
  refine ⟨[], [], ls, rfl, ?_, by simpa using h⟩
  intro us hus
  rw [List.append_nil]
  exact .item hus

/-- Another member after a comma. -/
theorem completes_member (h : Continues (.name ((name, v) :: read) false) around ls r) :
    Completes (.object read name :: around) v (.comma :: ls) r := by
  rcases h with ⟨us, ms, rest, rfl, hms, hus, hrest⟩ | ⟨hclosable, -⟩
  · refine ⟨.comma :: us, ms, rest, by simp, ?_, by simpa using hrest⟩
    intro ks hks
    exact .members name hks hms hus
  · cases hclosable

theorem completes_closeObject
    (h : Completes around (.object (Json.members ((name, v) :: read).reverse)) ls r) :
    Completes (.object read name :: around) v (.closeObject :: ls) r := by
  refine ⟨[], [], ls, rfl, ?_, by simpa using h⟩
  intro us hus
  rw [List.append_nil]
  exact .member name hus

/-- **Soundness**: what the reader accepts continues as the grammar says. -/
theorem continues_of_readLexemes {expecting : Expecting}
    (h : readLexemes ending expecting around located = .ok r) :
    Continues expecting around (located.map Prod.fst) r := by
  fun_induction readLexemes ending expecting around located with
  | case4 v =>
    -- the document ends with nothing open
    exact ⟨rfl, Except.ok.inj h⟩
  | case6 closable around place rest v ih => exact continues_of_denotes _ (.scalar v) (ih h)
  | case7 closable around place rest s ih => exact continues_of_denotes _ (.text s) (ih h)
  | case10 closable around place rest ih => exact continues_openArray (ih h)
  | case11 closable around place rest ih => exact continues_openObject (ih h)
  | case12 place rest read outer ih => exact .inr ⟨rfl, read, outer, _, rfl, rfl, ih h⟩
  | case15 read closable around place rest s ih => exact continues_name (ih h)
  | case17 read around place rest ih => exact .inr ⟨rfl, _, rfl, ih h⟩
  | case20 read name around place rest ih => exact continues_colon (ih h)
  | case23 v items around place rest ih => exact completes_item (ih h)
  | case24 v items around place rest ih => exact completes_closeArray (ih h)
  | case26 v read name around place rest ih => exact completes_member (ih h)
  | case27 v read name around place rest ih => exact completes_closeObject (ih h)
  | _ => cases h

/-! ## Documents -/

theorem readLexemes_eq_ok_iff :
    readLexemes ending (.value false) [] located = .ok r ↔
      Denotes (located.map Prod.fst) (.value r) := by
  constructor
  · intro h
    rcases continues_of_readLexemes h with ⟨us, v, rest, hls, hus, rfl, rfl⟩ | ⟨hclosable, -⟩
    · rwa [hls, List.append_nil]
    · cases hclosable
  · intro h
    have hread := @isRead_of_denotes ending _ _ _ h rfl false [] []
    rwa [List.append_nil] at hread

/-- **The documents that are read**: those without a byte order mark whose lexemes derive as a
value, which is the value that is read. -/
theorem read_eq_ok_iff {document : List Char} :
    Json.read document = .ok v ↔ document.head? ≠ some '\uFEFF' ∧
      Denotes ((lexemes 0 document).map Prod.fst) (.value v) := by
  rw [← @readLexemes_eq_ok_iff document.length, Json.read]
  split
  · rename_i hmark
    simp [hmark]
  · rename_i hmark
    cases hread : readLexemes document.length (.value false) [] (lexemes 0 document) with
    | ok w => simp [hmark]
    | error e => rcases e with ⟨problem, place⟩ | digits <;> simp

/-! ## Documents that are objects -/

/-- The values that a single lexeme writes. -/
def IsScalar : Json → Prop
  | array _ | object _ => False
  | _ => True

variable {cs : List Char} {length position : Nat}

theorem isScalar_of_word? (h : word? cs = some (.scalar v, length)) : v.IsScalar := by
  obtain ⟨⟨word, w⟩, hword, hw⟩ := Option.map_eq_some_iff.mp h
  obtain ⟨hscalar, -⟩ := Prod.mk.inj hw
  obtain rfl := Lexeme.scalar.inj hscalar
  have hall : ∀ entry ∈ words, entry.2.IsScalar := by simp [words, IsScalar]
  exact hall _ (List.mem_of_find?_eq_some hword)

theorem isScalar_of_number? (h : number? cs = some (.scalar v, length)) : v.IsScalar := by
  unfold number? at h
  extract_lets negative body whole at h
  split at h
  · cases h
  · split at h
    · split at h
      · cases h
      · obtain ⟨hscalar, -⟩ := Prod.mk.inj (Option.some.inj h)
        obtain rfl := Lexeme.scalar.inj hscalar
        trivial
    · obtain ⟨hscalar, -⟩ := Prod.mk.inj (Option.some.inj h)
      obtain rfl := Lexeme.scalar.inj hscalar
      trivial

theorem readText_ne_scalar {opening : Nat} {read : List Nat} :
    (readText opening position read cs).1 ≠ .scalar v := by
  fun_induction readText opening position read cs <;> simp_all

theorem isScalar_of_leadingLexeme {c : Char} {after : Nat}
    (h : leadingLexeme position c cs = (some (.scalar v), after)) : v.IsScalar := by
  unfold leadingLexeme at h
  split at h
  · cases h
  · split at h
    · cases h
    · cases h
    · cases h
    · cases h
    · cases h
    · cases h
    · exact absurd (Option.some.inj (Prod.mk.inj h).1) readText_ne_scalar
    · split at h
      · rename_i lexeme length hfound
        obtain rfl := Option.some.inj (Prod.mk.inj h).1
        rcases Option.or_eq_some_iff.mp hfound with hword | ⟨-, hnumber⟩
        · exact isScalar_of_word? hword
        · exact isScalar_of_number? hnumber
      · cases h

/-- A lexeme that is a value is no array and no object. -/
theorem isScalar_of_mem_lexemes (h : .scalar v ∈ (lexemes position cs).map Prod.fst) :
    v.IsScalar := by
  fun_induction lexemes position cs with
  | case1 => cases h
  | case2 position c cs after hleading rest ih => exact ih h
  | case3 position c cs after rest l hleading ih =>
    rcases List.mem_cons.mp h with rfl | h
    · exact isScalar_of_leadingLexeme hleading
    · exact ih h

/-- A text is a JSON object, and `ms` are its members as they are written. -/
def IsObject (cs : List Char) (ms : List (CodePoints × Json)) : Prop :=
  cs.head? ≠ some '\uFEFF' ∧
    ∃ ls, (lexemes 0 cs).map Prod.fst = .openObject :: (ls ++ [.closeObject]) ∧
      Denotes ls (.members ms)

/-- **The objects that are read**: of the members that are written, those that are in force. -/
theorem read_eq_object_iff {kept : List (CodePoints × Json)} :
    Json.read cs = .ok (.object kept) ↔ ∃ ms, IsObject cs ms ∧ kept = Json.members ms := by
  rw [read_eq_ok_iff]
  constructor
  · rintro ⟨hmark, hdenotes⟩
    generalize hls : (lexemes 0 cs).map Prod.fst = ls at hdenotes
    cases hdenotes with
    | scalar v =>
      have hmem : .scalar (.object kept) ∈ (lexemes 0 cs).map Prod.fst := by
        rw [hls]
        exact List.mem_singleton_self _
      exact (isScalar_of_mem_lexemes hmem).elim
    | object h => exact ⟨_, ⟨hmark, _, hls, h⟩, rfl⟩
  · rintro ⟨ms, ⟨hmark, ls, hls, h⟩, rfl⟩
    exact ⟨hmark, hls ▸ .object h⟩

end Calculator.Json
