import Calculator.Proofs.Parse
import Mathlib.Control.Monad.Basic

/-!
# Brackets in place of a name

Where a text has a name, a text between brackets can stand instead.  What it is read as is the
expression of the text with the name, in which the name is replaced by the expression between the
brackets: brackets keep what they hold together, and hold it apart from what stands around them.

## Main definitions

* `Derivation.graft name inner d`: the derivation `d` with brackets around `inner` at every `name`
* `Lexeme.expand name ls l`: what becomes of a lexeme then

## Main results

* `Derivation.yield_graft`, `Derivation.tree_graft`: what the new derivation produces, and what it
  stands for
* `Splits.cut_name`: the lexemes before and after a name that stands by itself
* `Expr.parse_brackets_eq_substitute`: brackets in a text and substitution in its expression agree
-/

namespace Calculator

open Text

variable {cs us vs seg : List Char} {ls ks : List Lexeme} {l : Lexeme} {c : Char} {name : String}

/-! ## Derivations -/

/-- What stands for a lexeme when every `name` is replaced by brackets around `ls`. -/
def Lexeme.expand (name : String) (ls : List Lexeme) : Lexeme → List Lexeme
  | .identifier n => if n = name then .opening :: (ls ++ [.closing]) else [.identifier n]
  | l => [l]

theorem Lexeme.expand_of_ne (h : l ≠ .identifier name) : l.expand name ls = [l] := by
  cases l with
  | identifier n => exact if_neg fun hn => h (by rw [hn])
  | _ => rfl

theorem flatMap_expand_of_not_mem (h : .identifier name ∉ ks) :
    ks.flatMap (Lexeme.expand name ls) = ks := by
  induction ks with
  | nil => rfl
  | cons k ks ih =>
    obtain ⟨hk, hks⟩ : .identifier name ≠ k ∧ .identifier name ∉ ks := by
      simpa only [List.mem_cons, not_or] using h
    rw [List.flatMap_cons, Lexeme.expand_of_ne hk.symm, ih hks, List.singleton_append]

namespace Derivation

variable {level : Level}

/-- The derivation with brackets around `inner` in place of every `name`. -/
def graft {level : Level} (d : Derivation level) (name : String)
    (inner : Derivation (.tier .sum)) : Derivation level :=
  match d with
  | number x => number x
  | identifier n => if n = name then group inner else identifier n
  | group d => group (d.graft name inner)
  | lift operand => lift (operand.graft name inner)
  | join op hop left right => join op hop (left.graft name inner) (right.graft name inner)

theorem yield_graft (d : Derivation level) (name : String) (inner : Derivation (.tier .sum)) :
    (d.graft name inner).yield = d.yield.flatMap (Lexeme.expand name inner.yield) := by
  induction d with
  | number x => rfl
  | identifier n =>
    by_cases hn : n = name <;> simp [graft, yield, Lexeme.expand, hn]
  | group d ih => simp [graft, yield, Lexeme.expand, ih]
  | lift operand ih => exact ih
  | join op hop left right ihleft ihright =>
    simp [graft, yield, Lexeme.expand, ihleft, ihright]

theorem tree_graft (d : Derivation level) (name : String) (inner : Derivation (.tier .sum)) :
    (d.graft name inner).tree =
      d.tree.substitute fun n => if n = name then some inner.tree else none := by
  induction d with
  | number x => rfl
  | identifier n =>
    by_cases hn : n = name <;> simp [graft, tree, Expr.substitute, hn]
  | group d ih => exact ih
  | lift operand ih => exact ih
  | join op hop left right ihleft ihright =>
    rw [graft, tree, ihleft, ihright]
    rfl

/-- A name stands in an expression as often as among the lexemes that derive it. -/
theorem count_occurrences_tree (d : Derivation level) (name : String) :
    d.tree.occurrences.count name = d.yield.count (.identifier name) := by
  induction d with
  | number x => simp [tree, yield, Expr.occurrences]
  | identifier n => simp [tree, yield, Expr.occurrences, List.count_singleton]
  | group d ih =>
    rw [tree, ih]
    simp [yield]
  | lift operand ih => exact ih
  | join op hop left right ihleft ihright =>
    simp [tree, yield, Expr.occurrences, ihleft, ihright]

end Derivation

/-! ## Cutting a text at a name -/

/-- A lexeme with a letter in it is a name. -/
theorem Spells.eq_identifier (h : Spells seg l) (hc : c ∈ seg) (hletter : isLetter c = true) :
    l = .identifier (String.ofList seg) ∧ ∀ d ∈ seg, isAlphanumeric d := by
  have hne {d : Char} (hd : isLetter d = false) : c ≠ d := by
    rintro rfl
    exact Bool.false_ne_true (hd.symm.trans hletter)
  cases h with
  | number hraw =>
    rcases hraw.mem hc with hdigit | hpoint
    · exact absurd rfl (hne (isLetter_eq_false_of_isDigit hdigit))
    · exact absurd hpoint (hne (by decide))
  | @identifier d ds hd hds =>
    refine ⟨rfl, fun e he => ?_⟩
    rcases List.mem_cons.mp he with rfl | he
    · exact isAlphanumeric_of_isLetter hd
    · exact hds e he
  | operator op => exact absurd (List.mem_singleton.mp hc) (hne (by cases op <;> decide))
  | opening => exact absurd (List.mem_singleton.mp hc) (hne (by decide))
  | closing => exact absurd (List.mem_singleton.mp hc) (hne (by decide))

/-- A letter begins a lexeme unless it follows a character that a name may hold. -/
theorem Splits.cut_letter (h : Splits (us ++ c :: vs) ls) (hletter : isLetter c = true)
    (hus : ∀ u ∈ us.getLast?, isAlphanumeric u = false) :
    ∃ ks js, ls = ks ++ js ∧ Splits us ks ∧ Splits (c :: vs) js := by
  generalize hcs : us ++ c :: vs = cs at h
  -- along the split, until the characters before the letter are used up
  induction h generalizing us with
  | nil => simp at hcs
  | @space u cs ls hu h ih =>
    rcases us with _ | ⟨u', us⟩
    · obtain ⟨rfl, rfl⟩ := List.cons.inj hcs
      exact ⟨[], ls, rfl, .nil, .space hu h⟩
    · obtain ⟨rfl, htail⟩ := List.cons.inj hcs
      have hlast : ∀ v ∈ us.getLast?, isAlphanumeric v = false := by
        intro v hv
        exact hus v (by simp [List.getLast?_cons, Option.mem_def.mp hv])
      obtain ⟨ks, js, rfl, hks, hjs⟩ := ih hlast htail
      exact ⟨ks, js, rfl, .space hu hks, hjs⟩
  | @lexeme seg rest l ls hl hend h ih =>
    rcases List.append_eq_append_iff.mp hcs with ⟨ws, rfl, hws⟩ | ⟨ws, rfl, hws⟩
    · rcases us.eq_nil_or_concat with rfl | ⟨us, u, rfl⟩
      · rw [hws]
        exact ⟨[], l :: ls, rfl, .nil, .lexeme hl hend h⟩
      rcases ws with _ | ⟨w, ws⟩
      · obtain rfl : c :: vs = rest := hws
        rw [List.append_nil] at hl
        have hseg := Splits.lexeme hl hend.of_append .nil
        rw [List.append_nil] at hseg
        exact ⟨[l], ls, rfl, hseg, h⟩
      · -- the letter would go on a name that begins before it
        obtain ⟨rfl, -⟩ := List.cons.inj hws
        have hall := (hl.eq_identifier (by simp) hletter).2 u (by simp)
        have hlast := hus u (by simp)
        exact absurd hall (by simp [hlast])
    · subst hws
      have hlast : ∀ v ∈ ws.getLast?, isAlphanumeric v = false := by
        intro v hv
        exact hus v (by simp [List.getLast?_append, Option.mem_def.mp hv])
      obtain ⟨ks, js, rfl, hks, hjs⟩ := ih hlast rfl
      exact ⟨l :: ks, js, rfl, .lexeme hl hend.of_append hks, hjs⟩

/-- What begins with a letter is a name, up to the first character that no name holds. -/
theorem Splits.of_letter (h : Splits (c :: us ++ vs) ls) (hletter : isLetter c = true)
    (hus : ∀ u ∈ us, isAlphanumeric u) (hvs : ∀ v ∈ vs.head?, isAlphanumeric v = false) :
    ∃ js, ls = .identifier (String.ofList (c :: us)) :: js ∧ Splits vs js := by
  have hall : ∀ u ∈ c :: us, isAlphanumeric u := by
    simpa [isAlphanumeric_of_isLetter hletter] using hus
  obtain ⟨htake, hdrop⟩ := takeWhile_append_of_head? hall hvs
  generalize hcs : c :: us ++ vs = cs at h htake hdrop
  cases h with
  | nil => simp at hcs
  | space hd h =>
    obtain ⟨rfl, -⟩ := List.cons.inj hcs
    exact absurd hd (by simp [isSpace_eq_false_of_isLetter hletter])
  | @lexeme seg rest l ls hl hend h =>
    -- both the lexeme and the name are the longest run of such characters
    obtain ⟨d, ds, rfl⟩ := List.exists_cons_of_ne_nil hl.ne_nil
    obtain ⟨rfl, -⟩ := List.cons.inj hcs
    obtain ⟨rfl, hseg⟩ := hl.eq_identifier List.mem_cons_self hletter
    obtain ⟨htake', hdrop'⟩ := takeWhile_append_of_head? hseg hend
    rw [← htake, ← hdrop, htake', hdrop']
    exact ⟨ls, rfl, h⟩

/-- A name that stands by itself is a lexeme. -/
theorem Splits.cut_name (hname : isIdentifier name = true)
    (h : Splits (us ++ (name.toList ++ vs)) ls)
    (hus : ∀ u ∈ us.getLast?, isAlphanumeric u = false)
    (hvs : ∀ v ∈ vs.head?, isAlphanumeric v = false) :
    ∃ ks js, ls = ks ++ .identifier name :: js ∧ Splits us ks ∧ Splits vs js := by
  obtain ⟨c, cs, hcs, hletter, hall⟩ := exists_cons_of_isIdentifier hname
  rw [hcs] at h
  obtain ⟨ks, js, rfl, hks, hjs⟩ := h.cut_letter hletter hus
  obtain ⟨js, rfl, hvs⟩ := Splits.of_letter hjs hletter hall hvs
  rw [← hcs, String.ofList_toList]
  exact ⟨ks, js, rfl, hks, hvs⟩

theorem Splits.brackets {js : List Lexeme} (hus : Splits us ks) (hcs : Splits cs ls)
    (hvs : Splits vs js) :
    Splits (us ++ '(' :: (cs ++ ')' :: vs)) (ks ++ .opening :: (ls ++ .closing :: js)) := by
  have hclosing : Splits (')' :: vs) (.closing :: js) := .lexeme .closing trivial hvs
  have hinner := hcs.append (boundary_cons (by decide) (by decide) vs) hclosing
  have hopening : Splits ('(' :: (cs ++ ')' :: vs)) (.opening :: (ls ++ .closing :: js)) :=
    .lexeme .opening trivial hinner
  exact hus.append (boundary_cons (by decide) (by decide) _) hopening

/-- Brackets in place of the only occurrence of a name are the lexemes of the grafted derivation. -/
theorem Splits.graft {d w : Derivation (.tier .sum)} (hname : isIdentifier name = true)
    (h : Splits (us ++ (name.toList ++ vs)) d.yield)
    (hus : ∀ u ∈ us.getLast?, isAlphanumeric u = false)
    (hvs : ∀ v ∈ vs.head?, isAlphanumeric v = false)
    (hone : d.tree.occurrences.count name = 1) (hw : Splits cs w.yield) :
    Splits (us ++ '(' :: (cs ++ ')' :: vs)) (d.graft name w).yield := by
  obtain ⟨ks, js, hyield, hks, hjs⟩ := h.cut_name hname hus hvs
  rw [d.count_occurrences_tree, hyield, List.count_append, List.count_cons_self] at hone
  have hks' : .identifier name ∉ ks := List.count_eq_zero.mp (by omega)
  have hjs' : .identifier name ∉ js := List.count_eq_zero.mp (by omega)
  have hexpand : (d.graft name w).yield = ks ++ .opening :: (w.yield ++ .closing :: js) := by
    rw [d.yield_graft, hyield, List.flatMap_append, List.flatMap_cons,
      flatMap_expand_of_not_mem hks', flatMap_expand_of_not_mem hjs', Lexeme.expand, if_pos rfl]
    simp
  rw [hexpand]
  exact .brackets hks hw hjs

namespace Expr

theorem exists_derivation {config : ParserConfig} {text : String} {e : Expr}
    (h : parse config text = .ok e) (hblank : isBlank text.toList = false) :
    ∃ d : Derivation (.tier .sum), Splits text.toList d.yield ∧ d.tree = e := by
  rcases parse_eq_ok_iff.mp h with ⟨hempty, -, -⟩ | hd
  · cases hblank.symm.trans hempty
  · exact hd

/-- **Brackets and substitution agree**: if a name stands by itself in a text and once in its
expression, then brackets around another text in the place of the name are read as the expression of
that text in the place of the variable. -/
theorem parse_brackets_eq_substitute (config : ParserConfig) (before after inner name : String)
    {e f : Expr} (hname : isIdentifier name = true)
    (hbefore : ∀ c ∈ before.toList.getLast?, isAlphanumeric c = false)
    (hafter : ∀ c ∈ after.toList.head?, isAlphanumeric c = false)
    (he : parse config (before ++ name ++ after) = .ok e) (hone : e.occurrences.count name = 1)
    (hinner : isBlank inner.toList = false) (hf : parse config inner = .ok f) :
    parse config (before ++ "(" ++ inner ++ ")" ++ after) =
      .ok (e.substitute fun n => if n = name then some f else none) := by
  obtain ⟨d, hd, rfl⟩ : ∃ d : Derivation (.tier .sum),
      Splits (before.toList ++ (name.toList ++ after.toList)) d.yield ∧ d.tree = e := by
    rcases parse_eq_ok_iff.mp he with ⟨-, -, rfl⟩ | ⟨d, hd, htree⟩
    · simp [occurrences] at hone
    · exact ⟨d, by simpa using hd, htree⟩
  obtain ⟨w, hw, rfl⟩ := exists_derivation hf hinner
  obtain ⟨ks, js, hyield, hks, hjs⟩ := hd.cut_name hname hbefore hafter
  -- the name stands nowhere else
  rw [d.count_occurrences_tree, hyield, List.count_append, List.count_cons_self] at hone
  have hks' : .identifier name ∉ ks := List.count_eq_zero.mp (by omega)
  have hjs' : .identifier name ∉ js := List.count_eq_zero.mp (by omega)
  refine parse_eq_ok_iff.mpr (.inr ⟨d.graft name w, ?_, d.tree_graft name w⟩)
  have hsplits := Splits.brackets hks hw hjs
  rw [d.yield_graft, hyield, List.flatMap_append, List.flatMap_cons,
    flatMap_expand_of_not_mem hks', flatMap_expand_of_not_mem hjs', Lexeme.expand, if_pos rfl]
  simpa using hsplits

/-- Inside other brackets, between a product and a difference. -/
theorem parse_brackets_in_power :
    (parse {} ("k ^ (m * " ++ "x" ++ " - n) / y") = .ok (operation .div (operation .pow (var "k")
        (operation .sub (operation .mul (var "m") (var "x")) (var "n"))) (var "y")) ∧
      parse {} "p + (q - 2)" =
        .ok (operation .add (var "p") (operation .sub (var "q") (value 2)))) ∧
    parse {} ("k ^ (m * " ++ "(" ++ "p + (q - 2)" ++ ")" ++ " - n) / y") =
      .ok (operation .div (operation .pow (var "k") (operation .sub (operation .mul (var "m")
        (operation .add (var "p") (operation .sub (var "q") (value 2)))) (var "n")))
        (var "y")) := by
  have houter : parse {} ("k ^ (m * " ++ "x" ++ " - n) / y") =
      .ok (operation .div (operation .pow (var "k")
        (operation .sub (operation .mul (var "m") (var "x")) (var "n"))) (var "y")) := by
    decide +kernel
  have hinner : parse {} "p + (q - 2)" =
      .ok (operation .add (var "p") (operation .sub (var "q") (value 2))) := by
    decide +kernel
  -- the name stands between two spaces
  have hspace : ∀ c ∈ some ' ', isAlphanumeric c = false := by
    rintro c ⟨⟩
    decide
  refine ⟨⟨houter, hinner⟩, ?_⟩
  exact parse_brackets_eq_substitute {} "k ^ (m * " " - n) / y" "p + (q - 2)" "x" (by decide)
    hspace hspace houter (by decide) (by decide) hinner

end Expr

end Calculator
