import Calculator.Proofs.Diagnostics
import Calculator.Proofs.RoundTrip
import Calculator.Proofs.Shift
import Calculator.Proofs.Substitution

/-!
# What an empty input means

What an empty input stands for is a matter of the configuration, and it matters to a blank input
only.  Brackets and operators without an operand are errors under every configuration, at whatever
depth they stand.

## Main definitions

* `LacksOperand ls`: no operand begins with the first of the lexemes `ls`

## Main results

* `Scope.close_congr`: a scope with tokens does not depend on the configuration
* `Derivation.not_awaitsOperand_of_lacksOperand`: where an operand is due in what derives, one
  begins
* `Expr.parseAt_congr_config`: an input that is not blank does not depend on the configuration
-/

namespace Calculator

open Text

/-! ## Two configurations -/

namespace Scope

variable {ts : List Token}

/-- A scope with tokens is decided by their reduction. -/
theorem close_congr (hts : ts ≠ []) (c₁ c₂ : ParserConfig) (openedAt : Option Int) (offset : Int) :
    close c₁ openedAt offset ts = close c₂ openedAt offset ts := by
  unfold close
  rcases hr : reduceAll ts with f | out
  · rfl
  · obtain ⟨houtline, hexpressions⟩ := reduceAll_ok hr
    -- by what is left: only a scope without expressions would ask the configuration
    rcases out with _ | ⟨⟨tree, o⟩ | ⟨op, o⟩, _ | ⟨u, more⟩⟩
    case ok.nil => exact absurd (houtline.eq_nil_iff.mp rfl) hts
    case ok.cons.operator.nil =>
      exact absurd (hexpressions _ List.mem_cons_self) Bool.false_ne_true
    all_goals rfl

/-- The brackets of an input are closed without the configuration, so only a blank input depends on
it. -/
theorem parse_congr {c : Cursor} (hblank : isBlank c.rest = false) (c₁ c₂ : ParserConfig) :
    (parse c₁ c none).1 = (parse c₂ c none).1 := by
  rcases reads_or_breaks (c.offset + c.rest.length) (lexemes c.offset c.rest) with
    ⟨ts, hreads⟩ | ⟨f, reached, hbreaks⟩
  · have hts : ts ≠ [] := by
      rintro rfl
      have hscans := scans_lexemes c.offset c.rest
      rw [hreads.eq_nil] at hscans
      exact Bool.false_ne_true (hblank.symm.trans (isBlank_of_scans hscans))
    rw [parse_of_reads c₁ hreads, parse_of_reads c₂ hreads]
    exact close_congr hts c₁ c₂ none _
  · rw [parse_of_breaks c₁ hbreaks, parse_of_breaks c₂ hbreaks]

end Scope

/-! ## Operands that are missing -/

/-- A lexeme that an operand begins with. -/
def Lexeme.BeginsOperand : Lexeme → Prop
  | .number _ => True
  | .identifier _ => True
  | .opening => True
  | _ => False

/-- Lexemes with which no operand begins. -/
def LacksOperand (ls : List Lexeme) : Prop :=
  ∀ x ∈ ls.head?, ¬ x.BeginsOperand

theorem lacksOperand_append_cons {us vs : List Lexeme} {x : Lexeme} :
    LacksOperand (us ++ x :: vs) ↔ LacksOperand us ∧ (us = [] → ¬ x.BeginsOperand) := by
  rcases us with _ | ⟨u, us⟩ <;> simp [LacksOperand]

namespace Derivation

variable {l : Level}

theorem not_lacksOperand_yield (d : Derivation l) : ¬ LacksOperand d.yield := by
  induction d with
  | number x => exact fun h => h (.number x) rfl trivial
  | identifier name => exact fun h => h (.identifier name) rfl trivial
  | group inner => exact fun h => h .opening rfl trivial
  | lift operand ih => exact ih
  | join op hop left right ihleft => exact fun h => ihleft (lacksOperand_append_cons.mp h).1

/-- **No operand is missing** in what derives: wherever one is due, because nothing, an operator or
an opening bracket stands in front, one begins. -/
theorem not_awaitsOperand_of_lacksOperand (d : Derivation l) {us vs : List Lexeme}
    (h : d.yield = us ++ vs) (hvs : LacksOperand vs) : ¬ AwaitsOperand us := by
  induction d generalizing us vs with
  | number x =>
    rcases List.append_eq_singleton_iff.mp h.symm with ⟨-, rfl⟩ | ⟨rfl, -⟩
    · exact absurd hvs (number x).not_lacksOperand_yield
    · exact (number x).not_awaitsOperand_yield
  | identifier name =>
    rcases List.append_eq_singleton_iff.mp h.symm with ⟨-, rfl⟩ | ⟨rfl, -⟩
    · exact absurd hvs (identifier name).not_lacksOperand_yield
    · exact (identifier name).not_awaitsOperand_yield
  | group inner ih =>
    rcases us with _ | ⟨u, us⟩
    · rw [List.nil_append] at h
      exact absurd (h ▸ hvs) (group inner).not_lacksOperand_yield
    obtain ⟨rfl, htail⟩ := List.cons.inj h
    intro hus
    have hus : AwaitsOperand us := (@awaitsOperand_append_cons [] us .opening |>.mp hus).2
    -- the cut lies after the closing bracket, in front of it, or in what the brackets hold
    rcases List.append_eq_append_iff.mp htail with ⟨ws, rfl, hws⟩ | ⟨ws, hinner, rfl⟩
    · rcases List.append_eq_singleton_iff.mp hws.symm with ⟨rfl, -⟩ | ⟨rfl, -⟩
      · rw [List.append_nil] at hus
        exact inner.not_awaitsOperand_yield hus
      · exact (awaitsOperand_append_cons.mp hus).1 rfl trivial
    · exact ih hinner (lacksOperand_append_cons.mp hvs).1 hus
  | lift operand ih => exact ih h hvs
  | join op hop left right ihleft ihright =>
    rcases List.append_eq_append_iff.mp h with ⟨ws, rfl, hws⟩ | ⟨ws, hleft, rfl⟩
    · rcases ws with _ | ⟨w, ws⟩
      · rw [List.append_nil]
        exact left.not_awaitsOperand_yield
      · obtain ⟨rfl, hright⟩ := List.cons.inj hws
        exact fun hus => ihright hright hvs (awaitsOperand_append_cons.mp hus).2
    · exact ihleft hleft (lacksOperand_append_cons.mp hvs).1

end Derivation

/-! ## The expression of an input -/

namespace Expr

/-- **What an empty input means** is asked for a blank input only.  From any place on, a text that
is not blank comes to the same expression or the same diagnostic under all configurations.  Under
none is it an expression if an operand is missing somewhere, as between the brackets of an empty
pair or beside an operator that stands alone. -/
theorem parseAt_congr_config (text : String) (start : Nat)
    (hblank : isBlank (text.toList.drop start) = false) :
    (∀ c₁ c₂ : ParserConfig, parseAt c₁ text start = parseAt c₂ text start) ∧
    ∀ (config : ParserConfig) (us vs : List Lexeme),
      Splits (text.toList.drop start) (us ++ vs) → AwaitsOperand us → LacksOperand vs →
        ∃ e, parseAt config text start = .error e := by
  constructor
  · intro c₁ c₂
    rw [parseAt, parseAt, parseCursor, parseCursor, Scope.parse_congr hblank c₁ c₂]
  · intro config us vs hsplits hus hvs
    rcases hparse : parseAt config text start with e | tree
    · exact ⟨e, rfl⟩
    · -- the lexemes of an expression derive
      obtain ⟨d, hd, -⟩ := exists_derivation (parseAt_eq_ok_iff.mp hparse)
        (by rwa [String.toList_ofList])
      rw [String.toList_ofList] at hd
      exact absurd hus (d.not_awaitsOperand_of_lacksOperand (hd.unique hsplits) hvs)

/-- Empty brackets beside an operator, in other brackets. -/
theorem parseAt_congr_config_brackets :
    let text := "y = (a * ( )) + b"
    let config : ParserConfig := ⟨true, 7⟩
    let us : List Lexeme := [.opening, .identifier "a", .operator .mul, .opening]
    let vs : List Lexeme := [.closing, .closing, .operator .add, .identifier "b"]
    isBlank (text.toList.drop 3) = false ∧ Splits (text.toList.drop 3) (us ++ vs) ∧
      AwaitsOperand us ∧ LacksOperand vs ∧
      parseAt config text 3 = parseAt { allowEmpty := false } text 3 ∧
      ∃ e, parseAt config text 3 = .error e := by
  intro text config us vs
  have hblank : isBlank (text.toList.drop 3) = false := by decide
  have hlexemes : lexemes 0 (text.toList.drop 3) =
      [⟨.opening, 2⟩, ⟨.identifier "a", 3⟩, ⟨.operator .mul, 5⟩, ⟨.opening, 7⟩, ⟨.closing, 9⟩,
        ⟨.closing, 10⟩, ⟨.operator .add, 12⟩, ⟨.identifier "b", 14⟩] := by
    decide +kernel
  have hsplits : Splits (text.toList.drop 3) (us ++ vs) := by
    have hscans := scans_lexemes 0 (text.toList.drop 3)
    rw [hlexemes] at hscans
    exact hscans.splits (by simp)
  have hus : AwaitsOperand us := by
    rintro x ⟨⟩
    exact id
  have hvs : LacksOperand vs := by
    rintro x ⟨⟩
    exact id
  have hcongr := parseAt_congr_config text 3 hblank
  exact ⟨hblank, hsplits, hus, hvs, hcongr.1 _ _, hcongr.2 config us vs hsplits hus hvs⟩

end Expr

end Calculator
