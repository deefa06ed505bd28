import Calculator.Parse
import Calculator.Proofs.Reduction

/-!
# How scopes are read

The reading of lexemes with a stack of open scopes is described by two judgements without a stack:
lexemes are read as tokens, or the reading breaks off with a fault.

## Main definitions

* `Reads ls ts`: the brackets of `ls` are paired, and `ts` are its tokens
* `Breaks ending openedAt ls f reached`: the reading of `ls` breaks off with the fault `f`

## Main results

* `progress`: one of the judgements holds, or a bracket closes the scope
* `Scope.readLexemes_of_reads`, `Scope.readLexemes_of_breaks`: what the stack machine does then
* `Scope.parse_cases`: the expression of a whole input
* `Scope.close_eq_ok_iff`: which tokens make an expression
-/

namespace Calculator

/-- Lexemes whose brackets are all paired, and the tokens that they are read as. -/
inductive Reads : List Located → List Token → Prop where
  | nil : Reads [] []
  | number (x : Float) (o : Int) {ls : List Located} {ts : List Token} (h : Reads ls ts) :
      Reads (⟨.number x, o⟩ :: ls) (.expression (.value x) o :: ts)
  | identifier (name : String) (o : Int) {ls : List Located} {ts : List Token} (h : Reads ls ts) :
      Reads (⟨.identifier name, o⟩ :: ls) (.expression (.var name) o :: ts)
  | operator (op : Operator) (o : Int) {ls : List Located} {ts : List Token} (h : Reads ls ts) :
      Reads (⟨.operator op, o⟩ :: ls) (.operator op o :: ts)
  | group {o o' : Int} {us ls : List Located} {inner ts : List Token} {tree : Expr}
      (hus : Reads us inner) (hclose : Scope.close {} (some o) o' inner = .ok tree)
      (h : Reads ls ts) :
      Reads (⟨.opening, o⟩ :: (us ++ ⟨.closing, o'⟩ :: ls)) (.expression tree o' :: ts)

/-- The ways in which the reading of a scope fails: the fault, and the offset reached. -/
inductive Breaks (ending : Int) : Option Int → List Located → Fault → Int → Prop where
  | unmatched {ws rest : List Located} {ts : List Token} (o : Int) (hws : Reads ws ts) :
      Breaks ending none (ws ++ ⟨.closing, o⟩ :: rest) ⟨.unmatchedClosing, o⟩ o
  | missing {ws : List Located} {ts : List Token} (opened : Int) (hws : Reads ws ts) :
      Breaks ending (some opened) ws ⟨.missingClosing, opened⟩ ending
  | fault {openedAt : Option Int} {ws rest : List Located} {ts : List Token} (f : Fault) (o : Int)
      (hws : Reads ws ts) : Breaks ending openedAt (ws ++ ⟨.fault f, o⟩ :: rest) f o
  | inside {openedAt : Option Int} {ws us : List Located} {ts : List Token} {o reached : Int}
      {f : Fault} (hws : Reads ws ts) (hus : Breaks ending (some o) us f reached) :
      Breaks ending openedAt (ws ++ ⟨.opening, o⟩ :: us) f reached
  | closing {openedAt : Option Int} {ws us rest : List Located} {ts inner : List Token}
      {o o' : Int} {f : Fault} (hws : Reads ws ts) (hus : Reads us inner)
      (hclose : Scope.close {} (some o) o' inner = .error f) :
      Breaks ending openedAt (ws ++ ⟨.opening, o⟩ :: (us ++ ⟨.closing, o'⟩ :: rest)) f o'

variable {ending reached : Int} {openedAt : Option Int} {ls ws : List Located}
  {ts us : List Token} {f : Fault}

theorem Reads.append {vs : List Located} (h : Reads ls ts) (k : Reads vs us) :
    Reads (ls ++ vs) (ts ++ us) := by
  induction h with
  | nil => exact k
  | number x o h ih => exact .number x o ih
  | identifier name o h ih => exact .identifier name o ih
  | operator op o h ih => exact .operator op o ih
  | group hus hclose h _ ih =>
    rw [List.cons_append, List.append_assoc]
    exact .group hus hclose ih

theorem Reads.fault_not_mem (h : Reads ls ts) (f : Fault) (o : Int) :
    ⟨.fault f, o⟩ ∉ ls := by
  induction h with
  | nil => exact List.not_mem_nil
  | group hus hclose h ihus ih => simp [ihus, ih]
  | _ => simp_all

theorem Reads.eq_nil (h : Reads ls []) : ls = [] := by
  cases h
  rfl

theorem Breaks.append {vs : List Located} (k : Reads vs us)
    (h : Breaks ending openedAt ls f reached) : Breaks ending openedAt (vs ++ ls) f reached := by
  cases h with
  | unmatched _ hws =>
    rw [← List.append_assoc]
    exact .unmatched _ (k.append hws)
  | missing _ hws => exact .missing _ (k.append hws)
  | fault _ _ hws =>
    rw [← List.append_assoc]
    exact .fault _ _ (k.append hws)
  | inside hws hus =>
    rw [← List.append_assoc]
    exact .inside (k.append hws) hus
  | closing hws hus hclose =>
    rw [← List.append_assoc]
    exact .closing (k.append hws) hus hclose

/-- What becomes of lexemes: all of them are read, or those up to a bracket that closes the scope,
or the reading breaks off. -/
inductive Progress (ending : Int) (ls : List Located) : Prop where
  | finished {ts : List Token} (h : Reads ls ts)
  | closed {ws rest : List Located} {ts : List Token} {o : Int}
      (hls : ls = ws ++ ⟨.closing, o⟩ :: rest) (hws : Reads ws ts)
  | broken (h : ∀ openedAt, ∃ f reached, Breaks ending openedAt ls f reached)

/-- Lexemes that are read as a whole do not change what becomes of those after them. -/
theorem Progress.append {vs : List Located} (k : Reads vs us) (h : Progress ending ls) :
    Progress ending (vs ++ ls) := by
  cases h with
  | finished h => exact .finished (k.append h)
  | @closed ws rest ts o hls hws =>
    have hvs : vs ++ ls = (vs ++ ws) ++ ⟨.closing, o⟩ :: rest := by
      rw [hls, List.append_assoc]
    exact .closed hvs (k.append hws)
  | broken h =>
    refine .broken fun openedAt => ?_
    obtain ⟨f, reached, h⟩ := h openedAt
    exact ⟨f, reached, h.append k⟩

theorem progress (ending : Int) (ls : List Located) : Progress ending ls := by
  induction hn : ls.length using Nat.strongRecOn generalizing ls with
  | _ n ih =>
    subst hn
    rcases ls with _ | ⟨⟨l, o⟩, ls⟩
    · exact .finished .nil
    have ihls := ih ls.length (Nat.lt_succ_self _) ls rfl
    cases l with
    | number x => exact .append (.number x o .nil) ihls
    | identifier name => exact .append (.identifier name o .nil) ihls
    | operator op => exact .append (.operator op o .nil) ihls
    | closing => exact .closed (List.nil_append _).symm .nil
    | fault f => exact .broken fun openedAt => ⟨f, o, @Breaks.fault _ _ [] _ _ f o .nil⟩
    | opening =>
      -- the bracket is open in whatever becomes of the lexemes after it
      cases ihls with
      | finished h =>
        exact .broken fun openedAt =>
          ⟨_, ending, @Breaks.inside _ _ [] _ _ _ _ _ .nil (.missing o h)⟩
      | @closed ws rest ts o' hls hws =>
        subst hls
        cases hclose : Scope.close {} (some o) o' ts with
        | error f =>
          exact .broken fun openedAt =>
            ⟨f, o', @Breaks.closing _ _ [] _ _ _ _ _ _ _ .nil hws hclose⟩
        | ok tree =>
          have hrest := ih rest.length (by simp; omega) rest rfl
          simpa using Progress.append (.group hws hclose .nil) hrest
      | broken h =>
        refine .broken fun openedAt => ?_
        obtain ⟨f, reached, h⟩ := h (some o)
        exact ⟨f, reached, @Breaks.inside _ _ [] _ _ _ _ _ .nil h⟩

namespace Scope

theorem readLexemes_closing (opened o : Int) (read : List Token) (outer : Scope)
    (around : List Scope) (rest : List Located) :
    readLexemes ending ⟨some opened, read⟩ (outer :: around) (⟨.closing, o⟩ :: rest) =
      match close {} (some opened) o read.reverse with
      | .error f => (.error f, o)
      | .ok tree => readLexemes ending (outer.push (.expression tree o)) around rest := by
  cases hclose : close {} (some opened) o read.reverse <;> simp only [readLexemes, hclose]

theorem readLexemes_of_reads (h : Reads ws ts) (current : Scope) (around : List Scope)
    (rest : List Located) :
    readLexemes ending current around (ws ++ rest) =
      readLexemes ending { current with read := ts.reverse ++ current.read } around rest := by
  induction h generalizing current around rest with
  | nil => rfl
  | number x o h ih | identifier x o h ih | operator x o h ih =>
    rw [List.cons_append, readLexemes, ih]
    simp [push]
  | @group o o' us ls inner ts tree hus hclose h ihus ih =>
    -- the inner scope is opened, read and closed, and its expression goes to the scope around it
    rw [List.cons_append, List.append_assoc, readLexemes, ihus, List.cons_append,
      readLexemes_closing, List.append_nil, List.reverse_reverse, hclose]
    simp [push, ih]

theorem readLexemes_of_breaks (h : Breaks ending openedAt ls f reached) {current : Scope}
    (hcurrent : current.openedAt = openedAt) (around : List Scope) :
    readLexemes ending current around ls = (.error f, reached) := by
  induction h generalizing current around with
  | unmatched o hws =>
    rw [readLexemes_of_reads hws, readLexemes]
    simp [hcurrent]
  | @missing ws _ opened hws =>
    rw [← List.append_nil ws, readLexemes_of_reads hws, readLexemes]
    simp [hcurrent]
  | fault f o hws => rw [readLexemes_of_reads hws, readLexemes]
  | inside hws hus ih => rw [readLexemes_of_reads hws, readLexemes, ih rfl]
  | closing hws hus hclose =>
    rw [readLexemes_of_reads hws, readLexemes, readLexemes_of_reads hus,
      readLexemes_closing, List.append_nil, List.reverse_reverse, hclose]

theorem tokens_of_reads {c : Cursor} (h : Reads (lexemes c.offset c.rest) ts) :
    tokens c none = (.ok ts, c.offset + c.rest.length) := by
  rw [tokens, ← List.append_nil (lexemes _ _), readLexemes_of_reads h, readLexemes]
  simp

theorem tokens_of_breaks {c : Cursor}
    (h : Breaks (c.offset + c.rest.length) none (lexemes c.offset c.rest) f reached) :
    tokens c none = (.error f, reached) :=
  readLexemes_of_breaks h rfl []

theorem parse_of_reads (config : ParserConfig) {c : Cursor}
    (h : Reads (lexemes c.offset c.rest) ts) :
    (parse config c none).1 = close config none (c.offset + c.rest.length) ts := by
  rw [parse, tokens_of_reads h]

theorem reached_of_reads (config : ParserConfig) {c : Cursor}
    (h : Reads (lexemes c.offset c.rest) ts) :
    (parse config c none).2 = c.offset + c.rest.length := by
  rw [parse, tokens_of_reads h]

theorem parse_of_breaks (config : ParserConfig) {c : Cursor}
    (h : Breaks (c.offset + c.rest.length) none (lexemes c.offset c.rest) f reached) :
    parse config c none = (.error f, reached) := by
  rw [parse, tokens_of_breaks h]

/-- Either a whole input is read to its end, or the reading breaks off. -/
theorem reads_or_breaks (ending : Int) (ls : List Located) :
    (∃ ts, Reads ls ts) ∨ ∃ f reached, Breaks ending none ls f reached := by
  cases progress ending ls with
  | @finished ts h => exact .inl ⟨ts, h⟩
  | @closed ws rest ts o hls hws =>
    rw [hls]
    exact .inr ⟨⟨.unmatchedClosing, o⟩, o, .unmatched o hws⟩
  | broken h => exact .inr (h none)

/-- The outcome of a whole input. -/
theorem parse_cases (config : ParserConfig) (c : Cursor) :
    (∃ ts, Reads (lexemes c.offset c.rest) ts ∧
      (parse config c none).1 = close config none (c.offset + c.rest.length) ts) ∨
      ∃ f reached, Breaks (c.offset + c.rest.length) none (lexemes c.offset c.rest) f reached ∧
        (parse config c none).1 = .error f := by
  rcases reads_or_breaks (c.offset + c.rest.length) (lexemes c.offset c.rest) with
    ⟨ts, h⟩ | ⟨f, reached, h⟩
  · exact .inl ⟨ts, h, parse_of_reads config h⟩
  · exact .inr ⟨f, reached, h, congrArg Prod.fst (parse_of_breaks config h)⟩

/-- A scope with tokens has an expression exactly if they are reduced to a single one. -/
theorem close_eq_ok_iff {config : ParserConfig} {openedAt : Option Int} {offset : Int}
    {tree : Expr} :
    close config openedAt offset ts = .ok tree ↔
      (ts = [] ∧ openedAt = none ∧ config.allowEmpty ∧ tree = .value config.emptyValue) ∨
        ∃ o, reduceAll ts = .ok [.expression tree o] := by
  rcases close_cases config openedAt offset ts with
    rfl | ⟨f, hr, hc⟩ | ⟨tree', o, hr, hc⟩ | ⟨out, t, hne, hr, hc⟩
  · have hr : reduceAll [] = .ok [] := rfl
    rw [close_nil, hr]
    rcases openedAt with _ | opened
    · by_cases hempty : config.allowEmpty <;> simp [hempty, eq_comm]
    · simp
  · have hne : ts ≠ [] := by
      rintro rfl
      cases hr
    simp [hc, hr, hne]
  · have hne : ts ≠ [] := by
      rintro rfl
      cases hr
    simp [hc, hr, hne]
  · have hts : ts ≠ [] := by
      rintro rfl
      exact hne (by simpa using congrArg List.length (Except.ok.inj hr))
    have htwo (o : Int) : out ++ [t] ≠ [.expression tree o] := by
      intro h
      exact hne (by simpa using congrArg List.length h)
    simp [hc, hr, hts, htwo]

end Scope

end Calculator
