import Calculator.Proofs.Parse
import Calculator.Proofs.Places

/-!
# The places of diagnostics

Every diagnostic is reported after the character that it is about.  The faults of a scope are first
found among the lexemes, with what stands before and after them, and then among the characters.

## Main definitions

* `Ends before x t`: the token `t` ends with the lexeme `x`
* `Fails whole f`: where among the lexemes `whole` the fault `f` lies
* `Marks cs start o before c after`: the offset `o` is the one after the character `c`
* `IsOperand seg after`: `seg` is a number, a name, or a bracketed group
* `Cause.PointsAt config cs start cause o`: what stands at the offset of a cause

## Main results

* `Breaks.fails`, `fails_of_close`: every fault lies among the lexemes
* `Fails.pointsAt`: and so among the characters
* `Expr.parseAt_pointsAt`: the diagnostics of every text, from every start
-/

namespace Calculator

open Text

variable {config : ParserConfig} {offset ending reached : Int} {openedAt : Option Int}
  {ws xs us located whole : List Located} {x : Located} {t : Token} {ts : List Token} {f : Fault}

/-! ## Faults among the lexemes -/

/-- The last lexeme of a token, after the lexemes `before`. -/
inductive Ends (before : List Located) : Located → Token → Prop where
  | operator (op : Operator) (o : Int) : Ends before ⟨.operator op, o⟩ (.operator op o)
  | number (x : Float) (tree : Expr) (o : Int) : Ends before ⟨.number x, o⟩ (.expression tree o)
  | identifier (name : String) (tree : Expr) (o : Int) :
      Ends before ⟨.identifier name, o⟩ (.expression tree o)
  | group {ws us : List Located} {inner : List Token} {o : Int} (tree : Expr) (o' : Int)
      (hbefore : before = ws ++ ⟨.opening, o⟩ :: us) (hus : Reads us inner) :
      Ends before ⟨.closing, o'⟩ (.expression tree o')

theorem Ends.offset_eq (h : Ends ws x t) : x.offset = t.offset := by
  cases h <;> rfl

theorem Ends.append (h : Ends ws x t) (us : List Located) : Ends (us ++ ws) x t := by
  cases h with
  | operator op o => exact .operator op o
  | number x tree o => exact .number x tree o
  | identifier name tree o => exact .identifier name tree o
  | @group vs vs' _ o tree o' hbefore hus =>
    have hbefore' : us ++ ws = us ++ vs ++ ⟨.opening, o⟩ :: vs' := by
      rw [hbefore, List.append_assoc]
    exact .group tree o' hbefore' hus

/-- Every token of a scope ends with one of its lexemes. -/
theorem Reads.exists_ends (h : Reads located ts) (ht : t ∈ ts) :
    ∃ ws x xs, located = ws ++ x :: xs ∧ Ends ws x t := by
  -- a token further on ends with a lexeme further on
  have further (us : List Located) {ls : List Located}
      (h : ∃ ws x xs, ls = ws ++ x :: xs ∧ Ends ws x t) :
      ∃ ws x xs, us ++ ls = ws ++ x :: xs ∧ Ends ws x t := by
    obtain ⟨ws, x, xs, rfl, hends⟩ := h
    exact ⟨us ++ ws, x, xs, (List.append_assoc ..).symm, hends.append us⟩
  induction h with
  | nil => simp at ht
  | number x o h ih =>
    rcases List.mem_cons.mp ht with rfl | ht
    · exact ⟨[], _, _, rfl, .number x _ o⟩
    · exact further [⟨.number x, o⟩] (ih ht)
  | identifier name o h ih =>
    rcases List.mem_cons.mp ht with rfl | ht
    · exact ⟨[], _, _, rfl, .identifier name _ o⟩
    · exact further [⟨.identifier name, o⟩] (ih ht)
  | operator op o h ih =>
    rcases List.mem_cons.mp ht with rfl | ht
    · exact ⟨[], _, _, rfl, .operator op o⟩
    · exact further [⟨.operator op, o⟩] (ih ht)
  | @group o o' us ls inner ts tree hus hclose h ihus ih =>
    rcases List.mem_cons.mp ht with rfl | ht
    · have hbefore : ⟨.opening, o⟩ :: us = [] ++ ⟨.opening, o⟩ :: us := rfl
      exact ⟨⟨.opening, o⟩ :: us, _, ls, rfl, .group tree o' hbefore hus⟩
    · have hls := further (⟨.opening, o⟩ :: (us ++ [⟨.closing, o'⟩])) (ih ht)
      rwa [List.cons_append, List.append_assoc] at hls

/-- Where a fault lies among lexemes. -/
inductive Fails (whole : List Located) : Fault → Prop where
  | unmatched {ws rest : List Located} {ts : List Token} {o : Int}
      (hwhole : whole = ws ++ ⟨.closing, o⟩ :: rest) (hws : Reads ws ts) :
      Fails whole ⟨.unmatchedClosing, o⟩
  | missing {ws us : List Located} {ts : List Token} {o : Int}
      (hwhole : whole = ws ++ ⟨.opening, o⟩ :: us) (hus : Reads us ts) :
      Fails whole ⟨.missingClosing, o⟩
  | fault {ws rest : List Located} {f : Fault} {o : Int}
      (hwhole : whole = ws ++ ⟨.fault f, o⟩ :: rest) : Fails whole f
  | empty {ws rest : List Located} {o o' : Int}
      (hwhole : whole = ws ++ ⟨.opening, o⟩ :: ⟨.closing, o'⟩ :: rest) :
      Fails whole ⟨.emptyBrackets, o⟩
  | operand {ws rest : List Located} {op : Operator} {cause : Cause} {o : Int}
      (hwhole : whole = ws ++ ⟨.operator op, o⟩ :: rest)
      (hcause : cause = .missingOperand op ∨ ∃ left right, cause = .invalidOperands op left right) :
      Fails whole ⟨cause, o⟩
  | surplus {ws rest : List Located} {x : Located} {t : Token} (hwhole : whole = ws ++ x :: rest)
      (hends : Ends ws x t) : Fails whole ⟨.surplusExpression, x.offset⟩

theorem Fails.operand_of_explains {s : Stray} (hf : s.Explains f)
    (hwhole : whole = ws ++ ⟨.operator s.op, s.offset⟩ :: xs) : Fails whole f := by
  obtain ⟨hoffset, hcause⟩ := hf
  obtain ⟨cause, o⟩ := f
  obtain rfl : o = s.offset := hoffset
  refine .operand hwhole ?_
  split at hcause
  · exact .inl hcause
  · exact .inr hcause

/-- The fault of tokens that make no expression lies in their scope, unless there are none. -/
theorem fails_of_close (hus : Reads us ts) (hts : ts ≠ [])
    (hclose : Scope.close config openedAt offset ts = .error f) (ws xs : List Located) :
    Fails (ws ++ (us ++ xs)) f := by
  -- a lexeme of the scope, seen in the list that the scope is a part of
  have located {vs vs' : List Located} {x : Located} (h : us = vs ++ x :: vs') :
      ws ++ (us ++ xs) = ws ++ vs ++ x :: (vs' ++ xs) := by
    simp [h]
  rcases Scope.close_cases config openedAt offset ts with
    hnil | ⟨f', hr, hc⟩ | ⟨tree, o, hr, hc⟩ | ⟨out, t, hne, hr, hc⟩
  · exact absurd hnil hts
  · -- the reduction failed at an operator that was read as it stands
    obtain rfl : f' = f := Except.error.inj (hc.symm.trans hclose)
    obtain ⟨s, hs, hexplains⟩ := firstStray_of_reduceAll_error hr
    obtain ⟨before, after, ⟨hmem, -⟩, -⟩ := misplaced_of_firstStray hs
    have hmem : .operator s.op s.offset ∈ ts := by simp [hmem]
    obtain ⟨vs, x, vs', hvs, hends⟩ := hus.exists_ends hmem
    cases hends
    exact .operand_of_explains hexplains (located hvs)
  · cases hc.symm.trans hclose
  · obtain rfl : _ = f := Except.error.inj (hc.symm.trans hclose)
    have hmem : t ∈ out ++ [t] := List.mem_append_right _ List.mem_cons_self
    -- the offset is that of a token as it was read, although the expression may be a joined one
    obtain ⟨u, hu, hoffset⟩ := exists_offset_eq_of_reduceAll hr hmem
    obtain ⟨vs, x, vs', hvs, hends⟩ := hus.exists_ends hu
    rw [← hoffset, ← hends.offset_eq]
    exact .surplus (located hvs) (hends.append ws)

/-- The fault of a bracket scope lies in it, or is that it is empty. -/
theorem fails_of_close_some {o o' : Int} (hus : Reads us ts)
    (hclose : Scope.close config (some o) offset ts = .error f) (ws xs : List Located) :
    Fails (ws ++ ⟨.opening, o⟩ :: (us ++ ⟨.closing, o'⟩ :: xs)) f := by
  by_cases hts : ts = []
  · subst hts
    rw [Scope.close_nil] at hclose
    obtain rfl := Except.error.inj hclose
    rw [hus.eq_nil]
    exact .empty rfl
  · have hfails := fails_of_close hus hts hclose (ws ++ [⟨.opening, o⟩]) (⟨.closing, o'⟩ :: xs)
    simpa using hfails

/-- A reading that breaks off does so at one of the lexemes, or at the bracket that opened its
scope. -/
theorem Breaks.fails (h : Breaks ending openedAt located f reached)
    (hws : match openedAt with
      | none => ws = []
      | some o => ∃ vs, ws = vs ++ [⟨.opening, o⟩]) : Fails (ws ++ located) f := by
  induction h generalizing ws with
  | unmatched o hvs =>
    obtain rfl : ws = [] := hws
    exact .unmatched rfl hvs
  | missing o hvs =>
    obtain ⟨vs, rfl⟩ := hws
    rw [List.append_assoc]
    exact .missing rfl hvs
  | fault f o hvs =>
    rw [← List.append_assoc]
    exact .fault rfl
  | @inside openedAt vs us _ o reached f hvs hus ih =>
    -- the bracket that opens the inner scope now stands in front of it
    have hfails : Fails (ws ++ vs ++ [⟨.opening, o⟩] ++ us) f := ih ⟨ws ++ vs, rfl⟩
    simpa only [List.append_assoc, List.cons_append, List.nil_append] using hfails
  | closing hvs hus hclose =>
    rw [← List.append_assoc]
    exact fails_of_close_some hus hclose _ _

/-! ## Faults among the characters -/

/-- The offset `o` is the one after the character `c`, which stands after `before` and not before
`start`. -/
structure Marks (cs : List Char) (start : Nat) (o : Int) (before : List Char) (c : Char)
    (after : List Char) : Prop where
  text_eq : cs = before ++ c :: after
  start_le : start ≤ before.length
  offset_eq : o = before.length + 1

/-- Characters that are, before `after`, a whole number, a whole name, or a bracketed group. -/
def IsOperand (seg after : List Char) : Prop :=
  (∃ x, Spells seg (.number x) ∧ (Lexeme.number x).EndsBefore after) ∨
    (∃ name, Spells seg (.identifier name) ∧ (Lexeme.identifier name).EndsBefore after) ∨
    ∃ inner, seg = '(' :: (inner ++ [')']) ∧ Balanced charSide inner

/-- What stands at the offset that is reported with a cause, when `cs` is read from `start` on. -/
def Cause.PointsAt (config : ParserConfig) (cs : List Char) (start : Nat) (o : Int) :
    Cause → Prop
  | secondPoint => ∃ pre ds fs after, Marks cs start o (pre ++ (ds ++ '.' :: fs)) '.' after ∧
      start ≤ pre.length ∧ ds ≠ [] ∧ (∀ c ∈ ds, c.isDigit) ∧ ∀ c ∈ fs, c.isDigit
  | invalidToken c => ∃ before after, Marks cs start o before c after ∧ classify c = .invalid
  | unmatchedClosing => ∃ before after, Marks cs start o before ')' after ∧
      Balanced charSide (before.drop start)
  | missingClosing => ∃ before after, Marks cs start o before '(' after ∧ Balanced charSide after
  | surplusExpression => ∃ before c after, Marks cs start o before c after ∧
      ((∃ op, c = Operator.symbol op) ∨ ∃ pre seg, before ++ [c] = pre ++ seg ∧
        start ≤ pre.length ∧ IsOperand seg after)
  | emptyBrackets => ∃ before blank after, Marks cs start o before '(' (blank ++ ')' :: after) ∧
      isBlank blank
  | emptyExpression => o = max start cs.length ∧ isBlank (cs.drop start) ∧
      config.allowEmpty = false
  | missingOperand op | invalidOperands op _ _ => ∃ before after,
      Marks cs start o before op.symbol after
  | unreadableNumber _ | invalidTarget _ => False

section Characters

variable {cs pre seg post : List Char} {start : Nat} {c : Char} {o : Int}

theorem length_take_of_drop (hcs : cs.drop start = pre ++ c :: post) :
    (cs.take start).length = start := by
  have hlength := congrArg List.length hcs
  rw [List.length_drop, List.length_append, List.length_cons] at hlength
  rw [List.length_take]
  omega

theorem Marks.of_drop (hcs : cs.drop start = pre ++ c :: post) (ho : o = start + pre.length + 1) :
    Marks cs start o (cs.take start ++ pre) c post := by
  have hlength := length_take_of_drop hcs
  refine ⟨?_, ?_, ?_⟩
  · rw [List.append_assoc, ← hcs, List.take_append_drop]
  · rw [List.length_append, hlength]
    exact Nat.le_add_right _ _
  · rw [ho, List.length_append, hlength, Int.natCast_add]

theorem drop_take_append (hcs : cs.drop start = pre ++ c :: post) :
    (cs.take start ++ pre).drop start = pre := by
  have hlength := length_take_of_drop hcs
  rw [List.drop_append_of_le_length (Nat.le_of_eq hlength.symm),
    List.drop_of_length_le (Nat.le_of_eq hlength), List.nil_append]

/-- The place after a number, a name or a group. -/
theorem pointsAt_surplus_of_isOperand (hcs : cs.drop start = pre ++ (seg ++ post)) (hne : seg ≠ [])
    (ho : o = start + pre.length + seg.length) (hseg : IsOperand seg post) :
    Cause.surplusExpression.PointsAt config cs start o := by
  obtain ⟨init, c, rfl⟩ : ∃ init c, seg = init ++ [c] :=
    ⟨_, _, (List.dropLast_concat_getLast hne).symm⟩
  have hdrop : cs.drop start = (pre ++ init) ++ c :: post := by
    rw [hcs, List.append_assoc, List.append_assoc]
    rfl
  have hoffset : o = start + ((pre ++ init).length : Int) + 1 := by
    rw [ho, List.length_append, List.length_append, List.length_singleton]
    omega
  refine ⟨_, c, post, .of_drop hdrop hoffset,
    .inr ⟨cs.take start ++ pre, init ++ [c], ?_, ?_, hseg⟩⟩
  · simp only [List.append_assoc]
  · rw [List.length_append, length_take_of_drop hdrop]
    exact Nat.le_add_right _ _

/-- The character of a lexeme that is always a single one. -/
def Lexeme.symbol? : Lexeme → Option Char
  | .operator op => some op.symbol
  | .opening => some '('
  | .closing => some ')'
  | _ => none

theorem Forms.eq_symbol {l : Lexeme} (h : Forms post seg ⟨l, o⟩) (hc : l.symbol? = some c) :
    seg = [c] := by
  cases h with
  | lexeme hl =>
    cases hl with
    | operator op => rw [Option.some.inj hc]
    | opening => rw [Option.some.inj hc]
    | closing => rw [Option.some.inj hc]
    | _ => cases hc
  | _ => cases hc

theorem Forms.pointsAt (h : Forms post seg ⟨.fault f, o⟩)
    (hcs : cs.drop start = pre ++ (seg ++ post)) (ho : o = start + pre.length + seg.length) :
    f.cause.PointsAt config cs start f.offset := by
  cases h with
  | lexeme hl => cases hl
  | @invalid c hc => exact ⟨_, post, .of_drop hcs ho, hc⟩
  | @secondPoint ds fs hne hds hfs =>
    have hdrop : cs.drop start = (pre ++ (ds ++ '.' :: fs)) ++ '.' :: post := by
      simp [hcs]
    have hoffset : o = start + ((pre ++ (ds ++ '.' :: fs)).length : Int) + 1 := by
      rw [ho]
      simp only [List.length_append, List.length_singleton]
      omega
    refine ⟨cs.take start ++ pre, ds, fs, post, ?_, ?_, hne, hds, hfs⟩
    · rw [List.append_assoc]
      exact .of_drop hdrop hoffset
    · rw [List.length_append, length_take_of_drop hdrop]
      exact Nat.le_add_right _ _

theorem isBlank_of_scans (h : Scans offset cs []) : isBlank cs = true :=
  splits_nil_iff.mp (h.splits fun _ _ => List.not_mem_nil)

/-- The end of an expression that is followed by another one. -/
theorem Ends.pointsAt (h : Ends ws x t) (hscans : Scans start (cs.drop start) (ws ++ x :: xs)) :
    Cause.surplusExpression.PointsAt config cs start x.offset := by
  obtain ⟨pre, seg, post, hcs, hpre, hseg, hoffset, -⟩ := hscans.split
  cases h with
  | operator op o =>
    obtain rfl := hseg.eq_symbol rfl
    exact ⟨_, op.symbol, post, .of_drop hcs hoffset, .inl ⟨op, rfl⟩⟩
  | number x tree o =>
    refine pointsAt_surplus_of_isOperand hcs hseg.ne_nil hoffset (.inl ⟨x, ?_⟩)
    cases hseg with
    | lexeme hl hend => exact ⟨hl, hend⟩
  | identifier name tree o =>
    refine pointsAt_surplus_of_isOperand hcs hseg.ne_nil hoffset (.inr (.inl ⟨name, ?_⟩))
    cases hseg with
    | lexeme hl hend => exact ⟨hl, hend⟩
  | group tree o' hbefore hus =>
    -- the partner of the bracket is among the lexemes before it, and so in front of the place
    obtain rfl := hseg.eq_symbol rfl
    rw [hbefore] at hpre
    obtain ⟨pre, seg, inner, rfl, -, hopening, -, hinner⟩ := hpre.split
    obtain rfl := hopening.eq_symbol rfl
    have hdrop : cs.drop start = pre ++ ('(' :: (inner ++ [')']) ++ post) := by
      simp [hcs]
    refine pointsAt_surplus_of_isOperand hdrop (List.cons_ne_nil _ _) ?_
      (.inr (.inr ⟨inner, rfl, hinner.balanced hus.balanced⟩))
    rw [hoffset]
    simp only [List.length_append, List.length_cons, List.length_nil]
    omega

/-- **From lexemes to characters**: what a fault among the lexemes of a text points at. -/
theorem Fails.pointsAt (h : Fails whole f) (hscans : Scans start (cs.drop start) whole) :
    f.cause.PointsAt config cs start f.offset := by
  cases h with
  | unmatched hwhole hws =>
    -- in each case the text is cut at the lexeme that is at fault
    rw [hwhole] at hscans
    obtain ⟨pre, seg, post, hcs, hpre, hseg, hoffset, -⟩ := hscans.split
    obtain rfl := hseg.eq_symbol rfl
    refine ⟨_, post, .of_drop hcs hoffset, ?_⟩
    rw [drop_take_append hcs]
    exact hpre.balanced hws.balanced
  | missing hwhole hus =>
    rw [hwhole] at hscans
    obtain ⟨pre, seg, post, hcs, -, hseg, hoffset, hpost⟩ := hscans.split
    obtain rfl := hseg.eq_symbol rfl
    exact ⟨_, post, .of_drop hcs hoffset, hpost.balanced hus.balanced⟩
  | fault hwhole =>
    rw [hwhole] at hscans
    obtain ⟨pre, seg, post, hcs, -, hseg, hoffset, -⟩ := hscans.split
    exact hseg.pointsAt hcs hoffset
  | @empty ws rest o o' hwhole =>
    rw [hwhole] at hscans
    obtain ⟨pre, seg, post, hcs, -, hseg, hoffset, hpost⟩ := hscans.split
    obtain rfl := hseg.eq_symbol rfl
    have hafter : Scans o post ([] ++ ⟨.closing, o'⟩ :: rest) := hpost
    obtain ⟨blank, seg, after, rfl, hblank, hclosing, -, -⟩ := hafter.split
    obtain rfl := hclosing.eq_symbol rfl
    exact ⟨_, blank, after, .of_drop hcs hoffset, isBlank_of_scans hblank⟩
  | operand hwhole hcause =>
    rw [hwhole] at hscans
    obtain ⟨pre, seg, post, hcs, -, hseg, hoffset, -⟩ := hscans.split
    obtain rfl := hseg.eq_symbol rfl
    rcases hcause with rfl | ⟨left, right, rfl⟩
    · exact ⟨_, post, .of_drop hcs hoffset⟩
    · exact ⟨_, post, .of_drop hcs hoffset⟩
  | surplus hwhole hends => exact hends.pointsAt (hwhole ▸ hscans)

/-- The faults of a whole input. -/
theorem Scope.parse_error_pointsAt
    (h : (Scope.parse config (Cursor.mk start (cs.drop start)) none).1 = .error f) :
    f.cause.PointsAt config cs start f.offset := by
  have hscans := scans_lexemes start (cs.drop start)
  rcases Scope.parse_cases config ⟨start, cs.drop start⟩ with
    ⟨ts, hreads, hparse⟩ | ⟨f', reached, hbreaks, hparse⟩
  · -- everything was read: what is left to fail is the outermost scope
    rw [hparse] at h
    by_cases hts : ts = []
    · subst hts
      rw [hreads.eq_nil] at hscans
      rw [Scope.close_nil] at h
      cases hempty : config.allowEmpty with
      | true => simp [hempty] at h
      | false =>
        obtain rfl : _ = f := by simpa [hempty] using h
        refine ⟨?_, isBlank_of_scans hscans, hempty⟩
        show (start : Int) + ((cs.length - start : Nat) : Int) = ((max start cs.length : Nat) : Int)
        omega
    · have hfails := fails_of_close hreads hts h [] []
      rw [List.nil_append, List.append_nil] at hfails
      exact hfails.pointsAt hscans
  · -- the reading broke off, with no bracket in front of the outermost scope
    obtain rfl : f' = f := Except.error.inj (hparse.symm.trans h)
    have hfails : Fails ([] ++ lexemes start (cs.drop start)) f' := hbreaks.fails rfl
    exact hfails.pointsAt hscans

theorem Scope.parse_of_isBlank (hblank : isBlank (cs.drop start) = true)
    (hempty : config.allowEmpty = false) :
    ∃ o, (Scope.parse config (Cursor.mk start (cs.drop start)) none).1 =
      .error ⟨.emptyExpression, o⟩ := by
  rw [Scope.parse_of_reads config (reads_of_isBlank hblank start), Scope.close_nil]
  simp [hempty]

end Characters

/-- **The places of diagnostics**: reading a text from any start gives an expression, or a
diagnostic that quotes the whole text and points at what is wrong.  That there is nothing to read is
reported exactly if only white space is left and the configuration gives it no value. -/
theorem Expr.parseAt_pointsAt (config : ParserConfig) (text : String) (start : Nat) :
    match Expr.parseAt config text start with
    | .ok _ => ¬ (isBlank (text.toList.drop start) ∧ config.allowEmpty = false)
    | .error e => e.position.text = text ∧
        e.cause.PointsAt config text.toList start e.position.offset ∧
        (e.cause = .emptyExpression ↔
          isBlank (text.toList.drop start) ∧ config.allowEmpty = false) := by
  rw [Expr.parseAt, Expr.parseCursor, Cursor.ofStart]
  rcases hparse : (Scope.parse config ⟨start, text.toList.drop start⟩ none).1 with f | tree
  · have hpoints := Scope.parse_error_pointsAt hparse
    refine ⟨rfl, hpoints, fun hcause => ?_, ?_⟩
    · have hcause : f.cause = .emptyExpression := hcause
      rw [hcause] at hpoints
      exact hpoints.2
    · intro hnothing
      obtain ⟨o, ho⟩ := Scope.parse_of_isBlank hnothing.1 hnothing.2
      obtain rfl := Except.error.inj (hparse.symm.trans ho)
      rfl
  · intro hnothing
    obtain ⟨o, ho⟩ := Scope.parse_of_isBlank hnothing.1 hnothing.2
    cases hparse.symm.trans ho

end Calculator
