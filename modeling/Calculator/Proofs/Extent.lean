import Calculator.Proofs.Places
import Calculator.Proofs.Tape

/-!
# How far a scope reaches

The loop that reads a scope looks at the next character, reads what begins there, and goes round
again until the scope is over.  Behind a bracket that opens, the same loop reads the inner scope.
Every turn takes a character at least, so the loop ends, and for a bracket scope it ends at the
bracket that closes it.

## Main definitions

* `Tape.ReadsItem`, `Tape.EndsScope`: turns without an inner scope that go on, or end the loop
* `Tape.ReadsScope`, `Tape.ParsesScope`: the tokens and the expression of a scope
* `Tape.Turn`, `Tape.LastTurn`: all turns that go on, and all that end the loop
* `Tape.ReadsAs t ts t'`: the characters between two tapes are balanced and read as `ts`
* `Closes cs start stop`: the bracket before `stop` closes what begins at `start`

## Main results

* `Tape.exists_readsScope`, `Tape.ReadsScope.unique`: the loop ends, and in one way only
* `Tape.ReadsScope.exists_lastTurn`: what is read turn after turn, up to the last turn
* `Tape.ReadsScope.tokens_eq`: the loop reads what `Scope.tokens` reads
* `Tape.readsScope_extent`: where the loop ends, for the whole input and for bracket scopes
-/

namespace Calculator

open Text

/-! ## Where a scope closes -/

/-- The bracket before `stop` is the partner of one that stands before `start`: between the two,
all brackets are paired. -/
structure Closes (cs : List Char) (start stop : Nat) : Prop where
  lt : start < stop
  closing : cs[stop - 1]? = some ')'
  balanced : Balanced charSide ((cs.take (stop - 1)).drop start)

namespace Closes

variable {cs seg rest : List Char} {start stop p q : Nat}

theorem of_drop_eq (h : cs.drop start = seg ++ ')' :: rest) (hseg : Balanced charSide seg) :
    Closes cs start (start + seg.length + 1) := by
  refine ⟨by omega, ?_, ?_⟩
  · rw [Nat.add_sub_cancel, ← List.getElem?_drop, h, List.getElem?_append_right (Nat.le_refl _),
      Nat.sub_self, List.getElem?_cons_zero]
  · rwa [Nat.add_sub_cancel, List.drop_take, Nat.add_sub_cancel_left, h, List.take_left]

theorem exists_drop_eq (h : Closes cs start stop) :
    ∃ seg rest, cs.drop start = seg ++ ')' :: rest ∧ Balanced charSide seg ∧
      stop = start + seg.length + 1 := by
  have hlt := h.lt
  have hlength : (cs.take (stop - 1)).length = stop - 1 := by
    have := (List.getElem?_eq_some_iff.mp h.closing).1
    rw [List.length_take]
    omega
  have hhead : (cs.drop (stop - 1)).head? = some ')' := by
    rw [List.head?_drop, h.closing]
  obtain ⟨rest, hrest⟩ := List.head?_eq_some_iff.mp hhead
  refine ⟨_, rest, ?_, h.balanced, ?_⟩
  · rw [← hrest, ← List.drop_append_of_le_length (by omega), List.take_append_drop]
  · rw [List.length_drop, hlength]
    omega

theorem le (h : Closes cs start p) (k : Closes cs start q) : p ≤ q := by
  obtain ⟨us, rest, hus, hbalanced, rfl⟩ := h.exists_drop_eq
  obtain ⟨vs, rest', hvs, hbalanced', rfl⟩ := k.exists_drop_eq
  -- behind its bracket, more brackets are closed than opened
  have heq : us ++ ')' :: rest = (vs ++ [')']) ++ rest' := by
    rw [← hus, hvs, ← List.append_cons]
  have hneg : depth charSide (vs ++ [')']) < 0 := by
    rw [depth_append, hbalanced'.depth_eq]
    decide
  obtain ⟨ws, hws, -⟩ := hbalanced.exists_of_depth_neg heq hneg
  have hlength := congrArg List.length hws
  simp only [List.length_append, List.length_cons, List.length_nil] at hlength
  omega

/-- No other bracket closes what begins at the same place. -/
theorem unique (h : Closes cs start p) (k : Closes cs start q) : p = q :=
  Nat.le_antisymm (h.le k) (k.le h)

end Closes

namespace Tape

variable {config : ParserConfig} {openedAt : Option Int} {t t' u v : Tape} {c d : Char}
  {seg raw : List Char} {read read' ts us : List Token} {token : Option Token}
  {out : Except Fault (List Token)} {f : Fault} {tree : Expr}

/-! ## The loop -/

/-- A turn of the loop that reads white space, which gives no token, or a token without brackets. -/
inductive ReadsItem (t : Tape) : Option Token → Tape → Prop where
  | space {c : Char} (hpeek : t.peek = .ok (some c)) (hc : classify c = .whitespace) :
      ReadsItem t none t.advance
  | operator {c : Char} {op : Operator} (hpeek : t.peek = .ok (some c))
      (hc : classify c = .operator op) :
      ReadsItem t (some (.operator op t.advance.offset)) t.advance
  | number {t' : Tape} {c : Char} {x : Float} (hpeek : t.peek = .ok (some c))
      (hc : classify c = .number) (h : ScansNumber t (.ok x) t') :
      ReadsItem t (some (.expression (.value x) t'.offset)) t'
  | identifier {t' : Tape} {c : Char} {name : List Char} (hpeek : t.peek = .ok (some c))
      (hc : classify c = .identifier) (h : ReadsName t [] name t') :
      ReadsItem t (some (.expression (.var (String.ofList name)) t'.offset)) t'

/-- A turn that ends the loop, with the tokens read so far. -/
inductive EndsScope (t : Tape) (read : List Token) :
    Option Int → Except Fault (List Token) → Tape → Prop where
  | finished (hpeek : t.peek = .ok none) : EndsScope t read none (.ok read) t
  | missing (opened : Int) (hpeek : t.peek = .ok none) :
      EndsScope t read (some opened) (.error ⟨.missingClosing, opened⟩) t
  | closed {c : Char} (opened : Int) (hpeek : t.peek = .ok (some c)) (hc : classify c = .closing) :
      EndsScope t read (some opened) (.ok read) t.advance
  | unmatched {c : Char} (hpeek : t.peek = .ok (some c)) (hc : classify c = .closing) :
      EndsScope t read none (.error ⟨.unmatchedClosing, t.advance.offset⟩) t.advance
  | invalid {c : Char} (openedAt : Option Int) (hpeek : t.peek = .ok (some c))
      (hc : classify c = .invalid) :
      EndsScope t read openedAt (.error ⟨.invalidToken c, t.advance.offset⟩) t.advance
  | number {t' : Tape} {c : Char} {f : Fault} (openedAt : Option Int)
      (hpeek : t.peek = .ok (some c)) (hc : classify c = .number)
      (h : ScansNumber t (.error f) t') : EndsScope t read openedAt (.error f) t'

/-- The loop that reads a scope, with the tokens read so far.  The scope is the one that a bracket
before `openedAt` has opened, or the whole input.  Behind a bracket that opens, a loop of its own
reads the inner scope, which is made an expression before the outer loop goes on. -/
inductive ReadsScope (config : ParserConfig) :
    Option Int → Tape → List Token → Except Fault (List Token) → Tape → Prop where
  | last {openedAt : Option Int} {t t' : Tape} {read : List Token} {out : Except Fault (List Token)}
      (h : EndsScope t read openedAt out t') : ReadsScope config openedAt t read out t'
  | item {openedAt : Option Int} {t t' u : Tape} {read : List Token} {token : Option Token}
      {out : Except Fault (List Token)} (h : ReadsItem t token t')
      (hrest : ReadsScope config openedAt t' (read ++ token.toList) out u) :
      ReadsScope config openedAt t read out u
  | inside {openedAt : Option Int} {t t' : Tape} {read : List Token} {c : Char} {f : Fault}
      {inner : Except Fault (List Token)} (hpeek : t.peek = .ok (some c))
      (hc : classify c = .opening)
      (h : ReadsScope config (some t.advance.offset) t.advance [] inner t')
      (hclose : inner >>= Scope.close config (some t.advance.offset) t'.offset = .error f) :
      ReadsScope config openedAt t read (.error f) t'
  | group {openedAt : Option Int} {t t' u : Tape} {read : List Token} {c : Char} {tree : Expr}
      {inner out : Except Fault (List Token)} (hpeek : t.peek = .ok (some c))
      (hc : classify c = .opening)
      (h : ReadsScope config (some t.advance.offset) t.advance [] inner t')
      (hclose : inner >>= Scope.close config (some t.advance.offset) t'.offset = .ok tree)
      (hrest : ReadsScope config openedAt t' (read ++ [.expression tree t'.offset]) out u) :
      ReadsScope config openedAt t read out u

/-- The expression of a scope: its tokens are read, and then closed. -/
def ParsesScope (config : ParserConfig) (openedAt : Option Int) (t : Tape)
    (result : Except Fault Expr) (t' : Tape) : Prop :=
  ∃ out, ReadsScope config openedAt t [] out t' ∧
    result = out >>= Scope.close config openedAt t'.offset

/-- A turn of the loop after which it goes on, with the tokens before and after it. -/
inductive Turn (config : ParserConfig) (t : Tape) (read : List Token) :
    Tape → List Token → Prop where
  | item {t' : Tape} {token : Option Token} (h : ReadsItem t token t') :
      Turn config t read t' (read ++ token.toList)
  | group {t' : Tape} {c : Char} {tree : Expr} (hpeek : t.peek = .ok (some c))
      (hc : classify c = .opening)
      (h : ParsesScope config (some t.advance.offset) t.advance (.ok tree) t') :
      Turn config t read t' (read ++ [.expression tree t'.offset])

/-- A turn that ends the loop. -/
inductive LastTurn (config : ParserConfig) (openedAt : Option Int) (t : Tape) (read : List Token) :
    Except Fault (List Token) → Tape → Prop where
  | ends {t' : Tape} {out : Except Fault (List Token)} (h : EndsScope t read openedAt out t') :
      LastTurn config openedAt t read out t'
  | inside {t' : Tape} {c : Char} {f : Fault} (hpeek : t.peek = .ok (some c))
      (hc : classify c = .opening)
      (h : ParsesScope config (some t.advance.offset) t.advance (.error f) t') :
      LastTurn config openedAt t read (.error f) t'

/-- The loop consists of turns. -/
theorem readsScope_iff : ReadsScope config openedAt t read out u ↔
    LastTurn config openedAt t read out u ∨
      ∃ t' read', Turn config t read t' read' ∧ ReadsScope config openedAt t' read' out u := by
  constructor
  · intro h
    cases h with
    | last h => exact .inl (.ends h)
    | item h hrest => exact .inr ⟨_, _, .item h, hrest⟩
    | inside hpeek hc h hclose => exact .inl (.inside hpeek hc ⟨_, h, hclose.symm⟩)
    | group hpeek hc h hclose hrest =>
      exact .inr ⟨_, _, .group hpeek hc ⟨_, h, hclose.symm⟩, hrest⟩
  · rintro (h | ⟨t', read', h, hrest⟩)
    · cases h with
      | ends h => exact .last h
      | inside hpeek hc h =>
        obtain ⟨inner, h, hclose⟩ := h
        exact .inside hpeek hc h hclose.symm
    · cases h with
      | item h => exact .item h hrest
      | group hpeek hc h =>
        obtain ⟨inner, h, hclose⟩ := h
        exact .group hpeek hc h hclose.symm hrest

/-! ## Lexemes of a tape -/

/-- The lexemes ahead. -/
def ahead (t : Tape) : List Located :=
  lexemes t.offset t.rest

theorem ahead_eq_nil (hpeek : t.peek = .ok none) : t.ahead = [] := by
  rw [ahead, Head.rest_eq_nil hpeek, lexemes]

/-- One step of `lexemes`, over characters that are taken. -/
theorem Takes.ahead_eq {found : Option Lexeme} (h : Takes t (c :: seg) t')
    (hfound : leadingLexeme t.offset c (seg ++ t'.rest) = (found, t'.offset)) :
    t.ahead = (found.map (⟨·, t'.offset⟩)).toList ++ t'.ahead := by
  rw [h.offset_eq] at hfound
  rw [ahead, ahead, h.rest_eq, h.offset_eq]
  exact lexemes_append rfl (List.cons_ne_nil _ _) hfound

/-- The same over a single character that is a lexeme. -/
theorem ahead_eq_cons {l : Lexeme} (hpeek : t.peek = .ok (some c))
    (hlead : leadingLexeme t.offset c t.advance.rest = (some l, t.offset + 1)) :
    t.ahead = ⟨l, t.advance.offset⟩ :: t.advance.ahead :=
  (Takes.single hpeek).ahead_eq hlead

theorem ahead_space (hpeek : t.peek = .ok (some c)) (hc : classify c = .whitespace) :
    t.ahead = t.advance.ahead := by
  have hlead : leadingLexeme t.offset c t.advance.rest = (none, t.offset + 1) := by
    rw [leadingLexeme, hc]
  exact (Takes.single hpeek).ahead_eq hlead

theorem ahead_opening (hpeek : t.peek = .ok (some c)) (hc : classify c = .opening) :
    t.ahead = ⟨.opening, t.advance.offset⟩ :: t.advance.ahead := by
  refine ahead_eq_cons hpeek ?_
  rw [leadingLexeme, hc]

theorem ahead_closing (hpeek : t.peek = .ok (some c)) (hc : classify c = .closing) :
    t.ahead = ⟨.closing, t.advance.offset⟩ :: t.advance.ahead := by
  refine ahead_eq_cons hpeek ?_
  rw [leadingLexeme, hc]

theorem ahead_operator {op : Operator} (hpeek : t.peek = .ok (some c))
    (hc : classify c = .operator op) :
    t.ahead = ⟨.operator op, t.advance.offset⟩ :: t.advance.ahead := by
  refine ahead_eq_cons hpeek ?_
  rw [leadingLexeme, hc]

theorem ahead_invalid (hpeek : t.peek = .ok (some c)) (hc : classify c = .invalid) :
    t.ahead =
      ⟨.fault ⟨.invalidToken c, t.advance.offset⟩, t.advance.offset⟩ :: t.advance.ahead := by
  refine ahead_eq_cons hpeek ?_
  rw [leadingLexeme, hc]
  rfl

/-- What a numeral is, with or without a number. -/
def numeralLexeme : Except Fault Float → Lexeme
  | .ok x => .number x
  | .error f => .fault f

theorem ScansNumber.exists_cons {num : Except Fault Float} (h : ScansNumber t num t')
    (hpeek : t.peek = .ok (some c)) (hc : classify c = .number) :
    ∃ seg, Takes t (c :: seg) t' ∧ (∀ d ∈ c :: seg, charSide d = 0) ∧
      t.ahead = ⟨numeralLexeme num, t'.offset⟩ :: t'.ahead := by
  have hdigit : c.isDigit = true := admits_of_classify hc
  obtain ⟨cs, htakes, hcs, hne⟩ := h.exists_takes
  obtain ⟨seg, rfl⟩ := htakes.exists_cons hpeek (hne c hpeek hdigit)
  have hlead : leadingLexeme t.offset c (seg ++ t'.rest) =
      (some (numeralLexeme num), t'.offset) := by
    have hscan := h.scanNumber_eq
    rw [cursor, htakes.rest_eq, List.cons_append] at hscan
    rw [leadingLexeme, hc]
    simp only [hscan]
    cases num <;> rfl
  refine ⟨seg, htakes, fun d hd => ?_, htakes.ahead_eq hlead⟩
  rcases hcs d hd with hd | rfl
  · exact charSide_of_isDigit hd
  · rfl

theorem ReadsName.exists_cons (h : ReadsName t [] raw t') (hpeek : t.peek = .ok (some c))
    (hc : classify c = .identifier) :
    ∃ seg, Takes t (c :: seg) t' ∧ (∀ d ∈ c :: seg, charSide d = 0) ∧
      t.ahead = ⟨.identifier (String.ofList raw), t'.offset⟩ :: t'.ahead := by
  have hletter : isLetter c = true := admits_of_classify hc
  obtain ⟨cs, htakes, -, hcs, hnext⟩ := h.exists_takes
  have hne : cs ≠ [] := by
    rintro rfl
    cases htakes
    have hfalse := hnext c (Head.head?_rest hpeek)
    exact Bool.false_ne_true (hfalse.symm.trans (isAlphanumeric_of_isLetter hletter))
  obtain ⟨seg, rfl⟩ := htakes.exists_cons hpeek hne
  have hlead : leadingLexeme t.offset c (seg ++ t'.rest) =
      (some (.identifier (String.ofList raw)), t'.offset) := by
    have hscan := h.scanIdentifier_eq
    rw [cursor, htakes.rest_eq, List.cons_append] at hscan
    rw [leadingLexeme, hc]
    simp only [hscan]
    rfl
  exact ⟨seg, htakes, fun d hd => charSide_of_isAlphanumeric (hcs d hd), htakes.ahead_eq hlead⟩

/-! ## Parts of a scope -/

/-- From one tape to another balanced characters are taken, which are read as tokens. -/
structure ReadsAs (t : Tape) (ts : List Token) (t' : Tape) : Prop where
  takes : ∃ seg, Takes t seg t' ∧ Balanced charSide seg
  reads : ∃ ws, Reads ws ts ∧ t.ahead = ws ++ t'.ahead

namespace ReadsAs

theorem nil (t : Tape) : ReadsAs t [] t :=
  ⟨⟨[], .nil t, .nil⟩, [], .nil, rfl⟩

theorem append (h : ReadsAs t ts u) (k : ReadsAs u us v) : ReadsAs t (ts ++ us) v := by
  obtain ⟨seg, htakes, hseg⟩ := h.takes
  obtain ⟨seg', htakes', hseg'⟩ := k.takes
  obtain ⟨ws, hws, hahead⟩ := h.reads
  obtain ⟨ws', hws', hahead'⟩ := k.reads
  refine ⟨⟨seg ++ seg', htakes.append htakes', hseg.append hseg'⟩, ws ++ ws', hws.append hws', ?_⟩
  rw [hahead, hahead', List.append_assoc]

/-- What stands between two brackets is read as one expression. -/
theorem group (hpeek : t.peek = .ok (some c)) (hc : classify c = .opening)
    (h : ReadsAs t.advance ts u) (hpeek' : u.peek = .ok (some d)) (hd : classify d = .closing)
    (hclose : Scope.close {} (some t.advance.offset) u.advance.offset ts = .ok tree) :
    ReadsAs t [.expression tree u.advance.offset] u.advance := by
  obtain rfl : c = '(' := admits_of_classify hc
  obtain rfl : d = ')' := admits_of_classify hd
  obtain ⟨seg, htakes, hseg⟩ := h.takes
  obtain ⟨ws, hws, hahead⟩ := h.reads
  constructor
  · exact ⟨'(' :: (seg ++ [')']), .cons hpeek (htakes.append (.single hpeek')), .group rfl rfl hseg⟩
  · refine ⟨_, .group hws hclose .nil, ?_⟩
    rw [ahead_opening hpeek hc, hahead, ahead_closing hpeek' hd]
    simp

/-- A reading that breaks off behind a part of a scope breaks off in the scope. -/
theorem breaks (h : ReadsAs t ts u) {reached : Int}
    (k : Breaks (u.offset + u.rest.length) openedAt u.ahead f reached) :
    Breaks (t.offset + t.rest.length) openedAt t.ahead f reached := by
  obtain ⟨seg, htakes, -⟩ := h.takes
  obtain ⟨ws, hws, hahead⟩ := h.reads
  rw [htakes.ending_eq, hahead]
  exact k.append hws

end ReadsAs

theorem ReadsItem.exists_cons (h : ReadsItem t token t') :
    ∃ c seg, Takes t (c :: seg) t' ∧ ReadsAs t token.toList t' := by
  cases h with
  | @space c hpeek hc =>
    have hside := charSide_of_classify (c := c) (by simp [hc]) (by simp [hc])
    exact ⟨c, [], .single hpeek, ⟨[c], .single hpeek, .cons hside .nil⟩, [], .nil,
      ahead_space hpeek hc⟩
  | @operator c op hpeek hc =>
    have hside := charSide_of_classify (c := c) (by simp [hc]) (by simp [hc])
    exact ⟨c, [], .single hpeek, ⟨[c], .single hpeek, .cons hside .nil⟩, _, .operator op _ .nil,
      ahead_operator hpeek hc⟩
  | @number t' c x hpeek hc h =>
    obtain ⟨seg, htakes, hseg, hahead⟩ := h.exists_cons hpeek hc
    exact ⟨c, seg, htakes, ⟨_, htakes, .of_forall hseg⟩, _, .number x _ .nil, hahead⟩
  | @identifier t' c name hpeek hc h =>
    obtain ⟨seg, htakes, hseg, hahead⟩ := h.exists_cons hpeek hc
    exact ⟨c, seg, htakes, ⟨_, htakes, .of_forall hseg⟩, _, .identifier _ _ .nil, hahead⟩

/-! ## The run of the loop -/

/-- A bracket scope whose tokens are found ends at a bracket. -/
theorem LastTurn.exists_closing {opened : Int}
    (h : LastTurn config (some opened) t read (.ok ts) t') :
    ts = read ∧ ∃ c, t.peek = .ok (some c) ∧ classify c = .closing ∧ t' = t.advance := by
  cases h with
  | ends h =>
    cases h with
    | closed opened hpeek hc => exact ⟨rfl, _, hpeek, hc, rfl⟩

/-- A bracket scope that was read and closed is a part of the scope around it. -/
theorem LastTurn.readsAs (h : LastTurn config (some t.advance.offset) u ([] ++ ts) out t')
    (hpeek : t.peek = .ok (some c)) (hc : classify c = .opening) (hreads : ReadsAs t.advance ts u)
    (hclose : out >>= Scope.close config (some t.advance.offset) t'.offset = .ok tree) :
    ReadsAs t [.expression tree t'.offset] t' := by
  -- a bracket scope does not ask the configuration
  obtain ⟨us, rfl, hclose⟩ := bind_eq_ok hclose
  obtain ⟨rfl, d, hpeek', hd, rfl⟩ := h.exists_closing
  exact hreads.group hpeek hc hpeek' hd hclose

/-- The loop reads a part of the scope, turn after turn, and then comes its last turn. -/
theorem ReadsScope.exists_lastTurn (h : ReadsScope config openedAt t read out t') :
    ∃ ts u, ReadsAs t ts u ∧ LastTurn config openedAt u (read ++ ts) out t' := by
  induction h with
  | @last openedAt t t' read out h =>
    refine ⟨[], t, .nil t, ?_⟩
    rw [List.append_nil]
    exact .ends h
  | item h hrest ih =>
    obtain ⟨c, seg, -, hitem⟩ := h.exists_cons
    obtain ⟨ts, u, hreads, hlast⟩ := ih
    rw [List.append_assoc] at hlast
    exact ⟨_, u, hitem.append hreads, hlast⟩
  | @inside openedAt t t' read c f inner hpeek hc h hclose ih =>
    exact ⟨[], t, .nil t, .inside hpeek hc ⟨inner, h, hclose.symm⟩⟩
  | group hpeek hc h hclose hrest ihinner ih =>
    -- the inner loop has come to its bracket, so that its scope is one more part read
    obtain ⟨us, v, hinner, hend⟩ := ihinner
    obtain ⟨ts, u, hreads, hlast⟩ := ih
    rw [List.append_assoc] at hlast
    exact ⟨_, u, (hend.readsAs hpeek hc hinner hclose).append hreads, hlast⟩

theorem EndsScope.exists_takes (h : EndsScope t read openedAt out t') :
    ∃ seg, Takes t seg t' := by
  cases h with
  | finished hpeek | missing opened hpeek => exact ⟨[], .nil t⟩
  | closed opened hpeek hc | unmatched hpeek hc | invalid openedAt hpeek hc =>
    exact ⟨_, .single hpeek⟩
  | number openedAt hpeek hc h =>
    obtain ⟨seg, htakes, -⟩ := h.exists_takes
    exact ⟨seg, htakes⟩

/-- A fault in the last turn that is none of an inner scope. -/
theorem EndsScope.breaks (h : EndsScope t read openedAt (.error f) t') :
    Breaks (t.offset + t.rest.length) openedAt t.ahead f t'.offset := by
  cases h with
  | missing opened hpeek =>
    rw [ahead_eq_nil hpeek, Head.rest_eq_nil hpeek, List.length_nil, Int.natCast_zero, Int.add_zero]
    exact .missing opened .nil
  | unmatched hpeek hc =>
    rw [ahead_closing hpeek hc]
    exact @Breaks.unmatched _ [] _ _ _ .nil
  | invalid openedAt hpeek hc =>
    rw [ahead_invalid hpeek hc]
    exact @Breaks.fault _ _ [] _ _ _ _ .nil
  | number openedAt hpeek hc h =>
    obtain ⟨seg, -, -, hahead⟩ := h.exists_cons hpeek hc
    rw [hahead]
    exact @Breaks.fault _ _ [] _ _ _ _ .nil

theorem ReadsScope.breaks (h : ReadsScope config openedAt t read (.error f) t') :
    Breaks (t.offset + t.rest.length) openedAt t.ahead f t'.offset := by
  generalize hout : Except.error f = out at h
  induction h generalizing f with
  | last h =>
    subst hout
    exact h.breaks
  | item h hrest ih =>
    obtain ⟨c, seg, -, hitem⟩ := h.exists_cons
    exact hitem.breaks (ih hout)
  | @inside openedAt t t' read c f' inner hpeek hc h hclose ih =>
    obtain rfl := Except.error.inj hout
    rw [(Takes.single hpeek).ending_eq, ahead_opening hpeek hc]
    -- the inner loop has failed, or its tokens make no expression
    rcases inner with f' | ts
    · obtain rfl : f' = f := Except.error.inj hclose
      exact @Breaks.inside _ _ [] _ _ _ _ _ .nil (ih rfl)
    · obtain ⟨ts', u, hreads, hlast⟩ := h.exists_lastTurn
      obtain ⟨rfl, d, hpeek', hd, rfl⟩ := hlast.exists_closing
      obtain ⟨ws, hws, hahead⟩ := hreads.reads
      rw [hahead, ahead_closing hpeek' hd]
      exact @Breaks.closing _ _ [] _ _ _ _ _ _ _ .nil hws hclose
  | group hpeek hc h hclose hrest ihinner ih =>
    obtain ⟨us, v, hinner, hend⟩ := h.exists_lastTurn
    exact (hend.readsAs hpeek hc hinner hclose).breaks (ih hout)

/-- The characters that the loop takes, whether it ends with tokens or with a fault. -/
theorem ReadsScope.exists_takes (h : ReadsScope config openedAt t read out t') :
    ∃ seg, Takes t seg t' := by
  induction h with
  | last h => exact h.exists_takes
  | item h hrest ih =>
    obtain ⟨c, seg, htakes, -⟩ := h.exists_cons
    obtain ⟨seg', htakes'⟩ := ih
    exact ⟨_, htakes.append htakes'⟩
  | inside hpeek hc h hclose ih =>
    obtain ⟨seg, htakes⟩ := ih
    exact ⟨_, .cons hpeek htakes⟩
  | group hpeek hc h hclose hrest ihinner ih =>
    obtain ⟨seg, htakes⟩ := ihinner
    obtain ⟨seg', htakes'⟩ := ih
    exact ⟨_, .cons hpeek (htakes.append htakes')⟩

/-- A turn that goes on takes a character at least. -/
theorem Turn.exists_takes (h : Turn config t read t' read') : ∃ c seg, Takes t (c :: seg) t' := by
  cases h with
  | item h =>
    obtain ⟨c, seg, htakes, -⟩ := h.exists_cons
    exact ⟨c, seg, htakes⟩
  | @group c tree hpeek hc h =>
    obtain ⟨inner, h, -⟩ := h
    obtain ⟨seg, htakes⟩ := h.exists_takes
    exact ⟨c, seg, .cons hpeek htakes⟩

/-- **The loop reads what a cursor reads**: the same tokens or the same fault, up to the same
place. -/
theorem ReadsScope.tokens_eq (h : ReadsScope config openedAt t [] out t') :
    Scope.tokens t.cursor openedAt = (out, t'.offset) := by
  cases out with
  | error f => exact Scope.readLexemes_of_breaks h.breaks rfl []
  | ok ts =>
    obtain ⟨us, u, hreads, hlast⟩ := h.exists_lastTurn
    obtain ⟨seg, htakes, -⟩ := hreads.takes
    obtain ⟨ws, hws, hahead⟩ := hreads.reads
    rw [List.nil_append] at hlast
    have htokens : Scope.tokens t.cursor openedAt =
        Scope.readLexemes (t.offset + t.rest.length) ⟨openedAt, []⟩ [] t.ahead := rfl
    rw [htokens, hahead, Scope.readLexemes_of_reads hws, List.append_nil, htakes.ending_eq]
    cases hlast with
    | ends hends =>
      cases hends with
      | finished hpeek =>
        rw [ahead_eq_nil hpeek, Head.rest_eq_nil hpeek]
        simp [Scope.readLexemes]
      | closed opened hpeek hc =>
        rw [ahead_closing hpeek hc]
        simp [Scope.readLexemes]

/-- The expression that is made of them is the same too. -/
theorem ReadsScope.parse_eq (h : ReadsScope config openedAt t [] out t') :
    Scope.parse config t.cursor openedAt =
      (out >>= Scope.close config openedAt t'.offset, t'.offset) := by
  rw [Scope.parse, h.tokens_eq]
  cases out <;> rfl

/-! ## The end of the loop -/

/-- The loop begins by looking at a character, which it cannot before the beginning of the text. -/
theorem ReadsScope.inRange (h : ReadsScope config openedAt t read out t') : t.InRange := by
  cases h with
  | last h => cases h <;> exact Head.inRange_of_peek ‹_›
  | item h => cases h <;> exact Head.inRange_of_peek ‹_›
  | inside hpeek => exact Head.inRange_of_peek hpeek
  | group hpeek => exact Head.inRange_of_peek hpeek

/-- **The loop ends.** -/
theorem exists_readsScope (hrange : t.InRange) (config : ParserConfig) (openedAt : Option Int)
    (read : List Token) : ∃ out t', ReadsScope config openedAt t read out t' := by
  induction t using takes_induction generalizing openedAt read with
  | step t ih =>
    rcases Head.peek_cases hrange with hpeek | ⟨c, hpeek⟩
    · cases openedAt with
      | none => exact ⟨_, t, .last (.finished hpeek)⟩
      | some opened => exact ⟨_, t, .last (.missing opened hpeek)⟩
    · -- behind what takes a character, the loop ends by induction
      have item {token : Option Token} {t' : Tape} (h : ReadsItem t token t') :
          ∃ out t', ReadsScope config openedAt t read out t' := by
        obtain ⟨d, seg, htakes, -⟩ := h.exists_cons
        obtain ⟨out, u, hrest⟩ :=
          ih d seg t' htakes (htakes.inRange hrange) openedAt (read ++ token.toList)
        exact ⟨out, u, .item h hrest⟩
      cases hc : classify c with
      | whitespace => exact item (.space hpeek hc)
      | operator op => exact item (.operator hpeek hc)
      | identifier =>
        obtain ⟨name, t', h⟩ := exists_readsName hrange []
        exact item (.identifier hpeek hc h)
      | number =>
        obtain ⟨num, t', h⟩ := exists_scansNumber hrange
        cases num with
        | ok x => exact item (.number hpeek hc h)
        | error f => exact ⟨_, t', .last (.number openedAt hpeek hc h)⟩
      | invalid => exact ⟨_, _, .last (.invalid openedAt hpeek hc)⟩
      | closing =>
        cases openedAt with
        | none => exact ⟨_, _, .last (.unmatched hpeek hc)⟩
        | some opened => exact ⟨_, _, .last (.closed opened hpeek hc)⟩
      | opening =>
        -- the inner loop starts behind the bracket, and the outer one goes on behind the inner one
        obtain ⟨inner, t', hinner⟩ :=
          ih c [] t.advance (.single hpeek) hrange.advance (some t.advance.offset) []
        obtain ⟨seg, htakes⟩ := hinner.exists_takes
        cases hclose : inner >>= Scope.close config (some t.advance.offset) t'.offset with
        | error f => exact ⟨_, t', .inside hpeek hc hinner hclose⟩
        | ok tree =>
          obtain ⟨out, u, hrest⟩ := ih c seg t' (.cons hpeek htakes)
            (htakes.inRange hrange.advance) openedAt (read ++ [.expression tree t'.offset])
          exact ⟨out, u, .group hpeek hc hinner hclose hrest⟩

/-- The loop ends in one way only: its outcome is that of `Scope.tokens`, and its offset tells which
characters it has taken. -/
theorem ReadsScope.unique {s : Except Fault (List Token)}
    (h : ReadsScope config openedAt t [] out u) (k : ReadsScope config openedAt t [] s v) :
    s = out ∧ v = u := by
  obtain ⟨hs, hoffset⟩ := Prod.mk.inj (k.tokens_eq.symm.trans h.tokens_eq)
  obtain ⟨cs, htakes⟩ := h.exists_takes
  obtain ⟨ds, htakes'⟩ := k.exists_takes
  exact ⟨hs, htakes'.unique htakes hoffset⟩

/-- So a scope comes to one expression or one fault. -/
theorem ReadsScope.parsesScope_iff {s : Except Fault Expr}
    (h : ReadsScope config openedAt t [] out u) :
    ParsesScope config openedAt t s v ↔
      s = out >>= Scope.close config openedAt u.offset ∧ v = u := by
  constructor
  · rintro ⟨s, k, rfl⟩
    obtain ⟨rfl, rfl⟩ := h.unique k
    exact ⟨rfl, rfl⟩
  · rintro ⟨rfl, rfl⟩
    exact ⟨out, h, rfl⟩

/-- What the loop has read when it ends with tokens. -/
theorem ReadsScope.exists_balanced (h : ReadsScope config openedAt t [] (.ok ts) t') :
    ∃ seg, Balanced charSide seg ∧
      (openedAt = none ∧ Takes t seg t' ∧ t'.rest = [] ∨
        openedAt ≠ none ∧ Takes t (seg ++ [')']) t') := by
  obtain ⟨us, u, hreads, hlast⟩ := h.exists_lastTurn
  obtain ⟨seg, htakes, hseg⟩ := hreads.takes
  refine ⟨seg, hseg, ?_⟩
  cases hlast with
  | ends hends =>
    cases hends with
    | finished hpeek => exact .inl ⟨rfl, htakes, Head.rest_eq_nil hpeek⟩
    | @closed c opened hpeek hc =>
      obtain rfl : c = ')' := admits_of_classify hc
      exact .inr ⟨Option.some_ne_none _, htakes.append (.single hpeek)⟩

/-- What a scope covers when its tokens are found: the rest of the text, or all up to the bracket
that closes it. -/
theorem ReadsScope.closes {text : String} {start : Nat} {answers : List (Option Char)}
    (h : ReadsScope config openedAt (ofStart text start answers) [] (.ok ts) t') :
    ∃ stop : Nat, t'.index = stop ∧ (openedAt = none → text.length ≤ stop) ∧
      (openedAt ≠ none → ∀ q, Closes text.toList start q ↔ q = stop) := by
  obtain ⟨seg, hseg, ⟨rfl, htakes, hrest⟩ | ⟨hopened, htakes⟩⟩ := h.exists_balanced
  · obtain ⟨-, -, rfl⟩ := htakes.of_ofStart
    refine ⟨start + seg.length, rfl, fun _ => ?_, fun hopened => absurd rfl hopened⟩
    have hdrop : text.toList.drop (start + seg.length) = [] :=
      (Head.rest_ofStart text (start + seg.length)).symm.trans hrest
    rwa [List.drop_eq_nil_iff, String.length_toList] at hdrop
  · have hdrop : text.toList.drop start = seg ++ ')' :: t'.rest := by
      rw [← Head.rest_ofStart, List.append_cons]
      exact htakes.rest_eq
    have hcloses := Closes.of_drop_eq hdrop hseg
    refine ⟨start + seg.length + 1, ?_, fun hnone => absurd hnone hopened,
      fun _ q => ⟨fun h => h.unique hcloses, fun h => h ▸ hcloses⟩⟩
    rw [htakes.index_eq, List.length_append, List.length_singleton, Nat.add_assoc]
    rfl

/-- **How far a scope reaches.**  From whatever place of a text on, the loop ends in exactly one way
and takes the characters up to one place, the bracket that closes the scope or the end of the text.
Each turn that goes on takes a character at least, and none is asked for at the end. -/
theorem readsScope_extent (config : ParserConfig) (openedAt : Option Int) (text : String)
    (start : Nat) (answers : List (Option Char)) :
    (∀ t read s u, ReadsScope config openedAt t read s u ↔
      LastTurn config openedAt t read s u ∨
        ∃ t' read', Turn config t read t' read' ∧ ReadsScope config openedAt t' read' s u) ∧
    (∀ t read t' read', Turn config t read t' read' → t.index < t'.index) ∧
    ∃ out stop t, start ≤ stop ∧ stop ≤ max start text.length ∧
      t = ofStart text stop
        ((((text.toList.take stop).drop start).map some).reverse ++ answers) ∧
      (∀ s u, ReadsScope config openedAt (ofStart text start answers) [] s u ↔ s = out ∧ u = t) ∧
      (∀ s u, ParsesScope config openedAt (ofStart text start answers) s u ↔
        s = out >>= Scope.close config openedAt stop ∧ u = t) ∧
      Scope.tokens (Cursor.ofStart text start) openedAt = (out, ↑stop) ∧
      Scope.parse config (Cursor.ofStart text start) openedAt =
        (out >>= Scope.close config openedAt stop, ↑stop) ∧
      ∀ ts, out = .ok ts → (openedAt = none → text.length ≤ stop) ∧
        (openedAt ≠ none → ∀ q, Closes text.toList start q ↔ q = stop) := by
  refine ⟨fun t read s u => readsScope_iff, fun t read t' read' h => ?_, ?_⟩
  · obtain ⟨c, seg, htakes⟩ := h.exists_takes
    rw [htakes.index_eq, List.length_cons]
    omega
  have hrange : (ofStart text start answers).InRange := Head.inRange_ofStart text start
  obtain ⟨out, t, h⟩ := exists_readsScope hrange config openedAt []
  obtain ⟨seg, htakes⟩ := h.exists_takes
  obtain ⟨hseg, hle, ht⟩ := htakes.of_ofStart
  have hoffset : t.offset = ↑(start + seg.length) := congrArg (·.offset) ht
  refine ⟨out, start + seg.length, t, Nat.le_add_right _ _, hle, ?_, fun s u => ?_, ?_, ?_, ?_, ?_⟩
  · rwa [← hseg]
  · constructor
    · exact h.unique
    · rintro ⟨rfl, rfl⟩
      exact h
  · rw [← hoffset]
    exact fun s u => h.parsesScope_iff
  · rw [← hoffset, ← cursor_ofStart text start answers, h.tokens_eq]
  · rw [← hoffset, ← cursor_ofStart text start answers, h.parse_eq]
  · rintro ts rfl
    obtain ⟨stop, hstop, hcloses⟩ := h.closes
    have hindex : t.index = ↑(start + seg.length) := congrArg (·.index) ht
    rwa [Int.natCast_inj.mp (hindex.symm.trans hstop)]

/-- In `((a)+b)*c` the scope of the first bracket ends behind the second bracket that closes. -/
theorem readsScope_extent_inner :
    Scope.tokens (Cursor.ofStart "((a)+b)*c" 1) (some 1) =
        (.ok [.expression (.var "a") 4, .operator .add 5, .expression (.var "b") 6], 7) ∧
      ∀ q, Closes "((a)+b)*c".toList 1 q ↔ q = 7 := by
  have name {c : Char} {t : Tape} {seen : Option Char} (hpeek : t.peek = .ok (some c))
      (hc : isAlphanumeric c = true) (hnext : t.advance.peek = .ok seen)
      (hseen : seen.all (!isAlphanumeric ·) = true) : ReadsName t [] [c] t.advance := by
    refine .letter hpeek hc (.stop hnext fun d hd => ?_)
    rw [Option.mem_def.mp hd] at hseen
    simpa using hseen
  -- the scope of the inner brackets, and then the one around it
  have hinner : ReadsScope {} (some 2) (ofStart "((a)+b)*c" 2 [some '(']) []
      (.ok [.expression (.var "a") 3])
      (ofStart "((a)+b)*c" 4 [some ')', some 'a', some '(']) :=
    .item (.identifier rfl (by decide) (name rfl (by decide) rfl (by decide)))
      (.last (.closed 2 rfl (by decide)))
  have h : ReadsScope {} (some 1) (ofStart "((a)+b)*c" 1 []) []
      (.ok [.expression (.var "a") 4, .operator .add 5, .expression (.var "b") 6])
      (ofStart "((a)+b)*c" 7 [some ')', some 'b', some '+', some ')', some 'a', some '(']) :=
    .group rfl (by decide) hinner rfl (.item (.operator rfl (by decide))
      (.item (.identifier rfl (by decide) (name rfl (by decide) rfl (by decide)))
        (.last (.closed 1 rfl (by decide)))))
  obtain ⟨-, -, out, stop, t, -, -, ht, hreads, -, htokens, -, hcloses⟩ :=
    readsScope_extent {} (some 1) "((a)+b)*c" 1 []
  obtain ⟨rfl, rfl⟩ := (hreads _ _).mp h
  obtain rfl : 7 = stop := Int.natCast_inj.mp (congrArg (·.index) ht)
  exact ⟨htokens, (hcloses _ rfl).2 (Option.some_ne_none 1)⟩

end Tape

end Calculator
