import Calculator.Terminal.Markup
import Mathlib.Data.List.Basic
import Mathlib.Data.List.TakeWhile

/-!
# The tags of a text with markup

A text with markup is cut into items, and the tags among them open and close styles.  Whether a text
can be read is a matter of its tags alone: where they stand and what is between them does not count.

## Main definitions

* `Markup.tags cs`: the tags of a text
* `Markup.InOrder opened tags`: every closing tag has a tag to close
* `Markup.SetsStyle content`: a tag asks for nothing that cannot be drawn or bound

## Main results

* `Markup.items_cases`, `Markup.tags_cases`: what a text begins with
* `Markup.closeTag_cases`: what a closing tag does to the tags that are open
* `Markup.readItems_agrees`: tags are read exactly if they are in order
-/

namespace Calculator.Markup

open Terminal Text

variable {cs pre rest content : List Char} {c : Char} {p : Nat} {its : List Item}

/-! ## The tags of a text -/

/-- What stands between the brackets of an item that is a tag. -/
def Item.content? : Item → Option (List Char)
  | .tag content _ => some content
  | _ => none

/-- The tags among items, without their brackets. -/
def contents (its : List Item) : List (List Char) :=
  its.filterMap Item.content?

/-- The tags of a text, without their brackets. -/
def tags (cs : List Char) : List (List Char) :=
  contents (items 0 cs)

@[simp] theorem contents_nil : contents [] = [] := rfl

@[simp] theorem contents_run (cs : List Char) (its : List Item) :
    contents (.run cs :: its) = contents its := rfl

@[simp] theorem contents_literal (cs : List Char) (its : List Item) :
    contents (.literal cs :: its) = contents its := rfl

@[simp] theorem contents_tag (content : List Char) (p : Nat) (its : List Item) :
    contents (.tag content p :: its) = content :: contents its := rfl

@[simp] theorem contents_prepend (cs : List Char) (its : List Item) :
    contents (prepend cs its) = contents its := by
  cases its with
  | nil => rfl
  | cons item its => cases item <;> rfl

theorem tagContent?_eq_some (h : tagContent? cs = some content) :
    ∃ rest, cs = content ++ ']' :: rest := by
  cases cs with
  | nil => cases h
  | cons c cs =>
    simp only [tagContent?, Bool.and_eq_true, decide_eq_true_eq, Option.ite_none_right_eq_some,
      Option.some.injEq] at h
    obtain ⟨⟨-, hclosed⟩, rfl⟩ := h
    obtain ⟨rest, hrest⟩ := List.head?_eq_some_iff.mp hclosed
    refine ⟨rest, ?_⟩
    rw [List.cons_append, ← hrest, List.prefix_iff_eq_append.mp (List.takeWhile_prefix _)]

/-- The backslashes at the beginning of a text, and what follows them. -/
theorem eq_replicate_append (cs : List Char) :
    List.replicate (cs.takeWhile (· == '\\')).length '\\' ++
      cs.drop (cs.takeWhile (· == '\\')).length = cs := by
  have htake : cs.takeWhile (· == '\\') =
      List.replicate (cs.takeWhile (· == '\\')).length '\\' :=
    List.eq_replicate_of_mem fun c hc => by simpa using List.mem_takeWhile_imp hc
  rw [← htake, List.prefix_iff_eq_append.mp (List.takeWhile_prefix _)]

/-- **What a text begins with**: a tag behind backslashes, an opening bracket behind backslashes
that begins no tag, or a character that stands for itself. -/
theorem items_cases (c : Char) (cs : List Char) :
    (∃ n content rest, c :: cs = List.replicate n '\\' ++ '[' :: (content ++ ']' :: rest) ∧
      tagContent? (content ++ ']' :: rest) = some content ∧
      ∀ p, items p (c :: cs) = .literal (List.replicate (n / 2) '\\') ::
        (if n % 2 = 1 then .literal ('[' :: content ++ [']']) else .tag content (p + n)) ::
          items (p + (n + content.length + 2)) rest) ∨
    (∃ n rest, c :: cs = List.replicate n '\\' ++ '[' :: rest ∧ tagContent? rest = none ∧
      ∀ p, items p (c :: cs) =
        prepend (List.replicate (n - 1) '\\' ++ ['[']) (items (p + n + 1) rest)) ∨
    ∀ p, items p (c :: cs) = prepend [c] (items (p + 1) cs) := by
  have hcs := eq_replicate_append (c :: cs)
  -- what follows the backslashes decides
  generalize hn : ((c :: cs).takeWhile (· == '\\')).length = n at hcs
  rcases hdrop : (c :: cs).drop n with _ | ⟨d, rest⟩
  · refine .inr (.inr fun p => ?_)
    rw [items]
    simp only [hn, hdrop]
  · by_cases hd : d = '['
    · subst hd
      rw [hdrop] at hcs
      rcases htag : tagContent? rest with _ | content
      · refine .inr (.inl ⟨n, rest, hcs.symm, htag, fun p => ?_⟩)
        have hrest : cs.drop n = rest :=
          calc cs.drop n = ((c :: cs).drop n).tail := by rw [List.tail_drop, List.drop_succ_cons]
            _ = rest := by rw [hdrop, List.tail_cons]
        rw [items]
        simp only [hn, hdrop, htag, hrest]
      · obtain ⟨rest, rfl⟩ := tagContent?_eq_some htag
        refine .inl ⟨n, content, rest, hcs.symm, htag, fun p => ?_⟩
        have hrest : cs.drop (n + content.length + 2 - 1) = rest :=
          calc cs.drop (n + content.length + 2 - 1)
              = ((c :: cs).drop n).drop (content.length + 2) := by
                rw [List.drop_drop, ← List.drop_succ_cons (a := c)]
                rfl
            _ = rest := by
                rw [hdrop, List.drop_succ_cons, ← List.drop_drop, List.drop_left]
                rfl
        rw [items]
        simp only [hn, hdrop, htag, hrest]
    · refine .inr (.inr fun p => ?_)
      rw [items]
      simp only [hn, hdrop]
      split
      · next heq => exact absurd (List.cons.inj heq).1 hd
      · rfl

theorem length_lt_of_eq_append (h : cs = pre ++ c :: rest) : rest.length < cs.length := by
  rw [h, List.length_append, List.length_cons]
  omega

/-- Where a text stands does not matter to its tags. -/
theorem contents_items (p : Nat) (cs : List Char) : contents (items p cs) = tags cs := by
  -- on the length, since a tag takes more than one character from the text
  induction hlength : cs.length using Nat.strong_induction_on generalizing cs p with
  | h k ih =>
    subst hlength
    rw [tags]
    cases cs with
    | nil => rw [items, items]
    | cons c cs =>
      rcases items_cases c cs with
        ⟨n, content, rest, hcs, -, hitems⟩ | ⟨n, rest, hcs, -, hitems⟩ | hitems
      · have hlt : rest.length < (c :: cs).length :=
          (length_lt_of_eq_append rfl).trans (length_lt_of_eq_append hcs)
        rw [hitems p, hitems 0]
        split <;> simp only [contents_literal, contents_tag, ih _ hlt _ rest rfl]
      · have hlt : rest.length < (c :: cs).length := length_lt_of_eq_append hcs
        rw [hitems p, hitems 0, contents_prepend, contents_prepend, ih _ hlt _ rest rfl,
          ih _ hlt _ rest rfl]
      · rw [hitems p, hitems 0, contents_prepend, contents_prepend,
          ih _ (Nat.lt_succ_self _) _ cs rfl, ih _ (Nat.lt_succ_self _) _ cs rfl]

theorem tags_nil : tags [] = [] := by
  rw [tags, items, contents_nil]

/-- **The first tag of a text**, if it begins with one. -/
theorem tags_cases (c : Char) (cs : List Char) :
    (∃ n content rest, c :: cs = List.replicate n '\\' ++ '[' :: (content ++ ']' :: rest) ∧
      tagContent? (content ++ ']' :: rest) = some content ∧
      tags (c :: cs) = if n % 2 = 1 then tags rest else content :: tags rest) ∨
    (∃ n rest, c :: cs = List.replicate n '\\' ++ '[' :: rest ∧ tagContent? rest = none ∧
      tags (c :: cs) = tags rest) ∨
    tags (c :: cs) = tags cs := by
  rcases items_cases c cs with
    ⟨n, content, rest, hcs, htag, hitems⟩ | ⟨n, rest, hcs, htag, hitems⟩ | hitems
  · refine .inl ⟨n, content, rest, hcs, htag, ?_⟩
    rw [tags, hitems 0, contents_literal]
    split
    · rw [contents_literal, contents_items]
    · rw [contents_tag, contents_items]
  · refine .inr (.inl ⟨n, rest, hcs, htag, ?_⟩)
    rw [tags, hitems 0, contents_prepend, contents_items]
  · refine .inr (.inr ?_)
    rw [tags, hitems 0, contents_prepend, contents_items]

theorem eq_of_cons_eq_replicate {n : Nat} (h : c :: cs = List.replicate n '\\' ++ '[' :: rest) :
    c = '[' ∨ c = '\\' := by
  cases n with
  | zero => exact .inl (List.cons.inj h).1
  | succ n => exact .inr (List.cons.inj h).1

/-- A character that neither begins a tag nor sets one off. -/
theorem tags_cons_of_ne (hc : c ≠ '[' ∧ c ≠ '\\') (cs : List Char) : tags (c :: cs) = tags cs := by
  rcases tags_cases c cs with ⟨n, content, rest, hcs, -⟩ | ⟨n, rest, hcs, -⟩ | htags
  · exact absurd (eq_of_cons_eq_replicate hcs) (not_or.mpr hc)
  · exact absurd (eq_of_cons_eq_replicate hcs) (not_or.mpr hc)
  · exact htags

theorem tags_append_of_forall_ne (hpre : ∀ c ∈ pre, c ≠ '[' ∧ c ≠ '\\') (cs : List Char) :
    tags (pre ++ cs) = tags cs := by
  induction pre with
  | nil => rfl
  | cons c pre ih =>
    rw [List.forall_mem_cons] at hpre
    rw [List.cons_append, tags_cons_of_ne hpre.1, ih hpre.2]

theorem tags_bracket (h : tagContent? (content ++ ']' :: rest) = some content) :
    tags ('[' :: (content ++ ']' :: rest)) = content :: tags rest := by
  have hescapes : ('[' :: (content ++ ']' :: rest)).takeWhile (· == '\\') = [] := rfl
  have hrest : (content ++ ']' :: rest).drop (0 + content.length + 2 - 1) = rest := by
    simp
  rw [tags, items]
  simp only [hescapes, List.length_nil, List.drop_zero, h, hrest, contents_literal]
  rw [if_neg (by decide), contents_tag, contents_items]

/-- Where a tag at the end begins with the only opening bracket, there is no other one; and none, if
it is set off by backslashes. -/
theorem tags_append_bracket (hcs : '[' ∉ cs) (hcontent : '[' ∉ content)
    (h : tagContent? (content ++ [']']) = some content) :
    tags (cs ++ '[' :: (content ++ [']'])) = [] ∨
      tags (cs ++ '[' :: (content ++ [']'])) = [content] := by
  induction cs with
  | nil => exact .inr (by rw [List.nil_append, tags_bracket h, tags_nil])
  | cons c cs ih =>
    have htail : '[' ∉ content ++ [']'] := by simp [hcontent]
    -- the bracket that the case is about can only be the one of the last tag
    rcases tags_cases c (cs ++ '[' :: (content ++ [']'])) with
      ⟨n, content', rest, hwhole, htag, htags⟩ | ⟨n, rest, hwhole, htag, htags⟩ | htags
    · obtain ⟨-, -, hrest⟩ := (List.append_cons_inj_of_notMem hcs htail).mp hwhole
      obtain rfl : content = content' := Option.some.inj (h.symm.trans (hrest ▸ htag))
      obtain rfl : [] = rest := (List.cons.inj (List.append_cancel_left hrest)).2
      rw [List.cons_append, htags, tags_nil]
      split
      · exact .inl rfl
      · exact .inr rfl
    · obtain ⟨-, -, rfl⟩ := (List.append_cons_inj_of_notMem hcs htail).mp hwhole
      cases h.symm.trans htag
    · rw [List.cons_append, htags]
      exact ih fun hmem => hcs (List.mem_cons_of_mem _ hmem)

/-! ## Tags in order -/

/-- The name in a closing tag, without white space at its ends. -/
def closed? (content : List Char) : Option (List Char) :=
  match (splitTag content).1 with
  | '/' :: name => some (trim name)
  | _ => none

/-- Tags that can be read one after the other, `opened` being the names of the tags that are open,
the latest first: a closing tag without a name closes the latest one, and every other closing tag
one of the same style. -/
inductive InOrder : List String → List (List Char) → Prop where
  | nil (opened : List String) : InOrder opened []
  | opening {opened : List String} {content : List Char} {rest : List (List Char)} {name : String}
      (hopens : closed? content = none) (hname : normalName (splitTag content).1 = .ok name)
      (hrest : InOrder (name :: opened) rest) : InOrder opened (content :: rest)
  | latest {opened : List String} {content : List Char} {rest : List (List Char)} {name : String}
      (hcloses : closed? content = some []) (hrest : InOrder opened rest) :
      InOrder (name :: opened) (content :: rest)
  | named {opened : List String} {content text : List Char} {rest : List (List Char)}
      {name : String} (hcloses : closed? content = some text) (htext : text ≠ [])
      (hname : normalName text = .ok name) (hopened : name ∈ opened)
      (hrest : InOrder (opened.erase name) rest) : InOrder opened (content :: rest)

section InOrder

variable {opened : List String} {text : List Char} {more : List (List Char)}

theorem inOrder_cons_of_opening (h : closed? content = none) :
    InOrder opened (content :: more) ↔
      ∃ name, normalName (splitTag content).1 = .ok name ∧ InOrder (name :: opened) more := by
  constructor
  · intro horder
    cases horder with
    | opening hopens hname hrest => exact ⟨_, hname, hrest⟩
    | latest hcloses => cases h.symm.trans hcloses
    | named hcloses => cases h.symm.trans hcloses
  · rintro ⟨name, hname, hrest⟩
    exact .opening h hname hrest

theorem inOrder_cons_of_latest (h : closed? content = some []) :
    InOrder opened (content :: more) ↔
      ∃ name after, opened = name :: after ∧ InOrder after more := by
  constructor
  · intro horder
    cases horder with
    | opening hopens => cases h.symm.trans hopens
    | latest hcloses hrest => exact ⟨_, _, rfl, hrest⟩
    | named hcloses htext => exact absurd (Option.some.inj (h.symm.trans hcloses)).symm htext
  · rintro ⟨name, after, rfl, hrest⟩
    exact .latest h hrest

theorem inOrder_cons_of_named (h : closed? content = some text) (htext : text ≠ []) :
    InOrder opened (content :: more) ↔
      ∃ name, normalName text = .ok name ∧ name ∈ opened ∧ InOrder (opened.erase name) more := by
  constructor
  · intro horder
    cases horder with
    | opening hopens => cases h.symm.trans hopens
    | latest hcloses => exact absurd (Option.some.inj (h.symm.trans hcloses)) htext
    | named hcloses _ hname hopened hrest =>
      obtain rfl := Option.some.inj (h.symm.trans hcloses)
      exact ⟨_, hname, hopened, hrest⟩
  · rintro ⟨name, hname, hopened, hrest⟩
    exact .named h htext hname hopened hrest

end InOrder

/-! ## Reading -/

/-- A style that can be drawn, and an action that can be bound. -/
def OpenTag.IsDrawable (tag : OpenTag) : Prop :=
  checkAction tag = .ok () ∧ Style.ofText (tag.span 0).style.toList ≠ .error .emptyPart

/-- The styles of all spans can be drawn. -/
def Marked.IsDrawable (m : Marked) : Prop :=
  ∀ span ∈ m.spans, Style.ofText span.style.toList ≠ .error .emptyPart

/-- A tag that closes another one, or asks for nothing that cannot be drawn or bound. -/
def SetsStyle (content : List Char) : Prop :=
  closed? content ≠ none ∨ ∀ name ∈ (normalName (splitTag content).1).toOption,
    OpenTag.IsDrawable ⟨name, (splitTag content).2, 0⟩

theorem SetsStyle.of_normalName {name : String}
    (hname : normalName (splitTag content).1 = .ok name)
    (h : OpenTag.IsDrawable ⟨name, (splitTag content).2, 0⟩) : SetsStyle content := by
  refine .inr fun name' hname' => ?_
  rw [hname] at hname'
  obtain rfl : name = name' := Option.some.inj hname'
  exact h

/-- The words for switches in their normal form. -/
theorem normalName_switches :
    (∀ name ∈ switches, normalName name.toList = .ok name) ∧
      ∀ entry ∈ shortSwitches, normalName entry.1.toList = .ok entry.2 := by
  decide +kernel

theorem ofText_ne_emptyPart {name : String} (h : normalName cs = .ok name) :
    Style.ofText cs ≠ .error .emptyPart := by
  intro herror
  rw [normalName, normalStyle, herror] at h
  cases h

theorem checkAction_of_parameter {tag : OpenTag} (h : tag.parameter = none) :
    checkAction tag = .ok () := by
  rw [checkAction, h]
  split
  · next heq => cases heq
  · rfl

/-- Switches can be drawn. -/
theorem OpenTag.isDrawable_switch {name : String} (h : name ∈ switches) (first : Nat) :
    OpenTag.IsDrawable ⟨name, none, first⟩ :=
  ⟨checkAction_of_parameter rfl, ofText_ne_emptyPart (normalName_switches.1 name h)⟩

section Reading

variable {opened : List OpenTag} {shown : Nat} {text : List Char} {tag : OpenTag}

theorem readItems_opening (h : closed? content = none) :
    readItems opened shown (.tag content p :: its) = (do
      let name ← normalName (splitTag content).1
      readItems (⟨name, (splitTag content).2, shown⟩ :: opened) shown its) := by
  rw [closed?] at h
  rw [readItems]
  simp only
  split
  · next raw hraw =>
    rw [hraw] at h
    cases h
  · rfl

theorem readItems_closing (h : closed? content = some text) (opened : List OpenTag) (shown p : Nat)
    (its : List Item) :
    ∃ raw, trim raw = text ∧ readItems opened shown (.tag content p :: its) = (do
      let (tag, after) ← closeTag opened content raw p
      checkAction tag
      let marked ← readItems after shown its
      return { marked with spans := tag.span shown :: marked.spans }) := by
  rw [closed?] at h
  rw [readItems]
  split at h
  · next raw hraw =>
    refine ⟨raw, Option.some.inj h, ?_⟩
    simp only [hraw]
  · cases h

/-- **A closing tag** closes one of the open tags, and those after it are in order if they are with
the tags that are left; or it closes none, and is not in order. -/
theorem closeTag_cases (h : closed? content = some text) {raw : List Char} (hraw : trim raw = text)
    (opened : List OpenTag) (p : Nat) :
    (∃ tag after, closeTag opened content raw p = .ok (tag, after) ∧ tag ∈ opened ∧
      after ⊆ opened ∧ ∀ more, InOrder (opened.map (·.name)) (content :: more) ↔
        InOrder (after.map (·.name)) more) ∨
    ((∃ e, closeTag opened content raw p = .error e) ∧
      ∀ more, ¬ InOrder (opened.map (·.name)) (content :: more)) := by
  unfold closeTag
  simp only [hraw]
  by_cases htext : text = []
  · subst htext
    simp only [inOrder_cons_of_latest h, if_pos]
    cases opened with
    | nil => exact .inr ⟨⟨_, rfl⟩, fun more => by simp⟩
    | cons tag after => exact .inl ⟨tag, after, rfl, by simp, by simp, fun more => by simp⟩
  · simp only [inOrder_cons_of_named h htext, if_neg htext]
    cases hname : normalName text with
    | error e => exact .inr ⟨⟨e, rfl⟩, fun more => by simp⟩
    | ok name =>
      dsimp only [bind, Except.bind]
      cases hfind : opened.find? (·.name = name) with
      | none =>
        refine .inr ⟨⟨_, rfl⟩, fun more => ?_⟩
        rintro ⟨name', hname', hopened, -⟩
        obtain rfl : name = name' := Except.ok.inj hname'
        obtain ⟨tag, htag, hsame⟩ := List.mem_map.mp hopened
        exact List.find?_eq_none.mp hfind tag htag (decide_eq_true hsame)
      | some tag =>
        have hmem : tag ∈ opened := List.mem_of_find?_eq_some hfind
        have hsame : tag.name = name := by simpa using List.find?_some hfind
        -- the tag that is closed is the first of its name among the tags as among their names
        have hnames : (opened.map (·.name)).erase name =
            (opened.eraseP (·.name = name)).map (·.name) := by
          rw [List.erase_eq_eraseP, List.eraseP_map]
          congr 2
          funext tag
          exact decide_eq_decide.mpr eq_comm
        refine .inl ⟨tag, _, rfl, hmem, List.eraseP_subset, fun more => ?_⟩
        rw [← hnames]
        constructor
        · rintro ⟨name', hname', -, hrest⟩
          obtain rfl : name = name' := Except.ok.inj hname'
          exact hrest
        · intro hrest
          exact ⟨name, rfl, hsame ▸ List.mem_map_of_mem hmem, hrest⟩

/-- The action and the style of a tag do not depend on where it stands. -/
theorem OpenTag.IsDrawable.of_setsStyle {name : String} (h : SetsStyle content)
    (hopens : closed? content = none) (hname : normalName (splitTag content).1 = .ok name)
    (first : Nat) : OpenTag.IsDrawable ⟨name, (splitTag content).2, first⟩ := by
  rcases h with hcloses | hdraws
  · exact absurd hopens hcloses
  · refine hdraws name ?_
    rw [hname]
    rfl

/-- The outcome of reading tags agrees with their order: a text whose spans can be drawn if they are
in order, and an error if they are not. -/
def Agrees (order : Prop) (outcome : Except MarkupError Marked) : Prop :=
  (order ∧ ∃ marked, outcome = .ok marked ∧ marked.IsDrawable) ∨
    (¬ order ∧ ∃ e, outcome = .error e)

theorem Agrees.error {order : Prop} (h : ¬ order) (e : MarkupError) : Agrees order (.error e) :=
  .inr ⟨h, e, rfl⟩

theorem Agrees.bind {order : Prop} {outcome : Except MarkupError Marked} {f : Marked → Marked}
    (h : Agrees order outcome) (hf : ∀ m, m.IsDrawable → (f m).IsDrawable) :
    Agrees order (outcome >>= fun m => pure (f m)) := by
  rcases h with ⟨horder, m, rfl, hm⟩ | ⟨horder, e, rfl⟩
  · exact .inl ⟨horder, f m, rfl, hf m hm⟩
  · exact .error horder e

/-- **Reading tags**: where none asks for what cannot be drawn or bound, they are read exactly if
they are in order, and the spans can be drawn. -/
theorem readItems_agrees (hopened : ∀ tag ∈ opened, tag.IsDrawable)
    (hits : ∀ content ∈ contents its, SetsStyle content) (shown : Nat) :
    Agrees (InOrder (opened.map (·.name)) (contents its)) (readItems opened shown its) := by
  -- the tags that are open change from item to item, and so does the order of what is left
  induction its generalizing opened shown with
  | nil =>
    -- what is still open is closed by the end
    refine .inl ⟨.nil _, _, rfl, ?_⟩
    intro span hspan
    obtain ⟨tag, htag, rfl⟩ := List.mem_map.mp hspan
    exact (hopened tag htag).2
  | cons item its ih =>
    cases item with
    | run cs =>
      rw [readItems]
      exact (ih hopened hits _).bind fun m hm => hm
    | literal cs =>
      rw [readItems]
      exact (ih hopened hits _).bind fun m hm => hm
    | tag content p =>
      rw [contents_tag, List.forall_mem_cons] at hits
      rw [contents_tag]
      cases hcontent : closed? content with
      | none =>
        rw [readItems_opening hcontent, inOrder_cons_of_opening hcontent]
        cases hname : normalName (splitTag content).1 with
        | error e => exact .error (by simp) e
        | ok name =>
          have hdrawable := OpenTag.IsDrawable.of_setsStyle hits.1 hcontent hname shown
          simp only [Except.ok.injEq, exists_eq_left']
          exact ih (List.forall_mem_cons.mpr ⟨hdrawable, hopened⟩) hits.2 shown
      | some text =>
        obtain ⟨raw, hraw, hread⟩ := readItems_closing hcontent opened shown p its
        rw [hread]
        rcases closeTag_cases hcontent hraw opened p with
          ⟨tag, after, hclose, htag, hafter, horder⟩ | ⟨⟨e, hclose⟩, horder⟩
        · rw [horder, hclose]
          dsimp only [Except.bind, bind]
          rw [(hopened tag htag).1]
          have hagrees := ih (fun tag htag => hopened tag (hafter htag)) hits.2 shown
          exact hagrees.bind fun m hm => List.forall_mem_cons.mpr ⟨(hopened tag htag).2, hm⟩
        · rw [hclose]
          exact .error (horder _) e

end Reading

end Calculator.Markup
