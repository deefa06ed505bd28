import Calculator.Proofs.CommandLine.Sources
import Calculator.Proofs.Loop
import Calculator.Proofs.Markup

/-!
# The message about a saved file

At the end of the interactive loop the variables are saved, and then a message names the file.  The
path in the message is read as markup, so a path can break the run off after the file is written.
The closing tags in the path decide about it: the run ends well exactly if each of them, and the one
behind the path, has a tag to close.

## Main definitions

* `tableAfter t input`: the variables at the end of the loop
* `messageTags path`: the tags of the message behind the one that it begins with
* `Outcome.EndsWell`: nothing escapes, and the exit code is zero

## Main results

* `exists_savedMessage_iff`: whether there is a message about a path
* `exists_savedMessage`: paths without an opening bracket
* `run_interact_saved`: what a run comes to that has saved its variables
-/

namespace Calculator

open Terminal Text Markup

theorem Markup.Marked.IsDrawable.checkStyles_ok {m : Marked} (h : m.IsDrawable) (isBroken : Bool) :
    m.checkStyles isBroken = .ok () := by
  rw [checkStyles]
  refine ((CommandLine.forM_cases _ _).resolve_left ?_).1
  rintro ⟨span, hspan, e, hstyle, -⟩
  have hdrawable := h span (List.mem_of_mem_filter hspan)
  split at hstyle
  · next hproblem => exact hdrawable hproblem
  · cases hstyle

namespace CommandLine

variable {store : FileStore} {source : VariableSource} {t : Table} {path : String}

/-! ## The tags of the message -/

/-- The tags of the message behind the one that it begins with: those of the path, and the last one
unless the path ends with a backslash that sets it off. -/
def messageTags (path : String) : List (List Char) :=
  tags (path.toList ++ "[/dim]".toList)

/-- Paths without an opening bracket bring no tags. -/
theorem messageTags_of_not_mem (h : '[' ∉ path.toList) :
    messageTags path = [] ∨ messageTags path = ["/dim".toList] := by
  have hclosing : "[/dim]".toList = '[' :: ("/dim".toList ++ [']']) := rfl
  rw [messageTags, hclosing]
  exact tags_append_bracket h (by decide) (by decide)

theorem tags_message (count : Nat) (path : String) :
    tags ("[dim]Saved " ++ toString count ++ " variables to " ++ path ++ "[/dim]").toList =
      "dim".toList :: messageTags path := by
  have hmessage :
      ("[dim]Saved " ++ toString count ++ " variables to " ++ path ++ "[/dim]").toList =
        '[' :: ("dim".toList ++ ']' :: ("Saved ".toList ++ (Nat.toDigits 10 count ++
          (" variables to ".toList ++ (path.toList ++ "[/dim]".toList))))) := by
    simp [Nat.repr]
  have hdigits : ∀ c ∈ Nat.toDigits 10 count, c ≠ '[' ∧ c ≠ '\\' := by
    intro c hc
    have hdigit : c.isDigit = true := Nat.isDigit_of_mem_toDigits (by decide) (by decide) hc
    constructor
    · rintro rfl
      cases hdigit
    · rintro rfl
      cases hdigit
  rw [hmessage, tags_bracket rfl, tags_append_of_forall_ne (by simp),
    tags_append_of_forall_ne hdigits, tags_append_of_forall_ne (by simp), messageTags]

theorem normalName_dim : normalName "dim".toList = .ok "dim" :=
  normalName_switches.1 "dim" (by decide)

theorem setsStyle_dim : SetsStyle "dim".toList :=
  .of_normalName normalName_dim (OpenTag.isDrawable_switch (by decide) 0)

theorem inOrder_dim_cons_iff {more : List (List Char)} :
    InOrder [] ("dim".toList :: more) ↔ InOrder ["dim"] more := by
  have hdim : normalName (splitTag "dim".toList).1 = .ok "dim" := normalName_dim
  rw [inOrder_cons_of_opening rfl, hdim]
  simp only [Except.ok.injEq, exists_eq_left']

/-- There is a message exactly if the tags are in order. -/
theorem exists_savedMessage_iff (h : ∀ content ∈ messageTags path, SetsStyle content)
    (count : Nat) :
    (∃ message, savedMessage count path = .ok message) ↔ InOrder ["dim"] (messageTags path) := by
  -- all that matters of the text are its tags
  have htags := tags_message count path
  rw [savedMessage, Markup.read]
  generalize ("[dim]Saved " ++ toString count ++ " variables to " ++ path ++ "[/dim]").toList =
    text at htags
  have hstyles : ∀ content ∈ contents (items 0 text), SetsStyle content := by
    show ∀ content ∈ tags text, SetsStyle content
    rw [htags]
    exact List.forall_mem_cons.mpr ⟨setsStyle_dim, h⟩
  have horder : InOrder [] (contents (items 0 text)) ↔ InOrder ["dim"] (messageTags path) := by
    show InOrder [] (tags text) ↔ _
    rw [htags, inOrder_dim_cons_iff]
  rcases readItems_agrees (List.forall_mem_nil _) hstyles 0 with
    ⟨hin, marked, hread, hdrawable⟩ | ⟨hout, e, hread⟩
  · refine iff_of_true ?_ (horder.mp hin)
    simp only [hread, bind, Except.bind, hdrawable.checkStyles_ok]
    exact ⟨_, rfl⟩
  · refine iff_of_false ?_ fun hin => hout (horder.mpr hin)
    rintro ⟨message, hmessage⟩
    rw [hread] at hmessage
    cases hmessage

/-- The message about a path without an opening bracket. -/
theorem exists_savedMessage (h : '[' ∉ path.toList) (count : Nat) :
    ∃ message, savedMessage count path = .ok message := by
  have hplain : (∀ content ∈ messageTags path, SetsStyle content) ∧
      InOrder ["dim"] (messageTags path) := by
    rcases messageTags_of_not_mem h with htags | htags
    · rw [htags]
      exact ⟨List.forall_mem_nil _, .nil _⟩
    · rw [htags]
      exact ⟨List.forall_mem_singleton.mpr (.inl (by decide)),
        .named rfl (by decide) normalName_dim List.mem_cons_self (.nil _)⟩
  exact (exists_savedMessage_iff hplain.1 count).mpr hplain.2

/-! ## The end of a run -/

/-- Nothing escapes, and the exit code is zero. -/
def Outcome.EndsWell (outcome : Outcome) : Prop :=
  outcome.exitCode = 0 ∧ outcome.escaped = none

/-- The variables at the end of the interactive loop. -/
def tableAfter (t : Table) (input : String) : Table :=
  (Session.advanceAll { table := t } (Repl.executed (Repl.inputLines input.toList))).table

theorem run_eq_saveSession {words : List String} {strict : Bool}
    (hwords : readInvocation store words = .ok ⟨strict, .interact source (some path)⟩)
    (hbuild : buildTable store source = .ok t) (hpath : path ≠ "") (input : String) :
    ∃ shown, run store words input = saveSession store shown (tableAfter t input) path := by
  obtain ⟨shown, hend⟩ := interact_eq_endSession hbuild (some path) input
  refine ⟨shown, ?_⟩
  rw [endSession, Option.filter_some_pos (by simpa using hpath)] at hend
  rw [run, hwords]
  exact hend

/-- After the file is written, what is left to fail is the message. -/
theorem saveSession_cases (hsave : (t.save store (Path.ofString path)).2 = .ok ())
    (output : String) :
    (saveSession store output t path).EndsWell ∧
        (∃ message, savedMessage t.user.size path = .ok message) ∨
      ∃ e, savedMessage t.user.size path = .error e ∧
        (saveSession store output t path).exitCode = 1 ∧
        (saveSession store output t path).escaped = some (.markup e) := by
  rw [saveSession]
  generalize t.save store (Path.ofString path) = saved at hsave
  obtain ⟨after, result⟩ := saved
  obtain rfl : result = .ok () := hsave
  cases savedMessage t.user.size path with
  | ok message => exact .inl ⟨⟨rfl, rfl⟩, message, rfl⟩
  | error e => exact .inr ⟨e, rfl, rfl, rfl⟩

theorem saveSession_endsWell_iff (hsave : (t.save store (Path.ofString path)).2 = .ok ())
    (output : String) :
    (saveSession store output t path).EndsWell ↔
      ∃ message, savedMessage t.user.size path = .ok message := by
  rcases saveSession_cases hsave output with ⟨hwell, hmessage⟩ | ⟨e, herror, hcode, -⟩
  · exact iff_of_true hwell hmessage
  · refine iff_of_false (fun hwell => ?_) ?_
    · rw [hwell.1] at hcode
      cases hcode
    · rintro ⟨message, hmessage⟩
      cases hmessage.symm.trans herror

/-- **Runs that save their variables**: the file is written, and then the run ends well, or an error
of the message about it escapes.  Paths without an opening bracket do no harm, and among the paths
that ask for nothing that cannot be drawn or bound exactly those do no harm whose tags are in order,
with the message in front of them and behind them. -/
theorem run_interact_saved {words : List String} {strict : Bool}
    (hwords : readInvocation store words = .ok ⟨strict, .interact source (some path)⟩)
    (hbuild : buildTable store source = .ok t) (hpath : path ≠ "") (input : String)
    (hsave : ((tableAfter t input).save store (Path.ofString path)).2 = .ok ()) :
    let outcome := run store words input
    outcome.store = ((tableAfter t input).save store (Path.ofString path)).1 ∧
    (outcome.EndsWell ∨ outcome.exitCode = 1 ∧ ∃ e, outcome.escaped = some (.markup e)) ∧
    ('[' ∉ path.toList → outcome.EndsWell) ∧
    ((∀ content ∈ messageTags path, SetsStyle content) →
      (outcome.EndsWell ↔ InOrder ["dim"] (messageTags path))) := by
  intro outcome
  obtain ⟨shown, hrun⟩ := run_eq_saveSession hwords hbuild hpath input
  have houtcome : outcome = saveSession store shown (tableAfter t input) path := hrun
  have hwell := saveSession_endsWell_iff hsave shown
  rw [← houtcome] at hwell
  refine ⟨?_, ?_, fun hplain => hwell.mpr (exists_savedMessage hplain _),
    fun hstyles => hwell.trans (exists_savedMessage_iff hstyles _)⟩
  · rw [houtcome, store_saveSession]
  · rw [houtcome]
    rcases saveSession_cases hsave shown with ⟨hends, -⟩ | ⟨e, -, hcode, hescaped⟩
    · exact .inl hends
    · exact .inr ⟨hcode, e, hescaped⟩

/-- A bracket that begins no tag, and a tag that is never closed. -/
theorem run_interact_saved_brackets :
    let words := ["repl", "--save", "a[0][b].json"]
    readInvocation .empty words =
        .ok ⟨false, .interact ⟨[], none, true⟩ (some "a[0][b].json")⟩ ∧
      ((tableAfter (.start true) "x = 1\n").save .empty (Path.ofString "a[0][b].json")).2 =
        .ok () ∧
      messageTags "a[0][b].json" = ["b".toList, "/dim".toList] ∧
      (run .empty words "x = 1\n").EndsWell := by
  intro words
  have hwords : readInvocation .empty words =
      .ok ⟨false, .interact ⟨[], none, true⟩ (some "a[0][b].json")⟩ := rfl
  have hsave : ((tableAfter (.start true) "x = 1\n").save .empty
      (Path.ofString "a[0][b].json")).2 = .ok () := rfl
  have htags : messageTags "a[0][b].json" = ["b".toList, "/dim".toList] := by cbv
  have hname : normalName "b".toList = .ok "bold" :=
    normalName_switches.2 ("b", "bold") (by decide)
  have hstyles : ∀ content ∈ messageTags "a[0][b].json", SetsStyle content := by
    rw [htags]
    exact List.forall_mem_cons.mpr ⟨.of_normalName hname (OpenTag.isDrawable_switch (by decide) 0),
      List.forall_mem_singleton.mpr (.inl (by decide))⟩
  have hin : InOrder ["dim"] (messageTags "a[0][b].json") := by
    rw [htags]
    exact .opening rfl hname (.named rfl (by decide) normalName_dim (by simp) (.nil _))
  obtain ⟨-, -, -, hiff⟩ := run_interact_saved hwords rfl (by decide) "x = 1\n" hsave
  exact ⟨hwords, hsave, htags, (hiff hstyles).mpr hin⟩

/-- A tag that closes what is not open: the file is written, and the run fails. -/
theorem run_interact_saved_closing :
    let words := ["repl", "--save", "[/b]"]
    readInvocation .empty words = .ok ⟨false, .interact ⟨[], none, true⟩ (some "[/b]")⟩ ∧
      ((tableAfter (.start true) "").save .empty (Path.ofString "[/b]")).2 = .ok () ∧
      (run .empty words "").exitCode = 1 ∧
      ∃ e, (run .empty words "").escaped = some (.markup e) := by
  intro words
  have hwords : readInvocation .empty words =
      .ok ⟨false, .interact ⟨[], none, true⟩ (some "[/b]")⟩ := rfl
  have hsave : ((tableAfter (.start true) "").save .empty (Path.ofString "[/b]")).2 = .ok () := rfl
  have htags : messageTags "[/b]" = ["/b".toList, "/dim".toList] := by cbv
  have hname : normalName "b".toList = .ok "bold" :=
    normalName_switches.2 ("b", "bold") (by decide)
  have hstyles : ∀ content ∈ messageTags "[/b]", SetsStyle content := by
    rw [htags]
    exact List.forall_mem_cons.mpr ⟨.inl (by decide),
      List.forall_mem_singleton.mpr (.inl (by decide))⟩
  -- the only tag that is open where the path begins is the one of the message
  have hout : ¬ InOrder ["dim"] (messageTags "[/b]") := by
    rw [htags, inOrder_cons_of_named rfl (by decide)]
    rintro ⟨name, hbold, hopened, -⟩
    obtain rfl : "bold" = name := Except.ok.inj (hname.symm.trans hbold)
    exact absurd hopened (by decide)
  obtain ⟨shown, hrun⟩ := run_eq_saveSession hwords rfl (by decide) ""
  rw [hrun]
  rcases saveSession_cases hsave shown with ⟨-, hmessage⟩ | ⟨e, -, hcode, hescaped⟩
  · exact absurd ((exists_savedMessage_iff hstyles _).mp hmessage) hout
  · exact ⟨hwords, hsave, hcode, e, hescaped⟩

end CommandLine

end Calculator
