import Mathlib
import Calculator.Display
import Calculator.Proofs.Naming
import Calculator.Proofs.RoundTrip

/-!
# Wrapping

What the calculator shows may be longer than a line of the terminal.  It is broken at spaces, which
are dropped where they do not fit, and a word that is wider than a line is cut.  Nothing else is
lost: the lines one after the other, with the dropped spaces, are the text.

A text of the calculator has no character that a terminal drops or shows as a part of another,
except the letters that fill no cell.  So the cells of a text are those of its characters.

## Main definitions

* `IsPlain c`: a space, or a visible character that stands for itself
* `IsWrapped width text lines`: lines that a text is broken into

## Main results

* `flatten_words`, `flatten_fold`, `flatten_fill`: no step of wrapping loses a character
* `cellWidth_of_mem_fill`: every line fits without the spaces at its end
* `isWrapped_wrap`: how a plain text is wrapped
* `Display.result_isWrapped`: what is shown of an expression and its value
-/

namespace Calculator

namespace Terminal

open Text

variable {width : Nat} {c : Char} {cs ds line word text : List Char} {ws : List (List Char)}

/-- A space, or a visible character that is not dropped, as the bell and the backspace are, and does
not join others. -/
def IsPlain (c : Char) : Prop :=
  c = ' ' ∨ isSpace c = false ∧ c.toNat ∉ [7, 8] ∧ c ≠ joiner ∧ c ≠ emojiSelector

/-- How a text is broken into lines. -/
structure IsWrapped (width : Nat) (text : List Char) (lines : List (List Char)) : Prop where
  /-- The lines, with the spaces that are dropped at their ends, are the text. -/
  broken : ∃ pieces : List (List Char), pieces.flatten = text ∧
    List.Forall₂ (fun line piece => ∃ n, piece = line ++ spaces n) lines pieces
  /-- Every line fits. -/
  fits : ∀ line ∈ lines, cellWidth line ≤ width
  /-- A text that fits is not broken. -/
  whole : cellWidth text ≤ width → lines = [text]

/-! ## Plain texts -/

theorem isPlain_space : IsPlain ' ' :=
  .inl rfl

namespace IsPlain

theorem eq_space (h : IsPlain c) (hc : isSpace c = true) : c = ' ' := by
  rcases h with h | ⟨hspace, -⟩
  · exact h
  · exact absurd hc (Bool.eq_false_iff.mp hspace)

theorem ne_joiner (h : IsPlain c) : c ≠ joiner := by
  rcases h with rfl | ⟨-, -, h, -⟩
  · decide
  · exact h

theorem ne_emojiSelector (h : IsPlain c) : c ≠ emojiSelector := by
  rcases h with rfl | ⟨-, -, -, h⟩
  · decide
  · exact h

theorem ne_of_isSpace {d : Char} (h : IsPlain c) (hd : isSpace d = true) (hne : d ≠ ' ') :
    c ≠ d := by
  rintro rfl
  exact hne (h.eq_space hd)

theorem not_dropped (h : IsPlain c) : c.toNat ∉ [7, 8, 11, 12, 13] := by
  rcases h with rfl | ⟨hspace, hcontrol, -⟩
  · decide
  · intro hmem
    -- the last three are white space
    have hspaces : ∀ n ∈ [11, 12, 13], spaceRuns.contains n = true := by decide
    rcases List.mem_append.mp (show c.toNat ∈ [7, 8] ++ [11, 12, 13] from hmem) with h | h
    · exact hcontrol h
    · exact Bool.false_ne_true (hspace.symm.trans (hspaces _ h))

end IsPlain

theorem dropControls_of_isPlain (h : ∀ c ∈ cs, IsPlain c) : dropControls cs = cs := by
  rw [dropControls, List.filter_eq_self]
  intro c hc
  simpa using (h c hc).not_dropped

theorem splitOn_of_not_mem {sep : Char} (h : sep ∉ cs) : splitOn sep cs = [cs] := by
  induction cs with
  | nil => rfl
  | cons c cs ih =>
    rw [splitOn, if_neg (List.ne_of_not_mem_cons h).symm, ih (List.not_mem_of_not_mem_cons h)]
    rfl

theorem expandTabs_of_isPlain (h : ∀ c ∈ cs, IsPlain c) : expandTabs cs = cs := by
  have htab : '\t' ∉ cs := fun hmem =>
    (h _ hmem).ne_of_isSpace (by decide) (by decide) rfl
  rw [expandTabs, splitOn_of_not_mem htab]
  rfl

/-- A plain text ends with spaces after its last visible character. -/
theorem exists_dropEnd_append (h : ∀ c ∈ cs, IsPlain c) :
    ∃ n, cs = dropEnd isSpace cs ++ spaces n := by
  have hsplit := List.takeWhile_append_dropWhile (p := isSpace) (l := cs.reverse)
  refine ⟨(cs.reverse.takeWhile isSpace).length, ?_⟩
  have hspaces : cs.reverse.takeWhile isSpace =
      spaces (cs.reverse.takeWhile isSpace).length := by
    refine List.eq_replicate_length.mpr fun c hc => ?_
    exact (h c (List.mem_reverse.mp (List.takeWhile_subset _ hc))).eq_space
      (List.mem_takeWhile_imp hc)
  calc cs = ((cs.reverse.takeWhile isSpace) ++ cs.reverse.dropWhile isSpace).reverse := by
        rw [hsplit, List.reverse_reverse]
    _ = dropEnd isSpace cs ++ spaces (cs.reverse.takeWhile isSpace).length := by
        conv_lhs => rw [hspaces, List.reverse_append, spaces, List.reverse_replicate]
        rfl

theorem dropEnd_append_spaces (cs : List Char) (n : Nat) :
    dropEnd isSpace (cs ++ spaces n) = dropEnd isSpace cs := by
  have hspaces : ∀ c ∈ List.replicate n ' ', isSpace c = true := fun c hc => by
    rw [List.eq_of_mem_replicate hc]
    decide
  rw [dropEnd, spaces, List.reverse_append, List.reverse_replicate,
    List.dropWhile_append_of_pos hspaces, dropEnd]

theorem isPlain_of_mem_dropEnd (h : ∀ c ∈ cs, IsPlain c) :
    ∀ c ∈ dropEnd isSpace cs, IsPlain c := by
  intro c hc
  exact h c (List.mem_reverse.mp ((List.dropWhile_suffix _).subset (List.mem_reverse.mp hc)))

theorem isPlain_of_mem_spaces {n : Nat} (h : c ∈ spaces n) : IsPlain c :=
  .inl (List.eq_of_mem_replicate h)

theorem spaces_append (m n : Nat) : spaces m ++ spaces n = spaces (m + n) :=
  List.replicate_append_replicate

/-! ## Cells -/

theorem charWidth_le (c : Char) : charWidth c ≤ 2 := by
  rw [charWidth]
  split
  · omega
  · split <;> omega

theorem clustersAfter_cons (h : IsPlain c) (k : Cluster) (shown : Option Char) (cs : List Char) :
    clustersAfter k shown (c :: cs) =
      if charWidth c = 0 then clustersAfter (k.push c 0) shown cs
      else k :: clustersAfter (.ofChar c) (some c) cs := by
  rw [clustersAfter.eq_def]
  dsimp only
  rw [if_neg h.ne_joiner, if_neg h.ne_emojiSelector]

theorem totalWidth_clustersAfter (k : Cluster) (shown : Option Char) (h : ∀ c ∈ cs, IsPlain c) :
    Cluster.totalWidth (clustersAfter k shown cs) = k.width + (cs.map charWidth).sum := by
  induction cs generalizing k shown with
  | nil => rfl
  | cons c cs ih =>
    obtain ⟨hc, hcs⟩ := List.forall_mem_cons.mp h
    rw [clustersAfter_cons hc, List.map_cons, List.sum_cons]
    split
    · rename_i hzero
      rw [ih _ _ hcs, hzero]
      simp [Cluster.push]
    · rw [Cluster.totalWidth, List.foldr_cons, ← Cluster.totalWidth, ih _ _ hcs]
      rfl

/-- **The cells of a plain text** are those of its characters. -/
theorem cellWidth_of_isPlain (h : ∀ c ∈ cs, IsPlain c) : cellWidth cs = (cs.map charWidth).sum := by
  have hdrop : dropJoined cs = cs := by
    rcases cs with _ | ⟨c, _ | ⟨d, cs⟩⟩
    · rfl
    · rfl
    · rw [dropJoined, if_neg (h c List.mem_cons_self).ne_joiner]
  rw [cellWidth, hdrop]
  rcases cs with _ | ⟨c, cs⟩
  · rfl
  · rw [clusters, totalWidth_clustersAfter _ _ (List.forall_mem_cons.mp h).2]
    rfl

theorem cellWidth_append (hcs : ∀ c ∈ cs, IsPlain c) (hds : ∀ c ∈ ds, IsPlain c) :
    cellWidth (cs ++ ds) = cellWidth cs + cellWidth ds := by
  rw [cellWidth_of_isPlain hcs, cellWidth_of_isPlain hds,
    cellWidth_of_isPlain (List.forall_mem_append.mpr ⟨hcs, hds⟩), List.map_append,
    List.sum_append]

theorem cellWidth_spaces (n : Nat) : cellWidth (spaces n) = n := by
  rw [cellWidth_of_isPlain fun c => isPlain_of_mem_spaces, spaces, List.map_replicate,
    List.sum_replicate]
  exact Nat.mul_one n

theorem cellWidth_append_spaces (h : ∀ c ∈ cs, IsPlain c) (n : Nat) :
    cellWidth (cs ++ spaces n) = cellWidth cs + n := by
  rw [cellWidth_append h fun c => isPlain_of_mem_spaces, cellWidth_spaces]

theorem cellWidth_dropEnd_le (h : ∀ c ∈ cs, IsPlain c) :
    cellWidth (dropEnd isSpace cs) ≤ cellWidth cs := by
  obtain ⟨n, hn⟩ := exists_dropEnd_append h
  have hcells := cellWidth_append_spaces (isPlain_of_mem_dropEnd h) n
  rw [← hn] at hcells
  omega

/-! ## Clusters of a plain text -/

/-- A cluster that has at most two cells, those of its characters. -/
def IsPlainCluster (k : Cluster) : Prop :=
  (∀ c ∈ k.chars, IsPlain c) ∧ k.width = cellWidth k.chars ∧ k.width ≤ 2

theorem isPlainCluster_ofChar (h : IsPlain c) : IsPlainCluster (.ofChar c) := by
  have hplain : ∀ d ∈ [c], IsPlain d := List.forall_mem_singleton.mpr h
  exact ⟨hplain, by rw [Cluster.chars_ofChar, cellWidth_of_isPlain hplain]; rfl, charWidth_le c⟩

/-- A character that fills no cell is added to the cluster before it. -/
theorem IsPlainCluster.push {k : Cluster} (hk : IsPlainCluster k) (h : IsPlain c)
    (hzero : charWidth c = 0) : IsPlainCluster (k.push c 0) := by
  obtain ⟨hchars, hwidth, hle⟩ := hk
  have hplain : ∀ d ∈ [c], IsPlain d := List.forall_mem_singleton.mpr h
  refine ⟨List.forall_mem_append.mpr ⟨hchars, hplain⟩, ?_, hle⟩
  rw [Cluster.chars_push, cellWidth_append hchars hplain, cellWidth_of_isPlain hplain]
  simpa [Cluster.push, hzero] using hwidth

theorem isPlainCluster_of_mem_clustersAfter {k : Cluster} {shown : Option Char}
    (hk : IsPlainCluster k) (h : ∀ c ∈ cs, IsPlain c) :
    ∀ j ∈ clustersAfter k shown cs, IsPlainCluster j := by
  induction cs generalizing k shown with
  | nil =>
    intro j hj
    rwa [List.mem_singleton.mp hj]
  | cons c cs ih =>
    obtain ⟨hc, hcs⟩ := List.forall_mem_cons.mp h
    rw [clustersAfter_cons hc]
    split
    · rename_i hzero
      exact ih (hk.push hc hzero) hcs
    · exact List.forall_mem_cons.mpr ⟨hk, ih (isPlainCluster_ofChar hc) hcs⟩

theorem isPlainCluster_of_mem_clusters (h : ∀ c ∈ cs, IsPlain c) :
    ∀ k ∈ clusters cs, IsPlainCluster k := by
  rcases cs with _ | ⟨c, cs⟩
  · simp [clusters]
  · obtain ⟨hc, hcs⟩ := List.forall_mem_cons.mp h
    exact isPlainCluster_of_mem_clustersAfter (isPlainCluster_ofChar hc) hcs

/-! ## Words -/

/-- A line that is not blank is its words.  White space at the beginning goes with the first word,
so that only in a blank line there is no word that it can go with. -/
theorem flatten_words (line : List Char) (h : line = [] ∨ isBlank line = false) :
    (words line).flatten = line := by
  fun_induction words line with
  | case1 line hdrop =>
    rcases h with rfl | h
    · rfl
    · rw [List.dropWhile_eq_nil_iff] at hdrop
      exact absurd (List.all_eq_true.mpr hdrop) (Bool.eq_false_iff.mp h)
  | case2 line c cs hdrop after ih =>
    -- what is behind a word and its white space is empty or begins with the next word
    have hrest : after.dropWhile isSpace = [] ∨ isBlank (after.dropWhile isSpace) = false := by
      rcases hafter : after.dropWhile isSpace with _ | ⟨d, ds⟩
      · exact .inl rfl
      · have hd := List.head?_dropWhile_not isSpace after
        rw [hafter] at hd
        exact .inr (isBlank_eq_false List.mem_cons_self (by simpa using hd))
    rw [List.flatten_cons, ih hrest, List.append_assoc, List.append_assoc,
      List.takeWhile_append_dropWhile, List.cons_append, List.takeWhile_append_dropWhile, ← hdrop,
      List.takeWhile_append_dropWhile]

/-! ## Folding -/

theorem flatten_foldFrom (width : Nat) (piece : List Char) (used : Nat) (ks : List Cluster) :
    (foldFrom width piece used ks).flatten = piece ++ ks.flatMap Cluster.chars := by
  induction ks generalizing piece used with
  | nil => rw [foldFrom, List.flatten_singleton, List.flatMap_nil, List.append_nil]
  | cons k ks ih =>
    rw [foldFrom, List.flatMap_cons]
    split
    · rw [List.flatten_cons, ih]
    · rw [ih, List.append_assoc]

theorem flatten_fold (width : Nat) (word : List Char) : (fold width word).flatten = word := by
  rw [fold, flatten_foldFrom, flatMap_chars_clusters, List.nil_append]

theorem foldFrom_ne_nil (width : Nat) (piece : List Char) (used : Nat) (ks : List Cluster) :
    foldFrom width piece used ks ≠ [] := by
  induction ks generalizing piece used with
  | nil => simp [foldFrom]
  | cons k ks ih =>
    rw [foldFrom]
    split
    · exact List.cons_ne_nil _ _
    · exact ih _ _

theorem fold_ne_nil (width : Nat) (word : List Char) : fold width word ≠ [] :=
  foldFrom_ne_nil width [] 0 (clusters word)

theorem cellWidth_of_mem_foldFrom {piece : List Char} {ks : List Cluster} (hwidth : 2 ≤ width)
    (hpiece : ∀ c ∈ piece, IsPlain c) (hfits : cellWidth piece ≤ width)
    (hks : ∀ k ∈ ks, IsPlainCluster k) :
    ∀ p ∈ foldFrom width piece (cellWidth piece) ks, cellWidth p ≤ width := by
  induction ks generalizing piece with
  | nil =>
    intro p hp
    rwa [List.mem_singleton.mp hp]
  | cons k ks ih =>
    obtain ⟨⟨hchars, hk, hle⟩, hks⟩ := List.forall_mem_cons.mp hks
    rw [foldFrom, hk]
    split
    · -- the cluster begins the next piece, where there is room for two cells
      exact List.forall_mem_cons.mpr ⟨hfits, ih hchars (by omega) hks⟩
    · have hcells := cellWidth_append hpiece hchars
      rw [← hcells]
      exact ih (List.forall_mem_append.mpr ⟨hpiece, hchars⟩) (by omega) hks

/-- The pieces of a plain word are plain, and they fit. -/
theorem isPlain_of_mem_fold (hwidth : 2 ≤ width) (h : ∀ c ∈ word, IsPlain c) :
    ∀ p ∈ fold width word, (∀ c ∈ p, IsPlain c) ∧ cellWidth p ≤ width := by
  intro p hp
  refine ⟨fun c hc => ?_, ?_⟩
  · exact h c (flatten_fold width word ▸ List.mem_flatten.mpr ⟨p, hp, hc⟩)
  · exact cellWidth_of_mem_foldFrom hwidth (by simp) (Nat.zero_le _)
      (isPlainCluster_of_mem_clusters h) p hp

/-! ## Filling -/

theorem flatten_dropWhile_isEmpty (ws : List (List Char)) :
    (ws.dropWhile (·.isEmpty)).flatten = ws.flatten := by
  induction ws with
  | nil => rfl
  | cons w ws ih =>
    rcases w with _ | ⟨c, w⟩
    · exact ih
    · rfl

/-- The pieces of a word, the last one apart. -/
theorem flatten_dropLast_fold (width : Nat) (word : List Char) :
    (fold width word).dropLast.flatten ++ (fold width word).getLastD [] = word := by
  have hne := fold_ne_nil width word
  rw [List.getLastD_eq_getLast?, List.getLast?_eq_some_getLast hne, Option.getD_some]
  conv_rhs => rw [← flatten_fold width word, ← List.dropLast_concat_getLast hne]
  rw [List.flatten_concat]

/-- **The lines are the words**, with white space between them and at the end. -/
theorem flatten_fill (width : Nat) (line : List Char) (used : Nat) (ws : List (List Char)) :
    (fill width line used ws).flatten = line ++ ws.flatten := by
  induction ws generalizing line used with
  | nil => rw [fill, List.flatten_singleton, List.flatten_nil, List.append_nil]
  | cons word rest ih =>
    rw [fill, List.flatten_cons]
    dsimp only
    split
    · rw [ih, List.append_assoc]
    · split
      · rw [List.flatten_cons, ih]
      · rw [List.flatten_append, ih, flatten_dropWhile_isEmpty, List.flatten_cons,
          List.append_assoc, ← List.append_assoc (fold width word).dropLast.flatten,
          flatten_dropLast_fold]

/-- The last piece of a word, which is the beginning of the next line. -/
theorem getLastD_mem_fold (width : Nat) (word : List Char) :
    (fold width word).getLastD [] ∈ fold width word := by
  have hne := fold_ne_nil width word
  rw [List.getLastD_eq_getLast?, List.getLast?_eq_some_getLast hne]
  exact List.getLast_mem hne

/-- Words that fit into what is left of a line are put there. -/
theorem fill_of_le (hline : ∀ c ∈ line, IsPlain c) (hws : ∀ c ∈ ws.flatten, IsPlain c)
    (h : cellWidth (line ++ ws.flatten) ≤ width) :
    fill width line (cellWidth line) ws = [line ++ ws.flatten] := by
  induction ws generalizing line with
  | nil => rw [fill, List.flatten_nil, List.append_nil]
  | cons word rest ih =>
    rw [List.flatten_cons] at hws h ⊢
    obtain ⟨hword, hrest⟩ := List.forall_mem_append.mp hws
    have hboth : ∀ c ∈ line ++ word, IsPlain c := List.forall_mem_append.mpr ⟨hline, hword⟩
    have hcells := cellWidth_append hline hword
    have hend := cellWidth_dropEnd_le hword
    rw [← List.append_assoc] at h ⊢
    have htotal := cellWidth_append hboth hrest
    rw [fill]
    dsimp only
    rw [if_pos (by omega), ← hcells, ih hboth hrest h]

/-- **Every line fits** without the spaces at its end. -/
theorem cellWidth_of_mem_fill (hwidth : 2 ≤ width) (hline : ∀ c ∈ line, IsPlain c)
    (hws : ∀ c ∈ ws.flatten, IsPlain c) (hfits : cellWidth (dropEnd isSpace line) ≤ width) :
    ∀ l ∈ fill width line (cellWidth line) ws, cellWidth (dropEnd isSpace l) ≤ width := by
  induction ws generalizing line with
  | nil =>
    intro l hl
    rwa [List.mem_singleton.mp hl]
  | cons word rest ih =>
    obtain ⟨hword, hrest⟩ := List.forall_mem_append.mp (List.flatten_cons ▸ hws)
    rw [fill]
    dsimp only
    split
    · -- the word without the spaces at its end fits into the line
      obtain ⟨n, hn⟩ := exists_dropEnd_append hword
      have hbody := isPlain_of_mem_dropEnd hword
      have hle : cellWidth (dropEnd isSpace (line ++ word)) ≤ width := by
        rw [hn, ← List.append_assoc, dropEnd_append_spaces]
        have hend := cellWidth_dropEnd_le (List.forall_mem_append.mpr ⟨hline, hbody⟩)
        have hcells := cellWidth_append hline hbody
        omega
      rw [← cellWidth_append hline hword]
      exact ih (List.forall_mem_append.mpr ⟨hline, hword⟩) hrest hle
    · split
      · exact List.forall_mem_cons.mpr ⟨hfits, ih hword hrest ‹_›⟩
      · have hpiece : ∀ p ∈ fold width word, cellWidth (dropEnd isSpace p) ≤ width := by
          intro p hp
          obtain ⟨hplain, hle⟩ := isPlain_of_mem_fold hwidth hword p hp
          exact (cellWidth_dropEnd_le hplain).trans hle
        -- the last piece is filled up with the words behind it
        have hmem := getLastD_mem_fold width word
        have hlast := (isPlain_of_mem_fold hwidth hword _ hmem).1
        refine List.forall_mem_append.mpr ⟨fun l hl => ?_, ih hlast hrest (hpiece _ hmem)⟩
        rcases List.mem_cons.mp ((List.dropWhile_suffix _).subset hl) with rfl | hl
        · exact hfits
        · exact hpiece l (List.dropLast_subset _ hl)

/-! ## Cropping -/

theorem charWidth_space : charWidth ' ' = 1 := by
  decide

theorem exists_cropBlanks_append (width : Nat) (h : ∀ c ∈ line, IsPlain c) :
    ∃ n, line = cropBlanks width line ++ spaces n := by
  let blanks := line.reverse.takeWhile isSpace
  let surplus := min blanks.length (line.length - width)
  have hdropped : ∀ c ∈ line.drop (line.length - surplus), c = ' ' := by
    intro c hc
    have htake : c ∈ line.reverse.take surplus := by
      rw [List.take_reverse]
      exact List.mem_reverse.mpr hc
    rw [← List.takeWhile_append_dropWhile (p := isSpace) (l := line.reverse),
      List.take_append_of_le_length (Nat.min_le_left _ _)] at htake
    exact (h c (List.mem_of_mem_drop hc)).eq_space
      (List.mem_takeWhile_imp (List.mem_of_mem_take htake))
  refine ⟨(line.drop (line.length - surplus)).length, ?_⟩
  rw [spaces, ← List.eq_replicate_length.mpr hdropped]
  exact (List.take_append_drop _ _).symm

theorem clustersAfter_spaces (k : Cluster) (shown : Option Char) (n : Nat) :
    clustersAfter k shown (spaces n) = k :: List.replicate n (.ofChar ' ') := by
  induction n generalizing k shown with
  | zero => rfl
  | succ n ih =>
    rw [spaces, List.replicate_succ, clustersAfter_cons isPlain_space, charWidth_space,
      if_neg Nat.one_ne_zero, ← spaces, ih, List.replicate_succ]

theorem takeCells_replicate (width n : Nat) :
    takeCells width (List.replicate n (.ofChar ' ')) = spaces (min n width) := by
  induction n generalizing width with
  | zero => rw [Nat.zero_min]; rfl
  | succ n ih =>
    have hcells : (Cluster.ofChar ' ').width = 1 := charWidth_space
    rw [List.replicate_succ, takeCells, hcells]
    split
    · rename_i hzero
      rw [hzero, Nat.min_zero]
      rfl
    · have hmin : min (n + 1) width = min n (width - 1) + 1 := by omega
      rw [if_pos (by omega), ih, hmin]
      rfl

/-- What fits is taken, and spaces after it up to the last cell. -/
theorem takeCells_clustersAfter (k : Cluster) (shown : Option Char) (n : Nat) (hwidth : 0 < width)
    (h : ∀ c ∈ cs, IsPlain c) (hfits : k.width + (cs.map charWidth).sum ≤ width) :
    takeCells width (clustersAfter k shown (cs ++ spaces n)) =
      k.chars ++ cs ++ spaces (min n (width - (k.width + (cs.map charWidth).sum))) := by
  induction cs generalizing k shown width with
  | nil =>
    have hk : k.width ≤ width := hfits
    rw [List.nil_append, clustersAfter_spaces, takeCells, if_neg (by omega), if_pos hk,
      takeCells_replicate, List.append_nil]
    rfl
  | cons c cs ih =>
    obtain ⟨hc, hcs⟩ := List.forall_mem_cons.mp h
    rw [List.map_cons, List.sum_cons] at hfits ⊢
    rw [List.cons_append, clustersAfter_cons hc]
    split
    · rename_i hzero
      rw [hzero, Nat.zero_add] at hfits ⊢
      rw [ih (k.push c 0) shown hwidth hcs hfits, Cluster.chars_push, List.append_assoc k.chars]
      rfl
    · -- a character that fills a cell is still to come, so the line is not full yet
      rw [takeCells, if_neg (by omega), if_pos (by omega),
        ih (.ofChar c) _ (by omega) hcs (show charWidth c + _ ≤ _ by omega), Nat.sub_sub]
      show k.chars ++ ([c] ++ cs ++ spaces _) = _
      rw [List.append_assoc, List.append_assoc]
      rfl

theorem takeCells_clusters (n : Nat) (hwidth : 0 < width) (h : ∀ c ∈ line, IsPlain c)
    (hfits : cellWidth line ≤ width) :
    takeCells width (clusters (line ++ spaces n)) =
      line ++ spaces (min n (width - cellWidth line)) := by
  rcases line with _ | ⟨c, cs⟩
  · have hclusters : clusters (spaces n) = List.replicate n (.ofChar ' ') := by
      cases n with
      | zero => rfl
      | succ n => exact clustersAfter_spaces (.ofChar ' ') _ n
    rw [List.nil_append, hclusters, takeCells_replicate]
    rfl
  · rw [cellWidth_of_isPlain h] at hfits ⊢
    exact takeCells_clustersAfter (.ofChar c) _ n hwidth (List.forall_mem_cons.mp h).2 hfits

/-- A line that fits without the spaces at its end is cut among these. -/
theorem exists_crop_append (hwidth : 0 < width) (h : ∀ c ∈ line, IsPlain c)
    (hfits : cellWidth (dropEnd isSpace line) ≤ width) :
    cellWidth (crop width line) ≤ width ∧ ∃ n, line = crop width line ++ spaces n := by
  rw [crop]
  split
  · exact ⟨‹_›, 0, (List.append_nil _).symm⟩
  · obtain ⟨n, hn⟩ := exists_dropEnd_append h
    have hbody := isPlain_of_mem_dropEnd h
    let room := min n (width - cellWidth (dropEnd isSpace line))
    have htaken : takeCells width (clusters line) = dropEnd isSpace line ++ spaces room := by
      conv_lhs => rw [hn]
      exact takeCells_clusters n hwidth hbody hfits
    rw [htaken]
    refine ⟨?_, n - room, ?_⟩
    · rw [cellWidth_append_spaces hbody]
      omega
    · have hroom : room + (n - room) = n := by omega
      rw [List.append_assoc, spaces_append, hroom]
      exact hn

/-- **A line** keeps all but spaces at its end, and what is kept fits. -/
theorem exists_crop_cropBlanks_append (hwidth : 0 < width) (h : ∀ c ∈ line, IsPlain c)
    (hfits : cellWidth (dropEnd isSpace line) ≤ width) :
    cellWidth (crop width (cropBlanks width line)) ≤ width ∧
      ∃ n, line = crop width (cropBlanks width line) ++ spaces n := by
  obtain ⟨n, hn⟩ := exists_cropBlanks_append width h
  have hkept : ∀ c ∈ cropBlanks width line, IsPlain c := fun c hc =>
    h c (hn ▸ List.mem_append_left _ hc)
  have hend : dropEnd isSpace (cropBlanks width line) = dropEnd isSpace line := by
    conv_rhs => rw [hn, dropEnd_append_spaces]
  obtain ⟨hcells, m, hm⟩ := exists_crop_append hwidth hkept (hend ▸ hfits)
  refine ⟨hcells, m + n, ?_⟩
  conv_lhs => rw [hn, hm]
  rw [List.append_assoc, spaces_append]

/-! ## A wrapped text -/

/-- A plain text is one line, and its words are filled into lines. -/
theorem wrap_of_isPlain (width : Nat) (h : ∀ c ∈ text, IsPlain c) (hblank : isBlank text = false) :
    wrap width text =
      (fill width [] 0 (words text)).map fun l => crop width (cropBlanks width l) := by
  have hbreak : '\n' ∉ text := fun hmem =>
    (h _ hmem).ne_of_isSpace (by decide) (by decide) rfl
  have hwords : words text ≠ [] := by
    intro hnil
    have hflat := flatten_words text (.inr hblank)
    rw [hnil] at hflat
    rw [← hflat] at hblank
    cases hblank
  rw [wrap, dropControls_of_isPlain h, splitOn_of_not_mem hbreak, List.flatMap_singleton, wrapLine,
    expandTabs_of_isPlain h]
  obtain ⟨w, ws, hws⟩ := List.exists_cons_of_ne_nil hwords
  simp only [hws]

/-- **How a plain text is wrapped**, if it ends with a visible character. -/
theorem isWrapped_wrap (hwidth : 2 ≤ width) (h : ∀ c ∈ text, IsPlain c)
    (hlast : text.getLast? = some c) (hc : isSpace c = false) :
    IsWrapped width text (wrap width text) := by
  have hblank : isBlank text = false := isBlank_eq_false (List.mem_of_getLast? hlast) hc
  have hwords := flatten_words text (.inr hblank)
  have hplain : ∀ c ∈ (words text).flatten, IsPlain c := by rwa [hwords]
  have hflat : (fill width [] 0 (words text)).flatten = text := by
    rw [flatten_fill, hwords, List.nil_append]
  rw [wrap_of_isPlain width h hblank]
  have hline : ∀ l ∈ fill width [] 0 (words text),
      cellWidth (crop width (cropBlanks width l)) ≤ width ∧
        ∃ n, l = crop width (cropBlanks width l) ++ spaces n := by
    intro l hl
    refine exists_crop_cropBlanks_append (by omega) (fun c hc => ?_) ?_
    · exact h c (hflat ▸ List.mem_flatten.mpr ⟨l, hl, hc⟩)
    · exact cellWidth_of_mem_fill hwidth (by simp) hplain (Nat.zero_le _) l hl
  refine ⟨⟨_, hflat, ?_⟩, ?_, fun hfits => ?_⟩
  · rw [List.forall₂_map_left_iff, List.forall₂_same]
    exact fun l hl => (hline l hl).2
  · intro shown hshown
    obtain ⟨l, hl, rfl⟩ := List.mem_map.mp hshown
    exact (hline l hl).1
  · have hfill : fill width [] 0 (words text) = [text] := by
      have hle : cellWidth ([] ++ (words text).flatten) ≤ width := by rwa [hwords]
      simpa [hwords] using fill_of_le (by simp) hplain hle
    -- there is no space at the end to be dropped
    have hkept : cropBlanks width text = text := by
      obtain ⟨init, rfl⟩ := List.getLast?_eq_some_iff.mp hlast
      simp [cropBlanks, hc]
    rw [hfill, List.map_singleton, hkept, crop, if_pos hfits]

end Terminal

/-! ## Expressions with their values -/

open Text Terminal

variable {c : Char}

/-- The characters of lexemes are plain, and no white space. -/
theorem isPlain_of_spelled
    (h : isAlphanumeric c = true ∨ c ∈ ['+', '-', '*', '/', '^', '(', ')', '.']) :
    isSpace c = false ∧ IsPlain c := by
  rcases h with halpha | hsymbol
  · have hspace := isSpace_eq_false_of_isAlphanumeric halpha
    have hcontrol : c.toNat ∉ [7, 8] := by
      intro hmem
      have hnone : ∀ n ∈ [7, 8], (letterRuns.contains n || numericRuns.contains n) = false := by
        decide
      exact Bool.false_ne_true ((hnone _ hmem).symm.trans halpha)
    exact ⟨hspace, .inr ⟨hspace, hcontrol, ne_of_isAlphanumeric halpha (by decide +kernel),
      ne_of_isAlphanumeric halpha (by decide +kernel)⟩⟩
  · simp only [List.mem_cons, List.not_mem_nil, or_false] at hsymbol
    rcases hsymbol with rfl | rfl | rfl | rfl | rfl | rfl | rfl | rfl <;>
      exact ⟨by decide, .inr (by decide)⟩

theorem isPlain_of_mem_numberChars {x : Float} (h : c ∈ numberChars x) :
    isSpace c = false ∧ IsPlain c := by
  obtain ⟨seg, hseg, hchars⟩ := spells_numeral x
  rw [hchars] at h
  rcases List.mem_append.mp h with h | h
  · split at h
    · rw [List.mem_singleton.mp h]
      exact isPlain_of_spelled (.inr (by decide))
    · cases h
  · exact isPlain_of_spelled (hseg.mem h)

theorem numberChars_ne_nil (x : Float) : numberChars x ≠ [] := by
  obtain ⟨seg, hseg, hchars⟩ := spells_numeral x
  rw [hchars]
  exact List.append_ne_nil_of_right_ne_nil _ hseg.ne_nil

theorem Expr.isPlain_of_mem_chars {e : Expr} {outer : Option Operator}
    (hnames : ∀ name ∈ e.occurrences, isIdentifier name = true) :
    ∀ c ∈ e.chars outer, IsPlain c := by
  induction e generalizing outer with
  | value x => exact fun c hc => (isPlain_of_mem_numberChars hc).2
  | var name =>
    intro c hc
    exact (isPlain_of_spelled
      (.inl (isAlphanumeric_of_mem_name (hnames name List.mem_cons_self) hc))).2
  | operation op l r ihl ihr =>
    have hl := fun name hname => hnames name (List.mem_append_left _ hname)
    have hr := fun name hname => hnames name (List.mem_append_right _ hname)
    have hsymbol : IsPlain op.symbol := by
      cases op <;> exact .inr (by decide)
    have hbody : ∀ c ∈ l.chars (some op) ++ ' ' :: op.symbol :: ' ' :: r.chars (some op),
        IsPlain c :=
      List.forall_mem_append.mpr ⟨ihl hl, List.forall_mem_cons.mpr ⟨isPlain_space,
        List.forall_mem_cons.mpr ⟨hsymbol, List.forall_mem_cons.mpr ⟨isPlain_space, ihr hr⟩⟩⟩⟩
    rw [chars]
    split
    · exact hbody
    · exact List.forall_mem_cons.mpr ⟨.inr (by decide),
        List.forall_mem_append.mpr ⟨hbody, fun c hc => List.mem_singleton.mp hc ▸ .inr (by decide)⟩⟩

/-- **What is shown of an expression and its value** is the text of the expression, an equals sign
and the text of the value, wrapped to the width of the terminal. -/
theorem Display.result_isWrapped {e : Expr}
    (hnames : ∀ name ∈ e.occurrences, isIdentifier name = true) (x : Float) :
    ∃ lines, IsWrapped terminalWidth (e.format ++ " = " ++ formatNumber x).toList lines ∧
      result e x = joinLines lines := by
  have htext : (e.format ++ " = " ++ formatNumber x).toList =
      e.chars none ++ [' ', '=', ' '] ++ numberChars x := by
    simp only [String.toList_append, Expr.format, Expr.formatUnder, formatNumber,
      String.toList_ofList]
    rfl
  have hequals : ∀ c ∈ [' ', '=', ' '], IsPlain c := by
    simp only [List.forall_mem_cons]
    exact ⟨isPlain_space, .inr (by decide), isPlain_space, by simp⟩
  have hlast := List.getLast?_eq_some_getLast (numberChars_ne_nil x)
  refine ⟨_, ?_, rfl⟩
  rw [htext]
  refine isWrapped_wrap (by decide) ?_ ?_
    (isPlain_of_mem_numberChars (List.getLast_mem (numberChars_ne_nil x))).1
  · exact List.forall_mem_append.mpr ⟨List.forall_mem_append.mpr
      ⟨Expr.isPlain_of_mem_chars hnames, hequals⟩, fun c hc => (isPlain_of_mem_numberChars hc).2⟩
  · rw [List.getLast?_append_of_ne_nil _ (numberChars_ne_nil x), hlast]

end Calculator
