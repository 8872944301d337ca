import Backtick.Comment
import Backtick.Proofs.Outcome
import Backtick.Proofs.Text.Offset
import Backtick.Proofs.Tree

/-!
# Leading comments are the longest run

In a tree whose nodes nest, comments that are apart from each other end in document order. So the
last comment that ends at or before an offset is found by bisection, and going backwards from there
finds what a look at every comment finds: the longest run of comments that leads up to the offset.

* `RunsUpTo` — comments that lead up to an offset
* `sublist_leadingScan` — every such run is part of the one that is found
* `CommentIndex.leading_eq_mapM` — bisection and the way back, and the look at every comment
* `leading_longest` — the bodies that are given
-/

namespace Backtick

open Utf8

variable {source : Bytes} {text : Text} {root : Node} {offset : Nat}

/-! ## Blanks -/

/-- The bytes between two offsets, cut at a third one between them. -/
theorem Bytes.slice_eq_append {a b c : Nat} (hab : a ≤ b) (hbc : b ≤ c) :
    Bytes.slice source a c = Bytes.slice source a b ++ Bytes.slice source b c := by
  have hlength : c - a = (b - a) + (c - b) := by omega
  have hdrop : source.drop b = (source.drop a).drop (b - a) := by
    rw [List.drop_drop, Nat.add_sub_cancel' hab]
  unfold Bytes.slice
  rw [hlength, List.take_add, hdrop]

/-- Only ASCII blanks stand between two offsets. -/
def Blank (source : Bytes) (start stop : Nat) : Prop :=
  ∀ b ∈ Bytes.slice source start stop, Text.isAsciiBlank b.toNat = true

theorem isGap_iff {a b : Nat} : isGap source a b = true ↔ Blank source a b := by
  unfold isGap Blank
  exact List.all_eq_true

theorem Blank.split {a b c : Nat} (h : Blank source a c) (hab : a ≤ b) (hbc : b ≤ c) :
    Blank source a b ∧ Blank source b c := by
  unfold Blank at h
  rw [Bytes.slice_eq_append hab hbc] at h
  exact List.forall_mem_append.mp h

/-! ## Runs of comments -/

/-- Comments, the nearest one first, that lead up to an offset: the first one stops at or before the
offset and every other one at or before the start of its neighbour, with only ASCII blanks in
between. -/
def RunsUpTo (source : Bytes) : (offset : Nat) → List Span → Prop
  | _, [] => True
  | offset, s :: earlier =>
    s.stop ≤ offset ∧ Blank source s.stop offset ∧ RunsUpTo source s.start earlier

/-- No comment of a run stops behind the offset. -/
theorem RunsUpTo.stop_le : ∀ {offset : Nat} {run : List Span}, RunsUpTo source offset run →
    (∀ s ∈ run, s.start < s.stop) → ∀ s ∈ run, s.stop ≤ offset
  | offset, t :: earlier, ⟨hstop, _, hearlier⟩, hlong, s, hs => by
    rcases List.mem_cons.mp hs with rfl | hs
    · exact hstop
    · have ht := hlong t List.mem_cons_self
      have hle := hearlier.stop_le (fun u hu => hlong u (List.mem_cons_of_mem _ hu)) s hs
      omega

/-- Going over the comments from the last to the first finds a run. -/
theorem runsUpTo_leadingScan (spans : List Span) (offset : Nat) :
    RunsUpTo source offset (leadingScan source spans offset) := by
  induction spans generalizing offset with
  | nil => trivial
  | cons s earlier ih =>
    rw [leadingScan]
    split
    · next hstop =>
      split
      · next hgap => exact ⟨hstop, isGap_iff.mp hgap, ih s.start⟩
      · trivial
    · exact ih offset

theorem leadingScan_sublist (spans : List Span) (offset : Nat) :
    (leadingScan source spans offset).Sublist spans := by
  induction spans generalizing offset with
  | nil => exact List.Sublist.slnil
  | cons s earlier ih =>
    rw [leadingScan]
    split
    · split
      · exact (ih s.start).cons_cons s
      · exact List.nil_sublist _
    · exact (ih offset).cons s

/-- Comments that stop behind the offset are passed over. -/
theorem leadingScan_append {later : List Span} (h : ∀ s ∈ later, offset < s.stop)
    (spans : List Span) :
    leadingScan source (later ++ spans) offset = leadingScan source spans offset := by
  induction later with
  | nil => rfl
  | cons s later ih =>
    have hs := h s List.mem_cons_self
    rw [List.cons_append, leadingScan, if_neg (Nat.not_le.mpr hs)]
    exact ih fun t ht => h t (List.mem_cons_of_mem _ ht)

/-- **The run that is found is the longest one.** Every run of comments that are apart from each
other is part of it. -/
theorem sublist_leadingScan {spans run : List Span} (hlong : ∀ s ∈ spans, s.start < s.stop)
    (hdescend : spans.Pairwise fun s t => t.stop ≤ s.start) (hmem : ∀ s ∈ run, s ∈ spans)
    (hrun : RunsUpTo source offset run) : run.Sublist (leadingScan source spans offset) := by
  induction spans generalizing offset run with
  | nil =>
    cases run with
    | nil => exact List.Sublist.slnil
    | cons s _ => exact absurd (hmem s List.mem_cons_self) List.not_mem_nil
  | cons s earlier ih =>
    obtain ⟨hbefore, hearlier⟩ := List.pairwise_cons.mp hdescend
    have hs := hlong s List.mem_cons_self
    have hlong' : ∀ t ∈ earlier, t.start < t.stop :=
      fun t ht => hlong t (List.mem_cons_of_mem _ ht)
    -- a run that leads up to a place in front of the end of `s` does without `s`
    have hwithout : ∀ {place : Nat} {rest : List Span}, place < s.stop →
        RunsUpTo source place rest → (∀ t ∈ rest, t ∈ s :: earlier) → ∀ t ∈ rest, t ∈ earlier := by
      intro place rest hplace hrest hmem t ht
      have hle := hrest.stop_le (fun u hu => hlong u (hmem u hu)) t ht
      rcases List.mem_cons.mp (hmem t ht) with rfl | h
      · omega
      · exact h
    rw [leadingScan]
    cases run with
    | nil => exact List.nil_sublist _
    | cons t rest =>
      obtain ⟨hstop, hblank, hrest⟩ := hrun
      split
      · next hle =>
        rcases List.mem_cons.mp (hmem t List.mem_cons_self) with rfl | ht
        · -- the run begins with `s`
          have hrestMem := hwithout hs hrest fun u hu => hmem u (List.mem_cons_of_mem _ hu)
          rw [if_pos (isGap_iff.mpr hblank)]
          exact (ih hlong' hearlier hrestMem hrest).cons_cons t
        · -- the run begins in front of `s`, so `s` stands among blanks
          have htstop := hbefore t ht
          obtain ⟨hfront, hback⟩ := hblank.split (Nat.le_trans htstop (Nat.le_of_lt hs)) hle
          have hfront : Blank source t.stop s.start :=
            (hfront.split htstop (Nat.le_of_lt hs)).1
          have hrun : RunsUpTo source s.start (t :: rest) := ⟨htstop, hfront, hrest⟩
          rw [if_pos (isGap_iff.mpr hback)]
          exact (ih hlong' hearlier (hwithout hs hrun hmem) hrun).cons s
      · next hle =>
        have hrun : RunsUpTo source offset (t :: rest) := ⟨hstop, hblank, hrest⟩
        exact ih hlong' hearlier (hwithout (Nat.not_le.mp hle) hrun hmem) hrun

/-! ## Bisection -/

namespace CommentIndex

/-- Where the comment at a position stops. -/
def stopAt (spans : Array Span) (i : Nat) : Nat := (spans[i]?.getD default).stop

/-- What is known while bisecting: the comments in front of `low` stop at or before the offset,
those from `high` on behind it. -/
structure Splits (spans : Array Span) (offset low high : Nat) : Prop where
  le : low ≤ high
  size : high ≤ spans.size
  below : ∀ i < low, stopAt spans i ≤ offset
  above : ∀ i, high ≤ i → i < spans.size → offset < stopAt spans i

/-- Bisection ends at the place between the two kinds of comments. -/
theorem bisect_splits {spans : Array Span} {low high : Nat}
    (hascend : ∀ i j, i ≤ j → j < spans.size → stopAt spans i ≤ stopAt spans j)
    (h : Splits spans offset low high) :
    Splits spans offset (bisect spans offset low high) (bisect spans offset low high) := by
  fun_induction bisect spans offset low high with
  | case1 low high hlt middle hpast ih =>
    refine ih ⟨by omega, by have := h.size; omega, h.below, ?_⟩
    intro i hi hsize
    exact Nat.lt_of_lt_of_le hpast (hascend middle i hi hsize)
  | case2 low high hlt middle hpast ih =>
    have hmiddle : middle < spans.size := by have := h.size; omega
    refine ih ⟨by omega, h.size, ?_, h.above⟩
    intro i hi
    exact Nat.le_trans (hascend i middle (by omega) hmiddle) (Nat.not_lt.mp hpast)
  | case3 low high hlt =>
    have heq : low = high := by have := h.le; omega
    subst heq
    exact h

/-! ## The way back -/

/-- From the first `n` comments, going backwards takes what a look at every comment takes. -/
theorem backwards_eq_mapM {index : CommentIndex} {spans : List Span}
    (hspans : index.spans = spans.toArray)
    (hascend : spans.Pairwise fun s t => s.stop ≤ t.start) {n cursor : Nat} (hn : n ≤ spans.length)
    (hstop : ∀ s ∈ spans.take n, s.stop ≤ cursor) :
    index.backwards n cursor =
      (leadingScan index.source (spans.take n).reverse cursor).mapM (Span.body index.source) := by
  induction n generalizing cursor with
  | zero => rfl
  | succ n ih =>
    have hspan : index.spans[n]?.getD default = spans[n] := by
      rw [hspans, List.getElem?_toArray, List.getElem?_eq_getElem hn, Option.getD_some]
    have htake : spans.take (n + 1) = spans.take n ++ [spans[n]] :=
      List.take_succ_eq_append_getElem hn
    have hlast : spans[n].stop ≤ cursor := by
      refine hstop _ ?_
      rw [htake]
      exact List.mem_append_right _ (List.mem_singleton_self _)
    have hearlier : ∀ s ∈ spans.take n, s.stop ≤ spans[n].start := by
      intro s hs
      obtain ⟨i, hi, rfl⟩ := List.mem_take_iff_getElem.mp hs
      exact List.pairwise_iff_getElem.mp hascend i n (by omega) hn (by omega)
    rw [backwards, htake, List.reverse_append, List.reverse_singleton, List.singleton_append,
      leadingScan, if_pos hlast, hspan]
    split
    · rw [ih (by omega) hearlier, List.mapM_cons]
    · rfl

/-- In comments that end in ascending order, the search finds what a look at every comment finds. -/
theorem leading_eq_mapM {index : CommentIndex} {spans : List Span}
    (hspans : index.spans = spans.toArray) (hlong : ∀ s ∈ spans, s.start ≤ s.stop)
    (hascend : spans.Pairwise fun s t => s.stop ≤ t.start) (offset : Nat) :
    index.leading offset =
      (leadingScan index.source spans.reverse offset).mapM (Span.body index.source) := by
  have hstopAt : ∀ i (h : i < spans.length), stopAt index.spans i = spans[i].stop := by
    intro i h
    unfold stopAt
    rw [hspans, List.getElem?_toArray, List.getElem?_eq_getElem h, Option.getD_some]
  have hsize : index.spans.size = spans.length := by rw [hspans, List.size_toArray]
  have hends : ∀ i j, i ≤ j → j < index.spans.size →
      stopAt index.spans i ≤ stopAt index.spans j := by
    intro i j hij hj
    rw [hsize] at hj
    rw [hstopAt i (by omega), hstopAt j hj]
    rcases Nat.eq_or_lt_of_le hij with rfl | hij
    · exact Nat.le_refl _
    · have hbefore := List.pairwise_iff_getElem.mp hascend i j (by omega) hj hij
      have hle := hlong spans[j] (List.getElem_mem hj)
      omega
  -- the comments in front of the place that bisection finds can lead, those behind it cannot
  have hsplits := bisect_splits hends
    (⟨Nat.zero_le _, Nat.le_refl _, nofun, fun i hi hlt => by omega⟩ :
      Splits index.spans offset 0 index.spans.size)
  unfold leading
  generalize bisect index.spans offset 0 index.spans.size = k at hsplits ⊢
  have hk : k ≤ spans.length := by have := hsplits.size; omega
  have hbelow : ∀ s ∈ spans.take k, s.stop ≤ offset := by
    intro s hs
    obtain ⟨i, hi, rfl⟩ := List.mem_take_iff_getElem.mp hs
    rw [← hstopAt i (by omega)]
    exact hsplits.below i (by omega)
  have habove : ∀ s ∈ (spans.drop k).reverse, offset < s.stop := by
    intro s hs
    obtain ⟨i, hi, rfl⟩ := List.mem_drop_iff_getElem.mp (List.mem_reverse.mp hs)
    rw [← hstopAt (k + i) (by omega)]
    exact hsplits.above (k + i) (by omega) (by omega)
  have hreverse : spans.reverse = (spans.drop k).reverse ++ (spans.take k).reverse := by
    rw [← List.reverse_append, List.take_append_drop]
  rw [backwards_eq_mapM hspans hascend hk hbelow, hreverse, leadingScan_append habove]

end CommentIndex

/-! ## The comments of a tree -/

/-- The bytes that the comments of a tree span, in document order. -/
def commentSpans (root : Node) : List Span :=
  ((Node.preorder root).filter Node.isComment).map fun n => ⟨n.start, n.stop⟩

theorem CommentIndex.spans_ofTree (root : Node) (source : Bytes) :
    (CommentIndex.ofTree root source).spans = (commentSpans root).toArray := by
  unfold CommentIndex.ofTree commentSpans
  rw [walk_eq]

/-- The nodes of a tree nest, and its comments start and end between characters, are not empty and
have no byte in common. -/
structure Node.Commented (root : Node) (source : Bytes) : Prop where
  nested : Nested root
  bounds : ∀ s ∈ commentSpans root, OnBoundary source s.start ∧ OnBoundary source s.stop
  nonempty : ∀ s ∈ commentSpans root, s.start < s.stop
  apart : (commentSpans root).Pairwise fun s t => s.stop ≤ t.start ∨ t.stop ≤ s.start

/-- In document order, each comment stops before the next one starts. -/
theorem Node.Commented.ascend (h : root.Commented source) :
    (commentSpans root).Pairwise fun s t => s.stop ≤ t.start := by
  have hstarts : (commentSpans root).Pairwise fun s t => s.start ≤ t.start :=
    List.pairwise_map.mpr (h.nested.starts_ascend.filter _)
  -- the second comment is not empty, so it cannot stop at or before the start of the first
  refine (hstarts.and h.apart).imp_of_mem ?_
  rintro s t - ht ⟨hstart, happart⟩
  have hlong := h.nonempty t ht
  omega

/-- The characters of a comment. -/
def Span.chars (source : Bytes) (text : Text) (s : Span) : Text :=
  Text.slice text (charsBefore source s.start) (charsBefore source s.stop)

theorem Span.body_eq {s : Span} (hs : Spells source text) (hstart : OnBoundary source s.start)
    (hstop : OnBoundary source s.stop) (hle : s.start ≤ s.stop) :
    s.body source = .ok (commentBody (s.chars source text)) := by
  have hslice := (hstart.between hstop hle hs).2
  unfold Span.body Span.chars Bytes.slice
  rw [← List.drop_take, decode_iff.mpr hslice, Text.slice_natCast]
  rfl

/-- The inside of a comment that starts and ends between characters is a text. -/
theorem Span.body_ok {s : Span} (hs : Spells source text) (hstart : OnBoundary source s.start)
    (hstop : OnBoundary source s.stop) : ∃ body, s.body source = .ok body := by
  by_cases h : s.start ≤ s.stop
  · exact ⟨_, Span.body_eq hs hstart hstop h⟩
  · have hlen : (source.take s.stop).length ≤ s.start := by
      rw [List.length_take]
      omega
    unfold Span.body Bytes.slice
    rw [← List.drop_take, List.drop_eq_nil_of_le hlen, decode_iff.mpr .nil]
    exact ⟨_, rfl⟩

/-- Going backwards does not fail where the comments start and end between characters. -/
theorem CommentIndex.backwards_ok {index : CommentIndex} (hs : Spells index.source text)
    (hspans : ∀ s ∈ index.spans,
      OnBoundary index.source s.start ∧ OnBoundary index.source s.stop) (n cursor : Nat) :
    ∃ bodies, index.backwards n cursor = .ok bodies := by
  induction n generalizing cursor with
  | zero => exact ⟨[], rfl⟩
  | succ n ih =>
    unfold backwards
    dsimp only
    split
    · have hspan : OnBoundary index.source (index.spans[n]?.getD default).start ∧
          OnBoundary index.source (index.spans[n]?.getD default).stop := by
        cases hn : index.spans[n]? with
        | none => exact ⟨.zero _, .zero _⟩
        | some s => exact hspans s (Array.mem_of_getElem? hn)
      obtain ⟨body, hbody⟩ := Span.body_ok hs hspan.1 hspan.2
      obtain ⟨bodies, hbodies⟩ := ih (index.spans[n]?.getD default).start
      rw [hbody, hbodies]
      exact ⟨body :: bodies, rfl⟩
    · exact ⟨[], rfl⟩

/-- Operations that all succeed give the list of their results. -/
theorem mapM_eq_ok {ε α β : Type} {f : α → Except ε β} {g : α → β} :
    ∀ {xs : List α}, (∀ x ∈ xs, f x = .ok (g x)) → xs.mapM f = .ok (xs.map g)
  | [], _ => rfl
  | x :: xs, h => by
    rw [List.mapM_cons, h x List.mem_cons_self,
      mapM_eq_ok fun y hy => h y (List.mem_cons_of_mem _ hy)]
    rfl

/-! ## The insides of comments -/

/-- The inside of a block comment stands between its marks. -/
theorem commentBody_block (inside : Text) : commentBody ("/*" ++ inside ++ "*/") = inside := by
  have hopen : List.isPrefixOf ("/*" : Text) ("/*" ++ inside ++ "*/") = true :=
    List.isPrefixOf_iff_prefix.mpr ⟨inside ++ "*/", (List.append_assoc ..).symm⟩
  have hclose : List.isSuffixOf ("*/" : Text) ("/*" ++ inside ++ "*/") = true :=
    List.isSuffixOf_iff_suffix.mpr ⟨"/*" ++ inside, rfl⟩
  have hmarks : ("/*" : Text).length = 2 ∧ ("*/" : Text).length = 2 := ⟨rfl, rfl⟩
  have hlength : (("/*" : Text) ++ inside ++ "*/").length = ("/*" ++ inside : Text).length + 2 := by
    rw [List.length_append, hmarks.2]
  have hstop : Text.position (("/*" : Text) ++ inside ++ "*/").length (-2) =
      ("/*" ++ inside : Text).length := by
    unfold Text.position
    rw [if_pos (by omega), hlength]
    omega
  have hstart :
      Text.position (("/*" : Text) ++ inside ++ "*/").length 2 = ("/*" : Text).length := by
    rw [Text.position_of_nonneg (by omega), hlength, hmarks.1]
    omega
  unfold commentBody
  rw [if_pos hopen, if_pos hclose, Text.slice, hstop, hstart, List.take_left, List.drop_left]

/-- The inside of a line comment stands behind its mark. -/
theorem commentBody_line (inside : Text) : commentBody ("//" ++ inside) = inside := by
  have hblock : List.isPrefixOf ("/*" : Text) ("//" ++ inside) = false := rfl
  have hline : List.isPrefixOf ("//" : Text) ("//" ++ inside) = true :=
    List.isPrefixOf_iff_prefix.mpr ⟨inside, rfl⟩
  unfold commentBody
  rw [hblock, if_neg Bool.false_ne_true, if_pos hline]
  rfl

/-- **Leading comments are the longest run.** In a tree whose nodes nest and whose comments are
apart from each other, the comments that lead a node are a run up to its start, and every other run
up to there is part of this one. They stand at any level of the tree, in front of the node, and are
what a look at every comment finds. Their insides are given, the nearest one first. -/
theorem leading_longest (hs : encode text = .ok source) (h : root.Commented source) (n : Node) :
    ∃ run : List Span, (∀ s ∈ run, s ∈ commentSpans root) ∧ RunsUpTo source n.start run ∧
      (∀ other : List Span, (∀ s ∈ other, s ∈ commentSpans root) →
        RunsUpTo source n.start other → other.Sublist run) ∧
      run = leadingScan source (commentSpans root).reverse n.start ∧
      (∀ s ∈ run, s.stop ≤ n.start) ∧
      (CommentIndex.ofTree root source).leading n.start =
        .ok (run.map fun s => commentBody (s.chars source text)) ∧
      ∀ inside : Text, commentBody ("/*" ++ inside ++ "*/") = inside ∧
        commentBody ("//" ++ inside) = inside := by
  have hs := encode_iff.mp hs
  have hlong : ∀ s ∈ (commentSpans root).reverse, s.start < s.stop :=
    fun s hmem => h.nonempty s (List.mem_reverse.mp hmem)
  have hrun : RunsUpTo source n.start
      (leadingScan source (commentSpans root).reverse n.start) := runsUpTo_leadingScan _ _
  have hmem : ∀ s ∈ leadingScan source (commentSpans root).reverse n.start,
      s ∈ commentSpans root :=
    fun s hin => List.mem_reverse.mp ((leadingScan_sublist _ _).mem hin)
  refine ⟨_, hmem, hrun, ?_, rfl, hrun.stop_le fun s hin => h.nonempty s (hmem s hin), ?_,
    fun inside => ⟨commentBody_block inside, commentBody_line inside⟩⟩
  · intro other hother hruns
    exact sublist_leadingScan hlong (List.pairwise_reverse.mpr h.ascend)
      (fun s hin => List.mem_reverse.mpr (hother s hin)) hruns
  · rw [CommentIndex.leading_eq_mapM (CommentIndex.spans_ofTree root source)
      (fun s hin => Nat.le_of_lt (h.nonempty s hin)) h.ascend]
    refine mapM_eq_ok fun s hin => ?_
    obtain ⟨hstart, hstop⟩ := h.bounds s (hmem s hin)
    exact Span.body_eq hs hstart hstop (Nat.le_of_lt (h.nonempty s (hmem s hin)))

/-- A literal with comments around it: one behind a letter, two that lead it, one that follows. -/
def ledText : Text := "/*x*/z//a\n\t/*tsx*/`b`/*y*/"

/-- The bytes of the text, one for each character. -/
def ledSource : Bytes := ledText.map fun c => UInt8.ofNat c.val

/-- The literal. -/
def ledLiteral : Node := ⟨"template_string", 18, 21, (1, 8), false, false, []⟩

/-- The tree of the text. Two of the comments lie in a statement of their own. -/
def ledTree : Node :=
  ⟨"program", 0, 26, (0, 0), false, false,
    [⟨"expression_statement", 0, 9, (0, 0), false, false,
        [⟨"comment", 0, 5, (0, 0), false, false, []⟩,
          ⟨"identifier", 5, 6, (0, 5), false, false, []⟩,
          ⟨"comment", 6, 9, (0, 6), false, false, []⟩]⟩,
      ⟨"comment", 11, 18, (1, 1), false, false, []⟩,
      ledLiteral,
      ⟨"comment", 21, 26, (1, 11), false, false, []⟩]⟩

theorem ledTree_spans : commentSpans ledTree = [⟨0, 5⟩, ⟨6, 9⟩, ⟨11, 18⟩, ⟨21, 26⟩] := by
  decide +kernel

theorem ledTree_commented : ledTree.Commented ledSource where
  nested := by simp [ledTree, ledLiteral, Node.Nested, Node.NestedIn]
  bounds := by
    rw [ledTree_spans]
    decide +kernel
  nonempty := by
    rw [ledTree_spans]
    decide
  apart := by
    rw [ledTree_spans]
    decide

/-- The two comments in front of the literal lead it, though one of them lies in a statement. No run
is longer: the letter keeps the first comment away. -/
theorem leading_led :
    (CommentIndex.ofTree ledTree ledSource).leading ledLiteral.start = .ok ["tsx", "a"] ∧
      ∀ other : List Span, (∀ s ∈ other, s ∈ commentSpans ledTree) →
        RunsUpTo ledSource ledLiteral.start other → other.Sublist [⟨11, 18⟩, ⟨6, 9⟩] := by
  have hs : encode ledText = .ok ledSource := by cbv
  obtain ⟨run, -, -, hlongest, hrun, -, hleading, -⟩ :=
    leading_longest hs ledTree_commented ledLiteral
  have hscan : leadingScan ledSource (commentSpans ledTree).reverse ledLiteral.start =
      [⟨11, 18⟩, ⟨6, 9⟩] := by decide +kernel
  rw [hscan] at hrun
  rw [hrun] at hlongest hleading
  refine ⟨hleading.trans (congrArg _ ?_), hlongest⟩
  decide +kernel

end Backtick
