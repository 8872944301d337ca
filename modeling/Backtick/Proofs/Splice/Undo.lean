import Backtick.Proofs.Splice.Backwards

/-!
# Splicing can be undone

A text with its regions and the texts that replace them is a row of pieces: a gap that stays, what
stands in a region, and what replaces that. Splicing leads from the one side of the pieces to the
other, so it is undone by splicing the pieces turned round. Turned round, a region is as long as its
new text, and it is shifted by what the text has grown in front of it.

* `spliceFrom_pieces` — the pass over the regions of pieces
* `FollowFrom.exists_pieces` — regions that follow each other cut their text into pieces
* `Piece.regions_swap` — the regions of pieces turned round
* `splice_undone` — the original slices spliced back in
-/

namespace Backtick

/-- By how many characters a text grows when regions get new texts. -/
def growth : List (Region × Text) → Int
  | [] => 0
  | (r, new) :: rest => new.length - r.length + growth rest

/-- Where the new texts of regions stand when all of them are in their places: each region starts
later by what the text has grown in front of it, and is as long as its new text. -/
def shifted (pairs : List (Region × Text)) : List Region :=
  pairs.mapIdx fun i (r, new) =>
    let start := r.start + growth (pairs.take i)
    ⟨i, start, start + new.length⟩

/-- The slices of regions, as results for them. -/
def originals (text : Text) (regions : List Region) : List Replacement :=
  regions.map fun r => ⟨r.index, r.slice text⟩

/-! ## Pieces -/

/-- What stands in front of a region, what stands in it, and what replaces that. -/
structure Piece where
  gap : Text
  old : Text
  new : Text

namespace Piece

/-- The piece of the way back. -/
def swap (p : Piece) : Piece := ⟨p.gap, p.new, p.old⟩

/-- The text that pieces make up with what follows them, as long as nothing is replaced. -/
def text (last : Text) : List Piece → Text
  | [] => last
  | p :: rest => p.gap ++ p.old ++ text last rest

/-- Where the next piece starts when a piece starts at the offset `done`. -/
def stop (done : Nat) (p : Piece) : Nat := done + p.gap.length + p.old.length

/-- The region of a piece that starts at the offset `done`. -/
def region (position done : Nat) (p : Piece) : Region :=
  ⟨position, (done + p.gap.length : Nat), (p.stop done : Nat)⟩

/-- The regions of pieces, the first of which starts at the offset `done`. -/
def regions : (position done : Nat) → List Piece → List Region
  | _, _, [] => []
  | position, done, p :: rest =>
    p.region position done :: regions (position + 1) (p.stop done) rest

theorem map_swap_swap (pieces : List Piece) : (pieces.map swap).map swap = pieces := by
  rw [List.map_map]
  exact List.map_id pieces

theorem getElem?_map_swap {pieces : List Piece} {i : Nat} {p : Piece}
    (h : (pieces.map swap)[i]? = some p) : pieces[i]? = some p.swap := by
  rw [List.getElem?_map] at h
  obtain ⟨q, hq, rfl⟩ := Option.map_eq_some_iff.mp h
  exact hq

/-- Behind a piece stands what the others make up. -/
theorem append_text (front last : Text) (p : Piece) (rest : List Piece) :
    front ++ text last (p :: rest) = front ++ p.gap ++ p.old ++ text last rest := by
  rw [text, List.append_assoc, List.append_assoc, List.append_assoc]

theorem stop_length (front : Text) (p : Piece) :
    p.stop front.length = (front ++ p.gap ++ p.old).length := by
  rw [stop, List.length_append, List.length_append]

theorem regions_length (position done : Nat) (pieces : List Piece) :
    (regions position done pieces).length = pieces.length := by
  induction pieces generalizing position done with
  | nil => rfl
  | cons p rest ih => rw [regions, List.length_cons, List.length_cons, ih]

/-- The new text of each piece is that of its position, where the first one has position
`position`. -/
def News (o : Nat → Text) (position : Nat) (pieces : List Piece) : Prop :=
  ∀ (i : Nat) p, pieces[i]? = some p → p.new = o (position + i)

theorem News.head {o : Nat → Text} {position : Nat} {p : Piece} {rest : List Piece}
    (h : News o position (p :: rest)) : p.new = o position := h 0 p rfl

theorem News.tail {o : Nat → Text} {position : Nat} {p : Piece} {rest : List Piece}
    (h : News o position (p :: rest)) : News o (position + 1) rest := by
  intro i q hq
  rw [Nat.add_assoc, Nat.add_comm 1 i]
  exact h (i + 1) q hq

end Piece

/-! ## The pass -/

variable {text out front : Text} {regions : List Region} {results : List Replacement}
  {o : Nat → Text} {position done : Nat}

/-- The slice between two texts. -/
theorem slice_middle (a b c : Text) :
    Text.slice (a ++ b ++ c) (a.length : Int) ((a.length + b.length : Nat) : Int) = b := by
  rw [Text.slice_natCast, ← List.length_append, List.take_left' rfl, List.drop_left' rfl]

/-- The pass over the regions of pieces puts their new texts in the place of the old ones. -/
theorem spliceFrom_pieces (front last : Text) (pieces : List Piece)
    (hresults : ∀ (i : Nat) p, pieces[i]? = some p →
      resultFor? results (position + i : Nat) = some p.new) :
    spliceFrom (front ++ Piece.text last pieces) results position front.length
        (Piece.regions position front.length pieces) =
      .ok (Piece.text last (pieces.map Piece.swap)) := by
  induction pieces generalizing front position with
  | nil =>
    have hlast : Text.slice (front ++ last) (front.length : Int) ((front ++ last).length : Nat) =
        last := by
      rw [Text.slice_natCast, List.take_length, List.drop_left' rfl]
    exact congrArg Except.ok hlast
  | cons p rest ih =>
    have hnew : resultFor? results position = some p.new := hresults 0 p rfl
    have hrange : RangeFits (front ++ p.gap ++ p.old ++ Piece.text last rest) front.length
        (p.region position front.length) := by
      simp only [RangeFits, Piece.region, Piece.stop, List.length_append]
      omega
    have hgap : Text.slice (front ++ p.gap ++ p.old ++ Piece.text last rest)
        (front.length : Int) ((front.length + p.gap.length : Nat) : Int) = p.gap := by
      rw [List.append_assoc (front ++ p.gap)]
      exact slice_middle front p.gap _
    -- the pass goes on behind what it has passed so far
    have htail := @ih (position + 1) (front ++ p.gap ++ p.old) fun i q hq => by
      rw [Nat.add_assoc, Nat.add_comm 1 i]
      exact hresults (i + 1) q hq
    rw [← Piece.stop_length] at htail
    rw [Piece.append_text, Piece.regions, spliceFrom_cons rfl hrange hnew]
    show (spliceFrom _ results (position + 1) (p.stop front.length : Nat) _).map
      (fun tail => Text.slice _ _ ((front.length + p.gap.length : Nat) : Int) ++ p.new ++ tail) = _
    rw [htail, hgap]
    rfl

/-- Regions that follow each other cut the text behind `done` into pieces. -/
theorem FollowFrom.exists_pieces (h : FollowFrom text.length position done regions)
    (hdone : done ≤ text.length) (o : Nat → Text) :
    ∃ last pieces, text.drop done = Piece.text last pieces ∧
      regions = Piece.regions position done pieces ∧ Piece.News o position pieces := by
  induction regions generalizing position done with
  | nil => exact ⟨text.drop done, [], rfl, rfl, nofun⟩
  | cons r rest ih =>
    obtain ⟨index, start, stop⟩ := r
    obtain ⟨hindex, hstart, hle, hend, hrest⟩ := h
    dsimp only at hindex hstart hle hend hrest
    -- the ends of the region lie behind `done`, so they are no negative numbers
    obtain ⟨a, rfl⟩ := Int.eq_ofNat_of_zero_le (show 0 ≤ start by omega)
    obtain ⟨b, rfl⟩ := Int.eq_ofNat_of_zero_le (show 0 ≤ stop by omega)
    subst hindex
    obtain ⟨last, pieces, htext, hregions, hnew⟩ := ih hrest (by omega)
    let p : Piece := ⟨(text.take a).drop done, (text.take b).drop a, o position⟩
    have hgap : done + p.gap.length = a := by
      simp only [p, List.length_drop, List.length_take]
      omega
    have hstop : p.stop done = b := by
      simp only [Piece.stop, hgap]
      simp only [p, List.length_drop, List.length_take]
      omega
    refine ⟨last, p :: pieces, ?_, ?_, ?_⟩
    · have hfront : text.take done ++ (p.gap ++ p.old) = text.take b := by
        rw [← List.append_assoc, ← take_eq_append text (by omega), ← take_eq_append text (by omega)]
      have hall : text.take done ++ text.drop done =
          text.take done ++ (p.gap ++ p.old ++ text.drop b) := by
        rw [← List.append_assoc, hfront, List.take_append_drop, List.take_append_drop]
      rw [Piece.text, ← htext]
      exact List.append_cancel_left hall
    · rw [Piece.regions, Piece.region, hgap, hstop, hregions]
    · intro i q hq
      cases i with
      | zero =>
        cases hq
        rfl
      | succ i =>
        rw [hnew i q hq, Nat.add_assoc, Nat.add_comm 1 i]

/-! ## The way back -/

theorem Piece.withTexts_cons (o : Nat → Text) (position done : Nat) (p : Piece)
    (rest : List Piece) :
    withTexts o position (Piece.regions position done (p :: rest)) =
      (p.region position done, o position) ::
        withTexts o (position + 1) (Piece.regions (position + 1) (p.stop done) rest) := rfl

/-- What a text grows by is the difference between its lengths. -/
theorem Piece.growth_eq (position done : Nat) (last : Text) (pieces : List Piece)
    (hnew : Piece.News o position pieces) :
    growth (withTexts o position (Piece.regions position done pieces)) =
      ((Piece.text last (pieces.map Piece.swap)).length : Int) -
        (Piece.text last pieces).length := by
  induction pieces generalizing position done with
  | nil => exact (Int.sub_self _).symm
  | cons p rest ih =>
    rw [Piece.withTexts_cons, growth, ih _ _ hnew.tail, ← hnew.head]
    simp only [Region.length, Piece.region, Piece.stop, Piece.text, Piece.swap, List.map_cons,
      List.length_append]
    omega

/-- Turned round, the regions of pieces that start at another offset are shifted by the difference
of the offsets and by the growth in front of them. -/
theorem Piece.regions_swap (done done' : Nat) (pieces : List Piece)
    (hnew : Piece.News o position pieces) :
    Piece.regions position done' (pieces.map Piece.swap) =
      (withTexts o position (Piece.regions position done pieces)).mapIdx fun i (r, new) =>
        let start := r.start + ((done' : Int) - done) + growth
          ((withTexts o position (Piece.regions position done pieces)).take i)
        ⟨(position + i : Nat), start, start + new.length⟩ := by
  induction pieces generalizing position done done' with
  | nil => rfl
  | cons p rest ih =>
    rw [List.map_cons, Piece.regions, ih (p.stop done) (p.swap.stop done') hnew.tail,
      Piece.withTexts_cons, List.mapIdx_cons]
    refine congrArg₂ List.cons ?_ (congrArg (List.mapIdx · _) ?_)
    · simp only [Piece.region, Piece.stop, Piece.swap, List.take_zero, growth, Region.mk.injEq,
        Nat.add_zero, true_and, ← hnew.head]
      omega
    · funext i pair
      simp only [List.take_succ_cons, growth, Region.length, Piece.region, Piece.stop, Piece.swap,
        Region.mk.injEq, ← hnew.head]
      omega

/-! ## Both ways -/

/-- The slices of a text at the regions of its pieces are what stands there. -/
theorem Piece.originals_eq (position : Nat) (front last : Text) (pieces : List Piece) :
    originals (front ++ Piece.text last pieces) (Piece.regions position front.length pieces) =
      (pieces.zipIdx position).map fun (p, i) => ⟨i, p.old⟩ := by
  induction pieces generalizing position front with
  | nil => rfl
  | cons p rest ih =>
    have hslice : (p.region position front.length).slice
        (front ++ p.gap ++ p.old ++ Piece.text last rest) = p.old := by
      have hmiddle := slice_middle (front ++ p.gap) p.old (Piece.text last rest)
      rw [List.length_append] at hmiddle
      exact hmiddle
    have hrest := ih (position + 1) (front ++ p.gap ++ p.old)
    unfold originals at hrest ⊢
    rw [Piece.regions, List.map_cons, Piece.append_text, hslice, Piece.stop_length, hrest,
      List.zipIdx_cons, List.map_cons]
    rfl

/-- What stands in the piece at a position. -/
def Piece.oldAt (pieces : List Piece) (i : Nat) : Text := (pieces[i]?.map (·.old)).getD []

theorem Piece.originals_range (last : Text) (pieces : List Piece) :
    originals (Piece.text last pieces) (Piece.regions 0 0 pieces) =
      (List.range pieces.length).map fun i : Nat => ⟨i, Piece.oldAt pieces i⟩ := by
  refine (Piece.originals_eq 0 [] last pieces).trans ?_
  refine List.ext_getElem (by simp) fun i hi hi' => ?_
  have hlt : i < pieces.length := by simpa using hi
  simp [Piece.oldAt, hlt]

theorem Piece.map_slice_regions (last : Text) (pieces : List Piece) :
    (Piece.regions 0 0 pieces).map (·.slice (Piece.text last pieces)) = pieces.map (·.old) := by
  have h := congrArg (List.map (·.text)) (Piece.originals_eq 0 [] last pieces)
  have hold : (pieces.zipIdx 0).map (fun x => x.1.old) = pieces.map (·.old) := by
    rw [show (fun x : Piece × Nat => x.1.old) = Piece.old ∘ Prod.fst from rfl, ← List.map_map,
      List.zipIdx_map_fst]
  simp only [originals, List.map_map] at h
  exact h.trans hold

/-- Splicing leads from one side of pieces to the other. -/
theorem splice_pieces (last : Text) (pieces : List Piece)
    (hresults : results.Perm ((List.range pieces.length).map fun i : Nat => ⟨i, o i⟩))
    (hnew : Piece.News o 0 pieces) :
    splice (Piece.text last pieces) (Piece.regions 0 0 pieces) results =
      .ok (Piece.text last (pieces.map Piece.swap)) := by
  have hcount : results.length = (Piece.regions 0 0 pieces).length := by
    rw [hresults.length_eq, List.length_map, List.length_range, Piece.regions_length]
  unfold splice
  rw [if_neg (not_not.mpr hcount)]
  refine spliceFrom_pieces [] last pieces fun i p hp => ?_
  rw [hnew i p hp, Nat.zero_add]
  exact resultFor?_of_perm hresults (List.getElem?_eq_some_iff.mp hp).1

/-- Splicing what stood in pieces back in leads back. -/
theorem splice_pieces_back (last : Text) (pieces : List Piece)
    (hresults : results.Perm (originals (Piece.text last pieces) (Piece.regions 0 0 pieces))) :
    splice (Piece.text last (pieces.map Piece.swap)) (Piece.regions 0 0 (pieces.map Piece.swap))
        results = .ok (Piece.text last pieces) := by
  rw [Piece.originals_range, ← List.length_map Piece.swap] at hresults
  have hback := splice_pieces last (pieces.map Piece.swap) hresults fun i p hp => by
    rw [Nat.zero_add, Piece.oldAt, Piece.getElem?_map_swap hp]
    rfl
  rwa [Piece.map_swap_swap] at hback

/-- **Splicing can be undone.** Where splicing succeeds, each position has one result. The regions
where the new texts then stand, which are those of the text shifted by what it has grown in front of
them, are accepted in the spliced text with any results that have their numbers. Their slices are
the new texts, and with the original slices as results, in any order, splicing gives back the text.
The spliced text is longer by what all regions have grown. -/
theorem splice_undone (h : splice text regions results = .ok out) :
    ∃ o : Nat → Text,
      results.Perm ((List.range regions.length).map fun i : Nat => ⟨i, o i⟩) ∧
      (∀ results' : List Replacement,
        (results'.map (·.index)).Perm (numbers regions.length) →
          ∃ t, splice out (shifted (withTexts o 0 regions)) results' = .ok t) ∧
      (shifted (withTexts o 0 regions)).map (·.slice out) = (List.range regions.length).map o ∧
      (∀ results' : List Replacement, results'.Perm (originals text regions) →
        splice out (shifted (withTexts o 0 regions)) results' = .ok text) ∧
      (out.length : Int) = text.length + growth (withTexts o 0 regions) := by
  have hconsistent := splice_isOk_iff_consistent.mp ⟨out, h⟩
  obtain ⟨o, ho⟩ := hconsistent.exists_texts
  have hfollow : FollowFrom text.length 0 (0 : Nat) regions := (splice_isOk_iff.mp ⟨out, h⟩).2.1
  obtain ⟨last, pieces, htext, hregions, hnew⟩ := hfollow.exists_pieces (Nat.zero_le _) o
  have hcount : regions.length = pieces.length := by rw [hregions, Piece.regions_length]
  have hshifted : shifted (withTexts o 0 regions) =
      Piece.regions 0 0 (pieces.map Piece.swap) := by
    rw [hregions, Piece.regions_swap 0 0 pieces hnew]
    unfold shifted
    simp only [Int.sub_self, Int.add_zero, Nat.zero_add]
  have hgrowth := Piece.growth_eq 0 0 last pieces hnew
  rw [List.drop_zero] at htext
  -- the spliced text is the other side of the pieces
  have hforth := splice_pieces last pieces (hcount ▸ ho) hnew
  rw [← htext, ← hregions, h] at hforth
  cases hforth
  have hback : ∀ results' : List Replacement, results'.Perm (originals text regions) →
      splice (Piece.text last (pieces.map Piece.swap)) (shifted (withTexts o 0 regions)) results' =
        .ok text := by
    intro results' hperm
    rw [htext, hregions] at hperm
    rw [hshifted, htext]
    exact splice_pieces_back last pieces hperm
  refine ⟨o, ho, ?_, ?_, hback, ?_⟩
  · intro results' hperm
    have hfits := (splice_isOk_iff_consistent.mp ⟨text, hback _ (.refl _)⟩).fits
    have hlength : (shifted (withTexts o 0 regions)).length = regions.length := by
      rw [hshifted, Piece.regions_length, List.length_map, hcount]
    refine splice_isOk_iff_consistent.mpr ⟨?_, hfits, by rwa [hlength]⟩
    rw [hlength]
    simpa [numbers] using hperm.length_eq
  · rw [hshifted, Piece.map_slice_regions, List.map_map, hcount]
    refine List.ext_getElem (by simp) fun i hi _ => ?_
    rw [List.length_map] at hi
    rw [List.getElem_map, List.getElem_map, List.getElem_range]
    exact (hnew i _ (List.getElem?_eq_getElem hi)).trans (congrArg o (Nat.zero_add i))
  · rw [hregions, hgrowth, htext]
    omega

/-- A region that grows, one without characters that stays so, and one that shrinks. -/
theorem splice_grown :
    splice "abcdef" [⟨0, 0, 1⟩, ⟨1, 2, 2⟩, ⟨2, 3, 6⟩] [⟨2, "z"⟩, ⟨0, "wxy"⟩, ⟨1, ""⟩] =
        .ok "wxybcz" ∧
      ∃ o : Nat → Text,
        (shifted (withTexts o 0 [⟨0, 0, 1⟩, ⟨1, 2, 2⟩, ⟨2, 3, 6⟩])).map (·.slice "wxybcz") =
          [o 0, o 1, o 2] ∧
        splice "wxybcz" (shifted (withTexts o 0 [⟨0, 0, 1⟩, ⟨1, 2, 2⟩, ⟨2, 3, 6⟩]))
          [⟨2, "def"⟩, ⟨1, ""⟩, ⟨0, "a"⟩] = .ok "abcdef" := by
  have h : splice "abcdef" [⟨0, 0, 1⟩, ⟨1, 2, 2⟩, ⟨2, 3, 6⟩]
      [⟨2, "z"⟩, ⟨0, "wxy"⟩, ⟨1, ""⟩] = .ok "wxybcz" := by decide
  obtain ⟨o, -, -, hslices, hback, -⟩ := splice_undone h
  exact ⟨h, o, hslices, hback _ (by decide)⟩

end Backtick
