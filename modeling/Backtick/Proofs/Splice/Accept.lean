import Backtick.Proofs.Splice.Step

/-!
# What splicing accepts

The pass over the regions makes its checks one region after the other, each against the end of the
one before. Together they ask for regions that are numbered in order and follow each other inside
the text, and for a result for each of them; nothing else is asked for.

* `FollowFrom` — regions that follow each other
* `spliceFrom_isOk_iff`, `splice_isOk_iff` — splicing succeeds exactly for such regions
-/

namespace Backtick

variable {text : Text} {regions : List Region} {results : List Replacement}

/-- Regions that are numbered from `position` on and follow each other inside a text of so many
characters, none of them in front of `done`. -/
def FollowFrom (length : Nat) : (position : Nat) → (done : Int) → List Region → Prop
  | _, _, [] => True
  | position, done, r :: rest =>
    r.index = position ∧ done ≤ r.start ∧ r.start ≤ r.stop ∧ r.stop ≤ length ∧
      FollowFrom length (position + 1) r.stop rest

theorem followFrom_cons {position : Nat} {done : Int} {r : Region} {rest : List Region} :
    FollowFrom text.length position done (r :: rest) ↔
      r.index = position ∧ RangeFits text done r ∧
        FollowFrom text.length (position + 1) r.stop rest := by
  rw [FollowFrom, RangeFits, and_assoc, and_assoc]

/-- What is done with a result decides nothing about success. -/
theorem exists_map_isOk_iff {ε α β : Type} {x : Except ε α} (f : α → β) :
    (∃ b, x.map f = .ok b) ↔ ∃ a, x = .ok a := by
  cases x with
  | error e =>
    constructor
    · rintro ⟨_, ⟨⟩⟩
    · rintro ⟨_, ⟨⟩⟩
  | ok a => exact ⟨fun _ => ⟨a, rfl⟩, fun _ => ⟨f a, rfl⟩⟩

/-- The pass succeeds exactly for regions that follow each other and have results. -/
theorem spliceFrom_isOk_iff (position : Nat) (done : Int) :
    (∃ out, spliceFrom text results position done regions = .ok out) ↔
      FollowFrom text.length position done regions ∧
        ∀ r ∈ regions, ∃ new, resultFor? results r.index = some new := by
  induction regions generalizing position done with
  | nil => exact ⟨fun _ => ⟨trivial, nofun⟩, fun _ => ⟨_, rfl⟩⟩
  | cons r rest ih =>
    rw [List.forall_mem_cons, followFrom_cons]
    rcases spliceFrom_cons_cases text results position done r rest with
      ⟨fault, hfault, heq⟩ | ⟨hindex, hrange, new, hnew, heq⟩
    · rw [heq]
      constructor
      · rintro ⟨_, ⟨⟩⟩
      · rintro ⟨⟨hindex, hrange, -⟩, ⟨new, hnew⟩, -⟩
        exact absurd hfault (not_regionFault hindex hrange hnew)
    · rw [heq]
      refine (exists_map_isOk_iff _).trans ((ih (position + 1) r.stop).trans ?_)
      constructor
      · rintro ⟨hfollow, hresults⟩
        exact ⟨⟨hindex, hrange, hfollow⟩, ⟨new, hnew⟩, hresults⟩
      · rintro ⟨⟨-, -, hfollow⟩, -, hresults⟩
        exact ⟨hfollow, hresults⟩

/-- Splicing succeeds exactly for regions that follow each other in the text, with as many results
as regions and one for each region. -/
theorem splice_isOk_iff :
    (∃ out, splice text regions results = .ok out) ↔
      results.length = regions.length ∧ FollowFrom text.length 0 0 regions ∧
        ∀ r ∈ regions, ∃ x ∈ results, x.index = r.index := by
  unfold splice
  by_cases hlength : results.length = regions.length
  · rw [if_neg (not_not.mpr hlength)]
    refine (spliceFrom_isOk_iff 0 0).trans ?_
    simp only [resultFor?_isSome_iff, hlength, true_and]
  · rw [if_pos hlength]
    constructor
    · rintro ⟨_, ⟨⟩⟩
    · rintro ⟨h, -⟩
      exact absurd h hlength

end Backtick
