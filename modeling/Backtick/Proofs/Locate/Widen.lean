import Backtick.Proofs.Locate.Outermost
import Backtick.Proofs.Splice.Located

/-!
# Wider queries

A query that asks for a part of another one's marker, and for its types among others, marks every
node that the other one marks. A node that is outermost for the other one need not be so any more,
but it lies in one that is. So what the other query locates lies inside what this one locates.

* `Query.Widens` — when a query asks for less
* `outermost_of_imp` — outermost nodes under a weaker condition
* `insideOf_within`, `eq_of_within` — insides within insides, and apart from each other
* `locate_widened` — the regions of the two queries
-/

namespace Backtick

open Utf8

variable {source : Bytes} {text : Text} {root : Node} {q q' : Query} {comments : CommentIndex}

/-! ## Queries -/

/-- The query asks for less than another one: for a part of its marker, and for all its types. -/
structure Query.Widens (q q' : Query) : Prop where
  marker : q.marker <:+: q'.marker
  types : ∀ type ∈ q'.types, type ∈ q.types

/-- A wider query marks what the other one marks. -/
theorem Query.Widens.isMarked (h : q.Widens q') {n : Node} (hn : q'.isMarked comments n = true) :
    q.isMarked comments n = true := by
  rw [isMarked_iff] at hn ⊢
  obtain ⟨htype, hlong, bodies, hbodies, body, hbody, hmarker⟩ := hn
  exact ⟨h.types _ htype, hlong, bodies, hbodies, body, hbody, h.marker.trans hmarker⟩

/-! ## Outermost nodes -/

section

variable {p p' : Node → Bool} {x : Node}

mutual

/-- What is outermost under a stronger condition lies in what is outermost under a weaker one. -/
theorem outermost_of_imp (himp : ∀ n, p' n = true → p n = true) :
    ∀ n : Node, x ∈ outermost p' n → ∃ y ∈ outermost p n, x ∈ Node.preorder y
  | ⟨type, start, stop, point, missing, hasError, children⟩, h => by
    rw [outermost_eq]
    split
    · exact ⟨_, List.mem_singleton_self _, (mem_outermost _ h).1⟩
    · next hp =>
      rw [outermost_eq, if_neg fun hp' => hp (himp _ hp')] at h
      exact outermostAll_of_imp himp children h

theorem outermostAll_of_imp (himp : ∀ n, p' n = true → p n = true) :
    ∀ ns : List Node, x ∈ outermostAll p' ns → ∃ y ∈ outermostAll p ns, x ∈ Node.preorder y
  | n :: rest, h => by
    rw [outermostAll] at h ⊢
    rcases List.mem_append.mp h with h | h
    · obtain ⟨y, hy, hx⟩ := outermost_of_imp himp n h
      exact ⟨y, List.mem_append_left _ hy, hx⟩
    · obtain ⟨y, hy, hx⟩ := outermostAll_of_imp himp rest h
      exact ⟨y, List.mem_append_right _ hy, hx⟩

end

end

/-! ## Regions -/

/-- The characters of a region are among those of another one. -/
def Region.Within (r s : Region) : Prop := s.start ≤ r.start ∧ r.stop ≤ s.stop

/-- What lies inside a node that lies in another one lies inside that one. -/
theorem insideOf_within {x y : Node} (hs : Spells source text) (hy : Node.Nested y)
    (hx : x ∈ Node.preorder y)
    (hxbounds : OnBoundary source (x.start + 1) ∧ OnBoundary source (x.stop - 1))
    (hybounds : OnBoundary source (y.start + 1) ∧ OnBoundary source (y.stop - 1)) (i j : Nat) :
    (insideOf source x i).Within (insideOf source y j) := by
  have hstart := hy.start_le hx
  have hstop := hy.stop_le hx
  constructor
  · exact Int.ofNat_le.mpr (hybounds.1.between hxbounds.1 (by omega) hs).1
  · exact Int.ofNat_le.mpr (hxbounds.2.between hybounds.2 (by omega) hs).1

/-- The inside of a node ends in front of where that of a later one begins: two bytes stand between
them at least, the last one of the node and the first one of the later node. -/
theorem Node.Insides.stop_lt_start {nodes : List Node} {low high : Nat}
    (h : Insides source low high nodes) (hinside : ∀ n ∈ nodes, n.stop ≤ source.length) {x y : Node}
    {i j : Nat} (hx : nodes[i]? = some x) (hy : nodes[j]? = some y) (hij : i < j) :
    charsBefore source (x.stop - 1) < charsBefore source (y.start + 1) := by
  have hxmem := List.mem_of_getElem? hx
  have horder := h.order.stop_le_start hx hy hij
  have hlong := h.long x hxmem
  have hend := hinside x hxmem
  exact (h.bounds x hxmem).2.charsBefore_lt (h.bounds y (List.mem_of_getElem? hy)).1 (by omega)
    (by omega)

/-- No region lies inside two of the nodes that a search found. -/
theorem eq_of_within {nodes : List Node} {low high : Nat}
    (h : Node.Insides source low high nodes) (hinside : ∀ n ∈ nodes, n.stop ≤ source.length)
    {r s t : Region} {i j : Nat} (hr : r.start ≤ r.stop) (hi : (insides source nodes)[i]? = some s)
    (hj : (insides source nodes)[j]? = some t) (hrs : r.Within s) (hrt : r.Within t) : i = j := by
  obtain ⟨x, hx, rfl⟩ := exists_of_insides_getElem? hi
  obtain ⟨y, hy, rfl⟩ := exists_of_insides_getElem? hj
  have hapart : ∀ {k l : Nat} {x y : Node}, nodes[k]? = some x → nodes[l]? = some y →
      r.Within (insideOf source x k) → r.Within (insideOf source y l) → ¬ k < l := by
    intro k l x y hx hy hrx hry hkl
    have hlt := h.stop_lt_start hinside hx hy hkl
    have hstop : r.stop ≤ (charsBefore source (x.stop - 1) : Int) := hrx.2
    have hstart : (charsBefore source (y.start + 1) : Int) ≤ r.start := hry.1
    omega
  have hij := hapart hx hy hrs hrt
  have hji := hapart hy hx hrt hrs
  omega

/-- **Wider queries lose nothing.** When a query and one that widens it both locate regions in a
tree whose nodes nest inside the bytes of its text, each region of the query lies inside exactly one
region of the wider one. -/
theorem locate_widened {regions regions' : List Region} (hs : encode text = .ok source)
    (hnested : Node.Nested root) (hinside : root.stop ≤ source.length) (hwidens : q.Widens q')
    (hwide : locate q text root = .ok regions) (hlocate : locate q' text root = .ok regions') :
    ∀ r ∈ regions', ∃! i : Nat, ∃ s, regions[i]? = some s ∧ r.Within s := by
  have hspells := encode_iff.mp hs
  obtain ⟨rfl, hbounds⟩ := insides_of_locate hs hwide
  obtain ⟨rfl, hbounds'⟩ := insides_of_locate hs hlocate
  have hinsides : Node.Insides source root.start root.stop (markedNodes q source root) :=
    ⟨outermost_inOrder _ root hnested.le hnested,
      fun n hn => Query.isMarked_admits (mem_outermost root hn).2, hbounds⟩
  have hstops : ∀ n ∈ markedNodes q source root, n.stop ≤ source.length :=
    fun n hn => Nat.le_trans (hnested.stop_le (mem_outermost root hn).1) hinside
  intro r hr
  obtain ⟨k, hk⟩ := List.mem_iff_getElem?.mp hr
  obtain ⟨x, hx, rfl⟩ := exists_of_insides_getElem? hk
  have hxmem := List.mem_of_getElem? hx
  obtain ⟨y, hy, hxy⟩ := outermost_of_imp (fun n hn => hwidens.isMarked hn) root hxmem
  obtain ⟨i, hi⟩ := List.mem_iff_getElem?.mp hy
  have hlong := Query.isMarked_admits (mem_outermost root hxmem).2
  have hle : (insideOf source x k).start ≤ (insideOf source x k).stop := by
    obtain ⟨hfirst, hlast⟩ := hbounds' x hxmem
    exact Int.ofNat_le.mpr (hfirst.between hlast (by omega) hspells).1
  have hynested : Node.Nested y := hnested.of_mem (mem_outermost root hy).1
  have hwithin := insideOf_within hspells hynested hxy (hbounds' x hxmem) (hbounds y hy) k i
  refine ⟨i, ⟨_, insides_getElem? hi, hwithin⟩, ?_⟩
  rintro j ⟨t, ht, hrt⟩
  exact eq_of_within hinsides hstops hle ht (insides_getElem? hi) hrt hwithin

/-- A literal in another one, and a number, with a comment in front of each. -/
def layeredText : Text := "/*ts*/`$\x7b/*tsx*/`a`\x7d`+/*tsx*/12"

/-- The bytes of the text, one for each character. -/
def layeredSource : Bytes := layeredText.map fun c => UInt8.ofNat c.val

/-- The tree of the text. -/
def layeredTree : Node :=
  ⟨"program", 0, 31, (0, 0), false, false,
    [⟨"comment", 0, 6, (0, 0), false, false, []⟩,
      ⟨"template_string", 6, 21, (0, 6), false, false,
        [⟨"template_substitution", 7, 20, (0, 7), false, false,
          [⟨"comment", 9, 16, (0, 9), false, false, []⟩,
            ⟨"template_string", 16, 19, (0, 16), false, false, []⟩]⟩]⟩,
      ⟨"comment", 22, 29, (0, 22), false, false, []⟩,
      ⟨"number", 29, 31, (0, 29), false, false, []⟩]⟩

/-- With a part of the marker, the outer literal is located instead of the inner one, and with
another type the number as well. The inner literal lies inside the outer one only. -/
theorem locate_layered :
    locate {} layeredText layeredTree = .ok [⟨0, 17, 18⟩] ∧
      locate { marker := "ts", types := ["number", "template_string"] } layeredText layeredTree =
        .ok [⟨0, 7, 20⟩, ⟨1, 30, 30⟩] ∧
      ∃! i : Nat, ∃ s, [(⟨0, 7, 20⟩ : Region), ⟨1, 30, 30⟩][i]? = some s ∧
        Region.Within ⟨0, 17, 18⟩ s := by
  have hs : encode layeredText = .ok layeredSource := by cbv
  have hnested : Node.Nested layeredTree := by simp [layeredTree, Node.Nested, Node.NestedIn]
  have hlocate : locate {} layeredText layeredTree = .ok [⟨0, 17, 18⟩] :=
    toOption_eq_some.1 (by decide +kernel)
  have hwide : locate { marker := "ts", types := ["number", "template_string"] } layeredText
      layeredTree = .ok [⟨0, 7, 20⟩, ⟨1, 30, 30⟩] := toOption_eq_some.1 (by decide +kernel)
  have hwidens : Query.Widens { marker := "ts", types := ["number", "template_string"] } {} := by
    refine ⟨⟨[], "x", by decide⟩, fun type htype => ?_⟩
    rw [List.mem_singleton.mp htype]
    exact List.mem_cons_of_mem _ List.mem_cons_self
  exact ⟨hlocate, hwide,
    locate_widened hs hnested (by decide +kernel) hwidens hwide hlocate _
      (List.mem_singleton_self _)⟩

end Backtick
