import Backtick.Proofs.Locate.Outermost

/-!
# What is cut off the ends of a node

A node counts as long enough when it spans two bytes, and one byte is cut off each of its ends. In
a tree that fits its text, that is a character at each end as long as the node begins and ends with
one-byte characters, which the delimiters of a literal are. Nodes of other types may begin or end
with longer characters. The cut goes through such a character then, and the search fails.

* `Node.delimited_iff` — when the cuts lie between characters
* `insideOf_eq_narrowed` — the characters that are cut off
* `locate_narrowed` — what a search gives in either case
-/

namespace Backtick

open Utf8

variable {source : Bytes} {text : Text} {root n : Node} {q : Query}

/-! ## Cuts -/

/-- The characters of a node without the first and the last one. -/
def Node.narrowed (source : Bytes) (n : Node) (index : Nat) : Region :=
  ⟨index, charsBefore source n.start + 1, charsBefore source n.stop - 1⟩

/-- The cuts lie between characters exactly if the node begins and ends with one-byte characters. -/
theorem Node.delimited_iff (hlong : n.start + 2 ≤ n.stop) (hinside : n.stop ≤ source.length)
    (hstart : OnBoundary source n.start) (hstop : OnBoundary source n.stop) :
    n.Delimited source ↔ OnBoundary source (n.start + 1) ∧ OnBoundary source (n.stop - 1) := by
  constructor
  · intro h
    exact h.inside hlong hstart hstop
  · rintro ⟨hfirst, hlast⟩
    have hsucc : n.stop - 1 + 1 = n.stop := by omega
    rw [← hsucc] at hstop
    exact ⟨hstart.one_byte hfirst (by omega), hlast.one_byte hstop (by omega)⟩

/-- A node that begins and ends with one-byte characters has two characters or more, and the cuts
take one of them off each end. -/
theorem insideOf_eq_narrowed (hs : Spells source text) (hlong : n.start + 2 ≤ n.stop)
    (hstart : OnBoundary source n.start) (hstop : OnBoundary source n.stop)
    (h : n.Delimited source) (index : Nat) :
    insideOf source n index = n.narrowed source index ∧
      charsBefore source n.start + 2 ≤ charsBefore source n.stop := by
  obtain ⟨hfirst, hlast⟩ := h.inside hlong hstart hstop
  obtain ⟨⟨a, ha, haone⟩, b, hb, hbone⟩ := h
  have hbegin := hstart.charsBefore_next ha haone
  have hend := hlast.charsBefore_next hb hbone
  rw [Nat.sub_add_cancel (by omega)] at hend
  have hinner := (hfirst.between hlast (by omega) hs).1
  refine ⟨?_, by omega⟩
  unfold insideOf Node.narrowed
  rw [hbegin, hend]
  simp

/-! ## Searches -/

/-- In a tree that fits, only nodes that begin and end with one-byte characters are located. -/
theorem delimited_of_locate {regions : List Region} (hs : encode text = .ok source)
    (h : root.FitsIn source) (hok : locate q text root = .ok regions) :
    ∀ n ∈ markedNodes q source root, n.Delimited source := by
  intro n hn
  obtain ⟨hmem, hmarked⟩ := mem_outermost root hn
  obtain ⟨hstart, hstop⟩ := h.bounds n hmem
  have hinside : n.stop ≤ source.length := Nat.le_trans (h.nested.stop_le hmem) h.inside
  -- a search that succeeds has found that the cuts lie between characters
  have hcuts := (insides_of_locate hs hok).2 n hn
  exact (Node.delimited_iff (Query.isMarked_admits hmarked) hinside hstart hstop).mpr hcuts

/-- **What is cut off.** In a tree that fits its text, a search succeeds when all marked nodes begin
and end with one-byte characters. All of them have two characters or more then, and their regions
are their characters without the first and the last one. When any marked node begins or ends with a
longer character, the search fails: the bytes up to a cut are no text. -/
theorem locate_narrowed (hs : encode text = .ok source) (h : root.FitsIn source) :
    ((∀ n ∈ markedNodes q source root, n.Delimited source) →
      locate q text root =
          .ok ((markedNodes q source root).zipIdx.map fun x => x.1.narrowed source x.2) ∧
        ∀ n ∈ markedNodes q source root,
          charsBefore source n.start + 2 ≤ charsBefore source n.stop) ∧
    ((∃ n ∈ markedNodes q source root, ¬ n.Delimited source) →
      ∃ f, locate q text root = .error (.decoding f)) := by
  have hspells := encode_iff.mp hs
  constructor
  · intro hdelimited
    have hcut : ∀ n ∈ markedNodes q source root, ∀ index,
        insideOf source n index = n.narrowed source index ∧
          charsBefore source n.start + 2 ≤ charsBefore source n.stop := by
      intro n hn index
      obtain ⟨hmem, hmarked⟩ := mem_outermost root hn
      obtain ⟨hstart, hstop⟩ := h.bounds n hmem
      exact insideOf_eq_narrowed hspells (Query.isMarked_admits hmarked) hstart hstop
        (hdelimited n hn) index
    refine ⟨?_, fun n hn => (hcut n hn 0).2⟩
    rw [locate_eq hspells h hdelimited]
    refine congrArg Except.ok (List.map_congr_left fun x hx => ?_)
    exact (hcut x.1 (List.fst_mem_of_mem_zipIdx hx) x.2).1
  · rintro ⟨n, hn, hnot⟩
    by_contra hnone
    rw [not_exists] at hnone
    obtain ⟨regions, -, hok⟩ := locateFrom_ok hs hnone
    exact hnot (delimited_of_locate hs h hok n hn)

/-- Two names with a comment in front of each. The first one begins and ends with a character of two
bytes, the second one has such a character inside. -/
def accentText : Text := "/*tsx*/éaé+/*n*/aéa;"

/-- The bytes of the two names. -/
def accentSource : Bytes :=
  [0x2F, 0x2A, 0x74, 0x73, 0x78, 0x2A, 0x2F, 0xC3, 0xA9, 0x61, 0xC3, 0xA9, 0x2B,
    0x2F, 0x2A, 0x6E, 0x2A, 0x2F, 0x61, 0xC3, 0xA9, 0x61, 0x3B]

/-- The tree of the two names and their comments. -/
def accentTree : Node :=
  ⟨"program", 0, 23, (0, 0), false, false,
    [⟨"comment", 0, 7, (0, 0), false, false, []⟩,
      ⟨"expression_statement", 7, 23, (0, 7), false, false,
        [⟨"binary_expression", 7, 22, (0, 7), false, false,
            [⟨"identifier", 7, 12, (0, 7), false, false, []⟩,
              ⟨"+", 12, 13, (0, 12), false, false, []⟩,
              ⟨"comment", 13, 18, (0, 13), false, false, []⟩,
              ⟨"identifier", 18, 22, (0, 18), false, false, []⟩]⟩,
          ⟨";", 22, 23, (0, 22), false, false, []⟩]⟩]⟩

theorem accent_fits : accentTree.FitsIn accentSource where
  nested := by simp [accentTree, Node.Nested, Node.NestedIn]
  inside := by decide
  bounds := by decide +kernel

theorem accentText_encoded : encode accentText = .ok accentSource := by cbv

/-- The search for the first name fails, though the name has three characters, and the tree fits. -/
theorem locate_accent :
    accentTree.FitsIn accentSource ∧
      (markedNodes { types := ["identifier"] } accentSource accentTree).map
          (fun n => (charsBefore accentSource n.start, charsBefore accentSource n.stop)) =
        [(7, 10)] ∧
      locate { types := ["identifier"] } accentText accentTree =
        .error (.decoding ⟨0xC3, 7, 8, .unexpectedEnd⟩) := by
  refine ⟨accent_fits, by decide +kernel, ?_⟩
  have hsearch : locateFrom { types := ["identifier"] } (.ofTree accentTree accentSource) {} 0
      [accentTree] = .error ⟨0xC3, 7, 8, .unexpectedEnd⟩ := by decide +kernel
  unfold locate
  rw [accentText_encoded]
  dsimp only
  rw [hsearch]

/-- With the other comment's marker, the search gives the inside of the second name. -/
theorem locate_narrowed_names :
    locate { marker := "n", types := ["identifier"] } accentText accentTree =
        .ok [⟨0, 17, 18⟩] ∧
      ∃ f, locate { types := ["identifier"] } accentText accentTree = .error (.decoding f) := by
  constructor
  · obtain ⟨hregions, -⟩ := (locate_narrowed accentText_encoded accent_fits).1
      (by decide +kernel : ∀ n ∈ markedNodes { marker := "n", types := ["identifier"] }
        accentSource accentTree, n.Delimited accentSource)
    rw [hregions]
    refine congrArg Except.ok ?_
    decide +kernel
  · refine (locate_narrowed accentText_encoded accent_fits).2 ?_
    decide +kernel

end Backtick
