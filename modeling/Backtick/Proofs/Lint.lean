import Backtick.Lint
import Backtick.Proofs.Splice.Bytes
import Backtick.Proofs.Transform.Completion

/-!
# Linting a text, seen from its bytes

The located regions are numbered in document order, so the call for a marked node has the node's
number, gets what lies inside the node, and its result finds the node's region again. When the calls
give texts in time, the output is the text with the insides of the marked nodes replaced.

* `Formatter.Answers` — what is asked of the calls
* `formatRegions_spells` — formatting and splicing, seen from the bytes
* `lintText_spells` — linting, seen from the bytes
-/

namespace Backtick

open Utf8 Transform

variable {source : Bytes} {text : Text} {nodes : List Node} {f : Formatter} {s : Settings}
  {o : Nat → Text} {u : Nat → Bytes} {low high : Nat}

/-- The calls for what lies inside some nodes, in order, give texts in time: `o i` for the node with
number `i`. -/
def Formatter.Answers (f : Formatter) (l : Limit) (source : Bytes) (nodes : List Node)
    (o : Nat → Text) : Prop :=
  ∀ (i : Nat) (n : Node) (raw : Text), nodes[i]? = some n →
    decode (Bytes.slice source n.inner.start n.inner.stop) = .ok raw →
    (f.call i raw).outcome = .ok (.text (o i)) ∧ l.Admits (f.call i raw).duration

/-! ## The job -/

/-- The job of formatting the insides of nodes. -/
def insideJob (f : Formatter) (s : Settings) (source : Bytes) (text : Text) (nodes : List Node) :
    Job :=
  { text, regions := insides source nodes, formatter := f,
    timeout := some (.real s.formatter.timeoutSeconds) }

theorem insideJob_region {i : Nat} {n : Node} (hn : nodes[i]? = some n) :
    (insideJob f s source text nodes).region i = insideOf source n i := by
  unfold Job.region insideJob
  dsimp only
  rw [insides_getElem? hn]
  rfl

theorem insideJob_indexed (f : Formatter) (s : Settings) (source : Bytes) (text : Text)
    (nodes : List Node) : (insideJob f s source text nodes).Indexed := by
  unfold Job.Indexed insideJob
  dsimp only
  rw [insides_length]
  refine List.Perm.of_eq (List.ext_getElem (by simp [insides]) fun i hi _ => ?_)
  simp [insides, insideOf]

/-- The calls of the job are those for the insides of the nodes. -/
theorem insideJob_gives (hs : Spells source text) (h : Node.Insides source low high nodes)
    (hanswers : f.Answers (.ofTimeout (some (.real s.formatter.timeoutSeconds))) source nodes o) :
    (insideJob f s source text nodes).Gives o := by
  intro p hp
  have hlt : p < nodes.length := by
    rw [← insides_length source nodes]
    exact hp
  have hn : nodes[p]? = some nodes[p] := List.getElem?_eq_getElem hlt
  have hmem : nodes[p] ∈ nodes := List.getElem_mem hlt
  have hregion := @insideJob_region source text nodes f s p nodes[p] hn
  have hslot : (insideJob f s source text nodes).slot p = p := by
    unfold Job.slot
    rw [hregion]
    exact Int.toNat_natCast p
  have hraw : decode (Bytes.slice source nodes[p].inner.start nodes[p].inner.stop) =
      .ok ((insideJob f s source text nodes).raw p) := by
    rw [decode_iff]
    unfold Job.raw
    rw [hregion]
    exact h.spells_slice hs hmem p
  rw [hslot]
  exact hanswers p nodes[p] _ hn hraw

/-! ## Formatting and splicing -/

/-- The results of a run are spliced into the text. -/
theorem formatRegions_result (f : Formatter) (s : Settings) (text : Text) (regions : List Region) :
    (Lint.formatRegions f s text regions).result = do
      let results ← (transformRegions
        { text, regions, formatter := f, timeout := some (.real s.formatter.timeoutSeconds) }
        (some s.formatter.maxConcurrency)).result
      let output ← (splice text regions results).mapError fun e => .lint e.toError
      return { text, regions, output := some output } := by
  unfold Lint.formatRegions
  dsimp only
  cases (transformRegions _ _).result with
  | error e => rfl
  | ok results =>
    dsimp only [bind, Except.bind]
    cases splice text regions results with
    | error e => rfl
    | ok output => rfl

/-- The message about a limit below zero on the number of calls. -/
def limitMessage : Text := "Semaphore initial value must be >= 0"

/-- A limit on the number of calls below zero is refused. -/
theorem transformRegions_of_negative {j : Job} {k : Int} (hne : j.regions ≠ []) (hk : k < 0) :
    (transformRegions j (some k)).result = .error (.badValue limitMessage) := by
  unfold transformRegions permitsOf
  dsimp only
  rw [if_neg (by simpa using hne), if_neg (by omega), if_pos hk]
  rfl

/-- Formatting the insides of nodes and splicing the results, seen from the bytes: the output is the
bytes with the insides replaced. -/
theorem formatRegions_spells {doc : Document} (hs : Spells source text)
    (h : Node.Insides source low high nodes) (hne : nodes ≠ [])
    (hanswers : f.Answers (.ofTimeout (some (.real s.formatter.timeoutSeconds))) source nodes o)
    (hu : ∀ i < nodes.length, encode (o i) = .ok (u i))
    (hok : (Lint.formatRegions f s text (insides source nodes)).result = .ok doc) :
    ∃ out, doc = { text, regions := insides source nodes, output := some out } ∧
      Spells (replaceSpans source 0 (innerSpans u 0 nodes)) out := by
  rw [formatRegions_result] at hok
  obtain ⟨results, hresults, hok⟩ := bind_eq_ok.1 hok
  obtain ⟨output, houtput, hok⟩ := bind_eq_ok.1 hok
  cases hok
  change (transformRegions (insideJob f s source text nodes)
    (some s.formatter.maxConcurrency)).result = .ok results at hresults
  by_cases hk : 0 ≤ s.formatter.maxConcurrency
  · have hgives := insideJob_gives hs h hanswers
    have hk' : ∀ n, some s.formatter.maxConcurrency = some n → 0 ≤ n := by
      rintro n ⟨⟩
      exact hk
    obtain ⟨hresult, -⟩ := result_of_gives (insideJob_indexed f s source text nodes) hk' hgives
    have hlength : (insideJob f s source text nodes).regions.length = nodes.length :=
      insides_length source nodes
    rw [hresult, hlength] at hresults
    cases hresults
    obtain ⟨out, hsplice, hspells⟩ :=
      splice_spells hs h fun i hi => encode_iff.mp (hu i hi)
    cases hsplice.symm.trans (mapError_eq_ok.1 houtput)
    exact ⟨output, rfl, hspells⟩
  · have herror := transformRegions_of_negative (j := insideJob f s source text nodes)
      (insides_ne_nil hne) (not_le.mp hk)
    rw [herror] at hresults
    cases hresults

/-! ## Linting -/

/-- Linting a text, seen from the bytes: the output is the bytes with the insides of the outermost
marked nodes replaced. -/
theorem lintText_spells {grammars : Grammars} {language : Option Text} {root : Node}
    {doc : Document} (hs : Spells source text)
    (hparse : parseText grammars (Lint.languageOf s language) text = .ok root)
    (hfits : root.FitsIn source)
    (hdelimited : ∀ n ∈ markedNodes (Lint.query s) source root, n.Delimited source)
    (hanswers : f.Answers (.ofTimeout (some (.real s.formatter.timeoutSeconds))) source
      (markedNodes (Lint.query s) source root) o)
    (hu : ∀ i < (markedNodes (Lint.query s) source root).length, encode (o i) = .ok (u i))
    (hok : (lintText grammars f s language text).result = .ok doc) :
    ∃ out, doc.text = text ∧ doc.output = some out ∧
      doc.regions.length = (markedNodes (Lint.query s) source root).length ∧
      Spells (replaceSpans source 0
        (innerSpans u 0 (markedNodes (Lint.query s) source root))) out := by
  have hlocate : Lint.regionsOf grammars s (Lint.languageOf s language) text =
      .ok (insides source (markedNodes (Lint.query s) source root)) := by
    unfold Lint.regionsOf
    rw [hparse]
    exact locate_eq hs hfits hdelimited
  have hinsides := markedNodes_insides hfits hdelimited
  unfold lintText at hok
  rw [hlocate] at hok
  dsimp only at hok
  by_cases hnil : markedNodes (Lint.query s) source root = []
  · have hempty : (insides source ([] : List Node)).isEmpty = true := rfl
    rw [hnil, if_pos hempty] at hok
    cases hok
    rw [hnil]
    exact ⟨text, rfl, rfl, rfl, hs⟩
  · have hregions : ¬ (insides source (markedNodes (Lint.query s) source root)).isEmpty = true := by
      rw [List.isEmpty_iff]
      exact insides_ne_nil hnil
    rw [if_neg hregions] at hok
    obtain ⟨out, rfl, hspells⟩ := formatRegions_spells hs hinsides hnil hanswers hu hok
    exact ⟨out, rfl, rfl, insides_length source _, hspells⟩

end Backtick
