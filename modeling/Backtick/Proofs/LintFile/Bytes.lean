import Backtick.Proofs.Disk.Walk
import Backtick.Proofs.Lint
import Backtick.Proofs.LintFile

/-!
# A run from bytes to bytes

The whole way of a file: its bytes are decoded and parsed, the outermost marked nodes are located,
what lies inside them is formatted, the results are spliced, and the output is encoded and written.
Everything outside the insides of the marked nodes is copied byte by byte.

The tree is asked to fit the bytes, and the marked nodes to begin and end with a one-byte character,
as a template literal does. The calls are asked to give texts that can be encoded, in time; when
they end, and in which order, does not matter.
-/

namespace Backtick

open Utf8 Transform

variable {tools : Tools} {mishaps : Mishaps} {elapsed : Number} {j : FileJob} {d : Disk}
  {source : Bytes} {root : Node} {f : Formatter} {o : Nat → Text} {u : Nat → Bytes}

/-- The bytes with what lies inside the outermost marked nodes replaced: by `u i` for the node with
number `i` in document order. -/
def rewritten (q : Query) (source : Bytes) (root : Node) (u : Nat → Bytes) : Bytes :=
  replaceSpans source 0 (innerSpans u 0 (markedNodes q source root))

/-- A file whose bytes were read and whose text was parsed. -/
theorem text_of_parsed (hread : d.read j.input = .ok source)
    (hparsed : j.parsed tools d = .ok root) :
    ∃ text, readSource d j.input = .ok text ∧ Spells source text ∧
      parseText tools.grammars (Lint.languageOf j.settings (some j.chosenLanguage)) text =
        .ok root := by
  unfold FileJob.parsed at hparsed
  unfold readSource at hparsed ⊢
  rw [hread] at hparsed ⊢
  cases htext : decode source with
  | error e =>
    exfalso
    simp only [Except.bind, htext, Except.mapError] at hparsed
    cases hparsed
  | ok text =>
    simp only [Except.bind, htext, Except.mapError] at hparsed ⊢
    exact ⟨text, rfl, decode_iff.mp htext, hparsed⟩

/-- A document is changed when its output is spelled by other bytes than its text. -/
theorem changed_iff {doc : Document} {out : Text} {written : Bytes} (hs : Spells source doc.text)
    (hout : doc.output = some out) (hw : Spells written out) :
    doc.changed = true ↔ written ≠ source := by
  unfold Document.changed
  rw [hout]
  show (out != doc.text) = true ↔ _
  rw [bne_iff_ne]
  constructor
  · rintro hne rfl
    exact hne (hw.text_unique hs)
  · intro hne heq
    rw [heq] at hw
    exact hne (hw.bytes_unique hs)

/-- What a run is to look for: the marker and the node types of its settings. -/
def FileJob.sought (j : FileJob) : Query :=
  { marker := j.settings.locator.marker, types := j.settings.locator.nodeTypes }

/-- **End to end.** When the calls give texts that can be encoded and the run succeeds, the file at
its destination holds the bytes of the input with what lies inside the outermost marked nodes
replaced by the encoded texts. The report has the number of these nodes, and says whether the bytes
differ. When there are none, or each gets what it has, the bytes are those of the input. -/
theorem lintFile_rewritten {report : LintReport} (hread : d.read j.input = .ok source)
    (hparsed : j.parsed tools d = .ok root) (hfits : root.FitsIn source)
    (hdelimited : ∀ n ∈ markedNodes j.sought source root, n.Delimited source)
    (hchosen : j.chosenFormatter tools.programs = .ok f)
    (hanswers : f.Answers (.ofTimeout (some (.real j.settings.formatter.timeoutSeconds))) source
      (markedNodes j.sought source root) o)
    (hu : ∀ i < (markedNodes j.sought source root).length,
      encode (o i) = .ok (u i))
    (hok : (lintFile tools mishaps elapsed j d).result = .ok report) :
    (∃ p place mode, j.destination = .ok p ∧ report.output = some p ∧
      d.entryPlace? p = some place ∧
      (lintFile tools mishaps elapsed j d).disk.get? place =
        some (.file mode (rewritten j.sought source root u)) ∧
      ∀ b, (lintFile tools mishaps elapsed j d).disk.read p = .ok b →
        b = rewritten j.sought source root u) ∧
    report.regions = (markedNodes j.sought source root).length ∧
    (report.changed = true ↔ rewritten j.sought source root u ≠ source) ∧
    ((∀ i n, (markedNodes j.sought source root)[i]? = some n →
        u i = Bytes.slice source n.inner.start n.inner.stop) →
      rewritten j.sought source root u = source ∧ report.changed = false) := by
  obtain ⟨text, htext, hs, hparse⟩ := text_of_parsed hread hparsed
  obtain ⟨p, f', text', doc, place, content, mode, hp, hchosen', htext', hdoc, rfl, hplace,
    ⟨hname, habove⟩, hcontent, hdisk⟩ := lintFile_of_ok hok
  rw [htext] at htext'
  cases htext'
  rw [hchosen] at hchosen'
  cases hchosen'
  obtain ⟨out, hdoctext, hout, hregions, hspells⟩ :=
    lintText_spells hs hparse hfits hdelimited hanswers hu hdoc
  -- what is written is spelled by the output, which the rewritten bytes spell
  have hwritten : content = rewritten j.sought source root u := by
    rw [hout] at hcontent
    exact (encode_iff.mp hcontent).bytes_unique hspells
  subst hwritten
  rw [← hdoctext] at hs
  have hchanged := changed_iff hs hout hspells
  refine ⟨⟨p, place, mode, hp, rfl, hplace, ?_, ?_⟩, congrArg Nat.cast hregions, hchanged, ?_⟩
  · rw [hdisk, Disk.get?_put, if_pos rfl]
  · intro b hb
    rw [hdisk] at hb
    exact Disk.read_put hplace hname habove hb
  · intro hself
    have hsame : rewritten j.sought source root u = source := by
      have hinsides := markedNodes_insides hfits hdelimited
      refine replaceSpans_self hinsides (Nat.zero_le _) fun i n hn => ?_
      rw [Nat.zero_add]
      exact hself i n hn
    refine ⟨hsame, ?_⟩
    rw [← Bool.not_eq_true]
    exact fun h => hchanged.mp h hsame

/-- The text `é/*q*/'ab'+/*q*/'é';` in bytes. -/
def literalSource : Bytes :=
  [0xC3, 0xA9, 0x2F, 0x2A, 0x71, 0x2A, 0x2F, 0x27, 0x61, 0x62, 0x27, 0x2B,
    0x2F, 0x2A, 0x71, 0x2A, 0x2F, 0x27, 0xC3, 0xA9, 0x27, 0x3B]

/-- The tree of the text: two strings, and a comment in front of each. -/
def literalTree : Node :=
  ⟨"program", 0, 22, (0, 0), false, false,
    [⟨"comment", 2, 7, (0, 2), false, false, []⟩, ⟨"string", 7, 11, (0, 7), false, false, []⟩,
      ⟨"comment", 12, 17, (0, 12), false, false, []⟩,
      ⟨"string", 17, 21, (0, 17), false, false, []⟩]⟩

/-- Every text is parsed as the one above. -/
def literalTools : Tools where
  grammars := fun _ => .ok fun _ => literalTree
  programs := { which := fun _ => none, start := fun _ _ _ => .error .unsupported }

/-- The file `a` is to be linted to `b`. Strings behind the marker `q` are looked for. The call for
`ab` takes longer than the other one, whose text it repeats. -/
def literalJob : FileJob where
  input := .ofText "a"
  output := some (.ofText "b")
  settings := { locator := { marker := "q", nodeTypes := ["string"] } }
  formatter := some
    { name := "f"
      call := fun _ t =>
        if t = "ab" then { duration := .seconds 2, outcome := .ok (.text "x") }
        else { duration := .seconds 1, outcome := .ok (.text (t ++ "!" ++ t)) } }

/-- The file `a` with the text above. -/
def literalDisk : Disk := { entries := [(["a"], .file 0o644 literalSource)] }

theorem literal_parsed : literalJob.parsed literalTools literalDisk = .ok literalTree := by
  have hdecode : decode literalSource = .ok "é/*q*/'ab'+/*q*/'é';" := by cbv
  have htext : readSource literalDisk literalJob.input = .ok "é/*q*/'ab'+/*q*/'é';" := by
    unfold readSource
    rw [show literalDisk.read literalJob.input = .ok literalSource from rfl]
    show ((decode literalSource).mapError Fault.decoding).mapError _ = _
    rw [hdecode]
    rfl
  unfold FileJob.parsed
  rw [htext]
  rfl

theorem literal_fits : literalTree.FitsIn literalSource where
  nested := by simp [literalTree, Node.Nested, Node.NestedIn]
  inside := by decide
  bounds := by decide +kernel

/-- The marked nodes are the two strings. -/
theorem literal_marked {i : Nat} {n : Node}
    (hn : (markedNodes literalJob.sought literalSource literalTree)[i]? = some n) :
    i = 0 ∧ n.start = 7 ∧ n.stop = 11 ∨ i = 1 ∧ n.start = 17 ∧ n.stop = 21 := by
  have hspans : (markedNodes literalJob.sought literalSource literalTree).map
      (fun n => (n.start, n.stop)) = [(7, 11), (17, 21)] := by decide +kernel
  have hspan := congrArg (Option.map fun n : Node => (n.start, n.stop)) hn
  rw [← List.getElem?_map, hspans] at hspan
  match i with
  | 0 =>
    obtain ⟨hstart, hstop⟩ := Prod.mk.inj (Option.some.inj hspan)
    exact Or.inl ⟨rfl, hstart.symm, hstop.symm⟩
  | 1 =>
    obtain ⟨hstart, hstop⟩ := Prod.mk.inj (Option.some.inj hspan)
    exact Or.inr ⟨rfl, hstart.symm, hstop.symm⟩
  | i + 2 => cases hspan

theorem literal_delimited : ∀ n ∈ markedNodes literalJob.sought literalSource literalTree,
    n.Delimited literalSource := by
  intro n hn
  obtain ⟨i, hn⟩ := List.mem_iff_getElem?.mp hn
  unfold Node.Delimited
  rcases literal_marked hn with ⟨-, hstart, hstop⟩ | ⟨-, hstart, hstop⟩
  · rw [hstart, hstop]
    exact ⟨⟨0x27, rfl, by decide⟩, 0x27, rfl, by decide⟩
  · rw [hstart, hstop]
    exact ⟨⟨0x27, rfl, by decide⟩, 0x27, rfl, by decide⟩

/-- What the calls give for the two strings, in bytes. -/
def literalResults : Nat → Bytes
  | 0 => [0x78]
  | _ => [0xC3, 0xA9, 0x21, 0xC3, 0xA9]

theorem literal_encoded (i : Nat) :
    encode (if i = 0 then "x" else "é!é") = .ok (literalResults i) := by
  cases i with
  | zero => cbv
  | succ i => cbv

theorem literal_answers {f : Formatter} (hf : literalJob.formatter = some f) :
    f.Answers (.ofTimeout (some (.real literalJob.settings.formatter.timeoutSeconds)))
      literalSource (markedNodes literalJob.sought literalSource literalTree)
      (fun i => if i = 0 then "x" else "é!é") := by
  have hlimit : Limit.ofTimeout (some (.real literalJob.settings.formatter.timeoutSeconds)) =
      .within (some 30) := by decide +kernel
  intro i n raw hn hraw
  cases hf
  rw [hlimit]
  unfold Node.inner at hraw
  rcases literal_marked hn with ⟨rfl, hstart, hstop⟩ | ⟨rfl, hstart, hstop⟩
  · rw [hstart, hstop, show decode (Bytes.slice literalSource (7 + 1) (11 - 1)) = .ok "ab" by cbv]
      at hraw
    cases hraw
    exact ⟨rfl, show Running.elapsed 2 < 30 by decide +kernel⟩
  · rw [hstart, hstop, show decode (Bytes.slice literalSource (17 + 1) (21 - 1)) = .ok "é" by cbv]
      at hraw
    cases hraw
    exact ⟨rfl, show Running.elapsed 1 < 30 by decide +kernel⟩

/-- The insides of both strings are replaced, although the second call is over first: one becomes
shorter and the other one longer. Nothing else changes. -/
theorem lintFile_literal :
    ∃ report, (lintFile literalTools .none (.whole 0) literalJob literalDisk).result = .ok report ∧
      report.regions = 2 ∧ report.changed = true ∧
      ∃ mode, (lintFile literalTools .none (.whole 0) literalJob literalDisk).disk.get? ["b"] =
        some (.file mode [0xC3, 0xA9, 0x2F, 0x2A, 0x71, 0x2A, 0x2F, 0x27, 0x78, 0x27, 0x2B,
          0x2F, 0x2A, 0x71, 0x2A, 0x2F, 0x27, 0xC3, 0xA9, 0x21, 0xC3, 0xA9, 0x27, 0x3B]) := by
  obtain ⟨f, hf⟩ : ∃ f, literalJob.formatter = some f := ⟨_, rfl⟩
  have hsome :
      (lintFile literalTools .none (.whole 0) literalJob literalDisk).result.toOption.isSome := by
    decide +kernel
  cases hok : (lintFile literalTools .none (.whole 0) literalJob literalDisk).result with
  | error e =>
    rw [hok] at hsome
    cases hsome
  | ok report =>
    have hbytes : rewritten literalJob.sought literalSource literalTree literalResults =
        [0xC3, 0xA9, 0x2F, 0x2A, 0x71, 0x2A, 0x2F, 0x27, 0x78, 0x27, 0x2B,
          0x2F, 0x2A, 0x71, 0x2A, 0x2F, 0x27, 0xC3, 0xA9, 0x21, 0xC3, 0xA9, 0x27, 0x3B] := by
      decide +kernel
    have hcount : (markedNodes literalJob.sought literalSource literalTree).length = 2 := by
      decide +kernel
    have hb : literalDisk.entryPlace? (.ofText "b") = some [Text.ofString "b"] := by decide +kernel
    have hchosen : literalJob.chosenFormatter literalTools.programs = .ok f := by
      cases hf
      rfl
    obtain ⟨⟨p, place, mode, hp, -, hplace, hwritten, -⟩, hregions, hchanged, -⟩ :=
      lintFile_rewritten rfl literal_parsed literal_fits literal_delimited
        hchosen (literal_answers hf) (fun i _ => literal_encoded i) hok
    cases hp
    rw [hb] at hplace
    cases hplace
    rw [hcount] at hregions
    rw [hbytes] at hwritten hchanged
    exact ⟨report, rfl, hregions, hchanged.mpr (by decide), mode, hwritten⟩

end Backtick
