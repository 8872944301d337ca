import Backtick.Parse
import Backtick.Proofs.Tree

/-!
# Where a syntax error is reported

A tree is accepted when its root says that there is no error in it. Otherwise the error is about the
first faulty node in document order: a piece of the source that fits nowhere, or a token that the
source lacks. Starts ascend in document order where the nodes nest, so no fault of the tree starts
in front of the one that is reported.

* `Node.Blamed` — the node that an error is about
* `blamed_firstFault` — the search for it
* `parseText_verdict` — what is accepted, and what is reported otherwise
-/

namespace Backtick

open Utf8

variable {root bad : Node} {grammars : Grammars} {language text : Text} {source : Bytes}
  {grammar : Text → Node}

namespace Node

/-- The node marks a place where the source is wrong. -/
def Faulty (n : Node) : Prop := n.type = Text.ofString "ERROR" ∨ n.missing = true

theorem isFault_iff {n : Node} : n.isFault = true ↔ n.Faulty := by
  unfold isFault Faulty
  rw [Bool.or_eq_true, beq_iff_eq]

/-- The node that the error of a tree is about. -/
inductive Blamed (root : Node) : Node → Prop
  /-- the first faulty node in document order -/
  | first {bad : Node} {before after : List Node} (horder : preorder root = before ++ bad :: after)
      (hbad : bad.Faulty) (hbefore : ∀ n ∈ before, ¬ n.Faulty) : Blamed root bad
  /-- the root, when no node is faulty -/
  | root (hnone : ∀ n ∈ preorder root, ¬ n.Faulty) : Blamed root root

/-- Where the nodes nest, no faulty node starts in front of the one that the error is about. -/
theorem Blamed.start_le (h : root.Blamed bad) (hnested : Nested root) {n : Node}
    (hn : n ∈ preorder root) (hfaulty : n.Faulty) : bad.start ≤ n.start := by
  cases h with
  | root hnone => exact absurd hfaulty (hnone n hn)
  | @first _ before after horder _ hbefore =>
    have hascend := hnested.starts_ascend
    rw [horder] at hn hascend
    rcases List.mem_append.mp hn with hn | hn
    · exact absurd hfaulty (hbefore n hn)
    · rcases List.mem_cons.mp hn with rfl | hn
      · exact Nat.le_refl _
      · have hbehind := (List.pairwise_append.mp hascend).2.1
        exact (List.pairwise_cons.mp hbehind).1 n hn

end Node

/-- The walk with a stack finds the node that the error is about. -/
theorem blamed_firstFault (root : Node) : root.Blamed ((firstFault? root).getD root) := by
  unfold firstFault?
  rw [walk_eq]
  cases hfound : (Node.preorder root).find? Node.isFault with
  | none =>
    exact .root fun n hn hfaulty =>
      List.find?_eq_none.mp hfound n hn (Node.isFault_iff.mpr hfaulty)
  | some n =>
    obtain ⟨hn, before, after, horder, hbefore⟩ := List.find?_eq_some_iff_append.mp hfound
    refine .first horder (Node.isFault_iff.mp hn) fun m hm hfaulty => ?_
    have hnot := hbefore m hm
    rw [Node.isFault_iff.mpr hfaulty] at hnot
    cases hnot

/-- The error is about one node only. -/
theorem Node.Blamed.eq_firstFault (h : root.Blamed bad) : bad = (firstFault? root).getD root := by
  unfold firstFault?
  rw [walk_eq]
  cases h with
  | root hnone =>
    have hnot : (preorder root).find? isFault = none :=
      List.find?_eq_none.mpr fun n hn hfault => hnone n hn (isFault_iff.mp hfault)
    rw [hnot]
    rfl
  | first horder hbad hbefore =>
    have hfirst : (preorder root).find? isFault = some bad := by
      refine List.find?_eq_some_iff_append.mpr
        ⟨isFault_iff.mpr hbad, _, _, horder, fun n hn => ?_⟩
      rw [Bool.not_eq_true', Bool.eq_false_iff, ne_eq, isFault_iff]
      exact hbefore n hn
    rw [hfirst]
    rfl

/-! ## The wording -/

/-- The message of an error about a node. -/
def faultMessage (bad : Node) : Text :=
  "Syntax error (" ++ (if bad.missing then "missing " ++ bad.type else "unexpected token") ++
    ") at line " ++ Text.ofNat (bad.point.1 + 1) ++ ", column " ++ Text.ofNat (bad.point.2 + 1)

/-- How a message begins that says that something of a type is missing. -/
def missingPhrase (type : Text) : Text := "Syntax error (missing " ++ type ++ ")"

/-- A message says that something of the node's type is missing exactly if the node is missing. -/
theorem missingPhrase_prefix_iff (bad : Node) :
    missingPhrase bad.type <+: faultMessage bad ↔ bad.missing = true := by
  have hopen : Text.ofString "Syntax error (missing " =
      Text.ofString "Syntax error (" ++ Text.ofString "missing " := by decide
  unfold missingPhrase faultMessage
  cases bad.missing with
  | true =>
    refine ⟨fun _ => rfl, fun _ => ?_⟩
    refine ⟨(" at line " : Text) ++ Text.ofNat (bad.point.1 + 1) ++ ", column " ++
      Text.ofNat (bad.point.2 + 1), ?_⟩
    have hclose : Text.ofString ") at line " = Text.ofString ")" ++ Text.ofString " at line " := by
      decide
    rw [hopen, hclose, if_pos rfl]
    simp only [List.append_assoc]
  | false =>
    refine ⟨fun h => ?_, nofun⟩
    rw [List.append_assoc, if_neg Bool.false_ne_true] at h
    -- the words differ in their first letter
    have hwords := List.isPrefixOf_iff_prefix.mpr ((List.prefix_append _ _).trans h)
    cases hwords

/-! ## Verdicts -/

/-- What comes of a text in a language whose grammar is there. -/
theorem parseText_eq (hgrammar : grammars language = .ok grammar) (hs : encode text = .ok source) :
    parseText grammars language text =
      if (grammar text).hasError then
        .error (.lint (syntaxError language ((firstFault? (grammar text)).getD (grammar text))))
      else .ok (grammar text) := by
  unfold parseText accept
  rw [hgrammar, hs]
  dsimp only
  cases (grammar text).hasError <;> rfl

/-- **Errors are reported at the first faulty place.** A text is accepted exactly if the root of its
tree says that there is no error, and its tree is what comes of it. Otherwise the error is about the
first faulty node in document order, or about the root if no node is faulty. It gives the line and
the column, counted from one, at which that node starts, and says that something is missing exactly
if the node is missing. Where the nodes of the tree nest, no faulty node starts further in front. -/
theorem parseText_verdict (hgrammar : grammars language = .ok grammar)
    (hs : encode text = .ok source) :
    (∀ root, parseText grammars language text = .ok root ↔
      root = grammar text ∧ (grammar text).hasError = false) ∧
    ((grammar text).hasError = true →
      (∃ bad, (grammar text).Blamed bad) ∧
      ∀ bad, (grammar text).Blamed bad →
        parseText grammars language text =
          .error (.lint (.parse (faultMessage bad) (some (bad.point.1 + 1 : Nat))
            (some (bad.point.2 + 1 : Nat)) (some language))) ∧
        (missingPhrase bad.type <+: faultMessage bad ↔ bad.missing = true) ∧
        (Node.Nested (grammar text) → ∀ n ∈ Node.preorder (grammar text), n.Faulty →
          bad.start ≤ n.start)) := by
  rw [parseText_eq hgrammar hs]
  refine ⟨fun root => ?_, fun herror => ⟨⟨_, blamed_firstFault _⟩, fun bad hbad => ⟨?_, ?_, ?_⟩⟩⟩
  · cases (grammar text).hasError with
    | true => simp
    | false => simp [eq_comm]
  · rw [if_pos herror, ← hbad.eq_firstFault]
    rfl
  · exact missingPhrase_prefix_iff bad
  · intro hnested n hn hfaulty
    exact hbad.start_le hnested hn hfaulty

/-- The second operand of a sum, which the source lacks. -/
def lackedOperand : Node := ⟨"identifier", 4, 4, (1, 1), true, false, []⟩

/-- The tree of `(a`, a line break and `+)`. Where the operand is missing, an error starts as well,
with another one inside. -/
def lackingTree : Node :=
  ⟨"program", 0, 5, (0, 0), false, true,
    [⟨"parenthesized_expression", 0, 5, (0, 0), false, true,
        [⟨"(", 0, 1, (0, 0), false, false, []⟩,
          ⟨"binary_expression", 1, 4, (0, 1), false, true,
            [⟨"identifier", 1, 2, (0, 1), false, false, []⟩,
              ⟨"+", 3, 4, (1, 0), false, false, []⟩,
              lackedOperand]⟩,
          ⟨"ERROR", 4, 5, (1, 1), false, true,
            [⟨"ERROR", 4, 5, (1, 1), false, true, [⟨")", 4, 5, (1, 1), false, false, []⟩]⟩]⟩]⟩]⟩

theorem lackingTree_blamed : lackingTree.Blamed lackedOperand := by
  have hbefore : ((Node.preorder lackingTree).take 6).all (!·.isFault) = true := by decide +kernel
  refine @Node.Blamed.first _ _ ((Node.preorder lackingTree).take 6)
    ((Node.preorder lackingTree).drop 7) rfl (Or.inr rfl) fun n hn hfaulty => ?_
  have hnot := List.all_eq_true.mp hbefore n hn
  rw [Node.isFault_iff.mpr hfaulty] at hnot
  cases hnot

/-- The missing operand is reported, and no fault starts in front of it. -/
theorem parseText_lacking :
    parseText (fun _ => .ok fun _ => lackingTree) "tsx" "(a\n+)" =
        .error (.lint (.parse "Syntax error (missing identifier) at line 2, column 2" (some 2)
          (some 2) (some "tsx"))) ∧
      ∀ n ∈ Node.preorder lackingTree, n.Faulty → 4 ≤ n.start := by
  have hs : encode "(a\n+)" = .ok [0x28, 0x61, 0x0A, 0x2B, 0x29] := by cbv
  have hnested : Node.Nested lackingTree := by
    simp [lackingTree, lackedOperand, Node.Nested, Node.NestedIn]
  have hmessage : faultMessage lackedOperand =
      "Syntax error (missing identifier) at line 2, column 2" := by decide +kernel
  obtain ⟨-, hreport⟩ := @parseText_verdict (fun _ => .ok fun _ => lackingTree) "tsx" "(a\n+)" _
    (fun _ => lackingTree) rfl hs
  obtain ⟨herror, -, hstart⟩ := (hreport rfl).2 lackedOperand lackingTree_blamed
  rw [hmessage] at herror
  exact ⟨herror, hstart hnested⟩

end Backtick
