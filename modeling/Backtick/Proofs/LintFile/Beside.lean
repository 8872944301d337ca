import Backtick.Proofs.LintFile
import Backtick.Proofs.Text.Basic
import Mathlib.Data.List.TakeWhile

/-!
# The output stands beside the input

A run without a destination of its own writes into the directory of its input, under another name,
so it does not replace the input. The new name has the suffix of the old one, and with it the same
grammar: the text that is put in may hold dots, but it stands in front of the last dot of the name.

* `Path.splitSuffix_of_lastDot`, `Path.exists_lastDot` — the suffix of a name, by its last dot
* `Path.ofText_proper` — what the components of a path are like
* `Path.withName_ok` — when a path can get another name
* `lintFile_keeps` — a run keeps what is not at its destination
-/

namespace Backtick

namespace Path

variable {before after name : Text} {p : Path}

/-! ## The suffix of a name -/

/-- What is cut off a name is what follows its last dot, unless nothing stands in front of the dot
or behind it. -/
theorem splitSuffix_of_lastDot (hafter : dot ∉ after) :
    splitSuffix (before ++ dot :: after) =
      if before = [] ∨ after = [] then (before ++ dot :: after, [])
      else (before, dot :: after) := by
  have htail : ((before ++ dot :: after).reverse.takeWhile (· ≠ dot)).reverse = after := by
    have hall : ∀ c ∈ after.reverse, decide (c ≠ dot) = true := by
      intro c hc
      rw [List.mem_reverse] at hc
      exact decide_eq_true fun he => hafter (he ▸ hc)
    rw [List.reverse_append, List.reverse_cons, List.append_assoc,
      List.takeWhile_append_of_pos hall]
    simp
  have hfront : (before ++ dot :: after).take
      ((before ++ dot :: after).length - after.length - 1) = before := by
    have hlength : (before ++ dot :: after).length - after.length - 1 = before.length := by
      rw [List.length_append, List.length_cons]
      omega
    rw [hlength, List.take_left]
  have hlonger : after.length ≠ (before ++ dot :: after).length := by
    rw [List.length_append, List.length_cons]
    omega
  have hcase : (after.isEmpty || before.isEmpty ||
      decide (after.length = (before ++ dot :: after).length)) = true ↔
      before = [] ∨ after = [] := by
    simp only [Bool.or_eq_true, List.isEmpty_iff, decide_eq_true_eq, hlonger, or_false]
    exact or_comm
  simp only [splitSuffix, htail, hfront, hcase]

/-- A name without a dot has no suffix. -/
theorem splitSuffix_of_notMem (h : dot ∉ name) : splitSuffix name = (name, []) := by
  have hall : name.reverse.takeWhile (· ≠ dot) = name.reverse := by
    refine List.takeWhile_eq_self_iff.mpr ?_
    intro c hc
    rw [List.mem_reverse] at hc
    exact decide_eq_true fun he => h (he ▸ hc)
  simp only [splitSuffix, hall, List.reverse_reverse, decide_true, Bool.or_true, if_true]

/-- A name without a suffix is its own stem. A suffix begins with the last dot of the name, and
something stands in front of that dot and behind it. -/
theorem splitSuffix_cases (name : Text) :
    splitSuffix name = (name, []) ∨ ∃ before after, before ≠ [] ∧ after ≠ [] ∧ dot ∉ after ∧
      splitSuffix name = (before, dot :: after) := by
  by_cases hdot : dot ∈ name
  · obtain ⟨behind, front, hname, hbehind⟩ :=
      List.eq_append_cons_of_mem (List.mem_reverse.mpr hdot)
    have hsplit : name = front.reverse ++ dot :: behind.reverse := by
      rw [← List.reverse_reverse name, hname]
      simp
    have hlast := @splitSuffix_of_lastDot front.reverse behind.reverse
      fun h => hbehind (List.mem_reverse.mp h)
    rw [← hsplit] at hlast
    split at hlast
    · exact Or.inl hlast
    · next hne =>
      rw [not_or] at hne
      exact Or.inr ⟨_, _, hne.1, hne.2, fun h => hbehind (List.mem_reverse.mp h), hlast⟩
  · exact Or.inl (splitSuffix_of_notMem hdot)

/-- Whatever is put between a stem and a suffix, the suffix stays. -/
theorem splitSuffix_insert (insert : Text) (h : (splitSuffix name).2 ≠ []) :
    splitSuffix ((splitSuffix name).1 ++ insert ++ (splitSuffix name).2) =
      ((splitSuffix name).1 ++ insert, (splitSuffix name).2) := by
  rcases splitSuffix_cases name with hnone | ⟨before, after, hbefore, hafter, hdot, hsome⟩
  · rw [hnone] at h
    exact absurd rfl h
  · rw [hsome]
    rw [splitSuffix_of_lastDot hdot, if_neg]
    rw [not_or]
    exact ⟨List.append_ne_nil_of_left_ne_nil hbefore _, hafter⟩

theorem stem_ne_nil (h : p.name ≠ []) : p.stem ≠ [] := by
  unfold stem
  rcases splitSuffix_cases p.name with hnone | ⟨before, after, hbefore, -, -, hsome⟩
  · rw [hnone]
    exact h
  · rw [hsome]
    exact hbefore

/-! ## Names of paths -/

/-- The components of the path are names: they hold no slash, and none is empty or the dot. -/
def Proper (p : Path) : Prop := ∀ part ∈ p.parts, part ≠ [] ∧ part ≠ [dot] ∧ slash ∉ part

/-- Every text names a path with such components. -/
theorem ofText_proper (t : Text) : (ofText t).Proper := by
  intro part hpart
  obtain ⟨hmem, hname⟩ := List.mem_filter.mp hpart
  simp only [Bool.and_eq_true, Bool.not_eq_true', List.isEmpty_eq_false_iff,
    decide_eq_true_eq] at hname
  exact ⟨hname.1, hname.2, Text.notMem_of_mem_splitOn hmem⟩

theorem name_mem_parts (h : p.name ≠ []) : p.name ∈ p.parts := by
  unfold name at h ⊢
  cases hlast : p.parts.getLast? with
  | none =>
    rw [hlast] at h
    exact absurd rfl h
  | some part => exact List.mem_of_getLast? hlast

/-- A text without a slash that is neither empty nor the dot is one component. -/
theorem components_of_name (hname : name ≠ []) (hdot : name ≠ [dot]) (hslash : slash ∉ name) :
    components name = [name] := by
  unfold components
  rw [Text.splitOn_of_notMem hslash]
  simp [hname, hdot]

/-- A path that has a name can get any other one, and stays where it is. -/
theorem withName_ok (hp : p.Proper) (hpname : p.name ≠ []) (hname : name ≠ [])
    (hdot : name ≠ [dot]) (hslash : slash ∉ name) :
    ∃ q, p.withName name = .ok q ∧ q.Proper ∧ q.parent = p.parent ∧ q.name = name := by
  have hlast : name.getLast? ≠ some slash := fun h => hslash (List.mem_of_getLast? h)
  have hhead : name.head? ≠ some slash := fun h => hslash (List.mem_of_head? h)
  refine ⟨{ p with parts := p.parts.dropLast ++ [name] }, ?_, ?_, ?_, ?_⟩
  · unfold withName
    rw [if_neg (by simpa using hpname), components_of_name hname hdot hslash]
    simp [hname, hlast, hhead]
  · intro part hpart
    rcases List.mem_append.mp hpart with hpart | hpart
    · exact hp part (List.mem_of_mem_dropLast hpart)
    · rw [List.mem_singleton.mp hpart]
      exact ⟨hname, hdot, hslash⟩
  · simp [parent]
  · simp [Path.name]

end Path

/-! ## Runs without a destination of their own -/

/-- Paths beside each other under different names have different places. -/
theorem Disk.entryPlace_ne {d : Disk} {p q : Path} {place place' : Place}
    (hparent : q.parent = p.parent) (hname : q.name ≠ p.name)
    (hplace : d.entryPlace? p = some place) (hplace' : d.entryPlace? q = some place') :
    place ≠ place' := by
  unfold entryPlace? at hplace hplace'
  rw [hparent] at hplace'
  split at hplace
  · next directory e hlocate =>
    rw [hlocate] at hplace'
    cases hplace
    cases hplace'
    exact fun he => hname (List.append_cancel_left he |> List.cons.inj |>.1).symm
  · cases hplace

/-- A run keeps every entry but the one at its destination. -/
theorem lintFile_keeps {tools : Tools} {mishaps : Mishaps} {elapsed : Number} {j : FileJob}
    {d : Disk} {place : Place}
    (h : ∀ p, j.destination = .ok p → d.entryPlace? p ≠ some place) :
    (lintFile tools mishaps elapsed j d).disk.get? place = d.get? place := by
  cases hresult : (lintFile tools mishaps elapsed j d).result with
  | error e => rw [lintFile_of_error hresult]
  | ok report =>
    obtain ⟨p, _, _, _, place', _, _, hp, -, -, -, -, hplace', -, -, hdisk⟩ :=
      lintFile_of_ok hresult
    have hne : place' ≠ place := fun he => h p hp (he ▸ hplace')
    rw [hdisk, Disk.get?_put, if_neg hne]

/-- **The output stands beside the input.** A path that has a name, and a text that is put in, which
is not empty and holds no slash, give a path in the same directory with another name. So a run
without a destination of its own keeps the entry of its input, and its output, if it succeeds, is
there. When the name has a suffix, the new one has the same, and the same grammar, whatever the
grammar of other suffixes is. -/
theorem defaultOutputPath_beside {p : Path} {insert : Text} (hp : p.Proper) (hname : p.name ≠ [])
    (hinsert : insert ≠ []) (hslash : Path.slash ∉ insert) :
    ∃ q, defaultOutputPath p insert = .ok q ∧ q.Proper ∧ q.parent = p.parent ∧ q.name ≠ p.name ∧
      (p.suffix ≠ [] → q.suffix = p.suffix ∧
        ∀ default, languageForPath q default = languageForPath p default) ∧
      ∀ (tools : Tools) (mishaps : Mishaps) (elapsed : Number) (j : FileJob) (d : Disk),
        j.input = p → j.output = none → j.settings.output.suffix = insert →
        (∀ place, d.entryPlace? p = some place →
          (lintFile tools mishaps elapsed j d).disk.get? place = d.get? place) ∧
        ∀ report, (lintFile tools mishaps elapsed j d).result = .ok report →
          report.output = some q := by
  have hwhole : p.stem ++ p.suffix = p.name := Path.splitSuffix_append p.name
  have hstem := Path.stem_ne_nil hname
  obtain ⟨-, -, hnameSlash⟩ := hp _ (Path.name_mem_parts hname)
  rw [← hwhole, List.mem_append, not_or] at hnameSlash
  -- the new name is longer than the old one, and than the dot
  have hlength : p.name.length < (p.stem ++ insert ++ p.suffix).length := by
    have hpos := List.length_pos_iff.mpr hinsert
    rw [← hwhole]
    simp only [List.length_append]
    omega
  have hpos := List.length_pos_iff.mpr hname
  have hnew : p.stem ++ insert ++ p.suffix ≠ [] := by
    intro he
    rw [he] at hlength
    exact absurd hlength (Nat.not_lt_zero _)
  have hdot : p.stem ++ insert ++ p.suffix ≠ [Path.dot] := by
    intro he
    rw [he, List.length_singleton] at hlength
    omega
  have hnewSlash : Path.slash ∉ p.stem ++ insert ++ p.suffix := by
    simp [hnameSlash, hslash]
  obtain ⟨q, hq, hproper, hparent, hqname⟩ := Path.withName_ok hp hname hnew hdot hnewSlash
  have hne : q.name ≠ p.name := by
    intro he
    rw [hqname] at he
    rw [he] at hlength
    exact Nat.lt_irrefl _ hlength
  refine ⟨q, hq, hproper, hparent, hne, fun hsuffix => ?_, ?_⟩
  · have hsplit : Path.splitSuffix (p.stem ++ insert ++ p.suffix) =
        (p.stem ++ insert, p.suffix) := Path.splitSuffix_insert insert hsuffix
    have hkept : q.suffix = p.suffix := by rw [Path.suffix, hqname, hsplit]
    refine ⟨hkept, fun default => ?_⟩
    unfold languageForPath
    rw [hkept]
  · rintro tools mishaps elapsed j d rfl houtput rfl
    have hdestination : j.destination = .ok q := by
      unfold FileJob.destination
      rw [houtput]
      exact hq
    refine ⟨fun place hplace => lintFile_keeps ?_, fun report hreport => ?_⟩
    · intro p hp hplace'
      rw [hdestination] at hp
      cases hp
      exact Disk.entryPlace_ne hparent hne hplace hplace' rfl
    · obtain ⟨p, _, _, _, _, _, _, hp, -, -, -, rfl, -⟩ := lintFile_of_ok hreport
      rw [hdestination] at hp
      cases hp
      rfl

/-- A hidden file with several dots in its name, and a text that holds dots itself and ends with
one. -/
theorem defaultOutputPath_beside_hidden :
    ∃ q, defaultOutputPath (.ofText "src/..view.d.tsx") "..new." = .ok q ∧
      q.name = Text.ofString "..view.d..new..tsx" ∧ q.suffix = Text.ofString ".tsx" ∧
      languageForPath q "css" = Text.ofString "tsx" := by
  have hname : (Path.ofText "src/..view.d.tsx").name ≠ [] := by decide
  have hinsert : Text.ofString "..new." ≠ [] := by decide
  have hslash : Path.slash ∉ Text.ofString "..new." := by decide
  have hsuffix : (Path.ofText "src/..view.d.tsx").suffix ≠ [] := by decide +kernel
  obtain ⟨q, hq, -, -, -, hkept, -⟩ :=
    defaultOutputPath_beside (Path.ofText_proper "src/..view.d.tsx") hname hinsert hslash
  obtain ⟨hqsuffix, hlanguage⟩ := hkept hsuffix
  refine ⟨q, hq, ?_, hqsuffix.trans (by decide +kernel),
    (hlanguage "css").trans (by decide +kernel)⟩
  have hpath : defaultOutputPath (.ofText "src/..view.d.tsx") "..new." =
      .ok (.ofText "src/..view.d..new..tsx") := by rfl
  rw [hpath] at hq
  cases hq
  rfl

end Backtick
