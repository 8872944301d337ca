import Backtick.Disk.Output
import Backtick.Proofs.Outcome

/-!
# Writing is all or nothing

A temporary file stands at a place where nothing was, so removing it gives back the very disk that
was there before. A write that fails does just that, whichever step failed, and a write that
succeeds puts a file at its destination and changes nothing else.

* `entryPlace?` — where the entry of a path is: in the directory that its parent leads to
* `writeOutput_of_error` — the disk after a failed write
* `writeOutput_stages` — what a successful write has done
* `writeOutput_of_ok` — the disk after a successful write
-/

namespace Backtick

namespace Disk

variable {d d' : Disk} {mishaps : Mishaps} {p : Path} {t : Text}

/-- The place of the entry that a path names, if its parent leads to a directory. A link at the end
of the path is the entry itself. -/
def entryPlace? (d : Disk) (p : Path) : Option Place :=
  match d.locate true p.parent with
  | .ok (.found directory _) => some (directory ++ [p.name])
  | _ => none

/-! ## Putting and removing -/

theorem replace_of_absent {entries : List (Place × Entry)} {q : Place} (e : Entry)
    (h : find? entries q = none) : replace entries q e = entries ++ [(q, e)] := by
  induction entries with
  | nil => rfl
  | cons head rest ih =>
    obtain ⟨r, e'⟩ := head
    rw [find?] at h
    split at h
    · cases h
    · next hr =>
      rw [replace, if_neg hr, ih h]
      rfl

theorem filter_of_absent {entries : List (Place × Entry)} {q : Place}
    (h : find? entries q = none) : entries.filter (·.1 ≠ q) = entries := by
  induction entries with
  | nil => rfl
  | cons head rest ih =>
    obtain ⟨r, e'⟩ := head
    rw [find?] at h
    split at h
    · cases h
    · next hr =>
      rw [List.filter_cons_of_pos (by simpa using hr), ih h]

/-- Removing an entry that was put where nothing was gives back the disk. -/
theorem erase_put {q : Place} (e : Entry) (h : d.get? q = none) : (d.put q e).erase q = d := by
  have hnone : find? d.entries q = none := by
    unfold get? at h
    split at h
    · cases h
    · next hfind => exact hfind
  unfold erase put
  rw [replace_of_absent e hnone, List.filter_append, filter_of_absent hnone]
  simp

/-! ## The temporary file -/

theorem step_of_ok {α : Type} {s : OutputStep} {r : Except Fault α} {a : α}
    (h : step mishaps s r = .ok a) : r = .ok a := by
  unfold step at h
  split at h
  · cases h
  · exact h

theorem freeName_absent {directory : Place} {name free : Text}
    (h : d.freeName? directory name = some free) :
    (∃ n, free = temporaryName name n) ∧ d.get? (directory ++ [free]) = none := by
  have hfree := List.find?_some h
  obtain ⟨n, -, hn⟩ := List.mem_map.mp (List.mem_of_find?_eq_some h)
  exact ⟨⟨n, hn.symm⟩, Option.isNone_iff_eq_none.mp hfree⟩

theorem locate_of_resolve {target : Target} (h : d.resolve p = .ok target) :
    d.locate true p = .ok target := by
  obtain ⟨-, -, hlocate⟩ := bind_eq_ok.1 h
  exact mapError_eq_ok.1 hlocate

theorem locate_of_isDirectory (h : d.isDirectory p = true) :
    ∃ q mode, d.locate true p = .ok (.found q (.directory mode)) := by
  unfold isDirectory at h
  split at h
  · next q mode hresolve => exact ⟨q, mode, locate_of_resolve hresolve⟩
  · cases h

/-- The temporary file is created in the directory of the destination, where nothing was. -/
theorem createTemporary_ok {path : Path} {place : Place}
    (h : d.createTemporary p = .ok (path, place, d')) :
    ∃ directory mode n, d.locate true p.parent = .ok (.found directory (.directory mode)) ∧
      place = directory ++ [temporaryName p.name n] ∧ d.get? place = none ∧
      d' = d.put place (.file 0o600 []) := by
  unfold createTemporary at h
  obtain ⟨-, -, h⟩ := bind_eq_ok.1 h
  split at h
  · cases h
  · cases h
  · next directory e hparent =>
    split at h
    · cases h
    · next name hname =>
      dsimp only at h
      split at h
      · cases h
      next hdirectory =>
      split at h
      · cases h
      split at h
      · cases h
      cases h
      obtain ⟨⟨n, rfl⟩, habsent⟩ := freeName_absent hname
      rw [Bool.not_eq_true, Bool.not_eq_false'] at hdirectory
      obtain ⟨q, mode, hlocate⟩ := locate_of_isDirectory hdirectory
      rw [hparent] at hlocate
      cases hlocate
      exact ⟨directory, mode, n, hparent, rfl, habsent, rfl⟩

/-! ## The write -/

/-- The file that was prepared takes its destination's place, which is no directory. -/
theorem replaceEntry_ok {temporary : Path} {place : Place} {e : Entry}
    (h : d.replaceEntry temporary place p e = .ok d') :
    (p.name ≠ [] ∧ p.name ≠ above) ∧
      (∀ mode, d.get? (parentPlace place ++ [p.name]) ≠ some (.directory mode)) ∧
      d' = (d.erase place).put (parentPlace place ++ [p.name]) e := by
  unfold replaceEntry at h
  dsimp only at h
  split at h
  · cases h
  · next hname =>
    rw [Bool.or_eq_true, List.isEmpty_iff, decide_eq_true_eq, not_or] at hname
    split at h
    · cases h
    · next hdirectory =>
      cases h
      exact ⟨hname, fun mode hmode => hdirectory mode hmode, rfl⟩

theorem writeContent_ok {content : Bytes} (h : writeContent mishaps t = .ok content) :
    contentOf t = .ok content := by
  unfold writeContent at h
  dsimp only at h
  split at h
  · exact step_of_ok h
  · cases h

/-- The steps behind the creation of the temporary file end with the prepared file in its
destination's place: the text's bytes, with the permission bits for the output. -/
theorem finishOutput_ok {temporary : Path} {place : Place}
    (h : d.finishOutput mishaps temporary place p t = .ok d') :
    ∃ content mode, contentOf t = .ok content ∧ d.outputMode mishaps p = .ok mode ∧
      (p.name ≠ [] ∧ p.name ≠ above) ∧
      (∀ mode', d.get? (parentPlace place ++ [p.name]) ≠ some (.directory mode')) ∧
      d' = (d.erase place).put (parentPlace place ++ [p.name]) (.file mode content) := by
  unfold finishOutput at h
  obtain ⟨content, hcontent, h⟩ := bind_eq_ok.1 h
  obtain ⟨mode, hmode, h⟩ := bind_eq_ok.1 h
  obtain ⟨-, -, h⟩ := bind_eq_ok.1 h
  exact ⟨content, mode, writeContent_ok hcontent, hmode, replaceEntry_ok (step_of_ok h)⟩

/-- A write that fails leaves the disk as it was. -/
theorem writeOutput_of_error {f : Fault} (h : (d.writeOutput mishaps p t).1 = .error f) :
    (d.writeOutput mishaps p t).2 = d := by
  unfold writeOutput at h ⊢
  split
  · rfl
  · next temporary place d' hcreate =>
    rw [hcreate] at h
    obtain ⟨_, _, _, -, -, habsent, rfl⟩ := createTemporary_ok (step_of_ok hcreate)
    dsimp only at h ⊢
    split
    · exact erase_put _ habsent
    · next d'' hfinish =>
      rw [hfinish] at h
      cases h

/-- What a write that succeeds has done: the temporary file stood beside the destination at a place
where nothing was, and the output, with the bits that were found meanwhile, takes the destination's
place. -/
theorem writeOutput_stages (h : (d.writeOutput mishaps p t).1 = .ok ()) :
    ∃ directory mode' n content mode,
      d.locate true p.parent = .ok (.found directory (.directory mode')) ∧
      d.get? (directory ++ [temporaryName p.name n]) = none ∧
      (p.name ≠ [] ∧ p.name ≠ above) ∧ Utf8.encode t = .ok content ∧
      (d.put (directory ++ [temporaryName p.name n]) (.file 0o600 [])).outputMode mishaps p =
        .ok mode ∧
      (∀ m, (d.put (directory ++ [temporaryName p.name n]) (.file 0o600 [])).get?
        (directory ++ [p.name]) ≠ some (.directory m)) ∧
      (d.writeOutput mishaps p t).2 = d.put (directory ++ [p.name]) (.file mode content) := by
  unfold writeOutput at h ⊢
  split at h
  · cases h
  · next temporary place d' hcreate =>
    obtain ⟨directory, mode', n, hparent, rfl, habsent, rfl⟩ :=
      createTemporary_ok (step_of_ok hcreate)
    split at h
    · cases h
    · next d'' hfinish =>
      obtain ⟨content, mode, hcontent, hmode, hname, hdirectory, rfl⟩ := finishOutput_ok hfinish
      rw [parentPlace, List.dropLast_concat] at hdirectory
      have hencode : Utf8.encode t = .ok content := mapError_eq_ok.1 hcontent
      refine ⟨directory, mode', n, content, mode, hparent, habsent, hname, hencode, hmode,
        hdirectory, ?_⟩
      show Disk.put (erase _ _) _ _ = _
      rw [erase_put _ habsent, parentPlace, List.dropLast_concat]

/-- A write that succeeds puts the text's bytes at its destination, and changes nothing else. -/
theorem writeOutput_of_ok (h : (d.writeOutput mishaps p t).1 = .ok ()) :
    ∃ place content mode, d.entryPlace? p = some place ∧ (p.name ≠ [] ∧ p.name ≠ above) ∧
      Utf8.encode t = .ok content ∧
      (d.writeOutput mishaps p t).2 = d.put place (.file mode content) := by
  obtain ⟨directory, _, _, content, mode, hparent, -, hname, hcontent, -, -, hdisk⟩ :=
    writeOutput_stages h
  refine ⟨directory ++ [p.name], content, mode, ?_, hname, hcontent, hdisk⟩
  unfold entryPlace?
  rw [hparent]

end Disk

end Backtick
