import Backtick.Proofs.Disk.Output
import Backtick.Proofs.Outcome

/-!
# What comes out of a disk that refuses

Operations on a disk fail with refusals of the system, and with texts that cannot be encoded. Both
become errors of the run. The one exception is a path with a null byte, which no system is asked
about: a write fails with another fault exactly when the path of its temporary file holds one
(`writeOutput_foreign_iff`).
-/

namespace Backtick

/-- A text between others is in them when they are joined. -/
theorem Text.mem_join {sep : Text} {c : CodePoint} {parts : List Text} :
    c ∈ Text.join sep parts → c ∈ sep ∨ ∃ part ∈ parts, c ∈ part := by
  intro h
  fun_induction Text.join sep parts with
  | case1 => cases h
  | case2 t => exact .inr ⟨t, List.mem_singleton_self t, h⟩
  | case3 t rest _ ih =>
    rcases List.mem_append.1 h with h | h
    · rcases List.mem_append.1 h with h | h
      · exact .inr ⟨t, List.mem_cons_self, h⟩
      · exact .inl h
    · exact (ih h).imp id fun ⟨part, hpart, hc⟩ => ⟨part, List.mem_cons_of_mem t hpart, hc⟩

theorem Text.mem_join_of_mem {sep part : Text} {c : CodePoint} {parts : List Text}
    (hpart : part ∈ parts) (hc : c ∈ part) : c ∈ Text.join sep parts := by
  fun_induction Text.join sep parts with
  | case1 => cases hpart
  | case2 t =>
    rw [List.mem_singleton] at hpart
    exact hpart ▸ hc
  | case3 t rest _ ih =>
    rcases List.mem_cons.1 hpart with rfl | hpart
    · exact List.mem_append_left _ (List.mem_append_left _ hc)
    · exact List.mem_append_right _ (ih hpart)

/-- Only refusals of the system befall the steps of a write. -/
def Mishaps.Refuse (mishaps : Mishaps) : Prop := ∀ s f, mishaps s = some f → ∃ e, f = .system e

theorem Mishaps.none_refuse : Mishaps.Refuse .none := by
  intro s f h
  cases h

namespace Disk

variable {d : Disk} {mishaps : Mishaps} {p : Path} {t : Text} {f : Fault} {α β : Type}

/-! ## Paths -/

/-- The message about a path with a null byte. -/
def nullMessage : Text := "embedded null byte"

theorem checkPath_error (h : checkPath t = .error f) :
    (∃ e, f = .encoding e) ∨ f = .badValue nullMessage ∧ ∃ c ∈ t, c.val = 0 := by
  unfold checkPath at h
  dsimp only at h
  split at h
  next e _ =>
    cases h
    exact .inl ⟨e, rfl⟩
  next =>
    split at h
    next hnull =>
      cases h
      obtain ⟨c, hc, hzero⟩ := List.any_eq_true.1 hnull
      obtain ⟨c', hc', rfl⟩ := List.mem_map.1 hc
      refine .inr ⟨rfl, c', hc', ?_⟩
      rw [beq_iff_eq] at hzero
      split at hzero
      · cases hzero
      · exact hzero
    next => cases h

theorem ne_null_of_checkPath (h : checkPath t = .ok ()) : ∀ c ∈ t, c.val ≠ 0 := by
  intro c hc hzero
  unfold checkPath at h
  dsimp only at h
  split at h
  · cases h
  · split at h
    · cases h
    next hnull =>
      refine hnull (List.any_eq_true.2 ⟨c, List.mem_map.2 ⟨c, hc, if_neg ?_⟩, by simp [hzero]⟩)
      rw [hzero]
      decide

/-- The path of the temporary file beside a destination holds all null bytes of the destination's
own. -/
theorem null_temporaryPath (n : Nat) (h : ∃ c ∈ p.toText, c.val = 0) :
    ∃ c ∈ (temporaryPath p (temporaryName p.name n)).toText, c.val = 0 := by
  obtain ⟨c, hc, hzero⟩ := h
  have hslash : c ∉ [Path.slash] := by
    rw [List.mem_singleton]
    rintro rfl
    cases hzero
  have hname (hc : c ∈ p.name) : c ∈ temporaryName p.name n := by
    unfold temporaryName
    exact List.mem_append_left _ (List.mem_append_left _ (List.mem_append_left _
      (List.mem_append_right _ hc)))
  have hin : c ∈ p.root ++ Text.join [Path.slash] p.parts := by
    unfold Path.toText at hc
    dsimp only at hc
    split at hc
    · rw [List.mem_singleton] at hc
      rw [hc] at hzero
      cases hzero
    · exact hc
  have hout : c ∈ p.root ++
      Text.join [Path.slash] (p.parts.dropLast ++ [temporaryName p.name n]) := by
    rcases List.mem_append.1 hin with hroot | hjoin
    · exact List.mem_append_left _ hroot
    · refine List.mem_append_right _ ?_
      obtain ⟨part, hpart, hc⟩ := (Text.mem_join hjoin).resolve_left hslash
      -- the part is above the destination, or it is its name
      rcases List.eq_nil_or_concat p.parts with hnil | ⟨above, name, hparts⟩
      · rw [hnil] at hpart
        cases hpart
      · rw [List.concat_eq_append] at hparts
        rw [hparts, List.dropLast_concat]
        rw [hparts] at hpart
        rcases List.mem_append.1 hpart with hpart | hpart
        · exact Text.mem_join_of_mem (List.mem_append_left _ hpart) hc
        · have hlast : p.name = part := by
            rw [Path.name, hparts, List.getLast?_concat, List.mem_singleton.1 hpart]
            rfl
          exact Text.mem_join_of_mem (List.mem_append_right _ (List.mem_singleton_self _))
            (hname (hlast ▸ hc))
  refine ⟨c, ?_, hzero⟩
  unfold Path.toText temporaryPath
  dsimp only [Path.parent]
  rw [if_neg (by rw [List.isEmpty_iff]; exact List.ne_nil_of_mem hout)]
  exact hout

/-! ## Refusals -/

/-- Whatever goes wrong is a refusal of the system or a text that cannot be encoded. -/
def Refuses (r : Except Fault α) : Prop := ∀ f, r = .error f → isOutputFault f = true

theorem refuses_ok (a : α) : Refuses (.ok a) := nofun

theorem refuses_system (e : SystemError) : Refuses (.error (.system e) : Except Fault α) := by
  rintro f ⟨⟩
  rfl

theorem Refuses.bind {r : Except Fault α} {g : α → Except Fault β} (h : Refuses r)
    (hg : ∀ a, r = .ok a → Refuses (g a)) : Refuses (r >>= g) := by
  cases r with
  | error f =>
    rintro f' ⟨⟩
    exact h f rfl
  | ok a => exact hg a rfl

theorem Refuses.step {r : Except Fault α} (h : Refuses r) (hm : mishaps.Refuse) (s : OutputStep) :
    Refuses (step mishaps s r) := by
  unfold Disk.step
  split
  next f hf =>
    obtain ⟨e, rfl⟩ := hm s f hf
    exact refuses_system e
  next => exact h

/-- A fault of another sort does not befall a step. -/
theorem error_of_step {r : Except Fault α} {s : OutputStep} (hm : mishaps.Refuse)
    (hf : isOutputFault f = false) (h : Disk.step mishaps s r = .error f) :
    mishaps s = none ∧ r = .error f := by
  unfold Disk.step at h
  split at h
  next g hg =>
    obtain ⟨e, rfl⟩ := hm s g hg
    cases h
    cases hf
  next hnone => exact ⟨hnone, h⟩

theorem refuses_contentOf (t : Text) : Refuses (contentOf t) := by
  unfold contentOf
  cases Utf8.encode t with
  | error e =>
    rintro f ⟨⟩
    rfl
  | ok b => exact refuses_ok b

theorem refuses_writeContent (hm : mishaps.Refuse) (t : Text) :
    Refuses (writeContent mishaps t) := by
  unfold writeContent
  dsimp only
  split
  · exact (refuses_contentOf t).step hm .write
  next f hclose =>
    rintro _ ⟨⟩
    exact (refuses_ok ()).step hm .close f hclose

theorem refuses_resolve (d : Disk) (hp : ∀ c ∈ p.toText, c.val ≠ 0) : Refuses (d.resolve p) := by
  unfold resolve
  refine Refuses.bind ?_ fun _ _ => ?_
  · intro f hf
    rcases checkPath_error hf with ⟨e, rfl⟩ | ⟨-, c, hc, hzero⟩
    · rfl
    · exact absurd hzero (hp c hc)
  · cases d.locate true p with
    | error cause => exact refuses_system _
    | ok target => exact refuses_ok target

theorem refuses_outputMode (d : Disk) (hm : mishaps.Refuse) (hp : ∀ c ∈ p.toText, c.val ≠ 0) :
    Refuses (d.outputMode mishaps p) := by
  have hmode : Refuses (d.destinationMode p) := by
    refine (refuses_resolve d hp).bind fun target _ => ?_
    cases target with
    | found _ e => exact refuses_ok _
    | absent _ => exact refuses_system _
  intro f hf
  unfold outputMode at hf
  split at hf
  · cases hf
  next f' hstep =>
    split at hf
    · cases hf
    · cases hf
      exact hmode.step hm .inspect f hstep

theorem refuses_replaceEntry (d : Disk) (temporary : Path) (place : Place) (p : Path) (e : Entry) :
    Refuses (d.replaceEntry temporary place p e) := by
  unfold replaceEntry
  dsimp only
  split
  · exact refuses_system _
  · split
    · exact refuses_system _
    · exact refuses_ok _

theorem refuses_finishOutput (d : Disk) (hm : mishaps.Refuse) (hp : ∀ c ∈ p.toText, c.val ≠ 0)
    (temporary : Path) (place : Place) (t : Text) :
    Refuses (d.finishOutput mishaps temporary place p t) := by
  unfold finishOutput
  refine (refuses_writeContent hm t).bind fun content _ => ?_
  refine (refuses_outputMode d hm hp).bind fun mode _ => ?_
  refine ((refuses_ok ()).step hm .setMode).bind fun _ _ => ?_
  exact (refuses_replaceEntry d temporary place p _).step hm .replace

theorem refuses_createTemporary (d : Disk)
    (h : checkPath (temporaryPath p (temporaryName p.name 0)).toText = .ok ()) :
    Refuses (d.createTemporary p) := by
  unfold createTemporary
  dsimp only
  rw [h]
  refine (refuses_ok ()).bind fun _ _ => ?_
  split
  · exact refuses_system _
  · exact refuses_system _
  · split
    · exact refuses_system _
    · split
      · exact refuses_system _
      split
      · exact refuses_system _
      split
      · exact refuses_system _
      · exact refuses_ok _

/-! ## Writing -/

/-- A fault that is no error of the run comes out of a write exactly when the path of the temporary
file, which is the first that is used, holds a null byte. -/
theorem writeOutput_foreign_iff (hm : mishaps.Refuse) (hf : ∀ e, f ≠ .lint e) :
    (d.writeOutput mishaps p t).1 = .error f ↔
      mishaps .create = none ∧ f = .badValue nullMessage ∧
        checkPath (temporaryPath p (temporaryName p.name 0)).toText = .error f := by
  have hforeign {g : Fault} (h : outputFault p g = f) : g = f ∧ isOutputFault f = false := by
    unfold outputFault at h
    split at h
    · exact absurd h.symm (hf _)
    next hg => exact ⟨h, by simpa [← h] using hg⟩
  constructor
  · intro h
    unfold writeOutput at h
    split at h
    next g hcreate =>
      obtain ⟨rfl, hfalse⟩ := hforeign (Except.error.inj h)
      obtain ⟨hnone, htemporary⟩ := error_of_step hm hfalse hcreate
      cases hcheck : checkPath (temporaryPath p (temporaryName p.name 0)).toText with
      | ok u => exact absurd (refuses_createTemporary d hcheck g htemporary) (by simp [hfalse])
      | error g' =>
        have heq : g' = g := by
          unfold createTemporary at htemporary
          dsimp only at htemporary
          rw [hcheck] at htemporary
          exact Except.error.inj htemporary
        subst heq
        rcases checkPath_error hcheck with ⟨e, rfl⟩ | ⟨rfl, -⟩
        · cases hfalse
        · exact ⟨hnone, rfl, rfl⟩
    next temporary place d' hcreate =>
      split at h
      next g hfinish =>
        obtain ⟨rfl, hfalse⟩ := hforeign (Except.error.inj h)
        obtain ⟨_, hcheck, -⟩ := bind_eq_ok.1 (step_of_ok hcreate)
        -- the path of the temporary file was checked, and the destination's is part of it
        have hnull : ∀ c ∈ p.toText, c.val ≠ 0 := by
          intro c hc hzero
          obtain ⟨c', hc', hzero'⟩ := null_temporaryPath 0 ⟨c, hc, hzero⟩
          exact ne_null_of_checkPath hcheck c' hc' hzero'
        have := refuses_finishOutput d' hm hnull temporary place t g hfinish
        rw [hfalse] at this
        cases this
      · cases h
  · rintro ⟨hcreate, rfl, hcheck⟩
    unfold writeOutput createTemporary step
    rw [hcreate]
    dsimp only
    rw [hcheck]
    rfl

end Disk

end Backtick
