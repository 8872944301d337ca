import Backtick.Proofs.Disk.Output

/-!
# What a path leads to after a write

A path with a name at its end leads through the directory that its parent leads to. Putting a file
at a place can bar a walk that went through that place, but it cannot lead a walk to another
directory. So a path that still leads to a file after a write to it leads to the file that was
written.

* `walkTo_cons` — a walk goes on where its first name leads
* `walk_concat` — a walk goes through the directory in front of its last name
* `walk_append` — a walk goes on from the directory that its first names lead to
* `walk_of_put` — a walk to a directory does not go through a file that was put
* `walk_put` — a walk does not miss what was put where nothing was
* `read_put` — what can be read at a path after a write
-/

namespace Backtick.Disk

variable {d : Disk} {here : Place} {names : List Text} {name : Text} {links : Nat}

/-! ## One name -/

/-- Where a walk that follows all links goes on behind a name. -/
inductive Move where
  /-- nowhere: nothing has the name -/
  | missing (place : Place)
  | enter (place : Place)
  /-- where a link leads: through these names from a place -/
  | jump (place : Place) (names : List Text)

/-- Where a walk that follows all links goes on from a place behind a name. -/
def move (d : Disk) (here : Place) (x : Text) : Except SystemCause Move :=
  match d.get? here with
  | none => .error .noEntry
  | some (.file ..) | some (.link _) => .error .notDirectory
  | some (.directory mode) =>
    if !permits mode passBit then .error .accessDenied
    else if x = above then .ok (.enter here.dropLast)
    else if longestName < nameSize x then .error .nameTooLong
    else
      match d.get? (here ++ [x]) with
      | none => .ok (.missing (here ++ [x]))
      | some (.link target) =>
        let t := Path.ofText target
        .ok (.jump (if t.root.isEmpty then here else []) t.parts)
      | some _ => .ok (.enter (here ++ [x]))

/-- A walk goes on where its first name leads. -/
theorem walkTo_cons (d : Disk) (jump : Place → List Text → Except SystemCause Target)
    (here : Place) (x : Text) (rest : List Text) :
    d.walkTo true jump here (x :: rest) =
      match d.move here x with
      | .error cause => .error cause
      | .ok (.missing place) => if rest.isEmpty then .ok (.absent place) else .error .noEntry
      | .ok (.enter place) => d.walkTo true jump place rest
      | .ok (.jump place names) => jump place (names ++ rest) := by
  rw [walkTo]
  unfold move
  cases d.get? here with
  | none => rfl
  | some e =>
    cases e with
    | file mode content => rfl
    | link target => rfl
    | directory mode =>
      dsimp only
      split
      · rfl
      split
      · rfl
      split
      · rfl
      cases d.get? (here ++ [x]) with
      | none => rfl
      | some e =>
        cases e with
        | file mode content => rfl
        | directory mode => rfl
        | link target =>
          dsimp only
          rw [Bool.not_true, Bool.and_false, if_neg Bool.false_ne_true]

/-! ## The last name -/

/-- A walk to a name goes through the directory that the names in front of it lead to. -/
def ThroughDirectory (d : Disk) (name : Text) (before : Except SystemCause Target)
    (r : Target) : Prop :=
  ∃ directory mode links, before = .ok (.found directory (.directory mode)) ∧
    d.get? directory = some (.directory mode) ∧ d.walk true links directory [name] = .ok r

theorem walkTo_concat {jump : Place → List Text → Except SystemCause Target} {r : Target}
    (hlinks : d.walk true links = d.walkTo true jump)
    (hjump : ∀ here names, jump here (names ++ [name]) = .ok r →
      d.ThroughDirectory name (jump here names) r)
    (h : d.walkTo true jump here (names ++ [name]) = .ok r) :
    d.ThroughDirectory name (d.walkTo true jump here names) r := by
  induction names generalizing here with
  | nil =>
    -- the walk stands at the directory that the last name is looked up in
    have hwalk : d.walk true links here [name] = .ok r := by rw [hlinks]; exact h
    rw [List.nil_append] at h
    unfold walkTo at h ⊢
    cases hhere : d.get? here with
    | none => rw [hhere] at h; cases h
    | some e =>
      cases e with
      | file mode content => rw [hhere] at h; cases h
      | link target => rw [hhere] at h; cases h
      | directory mode => exact ⟨here, mode, links, rfl, hhere, hwalk⟩
  | cons x rest ih =>
    rw [List.cons_append, walkTo_cons] at h
    rw [walkTo_cons]
    cases hmove : d.move here x with
    | error cause => rw [hmove] at h; cases h
    | ok m =>
      rw [hmove] at h
      cases m with
      | missing place =>
        dsimp only at h
        rw [if_neg (by simp)] at h
        cases h
      | enter place => exact ih h
      | jump place names =>
        dsimp only at h
        rw [← List.append_assoc] at h
        exact hjump place (names ++ rest) h

/-- A walk to a name goes through the directory that the names in front of it lead to. -/
theorem walk_concat {r : Target} (h : d.walk true links here (names ++ [name]) = .ok r) :
    d.ThroughDirectory name (d.walk true links here names) r := by
  induction links generalizing here names with
  | zero =>
    refine @walkTo_concat d here names name 0 (fun _ _ => .error .linkLoop) r rfl ?_ h
    rintro _ _ ⟨⟩
  | succ links ih =>
    exact @walkTo_concat d here names name (links + 1) (d.walk true links) r rfl (fun _ _ => ih) h

theorem walkTo_append {jump : Place → List Text → Except SystemCause Target} {directory : Place}
    {mode : Nat} (hlinks : d.walk true links = d.walkTo true jump) (rest : List Text)
    (hjump : ∀ here names, jump here names = .ok (.found directory (.directory mode)) →
      d.get? directory = some (.directory mode) ∧
        ∃ links', jump here (names ++ rest) = d.walk true links' directory rest)
    (h : d.walkTo true jump here names = .ok (.found directory (.directory mode))) :
    d.get? directory = some (.directory mode) ∧
      ∃ links', d.walkTo true jump here (names ++ rest) = d.walk true links' directory rest := by
  induction names generalizing here with
  | nil =>
    unfold walkTo at h
    cases hhere : d.get? here with
    | none => rw [hhere] at h; cases h
    | some e =>
      rw [hhere] at h
      cases e with
      | file mode content => cases h
      | link target => cases h
      | directory mode =>
        cases h
        exact ⟨hhere, links, by rw [hlinks, List.nil_append]⟩
  | cons x names ih =>
    rw [walkTo_cons] at h
    rw [List.cons_append, walkTo_cons]
    cases hmove : d.move here x with
    | error cause => rw [hmove] at h; cases h
    | ok m =>
      rw [hmove] at h
      cases m with
      | missing place => cases names <;> cases h
      | enter place => exact ih h
      | jump place names' =>
        dsimp only
        rw [← List.append_assoc]
        exact hjump place (names' ++ names) h

/-- A walk goes on from the directory that its first names lead to. -/
theorem walk_append {directory : Place} {mode : Nat}
    (h : d.walk true links here names = .ok (.found directory (.directory mode)))
    (rest : List Text) :
    d.get? directory = some (.directory mode) ∧
      ∃ links', d.walk true links here (names ++ rest) = d.walk true links' directory rest := by
  induction links generalizing here names with
  | zero =>
    refine @walkTo_append d here names 0 (fun _ _ => .error .linkLoop) _ _ rfl rest ?_ h
    rintro _ _ ⟨⟩
  | succ links ih =>
    exact @walkTo_append d here names (links + 1) (d.walk true links) _ _ rfl rest
      (fun _ _ => ih) h

/-- What stands at a place, as the end of a walk. -/
def targetAt (d : Disk) (q : Place) : Target :=
  match d.get? q with
  | some e => .found q e
  | none => .absent q

/-- A name in a directory leads to what has the name there, if that is no link. Only the directory's
bits and the length of the name can keep a walk from it. -/
theorem walk_name {mode : Nat} (links : Nat) (hdirectory : d.get? here = some (.directory mode))
    (habove : name ≠ above) (hlink : ∀ target, d.get? (here ++ [name]) ≠ some (.link target)) :
    d.walk true links here [name] = .error .accessDenied ∨
      d.walk true links here [name] = .error .nameTooLong ∨
      d.walk true links here [name] = .ok (d.targetAt (here ++ [name])) := by
  have hjump : ∃ jump, d.walk true links = d.walkTo true jump := by
    cases links with
    | zero => exact ⟨_, rfl⟩
    | succ links => exact ⟨_, rfl⟩
  obtain ⟨jump, hjump⟩ := hjump
  rw [hjump, walkTo_cons]
  unfold move targetAt
  rw [hdirectory]
  dsimp only
  rw [if_neg habove]
  by_cases hpass : (!permits mode passBit) = true
  · rw [if_pos hpass]
    exact Or.inl rfl
  rw [if_neg hpass]
  by_cases hlong : longestName < nameSize name
  · rw [if_pos hlong]
    exact Or.inr (Or.inl rfl)
  · rw [if_neg hlong]
    refine Or.inr (Or.inr ?_)
    cases hname : d.get? (here ++ [name]) with
    | none => rfl
    | some e =>
      cases e with
      | link target => exact absurd hname (hlink target)
      | file mode content =>
        dsimp only
        unfold walkTo
        rw [hname]
        rfl
      | directory mode =>
        dsimp only
        unfold walkTo
        rw [hname]

/-! ## A file in the way -/

/-- A walk that stands at a file gets to no directory. -/
theorem walkTo_of_file {follow : Bool} {jump : Place → List Text → Except SystemCause Target}
    {mode mode' : Nat} {content : Bytes} {directory : Place}
    (hfile : d.get? here = some (.file mode content)) :
    d.walkTo follow jump here names ≠ .ok (.found directory (.directory mode')) := by
  unfold walkTo
  rw [hfile]
  cases names with
  | nil => exact nofun
  | cons x rest => exact nofun

section Put

variable {place directory : Place} {mode mode' : Nat} {content : Bytes}

/-- What is no file after a file was put was there before. -/
theorem get?_of_put {q : Place} {e : Entry}
    (h : (d.put place (.file mode content)).get? q = some e) (he : ∀ m b, e ≠ .file m b) :
    d.get? q = some e := by
  rw [get?_put] at h
  split at h
  · exact absurd (Option.some.inj h).symm (he mode content)
  · exact h

/-- After a file was put a walk goes on as before, or to nothing or the file. -/
theorem move_of_put {x : Text} {m : Move}
    (h : (d.put place (.file mode content)).move here x = .ok m) :
    d.move here x = .ok m ∨ (∃ q, m = .missing q) ∨
      ∃ q m' b, m = .enter q ∧ (d.put place (.file mode content)).get? q = some (.file m' b) := by
  unfold move at h
  cases hhere : (d.put place (.file mode content)).get? here with
  | none => rw [hhere] at h; cases h
  | some e =>
    rw [hhere] at h
    cases e with
    | file _ _ => cases h
    | link _ => cases h
    | directory _ =>
      unfold move
      rw [get?_of_put hhere nofun]
      dsimp only at h ⊢
      split at h
      · cases h
      next hpass =>
      rw [if_neg hpass]
      split at h
      · next habove =>
        rw [if_pos habove]
        exact Or.inl h
      next habove =>
      rw [if_neg habove]
      split at h
      · cases h
      next hlong =>
      rw [if_neg hlong]
      cases hnext : (d.put place (.file mode content)).get? (here ++ [x]) with
      | none =>
        rw [hnext] at h
        cases h
        exact Or.inr (Or.inl ⟨_, rfl⟩)
      | some e =>
        rw [hnext] at h
        cases e with
        | file m' b =>
          cases h
          exact Or.inr (Or.inr ⟨_, m', b, rfl, hnext⟩)
        | directory _ =>
          rw [get?_of_put hnext nofun]
          exact Or.inl h
        | link target =>
          rw [get?_of_put hnext nofun]
          exact Or.inl h

theorem walkTo_of_put {jump jump' : Place → List Text → Except SystemCause Target}
    (hjump : ∀ here names, jump' here names = .ok (.found directory (.directory mode')) →
      jump here names = .ok (.found directory (.directory mode')))
    (h : (d.put place (.file mode content)).walkTo true jump' here names =
      .ok (.found directory (.directory mode'))) :
    d.walkTo true jump here names = .ok (.found directory (.directory mode')) := by
  induction names generalizing here with
  | nil =>
    unfold walkTo at h
    cases hhere : (d.put place (.file mode content)).get? here with
    | none => rw [hhere] at h; cases h
    | some e =>
      rw [hhere] at h
      cases e with
      | file _ _ => cases h
      | link _ => cases h
      | directory _ =>
        unfold walkTo
        rw [get?_of_put hhere nofun]
        exact h
  | cons x rest ih =>
    rw [walkTo_cons] at h
    cases hmove : (d.put place (.file mode content)).move here x with
    | error cause => rw [hmove] at h; cases h
    | ok m =>
      rw [hmove] at h
      -- a walk that ends at a directory has not come to the file, nor to nothing
      rcases move_of_put hmove with hsame | ⟨q, rfl⟩ | ⟨q, m', b, rfl, hfile⟩
      · rw [walkTo_cons, hsame]
        cases m with
        | missing q => cases rest <;> cases h
        | enter q => exact ih h
        | jump q names => exact hjump q (names ++ rest) h
      · cases rest <;> cases h
      · exact absurd h (walkTo_of_file hfile)

/-- A walk that gets to a directory after a file was put got there before. -/
theorem walk_of_put
    (h : (d.put place (.file mode content)).walk true links here names =
      .ok (.found directory (.directory mode'))) :
    d.walk true links here names = .ok (.found directory (.directory mode')) := by
  induction links generalizing here names with
  | zero => exact walkTo_of_put (by rintro _ _ ⟨⟩) h
  | succ links ih => exact walkTo_of_put (fun _ _ => ih) h

/-- An entry stays where it is when another one is put where nothing was. -/
theorem get?_put_of_absent {q : Place} {e e' : Entry} (habsent : d.get? place = none)
    (h : d.get? q = some e) : (d.put place e').get? q = some e := by
  have hne : place ≠ q := by
    rintro rfl
    rw [habsent] at h
    cases h
  rw [get?_put, if_neg hne, h]

theorem move_put {x : Text} {m : Move} (e : Entry) (habsent : d.get? place = none)
    (hm : ∀ q, m ≠ .missing q) (h : d.move here x = .ok m) :
    (d.put place e).move here x = .ok m := by
  unfold move at h ⊢
  cases hhere : d.get? here with
  | none => rw [hhere] at h; cases h
  | some e' =>
    rw [hhere] at h
    rw [get?_put_of_absent habsent hhere]
    cases e' with
    | file _ _ => cases h
    | link _ => cases h
    | directory mode =>
      dsimp only at h ⊢
      cases hnext : d.get? (here ++ [x]) with
      | none =>
        -- nothing has the name, so the walk has gone up or not at all
        rw [hnext] at h
        split at h
        · cases h
        next hpass =>
        rw [if_neg hpass]
        split at h
        · next habove => rw [if_pos habove, h]
        split at h
        · cases h
        · cases h
          exact absurd rfl (hm _)
      | some e' =>
        rw [hnext] at h
        rw [get?_put_of_absent habsent hnext]
        exact h

theorem walkTo_put {jump jump' : Place → List Text → Except SystemCause Target} {q : Place}
    {e' : Entry} (e : Entry) (habsent : d.get? place = none)
    (hjump : ∀ here names, jump here names = .ok (.found q e') →
      jump' here names = .ok (.found q e'))
    (h : d.walkTo true jump here names = .ok (.found q e')) :
    (d.put place e).walkTo true jump' here names = .ok (.found q e') := by
  induction names generalizing here with
  | nil =>
    unfold walkTo at h ⊢
    cases hhere : d.get? here with
    | none => rw [hhere] at h; cases h
    | some e =>
      rw [hhere] at h
      rw [get?_put_of_absent habsent hhere]
      cases e with
      | file _ _ => exact h
      | link _ => exact h
      | directory _ => exact h
  | cons x rest ih =>
    rw [walkTo_cons] at h ⊢
    cases hmove : d.move here x with
    | error cause => rw [hmove] at h; cases h
    | ok m =>
      rw [hmove] at h
      cases m with
      | missing q => cases rest <;> cases h
      | enter q =>
        rw [move_put e habsent (by rintro _ ⟨⟩) hmove]
        exact ih h
      | jump q names =>
        rw [move_put e habsent (by rintro _ ⟨⟩) hmove]
        exact hjump q (names ++ rest) h

/-- A walk to an entry gets there also when another entry was put where nothing was. -/
theorem walk_put {q : Place} {e' : Entry} (e : Entry) (habsent : d.get? place = none)
    (h : d.walk true links here names = .ok (.found q e')) :
    (d.put place e).walk true links here names = .ok (.found q e') := by
  induction links generalizing here names with
  | zero => exact walkTo_put e habsent (by rintro _ _ ⟨⟩) h
  | succ links ih => exact walkTo_put e habsent (fun _ _ => ih) h

/-! ## Reading back -/

/-- A name in a directory that is the name of a file leads to the file. -/
theorem walk_file {r : Target} (hdirectory : d.get? here = some (.directory mode'))
    (hfile : d.get? (here ++ [name]) = some (.file mode content)) (habove : name ≠ above)
    (h : d.walk true links here [name] = .ok r) :
    r = .found (here ++ [name]) (.file mode content) := by
  rcases walk_name links hdirectory habove (by simp [hfile]) with hwalk | hwalk | hwalk
  · rw [hwalk] at h
    cases h
  · rw [hwalk] at h
    cases h
  · rw [hwalk, targetAt, hfile] at h
    exact (Except.ok.inj h).symm

/-- What is read at a path is the content of a file that the path leads to. -/
theorem locate_of_read {p : Path} {b : Bytes} (h : d.read p = .ok b) :
    ∃ q m, d.locate true p = .ok (.found q (.file m b)) := by
  unfold read at h
  obtain ⟨target, hresolve, h⟩ := bind_eq_ok.1 h
  have hok := locate_of_resolve hresolve
  cases target with
  | absent q => cases h
  | found q e =>
    cases e with
    | directory m => cases h
    | link t => cases h
    | file m c =>
      dsimp only at h
      split at h
      · cases h
        exact ⟨q, m, hok⟩
      · cases h

theorem parts_concat {p : Path} (hname : p.name ≠ []) : p.parts = p.parent.parts ++ [p.name] := by
  unfold Path.name at hname ⊢
  unfold Path.parent
  rcases List.eq_nil_or_concat p.parts with hnil | ⟨init, x, hconcat⟩
  · rw [hnil] at hname
    exact absurd rfl hname
  · rw [hconcat]
    simp

/-- What can be read at a path after a file was put at its place is that file. -/
theorem read_put {p : Path} {b : Bytes} (hplace : d.entryPlace? p = some place)
    (hname : p.name ≠ []) (habove : p.name ≠ above)
    (h : (d.put place (.file mode content)).read p = .ok b) : b = content := by
  obtain ⟨q, m, hlocate⟩ := locate_of_read h
  unfold locate at hlocate
  split at hlocate
  · cases hlocate
  rw [parts_concat hname] at hlocate
  obtain ⟨directory, mode', links, hbefore, hdirectory, hlast⟩ := walk_concat hlocate
  have hparent := walk_of_put hbefore
  have heq : place = directory ++ [p.name] := by
    unfold entryPlace? locate at hplace
    split at hplace
    · next directory' e hl =>
      split at hl
      · cases hl
      · rw [show (if p.parent.root.isEmpty then d.home else []) =
          if p.root.isEmpty then (d.put place (.file mode content)).home else [] from rfl,
          hparent] at hl
        cases hl
        exact (Option.some.inj hplace).symm
    · cases hplace
  have hfile : (d.put place (.file mode content)).get? (directory ++ [p.name]) =
      some (.file mode content) := by
    rw [get?_put, if_pos heq]
  have hfound := walk_file hdirectory hfile habove hlast
  cases hfound
  rfl

end Put

end Backtick.Disk
