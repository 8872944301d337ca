import Backtick.Proofs.Linked
import Backtick.Yaml

/-!
# The maps of a document

The maps of a document are made by putting its entries one after the other, so that every map in
the value of a document has distinct keys (`read_distinctKeys`), also where it merges others into
itself or names a key twice.
-/

namespace Backtick.Yaml

namespace Meant

variable {α β : Type} {m : Meant α} {x : α}

@[simp] theorem deeper_eq_ok : m.deeper = .ok x ↔ m = .ok x := mapError_eq_ok

theorem and_eq_ok {b : Meant β} {y : β} : m.and b = .ok (x, y) ↔ m = .ok x ∧ b = .ok y := by
  cases m <;> cases b <;> simp [Meant.and]

theorem mem_of_all {ms : List (Meant α)} {xs : List α} (h : all ms = .ok xs) (hx : x ∈ xs) :
    .ok x ∈ ms := by
  induction ms generalizing xs with
  | nil => cases h; cases hx
  | cons m rest ih =>
    obtain ⟨⟨y, ys⟩, hand, rfl⟩ := map_eq_ok.1 h
    obtain ⟨hm, hrest⟩ := and_eq_ok.1 hand
    rcases List.mem_cons.1 hx with rfl | hx
    · exact List.mem_cons.2 (.inl hm.symm)
    · exact List.mem_cons_of_mem m (ih hrest hx)

/-- Whatever value is meant, every map in it has distinct keys. -/
def Distinct (m : Meant Linked) : Prop := ∀ v, m = .ok v → v.value.DistinctKeys

theorem distinct_fault (f : Fault) : Distinct (fault f) := nofun

theorem Distinct.deeper {m : Meant Linked} (h : m.Distinct) : m.deeper.Distinct :=
  fun v hv => h v (deeper_eq_ok.1 hv)

theorem distinct_scalar {ε : Type} {r : Except ε Scalar} {f : ε → Nat × Fault} :
    Distinct ((r.map .scalar).mapError f) := by
  intro v hv
  obtain ⟨s, _, rfl⟩ := map_eq_ok.1 (mapError_eq_ok.1 hv)
  exact .scalar s

theorem distinctKeys_list {vs : List Linked} (h : ∀ v ∈ vs, v.value.DistinctKeys) :
    (Linked.list vs).value.DistinctKeys := by
  rw [Linked.value, Linked.values_eq_map]
  exact .list (List.forall_mem_map.2 h)

theorem distinct_list {ms : List (Meant Linked)} (h : ∀ m ∈ ms, m.Distinct) :
    Distinct ((all ms).deeper.map .list) := by
  intro v hv
  obtain ⟨vs, hall, rfl⟩ := map_eq_ok.1 hv
  exact distinctKeys_list fun v hv => h _ (mem_of_all (deeper_eq_ok.1 hall) hv) v rfl

end Meant

theorem MeantEntry.map_distinct {es : List MeantEntry} {members : Members}
    (hes : ∀ e ∈ es, e.value.Distinct) (h : MeantEntry.map es = .ok members) :
    (Value.map (Linked.entries members)).DistinctKeys := by
  obtain ⟨ps, hall, rfl⟩ := map_eq_ok.1 h
  have hps : ∀ p ∈ ps, p.2.value.DistinctKeys := by
    intro p hp
    obtain ⟨e, he, hand⟩ := List.mem_map.1 (Meant.mem_of_all hall hp)
    exact hes e he p.2 (Meant.and_eq_ok.1 hand).2
  clear h hall
  -- whatever has been put so far has distinct keys
  suffices ∀ sofar : Members, (Value.map (Linked.entries sofar)).DistinctKeys →
      (Value.map (Linked.entries
        (ps.foldl (fun ms p => Members.put ms p.1 p.2) sofar))).DistinctKeys from
    this [] (.map Entries.distinct_nil nofun)
  induction ps with
  | nil => exact fun _ hsofar => hsofar
  | cons p rest ih =>
    intro sofar hsofar
    refine ih (fun q hq => hps q (List.mem_cons_of_mem p hq)) _ ?_
    rw [Linked.entries_put]
    exact hsofar.put (hps p List.mem_cons_self) p.1

/-! ## Nodes -/

namespace Node

/-- The entries that are merged into a mapping, and its own, have such values. -/
def EntriesDistinct (r : Except Fault (List MeantEntry × List MeantEntry)) : Prop :=
  ∀ merged own, r = .ok (merged, own) → ∀ e ∈ merged ++ own, e.value.Distinct

theorem mapOf_distinct {r : Except Fault (List MeantEntry × List MeantEntry)}
    (h : EntriesDistinct r) (n : Nat) :
    Meant.Distinct ((value.mapOf r).deeper.map (.map n)) := by
  intro v hv
  obtain ⟨es, hes, rfl⟩ := map_eq_ok.1 hv
  match r with
  | .ok (merged, own) => exact MeantEntry.map_distinct (h merged own rfl) (Meant.deeper_eq_ok.1 hes)

mutual

theorem value_distinct : ∀ n : Node, (value n).Distinct
  | .enclosing => Meant.distinct_fault _
  | .scalar tag t => by
    unfold value
    split
    · exact Meant.distinct_scalar
    · split
      all_goals exact fun v hv => nomatch hv
  | .sequence tag items => by
    have hvalues := values_distinct items
    have hpairs := pairs_distinct items
    unfold value
    split
    · exact Meant.distinct_list hvalues
    · exact Meant.distinct_list hpairs
    all_goals exact fun v hv => nomatch hv
  | .mapping tag n es => by
    have hentries := entries_distinct es
    unfold value
    split
    · exact mapOf_distinct hentries n
    · intro v hv
      obtain ⟨es, _, rfl⟩ := map_eq_ok.1 hv
      exact .set _
    · exact fun v hv => nomatch hv
    · exact fun v hv => nomatch hv
    · split
      · exact Meant.distinct_scalar
      · exact Meant.distinct_fault _

theorem values_distinct : ∀ items : List Node, ∀ m ∈ values items, m.Distinct
  | [] => by simp [values]
  | n :: rest => by
    have hn := value_distinct n
    have hrest := values_distinct rest
    rw [values]
    exact List.forall_mem_cons.2 ⟨hn, hrest⟩

theorem pairs_distinct : ∀ items : List Node, ∀ m ∈ pairs items, m.Distinct
  | [] => by simp [pairs]
  | n :: rest => by
    have hrest := pairs_distinct rest
    unfold pairs
    split
    · simp
    next _ k v rest' heq =>
      cases heq
      have hk := value_distinct k
      have hv := value_distinct v
      refine List.forall_mem_cons.2 ⟨fun pair hpair => ?_, hrest⟩
      obtain ⟨⟨x, y⟩, hxy, rfl⟩ := map_eq_ok.1 hpair
      obtain ⟨hx, hy⟩ := Meant.and_eq_ok.1 hxy
      exact Meant.distinctKeys_list
        (List.forall_mem_cons.2 ⟨hk x hx, List.forall_mem_singleton.2 (hv y hy)⟩)
    next heq =>
      cases heq
      exact List.forall_mem_cons.2 ⟨Meant.distinct_fault _, hrest⟩

theorem entries_distinct : ∀ es : List (Node × Node), EntriesDistinct (entries es)
  | [] => by
    rintro merged own h e he
    cases h
    cases he
  | (k, v) :: rest => by
    have hv := value_distinct v
    have hmerged := merged_distinct v
    have hrest := entries_distinct rest
    intro merged own h e he
    unfold entries at h
    -- a merge key brings in the entries of other mappings, any other key brings its own value
    split at h
    · split at h
      · cases h
      · cases h
      next es merged' own' hes hmo =>
        cases h
        rw [List.append_assoc] at he
        rcases List.mem_append.1 he with he | he
        · exact hmerged es hes e he
        · exact hrest merged' own hmo e he
    · obtain ⟨⟨merged', own'⟩, hmo, heq⟩ := map_eq_ok.1 h
      cases heq
      have he : e.value = value v ∨ e ∈ merged ++ own' := by
        rcases List.mem_append.1 he with he | he
        · exact .inr (List.mem_append_left own' he)
        · rcases List.mem_cons.1 he with rfl | he
          · exact .inl rfl
          · exact .inr (List.mem_append_right merged he)
      rcases he with he | he
      · exact he ▸ hv
      · exact hrest merged own' hmo e he

theorem merged_distinct : ∀ n : Node, ∀ es, merged n = .ok es → ∀ e ∈ es, e.value.Distinct
  | .mapping tag _ es => by
    have hentries := entries_distinct es
    intro all hall
    rw [merged] at hall
    obtain ⟨⟨merged', own⟩, hmo, rfl⟩ := map_eq_ok.1 hall
    exact hentries merged' own hmo
  | .sequence tag items => by
    have hitems := mergedFrom_distinct items
    rwa [merged]
  | .scalar _ _ | .enclosing => by simp [merged]

theorem mergedFrom_distinct :
    ∀ items : List Node, ∀ es, mergedFrom items = .ok es → ∀ e ∈ es, e.value.Distinct
  | [] => by simp [mergedFrom]
  | .mapping tag _ es :: rest => by
    have hentries := entries_distinct es
    have hrest := mergedFrom_distinct rest
    intro all hall e he
    rw [mergedFrom] at hall
    split at hall
    · cases hall
    · cases hall
    next merged own others hmo hothers =>
      cases hall
      rw [List.append_assoc] at he
      rcases List.mem_append.1 he with he | he
      · exact hrest others hothers e he
      · exact hentries merged own hmo e he
  | .scalar _ _ :: _ | .sequence _ _ :: _ | .enclosing :: _ => by simp [mergedFrom]

end

end Node

/-- Every map in the value of a document has distinct keys. -/
theorem read_distinctKeys {t : Text} {v : Linked} (h : read t = .ok v) :
    v.value.DistinctKeys := by
  rw [read] at h
  split at h
  · cases h
  · obtain ⟨tokens, _, h⟩ := bind_eq_ok.1 h
    obtain ⟨n?, _, h⟩ := bind_eq_ok.1 h
    split at h
    · cases h
      exact .scalar _
    next n _ => exact n.value_distinct v (mapError_eq_ok.1 h)

end Backtick.Yaml
