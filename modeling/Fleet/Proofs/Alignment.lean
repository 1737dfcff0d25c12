import Fleet.Cluster
import Fleet.Health.Snapshots

/-!
# Snapshots attached by position

A batched lookup answers with the snapshots that it found and with the positions of the ids that have
none, and both lists are consumed side by side with the clusters. `Batch` says what such an answer has to
hold from a position on. One cluster takes exactly its own part of the answer, so that what is left is the
answer for the others, and in the end every cluster has its own snapshot.
-/

namespace Fleet

/-! ## Answers to batched lookups -/

/-- A position is that of an id without a snapshot, if the first id is at `position`. -/
def Lacks (held : String → Option Health) (position : Nat) (ids : List String) (other : Nat) : Prop :=
  ∃ offset id, ids[offset]? = some id ∧ held id = none ∧ other = position + offset

theorem Lacks.le {held : String → Option Health} {position other : Nat} {ids : List String}
    (h : Lacks held position ids other) : position ≤ other := by
  obtain ⟨offset, _, -, -, rfl⟩ := h
  omega

theorem lacks_cons {held : String → Option Health} {position other : Nat} {id : String}
    {rest : List String} : Lacks held position (id :: rest) other ↔
      other = position ∧ held id = none ∨ Lacks held (position + 1) rest other := by
  constructor
  · rintro ⟨offset, later, hlater, hnone, rfl⟩
    cases offset with
    | zero =>
      cases hlater
      exact .inl ⟨rfl, hnone⟩
    | succ offset => exact .inr ⟨offset, later, hlater, hnone, by omega⟩
  · rintro (⟨rfl, hnone⟩ | ⟨offset, later, hlater, hnone, rfl⟩)
    · exact ⟨0, id, rfl, hnone, rfl⟩
    · exact ⟨offset + 1, later, hlater, hnone, by omega⟩

/-- What a batched lookup has to answer if these snapshots are held: those found, in the order of the
ids, and the positions of the ids without one, ascending. `position` is that of the first id. -/
structure Batch (held : String → Option Health) (position : Nat) (ids : List String)
    (found : List Health) (missing : List Nat) : Prop where
  found_eq : found = ids.filterMap held
  ascending : missing.Pairwise (· < ·)
  mem_missing : ∀ other, other ∈ missing ↔ Lacks held position ids other

namespace Batch

variable {held : String → Option Health} {position : Nat} {id : String} {rest : List String}
  {found : List Health} {missing : List Nat} {snapshot : Health}

/-- An id with a snapshot is not among those missing and takes the first one found. -/
theorem hit (h : Batch held position (id :: rest) found missing) (hheld : held id = some snapshot) :
    missing.head? ≠ some position ∧ found.head? = some snapshot ∧
      Batch held (position + 1) rest found.tail missing := by
  have hmem : ∀ other, other ∈ missing ↔ Lacks held (position + 1) rest other := by
    intro other
    rw [h.mem_missing, lacks_cons, hheld]
    simp
  have hfound := h.found_eq
  rw [List.filterMap_cons_some hheld] at hfound
  refine ⟨fun hhead => ?_, hfound ▸ rfl, hfound ▸ rfl, h.ascending, hmem⟩
  have := ((hmem position).1 (List.mem_of_head? hhead)).le
  omega

/-- An id without a snapshot is the first one missing and leaves what was found to the others. -/
theorem miss (h : Batch held position (id :: rest) found missing) (hheld : held id = none) :
    missing.head? = some position ∧ Batch held (position + 1) rest found missing.tail := by
  have hmem : position ∈ missing := (h.mem_missing position).2 (lacks_cons.2 (.inl ⟨rfl, hheld⟩))
  have hfound := h.found_eq
  rw [List.filterMap_cons_none hheld] at hfound
  cases missing with
  | nil => cases hmem
  | cons first others =>
    obtain ⟨hfirst, hothers⟩ := List.pairwise_cons.1 h.ascending
    -- No position comes before `position`, and the first one comes before all others.
    obtain rfl : first = position := by
      rcases List.mem_cons.1 hmem with heq | hlater
      · exact heq.symm
      · have := hfirst position hlater
        have := ((h.mem_missing first).1 List.mem_cons_self).le
        omega
    refine ⟨rfl, hfound, hothers, fun other => ?_⟩
    have hall := h.mem_missing other
    rw [List.mem_cons, lacks_cons] at hall
    constructor
    · intro hother
      exact (hall.1 (.inr hother)).resolve_left fun h => Nat.ne_of_gt (hfirst other hother) h.1
    · intro hother
      exact (hall.2 (.inr hother)).resolve_left fun h => Nat.not_succ_le_self first (h ▸ hother.le)

theorem cons_hit (h : Batch held (position + 1) rest found missing) (hheld : held id = some snapshot) :
    Batch held position (id :: rest) (snapshot :: found) missing where
  found_eq := by rw [List.filterMap_cons_some hheld, h.found_eq]
  ascending := h.ascending
  mem_missing other := by
    rw [h.mem_missing, lacks_cons, hheld]
    simp

theorem cons_miss (h : Batch held (position + 1) rest found missing) (hheld : held id = none) :
    Batch held position (id :: rest) found (position :: missing) where
  found_eq := by rw [List.filterMap_cons_none hheld, h.found_eq]
  ascending := List.pairwise_cons.2 ⟨fun other hother => ((h.mem_missing other).1 hother).le, h.ascending⟩
  mem_missing other := by
    rw [List.mem_cons, h.mem_missing, lacks_cons, hheld]
    simp

end Batch

/-! ## Attaching an answer -/

namespace Cluster

/-- A batched answer gives each cluster its own snapshot, from any position on. -/
theorem attachHealth_of_batch {held : String → Option Health} {clusters : List Cluster} {position : Nat}
    {found : List Health} {missing : List Nat}
    (h : Batch held position (clusters.map (·.id)) found missing) :
    attachHealth found missing position clusters =
      clusters.map fun cluster => { cluster with health := held cluster.id } := by
  induction clusters generalizing position found missing with
  | nil => rfl
  | cons cluster rest ih =>
    rw [List.map_cons] at h
    cases hheld : held cluster.id with
    | some snapshot =>
      obtain ⟨hhead, hfirst, hrest⟩ := h.hit hheld
      rw [attachHealth, if_neg hhead, hfirst, ih hrest, List.map_cons, hheld]
    | none =>
      obtain ⟨hhead, hrest⟩ := h.miss hheld
      rw [attachHealth, if_pos hhead, ih hrest, List.map_cons, hheld]

end Cluster

/-- The snapshots of a table are looked up as they should be. -/
theorem Snapshots.batch_findMany (snapshots : Snapshots) (position : Nat) (ids : List String) :
    Batch snapshots.get? position ids (snapshots.findMany position ids).1
      (snapshots.findMany position ids).2 := by
  induction ids generalizing position with
  | nil =>
    refine ⟨rfl, .nil, fun other => iff_of_false nofun ?_⟩
    rintro ⟨_, _, hnone, -⟩
    cases hnone
  | cons id rest ih =>
    have ih := ih (position + 1)
    unfold findMany
    cases hget : snapshots.get? id with
    | some snapshot => exact ih.cons_hit hget
    | none => exact ih.cons_miss hget

/-! ## Stores of snapshots -/

/-- A store of snapshots as it is asked for many ids at once: the lookup fails, or it answers as it has to
for the snapshots held. -/
structure SnapshotStore (ε : Type) where
  held : String → Option Health
  lookup : List String → Except ε (List Health × List Nat)
  batch : ∀ ids found missing, lookup ids = .ok (found, missing) → Batch held 0 ids found missing

/-- A table of snapshots as a store, out of order if there is a failure. -/
def Snapshots.store {ε : Type} (snapshots : Snapshots) (failure : Option ε) : SnapshotStore ε where
  held := snapshots.get?
  lookup ids := match failure with
    | some failure => .error failure
    | none => .ok (snapshots.findMany 0 ids)
  batch ids found missing h := by
    cases failure with
    | some failure => cases h
    | none =>
      have hbatch := snapshots.batch_findMany 0 ids
      rw [Except.ok.inj h] at hbatch
      exact hbatch

/-- Attach to each cluster what the store has for its id. -/
def SnapshotStore.populate {ε : Type} (store : SnapshotStore ε) (clusters : List Cluster) : List Cluster :=
  Cluster.populate (store.lookup (clusters.map (·.id))) clusters

theorem SnapshotStore.populate_of_ok {ε : Type} {store : SnapshotStore ε} {clusters : List Cluster}
    {answer : List Health × List Nat} (h : store.lookup (clusters.map (·.id)) = .ok answer) :
    store.populate clusters =
      clusters.map fun cluster => { cluster with health := store.held cluster.id } := by
  obtain ⟨found, missing⟩ := answer
  rw [populate, h]
  exact Cluster.attachHealth_of_batch (store.batch _ found missing h)

theorem SnapshotStore.populate_of_error {ε : Type} {store : SnapshotStore ε} {clusters : List Cluster}
    {failure : ε} (h : store.lookup (clusters.map (·.id)) = .error failure) :
    store.populate clusters = clusters := by
  rw [populate, h]
  rfl

/-- The registry looks snapshots up in a table of them. -/
theorem Snapshots.populate_findMany {ε : Type} (snapshots : Snapshots) (clusters : List Cluster) :
    Cluster.populate (.ok (snapshots.findMany 0 (clusters.map (·.id))) : Except ε _) clusters =
      clusters.map fun cluster => { cluster with health := snapshots.get? cluster.id } :=
  have h : (snapshots.store (none : Option ε)).lookup (clusters.map (·.id)) =
      .ok (snapshots.findMany 0 (clusters.map (·.id))) := rfl
  SnapshotStore.populate_of_ok h

/-- Whatever store is asked, if it answers, then each cluster gets the snapshot held for its id, and none
if there is none, wherever in the list it stands and whatever it had before; if the lookup fails, then no
cluster is changed. -/
theorem populate_gives_each_its_own {ε : Type} (store : SnapshotStore ε) (clusters : List Cluster) :
    store.populate clusters = match store.lookup (clusters.map (·.id)) with
      | .ok _ => clusters.map fun cluster => { cluster with health := store.held cluster.id }
      | .error _ => clusters := by
  cases hanswer : store.lookup (clusters.map (·.id)) with
  | ok answer => exact SnapshotStore.populate_of_ok hanswer
  | error failure => exact SnapshotStore.populate_of_error hanswer

/-- Snapshots are missing at the front, in the middle and at the end, and an id comes twice. -/
example :
    let store := (Snapshots.store (.ofList [("a", { sensor := some .healthy }), ("b", {})]) (none : Option Unit))
    let clusters := ["x", "a", "y", "b", "a", "z"].map fun id => { id, health := some {} : Cluster }
    (store.populate clusters).map (·.health) =
      [none, some { sensor := some .healthy }, none, some {}, some { sensor := some .healthy }, none] :=
  rfl

end Fleet
