import Fleet.Proofs.Soundness

/-!
# The index mirrors the store

As long as the search index does not fail, it has an entry for every stored record and for no other, with
the same id, name and labels. Other collaborators may fail at any time, and writes that bypass the index
or renew an entry for its health keep that.
-/

namespace Fleet

/-- What searches look at, apart from health. -/
def Cluster.face (cluster : Cluster) : String × String × Table String :=
  (cluster.id, cluster.name, cluster.labels)

theorem Operation.face_of_amendment? {operation : Operation} {id : String}
    {change : Cluster → Cluster} (h : operation.amendment? = some (id, change)) (cluster : Cluster) :
    (change cluster).stored.face = cluster.face := by
  cases operation <;> cases h <;> rfl

/-- Both tables have the same keys, and under each of them the same id, name and labels. -/
def Mirrors (index clusters : Table Cluster) : Prop :=
  ∀ id, (index.get? id).map Cluster.face = (clusters.get? id).map Cluster.face

namespace Mirrors

variable {index clusters : Table Cluster}

theorem insert (h : Mirrors index clusters) (id : String) {entry cluster : Cluster}
    (hface : entry.face = cluster.face) :
    Mirrors (index.insert id entry) (clusters.insert id cluster) := by
  intro other
  rw [Table.get?_insert, Table.get?_insert]
  by_cases heq : other = id
  · rw [if_pos heq, if_pos heq, Option.map_some, Option.map_some, hface]
  · rw [if_neg heq, if_neg heq]
    exact h other

theorem erase (h : Mirrors index clusters) (id : String) :
    Mirrors (index.erase id) (clusters.erase id) := by
  intro other
  rw [Table.get?_erase, Table.get?_erase]
  by_cases heq : other = id
  · rw [if_pos heq, if_pos heq]
  · rw [if_neg heq, if_neg heq]
    exact h other

/-- A record is changed in what searches do not look at. -/
theorem amend (h : Mirrors index clusters) {id : String} {existing cluster : Cluster}
    (hstored : clusters.get? id = some existing) (hface : cluster.face = existing.face) :
    Mirrors index (clusters.insert id cluster) := by
  intro other
  rw [Table.get?_insert]
  by_cases heq : other = id
  · rw [if_pos heq, heq, h id, hstored, Option.map_some, Option.map_some, hface]
  · rw [if_neg heq]
    exact h other

/-- The entry of a stored record is renewed. -/
theorem renew (h : Mirrors index clusters) {id : String} {existing entry : Cluster}
    (hstored : clusters.get? id = some existing) (hface : entry.face = existing.face) :
    Mirrors (index.insert id entry) clusters := by
  intro other
  rw [Table.get?_insert]
  by_cases heq : other = id
  · rw [if_pos heq, heq, hstored, Option.map_some, Option.map_some, hface]
  · rw [if_neg heq]
    exact h other

theorem insertMany (h : Mirrors index clusters) (entries : List Cluster)
    (hstored : ∀ entry ∈ entries, ∃ existing, clusters.get? entry.id = some existing ∧
      entry.face = existing.face) :
    Mirrors (index.insertMany (entries.map fun entry => (entry.id, entry))) clusters := by
  unfold Table.insertMany
  induction entries generalizing index with
  | nil => exact h
  | cons first rest ih =>
    rw [List.map_cons, List.foldl_cons]
    obtain ⟨existing, hfirst, hface⟩ := hstored first List.mem_cons_self
    exact ih (h.renew hfirst hface) fun entry hentry => hstored entry (List.mem_cons_of_mem _ hentry)

/-- An entry stands for a record with its id, name and labels. -/
theorem stored_of_indexed (h : Mirrors index clusters) {id : String} {entry : Cluster}
    (hindexed : index.get? id = some entry) :
    ∃ cluster, clusters.get? id = some cluster ∧ cluster.face = entry.face := by
  have hface := h id
  rw [hindexed, Option.map_some] at hface
  exact Option.map_eq_some_iff.1 hface.symm

theorem indexed_of_stored (h : Mirrors index clusters) {id : String} {cluster : Cluster}
    (hstored : clusters.get? id = some cluster) :
    ∃ entry, index.get? id = some entry ∧ entry.face = cluster.face := by
  have hface := h id
  rw [hstored, Option.map_some] at hface
  exact Option.map_eq_some_iff.1 hface

end Mirrors

namespace State

variable {before after : State}

theorem stored_iff {state : State} (hkeyed : state.Keyed) {cluster : Cluster} :
    state.clusters.get? cluster.id = some cluster ↔ ∃ id, state.clusters.get? id = some cluster := by
  constructor
  · exact fun hstored => ⟨cluster.id, hstored⟩
  · rintro ⟨id, hstored⟩
    rw [hkeyed id cluster hstored]
    exact hstored

theorem mem_values {state : State} (hkeyed : state.Keyed) {cluster : Cluster} :
    cluster ∈ state.clusters.values ↔ state.clusters.get? cluster.id = some cluster := by
  rw [Table.values, List.mem_map]
  constructor
  · rintro ⟨⟨id, value⟩, hentry, rfl⟩
    have hstored := (Table.get?_eq_some_iff _ _ _).2 hentry
    rw [hkeyed id value hstored]
    exact hstored
  · intro hstored
    exact ⟨⟨cluster.id, cluster⟩, (Table.get?_eq_some_iff _ _ _).1 hstored, rfl⟩

theorem mem_records {state : State} (hkeyed : state.Keyed) {cluster : Cluster} :
    cluster ∈ state.records ↔ state.clusters.get? cluster.id = some cluster := by
  rw [records, List.mem_mergeSort, mem_values hkeyed]

/-- A call that is not interrupted by the index keeps the index up to date. -/
theorem mirrors_effect {scope : Scope} {operation : Operation} {answer : Except Failure Answer}
    (h : Mirrors before.index before.clusters) (hkeyed : before.Keyed)
    (heffect : Effect scope before operation answer after)
    (hanswered : ¬ IsUnindexed before answer) : Mirrors after.index after.clusters := by
  cases heffect with
  | idle => exact h
  | enrolled _ _ _ _ _ _ hend =>
    rcases hend with ⟨-, rfl, -⟩ | ⟨-, ⟨hunindexed, -⟩ | ⟨-, rfl⟩⟩
    · exact h.insert _ rfl
    · exact absurd hunindexed hanswered
    · exact h.insert _ rfl
  | revised _ _ _ _ _ _ _ _ _ hend _ =>
    rcases hend with ⟨-, rfl⟩ | ⟨hunindexed, -⟩
    · exact h.insert _ rfl
    · exact absurd hunindexed hanswered
  | amended hoperation hstored _ =>
    exact h.amend hstored (Operation.face_of_amendment? hoperation _)
  | @reported id report _ _ _ hend =>
    rcases hend with ⟨-, rfl⟩ | ⟨-, rfl⟩
    · unfold reindexed
      cases hstored : before.clusters.get? id with
      | none => exact h
      | some cluster =>
        dsimp only
        split
        · exact h.renew hstored rfl
        · exact h
    · exact h
  | removed _ _ _ _ hend =>
    rcases hend with ⟨-, rfl⟩ | ⟨hunindexed, -⟩
    · exact h.erase _
    · exact absurd hunindexed hanswered
  | rebuilt _ _ hend =>
    rcases hend with ⟨-, rfl⟩ | ⟨hunindexed, -⟩
    · refine h.insertMany _ ?_
      intro entry hentry
      obtain ⟨cluster, hcluster, rfl⟩ := List.mem_map.1 hentry
      exact ⟨cluster, (mem_records hkeyed).1 hcluster, rfl⟩
    · exact absurd hunindexed hanswered

/-! ## Runs in which the index does not fail -/

/-- The failure of an event, if it is a call that fails. -/
def failureOf (state : State) : Event → Option Failure
  | .call scope operation =>
    match (operation.run scope).answer state with
    | .ok _ => none
    | .error failure => some failure
  | _ => none

/-- Whether no call of a run fails because of the index. -/
def indexKeepsUp (state : State) : List Event → Bool
  | [] => true
  | event :: rest =>
    (state.failureOf event).all (fun failure => decide (¬ Action.IsIndexFailure failure)) &&
      (state.next event).indexKeepsUp rest

theorem mirrors_next (h : Mirrors before.index before.clusters) (hsound : before.Sound)
    (event : Event)
    (hindex : ∀ failure, before.failureOf event = some failure → ¬ Action.IsIndexFailure failure) :
    Mirrors (before.next event).index (before.next event).clusters := by
  rcases next_cases hsound.keyed event with ⟨-, hsame⟩ | ⟨scope, operation, rfl, heffect⟩
  · rw [hsame.index, hsame.clusters]
    exact h
  · refine mirrors_effect h hsound.keyed heffect ?_
    rintro ⟨failure, hanswer, hfault⟩
    refine hindex failure ?_ hfault.ofIndex
    unfold failureOf
    dsimp only
    rw [hanswer]

theorem mirrors_following (h : Mirrors before.index before.clusters) (hsound : before.Sound)
    (events : List Event) (hindex : before.indexKeepsUp events = true) :
    Mirrors (before.following events).index (before.following events).clusters := by
  induction events generalizing before with
  | nil => exact h
  | cons event rest ih =>
    unfold indexKeepsUp at hindex
    rw [Bool.and_eq_true] at hindex
    obtain ⟨hfirst, hrest⟩ := hindex
    refine ih (mirrors_next h hsound event ?_) (hsound.next event) hrest
    intro failure hfailure
    rw [hfailure] at hfirst
    simpa using hfirst

theorem mirrors_start (runtime : Runtime) (settings : Settings) (now : Instant) :
    Mirrors (start runtime settings now).index (start runtime settings now).clusters :=
  fun _ => rfl

end State

end Fleet
