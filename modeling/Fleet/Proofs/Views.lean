import Fleet.Proofs.Absence

/-!
# One view of each cluster

A record is shown with the snapshot of its cluster and with its rank, whichever read it comes from. A
read of one cluster loads it by its id, a list comes from a walk of the store or from the hits of a
search, and the snapshots of a whole list are looked up at once and handed out by position; still every
cluster is shown with its own. This holds however the stores came to their contents.
-/

namespace Fleet

open Fleet.Action

namespace State

variable {before after state : State}

/-! ## How records are kept -/

/-- The store keeps every record under its own id and without what is looked up on reading. -/
def Filed (state : State) : Prop :=
  ∀ id cluster, state.clusters.get? id = some cluster → cluster.id = id ∧ cluster.stored = cluster

theorem filed_start (runtime : Runtime) (settings : Settings) (now : Instant) :
    (start runtime settings now).Filed := by
  intro id cluster hstored
  cases hstored

namespace Filed

theorem keyed (h : state.Filed) : state.Keyed :=
  fun id cluster hstored => (h id cluster hstored).1

theorem health (h : state.Filed) {id : String} {cluster : Cluster}
    (hstored : state.clusters.get? id = some cluster) : cluster.health = none :=
  (congrArg Cluster.health (h id cluster hstored).2).symm

theorem of_same (h : before.Filed) (hclusters : after.clusters = before.clusters) : after.Filed := by
  unfold Filed
  rw [hclusters]
  exact h

theorem insert (h : before.Filed) {id : String} {written : Cluster} (hid : written.id = id)
    (hclusters : after.clusters = before.clusters.insert id written.stored) : after.Filed := by
  intro other cluster hstored
  rw [hclusters, Table.get?_insert] at hstored
  split at hstored
  · rename_i heq
    cases hstored
    exact ⟨hid.trans heq.symm, written.stored_stored⟩
  · exact h other cluster hstored

theorem erase (h : before.Filed) {id : String}
    (hclusters : after.clusters = before.clusters.erase id) : after.Filed := by
  intro other cluster hstored
  rw [hclusters, Table.get?_erase] at hstored
  split at hstored
  · cases hstored
  · exact h other cluster hstored

/-- The store files what is put there past the registry as well. -/
theorem putRecord (h : state.Filed) (cluster : Cluster) : (state.putRecord cluster).Filed :=
  h.insert rfl rfl

theorem effect {scope : Scope} {operation : Operation} {answer : Except Failure Answer}
    (h : before.Filed) (heffect : Effect scope before operation answer after) : after.Filed := by
  cases heffect with
  | idle | reported | rebuilt => exact h.of_same rfl
  | enrolled => exact h.insert rfl rfl
  | revised => exact h.insert rfl rfl
  | amended hoperation hstored _ =>
    have hid := (Operation.frame_of_amendment? hoperation _).1.trans (h.keyed _ _ hstored)
    exact h.insert hid rfl
  | removed => exact h.erase rfl

theorem next (h : state.Filed) (event : Event) : (state.next event).Filed := by
  rcases next_cases h.keyed event with ⟨-, hsame⟩ | ⟨scope, operation, -, heffect⟩
  · exact h.of_same hsame.clusters
  · exact h.effect heffect

theorem following (h : state.Filed) (events : List Event) : (state.following events).Filed := by
  induction events generalizing state with
  | nil => exact h
  | cons event rest ih => exact ih (h.next event)

end Filed

/-! ## How records are shown -/

/-- A stored record as reads show it: with the snapshot kept under its id, unless snapshots cannot be
looked up, and with its rank. -/
def shown (state : State) (cluster : Cluster) : Cluster :=
  { cluster with
    health :=
      if state.conditions.isOut .healthGetMany "" then none
      else state.holdings.health.get? cluster.id
    priority := state.holdings.rankOf cluster.id }

/-- The snapshots as they can be looked up at the moment. -/
def snapshotStore (state : State) : SnapshotStore Failure :=
  Snapshots.store state.holdings.health
    (if state.conditions.isOut .healthGetMany "" then some Call.healthGetMany.failure else none)

/-- The stored record of a cluster as reads show it. -/
def view? (state : State) (id : String) : Option Cluster :=
  (state.clusters.get? id).map state.shown

theorem Filed.view?_shown (h : state.Filed) {id : String} {cluster : Cluster}
    (hstored : state.clusters.get? id = some cluster) :
    state.view? (state.shown cluster).id = some (state.shown cluster) := by
  have hid : (state.shown cluster).id = id := h.keyed id cluster hstored
  rw [view?, hid, hstored, Option.map_some]

end State

/-! ## What reads show -/

namespace Registry

open Calls

variable {state after : State}

theorem findHealth_apply (ids : List String) (state : State) :
    findHealth ids state =
      if state.conditions.isOut .healthGetMany "" then .error Call.healthGetMany.failure state
      else .ok (Snapshots.findMany state.holdings.health 0 ids) state :=
  expect_bind state "" _ _

/-- Reads attach what the store of snapshots has for each cluster, and its rank. -/
theorem decorate_eq (clusters : List Cluster) (state : State) :
    decorate clusters state = .ok ((state.snapshotStore.populate clusters).map fun cluster =>
      { cluster with priority := state.holdings.rankOf cluster.id }) state := by
  have hfind := findHealth_apply (clusters.map (·.id)) state
  unfold decorate SnapshotStore.populate State.snapshotStore
  by_cases hout : state.conditions.isOut .healthGetMany ""
  · rw [if_pos hout] at hfind ⊢
    rw [bind_of_ok (attempt_of_error hfind), bind_of_ok (get_apply state)]
    rfl
  · rw [if_neg hout] at hfind ⊢
    rw [bind_of_ok (attempt_of_ok hfind), bind_of_ok (get_apply state)]
    rfl

/-- Records without health are shown with that of their own clusters, whatever their number and whichever
of them have none. -/
theorem decorate_of_plain {clusters : List Cluster} (hplain : ∀ cluster ∈ clusters, cluster.health = none) :
    decorate clusters state = .ok (clusters.map state.shown) state := by
  rw [decorate_eq]
  refine congrArg (EStateM.Result.ok · state) ?_
  by_cases hout : state.conditions.isOut .healthGetMany ""
  · have hlookup : state.snapshotStore.lookup (clusters.map (·.id)) =
        .error Call.healthGetMany.failure := by
      rw [State.snapshotStore, if_pos hout]
      rfl
    rw [SnapshotStore.populate_of_error hlookup]
    refine List.map_congr_left fun cluster hcluster => ?_
    rw [State.shown, if_pos hout, ← hplain cluster hcluster]
  · have hlookup : state.snapshotStore.lookup (clusters.map (·.id)) =
        .ok (Snapshots.findMany state.holdings.health 0 (clusters.map (·.id))) := by
      rw [State.snapshotStore, if_neg hout]
      rfl
    rw [SnapshotStore.populate_of_ok hlookup, List.map_map]
    refine List.map_congr_left fun cluster _ => ?_
    rw [State.shown, if_neg hout]
    rfl

/-- Whatever list of stored records is shown, each of them is shown as its cluster is. -/
theorem view?_of_decorate {clusters shown : List Cluster} (hfiled : state.Filed)
    (hstored : ∀ cluster ∈ clusters, ∃ id, state.clusters.get? id = some cluster)
    (h : decorate clusters state = .ok shown after) :
    ∀ cluster ∈ shown, state.view? cluster.id = some cluster := by
  rw [decorate_of_plain fun cluster hcluster => hfiled.health (hstored cluster hcluster).choose_spec] at h
  cases h
  intro cluster hcluster
  obtain ⟨record, hrecord, rfl⟩ := List.mem_map.1 hcluster
  obtain ⟨id, hid⟩ := hstored record hrecord
  exact hfiled.view?_shown hid

theorem view?_of_read {scope : Scope} {id : String} {cluster : Cluster} (hfiled : state.Filed)
    (h : read scope id state = .ok cluster after) : state.view? id = some cluster := by
  unfold read at h
  obtain ⟨_, middle, hallowed, h⟩ := ok_of_bind h
  rw [← after_of_ok hallowed, quiet_ensureRead scope id state] at h
  obtain ⟨record, middle, hload, h⟩ := ok_of_bind h
  cases hload ▸ load_result id state with
  | found hstored =>
    have hplain : ∀ cluster ∈ [record], cluster.health = none :=
      List.forall_mem_singleton.2 (hfiled.health hstored)
    rw [bind_of_ok (decorate_of_plain hplain)] at h
    cases h
    rw [State.view?, hstored]
    rfl

theorem view?_of_searchRecords {scope : Scope} {query : Query} {shown : List Cluster}
    (hfiled : state.Filed) (h : searchRecords scope query state = .ok shown after) :
    ∀ cluster ∈ shown, state.view? cluster.id = some cluster := by
  unfold searchRecords at h
  obtain ⟨hits, middle, hsearch, h⟩ := ok_of_bind h
  rw [← after_of_ok hsearch, quiet_search scope query state] at h
  obtain ⟨clusters, middle, hrecords, h⟩ := ok_of_bind h
  rw [← after_of_ok hrecords, quiet_recordsOf hits state] at h
  refine view?_of_decorate hfiled ?_ h
  intro cluster hcluster
  exact mem_recordsOf hrecords cluster (Cluster.mem_orderNamesakes.1 hcluster)

theorem view?_of_readAll {scope : Scope} {shown : List Cluster} (hfiled : state.Filed)
    (h : readAll scope state = .ok shown after) :
    ∀ cluster ∈ shown, state.view? cluster.id = some cluster := by
  unfold readAll at h
  obtain ⟨allowed, middle, hask, h⟩ := ok_of_bind h
  rw [← after_of_ok hask,
    quiet_of_serves (fun state => mayRead_serves state scope none) state] at h
  cases allowed with
  | false => exact view?_of_searchRecords hfiled h
  | true =>
    obtain ⟨clusters, middle, hall, h⟩ := ok_of_bind h
    rcases allClusters_serves state with hserved | ⟨failure, -, hfailed⟩
    · rw [hserved] at hall
      cases hall
      refine view?_of_decorate hfiled ?_ h
      intro cluster hcluster
      exact ⟨cluster.id, (State.mem_records hfiled.keyed).1 hcluster⟩
    · rw [hfailed] at hall
      cases hall

end Registry

/-- Every read shows a cluster in the same way, in whatever state, for whichever scope and query and
whatever is out of order: as its stored record with the snapshot kept under its id, or none if there is
none or they cannot be looked up, and with its rank. So a cluster in a list is what a read of its id
shows. -/
theorem reads_show_one_view {state : State} (hfiled : state.Filed) :
    (∀ scope id cluster, (Registry.read scope id).answer state = .ok cluster →
      state.view? id = some cluster) ∧
    (∀ scope clusters, (Registry.readAll scope).answer state = .ok clusters →
      ∀ cluster ∈ clusters, state.view? cluster.id = some cluster) ∧
    (∀ scope query clusters, (Registry.searchRecords scope query).answer state = .ok clusters →
      ∀ cluster ∈ clusters, state.view? cluster.id = some cluster) ∧
    ∀ scope query clusters cluster,
      ((Registry.readAll scope).answer state = .ok clusters ∨
        (Registry.searchRecords scope query).answer state = .ok clusters) →
      cluster ∈ clusters →
      ∀ reader one, (Registry.read reader cluster.id).answer state = .ok one → one = cluster := by
  have hread : ∀ scope id cluster, (Registry.read scope id).answer state = .ok cluster →
      state.view? id = some cluster := by
    intro scope id cluster hanswer
    obtain ⟨after, hrun⟩ := ok_of_answer hanswer
    exact Registry.view?_of_read hfiled hrun
  have hall : ∀ scope clusters, (Registry.readAll scope).answer state = .ok clusters →
      ∀ cluster ∈ clusters, state.view? cluster.id = some cluster := by
    intro scope clusters hanswer
    obtain ⟨after, hrun⟩ := ok_of_answer hanswer
    exact Registry.view?_of_readAll hfiled hrun
  have hsearch : ∀ scope query clusters, (Registry.searchRecords scope query).answer state = .ok clusters →
      ∀ cluster ∈ clusters, state.view? cluster.id = some cluster := by
    intro scope query clusters hanswer
    obtain ⟨after, hrun⟩ := ok_of_answer hanswer
    exact Registry.view?_of_searchRecords hfiled hrun
  refine ⟨hread, hall, hsearch, ?_⟩
  intro scope query clusters cluster hlist hcluster reader one hone
  have hlisted : state.view? cluster.id = some cluster :=
    hlist.elim (fun h => hall scope clusters h cluster hcluster)
      fun h => hsearch scope query clusters h cluster hcluster
  have hsame := hread reader cluster.id one hone
  rw [hlisted] at hsame
  exact (Option.some.inj hsame).symm

/-- Records were put into the store past the registry, and the index knows a cluster that is not stored
and another one by its former name. -/
def piecemeal : State :=
  let records := [{ id := "c-1", name := "prod" }, { id := "c-2", name := "lab" },
    { id := "c-3", name := "test" }].foldl State.putRecord (State.start {} {} ⟨0, false⟩)
  let ranked := records.following [
    .call .system (.updateHealth "c-1" { sensor := some .healthy }), .setRank "c-2" 7]
  { ranked with
    index := .ofList [("c-0", { id := "c-0", name := "stage" }), ("c-1", { id := "c-1", name := "stage" })] }

theorem filed_piecemeal : piecemeal.Filed :=
  have hrecords := (((State.filed_start {} {} ⟨0, false⟩).putRecord _).putRecord _).putRecord _
  (hrecords.following _).of_same rfl

/-- The first and the last of the list have no snapshot, and the one between is found by its former name. -/
theorem reads_show_one_view_of_piecemeal :
    let prod : Cluster := { id := "c-1", name := "prod", health := some { sensor := some .healthy } }
    (Registry.readAll .system).answer piecemeal =
        .ok [{ id := "c-2", name := "lab", priority := 7 }, prod, { id := "c-3", name := "test" }] ∧
      (Registry.searchRecords .system { name := some "stage" }).answer piecemeal = .ok [prod] ∧
      (Registry.read .system "c-1").answer piecemeal = .ok prod ∧
      ∀ reader one, (Registry.read reader "c-1").answer piecemeal = .ok one → one = prod := by
  intro prod
  have hrecords : piecemeal.records =
      [{ id := "c-2", name := "lab" }, { id := "c-1", name := "prod" }, { id := "c-3", name := "test" }] := by
    have hvalues : piecemeal.clusters.values =
        [{ id := "c-1", name := "prod" }, { id := "c-2", name := "lab" }, { id := "c-3", name := "test" }] := by
      decide +kernel
    have hbefore : Cluster.before { id := "c-1", name := "prod" } { id := "c-2", name := "lab" } = false ∧
        Cluster.before { id := "c-1", name := "prod" } { id := "c-3", name := "test" } = true ∧
        Cluster.before { id := "c-2", name := "lab" } { id := "c-3", name := "test" } = true := by decide
    rw [State.records, hvalues]
    simp [List.mergeSort, List.MergeSort.Internal.splitInTwo, hbefore]
  have hall : (Registry.readAll .system).answer piecemeal =
      .ok [{ id := "c-2", name := "lab", priority := 7 }, prod, { id := "c-3", name := "test" }] := by
    change (Registry.decorate piecemeal.records).answer piecemeal = _
    rw [hrecords]
    decide +kernel
  have hsearch : (Registry.searchRecords .system { name := some "stage" }).answer piecemeal =
      .ok [prod] := by
    have hfound : (piecemeal.index.filter fun _ indexed =>
        Query.accepts { name := some "stage" } indexed).entries.map (fun entry =>
          Hit.mk entry.1 entry.2.name) = [⟨"c-0", "stage"⟩, ⟨"c-1", "stage"⟩] := by decide +kernel
    have hsorted : List.mergeSort [⟨"c-0", "stage"⟩, ⟨"c-1", "stage"⟩] Hit.before =
        [⟨"c-0", "stage"⟩, ⟨"c-1", "stage"⟩] := List.mergeSort_of_pairwise (by decide)
    have hhits : Registry.search .system { name := some "stage" } piecemeal =
        .ok [⟨"c-0", "stage"⟩, ⟨"c-1", "stage"⟩] piecemeal := by
      change EStateM.Result.ok (List.mergeSort _ Hit.before) piecemeal = _
      rw [hfound, hsorted]
    have hstored : Registry.recordsOf [⟨"c-0", "stage"⟩, ⟨"c-1", "stage"⟩] piecemeal =
        .ok [{ id := "c-1", name := "prod" }] piecemeal := rfl
    have hordered : Cluster.orderNamesakes [{ id := "c-1", name := "prod" }] =
        [{ id := "c-1", name := "prod" }] := by
      change List.mergeSort [_] Cluster.before ++ [] = _
      rw [List.mergeSort_singleton, List.append_nil]
    unfold Action.answer Registry.searchRecords
    rw [bind_of_ok hhits, bind_of_ok hstored, hordered]
    decide +kernel
  refine ⟨hall, hsearch, by decide +kernel, ?_⟩
  exact (reads_show_one_view filed_piecemeal).2.2.2 .system { name := some "stage" } [prod] prod
    (.inr hsearch) List.mem_cons_self

end Fleet
