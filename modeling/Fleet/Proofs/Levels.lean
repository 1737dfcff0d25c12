import Fleet.Proofs.Departures
import Fleet.Proofs.Reading

/-!
# Searches by level

A search by health level looks at the level with which a cluster was entered in the index, not at the
snapshot. Reports that change a level and loading everything anew enter the level of the snapshot, but
writing the configuration of a record enters the level its caller has given. So a search finds what the
snapshots say exactly as long as no such write has come since with another level.
-/

namespace Fleet

open Fleet.Action

/-- The level with which a record is entered in the index. -/
def Cluster.level (cluster : Cluster) : Option HealthLevel :=
  cluster.health.bind (·.sensor)

theorem Cluster.level_of_stored {cluster : Cluster} (h : cluster.stored = cluster) :
    cluster.level = none := by
  have hhealth : cluster.health = none := (congrArg Cluster.health h).symm
  rw [level, hhealth, Option.bind_none]

theorem Cluster.level_of_prepare {given normal : Cluster} {defaultTimeout : Int32}
    (h : given.prepare defaultTimeout = .ok normal) : normal.level = given.level := by
  rw [level, level, health_of_prepare h]

/-- A search by level alone looks at the level of an entry alone. -/
theorem Query.accepts_of_level (level : HealthLevel) (entry : Cluster) :
    ({ sensor := some level } : Query).accepts entry = true ↔ entry.level = some level := by
  simp [accepts, Cluster.level, Table.empty]

/-- Where the level comes from with which a cluster is entered in the index. -/
inductive LevelSource where
  | snapshot
  | caller (level : Option HealthLevel)
deriving DecidableEq

/-- The level that searches look at, given that in the snapshot. -/
def LevelSource.shown (snapshot : Option HealthLevel) : LevelSource → Option HealthLevel
  | .snapshot => snapshot
  | .caller level => level

/-- Where the level of a cluster comes from after a call. An announcement writes a record exactly if it
changes it, and gives no level. -/
def Operation.levelSource (before : State) (answer : Except Failure Answer) (after : State)
    (id : String) (source : LevelSource) (operation : Operation) : LevelSource :=
  match operation, answer with
  | .create cluster, _ =>
    if after.clusters.get? id = before.clusters.get? id then source else .caller cluster.level
  | .announce _, _ =>
    if after.clusters.get? id = before.clusters.get? id then source else .caller none
  | .update cluster, .ok _ => if cluster.id = id then .caller cluster.level else source
  | .updateHealth reported report, .ok _ =>
    if reported = id ∧ (Snapshots.updated before.holdings.health id report).livenessChanged = true
    then .snapshot else source
  | .rebuild, .ok _ => .snapshot
  | _, _ => source

namespace Operation

variable {before after : State} {answer : Except Failure Answer} {operation : Operation} {id : String}
  {source : LevelSource}

theorem levelSource_of_idle (hclusters : after.clusters = before.clusters)
    (hanswer : operation.asks = true ∨ ∃ failure, answer = .error failure) :
    operation.levelSource before answer after id source = source := by
  unfold levelSource
  rw [hclusters]
  rcases hanswer with hasks | ⟨failure, rfl⟩
  · cases operation <;> first | rfl | exact if_pos rfl | cases hasks
  · cases operation <;> first | rfl | exact if_pos rfl

/-- The source of a level after the record of a new cluster was written. -/
theorem levelSource_of_newcomer {given normal : Cluster} (h : operation.newcomer? = some given)
    (hlevel : normal.level = given.level) (habsent : before.clusters.get? normal.id = none)
    (hclusters : after.clusters = before.clusters.insert normal.id normal.stored) :
    operation.levelSource before answer after id source =
      if id = normal.id then .caller normal.level else source := by
  have hchange : operation.levelSource before answer after id source =
      if after.clusters.get? id = before.clusters.get? id then source else .caller given.level := by
    cases operation <;> cases h
    · rfl
    · rw [Cluster.level_of_stored (Announcement.stored_newCluster _)]
      rfl
  rw [hchange, hclusters, Table.get?_insert, ← hlevel]
  by_cases hid : id = normal.id
  · rw [if_pos hid, if_pos hid, hid, habsent, if_neg (by simp)]
  · rw [if_neg hid, if_neg hid, if_pos rfl]

/-- The source of a level after a record was written in place of another one. -/
theorem levelSource_of_revision {existing given normal : Cluster} {value : Answer}
    (h : operation.revision? existing = some given)
    (hstored : before.clusters.get? normal.id = some existing) (hplain : existing.stored = existing)
    (hprepare : given.prepare before.settings.admissionTimeout = .ok normal)
    (hclusters : after.clusters = before.clusters.insert normal.id normal.stored) :
    operation.levelSource before (.ok value) after id source =
      if id = normal.id then .caller normal.level else source := by
  have hnormal : normal.id = given.id := (Cluster.sameSubject_of_prepare hprepare).id
  rw [Cluster.level_of_prepare hprepare]
  cases operation <;> try cases h
  · rw [hnormal]
    simp only [levelSource, eq_comm]
    rfl
  · unfold levelSource
    dsimp only
    rw [hclusters, Table.get?_insert, Cluster.level_of_stored (Cluster.stored_of_converged? h hplain)]
    by_cases hid : id = normal.id
    · rw [if_pos hid, if_pos hid, hid, hstored, if_neg]
      -- an announcement that writes a record changes by which configuration it is managed
      intro heq
      have hmanaged : normal.stored.managed = existing.managed :=
        congrArg Cluster.managed (Option.some.inj heq)
      change normal.managed = existing.managed at hmanaged
      rw [Cluster.managed_of_prepare hprepare] at hmanaged
      exact Cluster.managed_ne_of_converged? h hmanaged
    · rw [if_neg hid, if_neg hid, if_pos rfl]

theorem levelSource_of_amendment {change : Cluster → Cluster} {other : String}
    (h : operation.amendment? = some (other, change)) :
    operation.levelSource before answer after id source = source := by
  cases operation <;> cases h <;> rfl

end Operation

namespace State

/-- The level in the snapshot of a cluster. -/
def snapshotLevel (state : State) (id : String) : Option HealthLevel :=
  (state.holdings.health.get? id).bind (·.sensor)

/-- Where the level of a cluster comes from after an event. -/
def levelSourceAfter (state : State) (id : String) (source : LevelSource) : Event → LevelSource
  | .call scope operation =>
    let action := operation.run scope
    operation.levelSource state (action.answer state) (action.after state) id source
  | _ => source

/-- Where the level of a cluster comes from after a run. -/
def levelSource (state : State) (id : String) (source : LevelSource) : List Event → LevelSource
  | [] => source
  | event :: rest => (state.next event).levelSource id (state.levelSourceAfter id source event) rest

/-- The index has the stored clusters, each one with the level that its source gives. -/
structure ShowsLevels (state : State) (source : String → LevelSource) : Prop where
  mirrors : Mirrors state.index state.clusters
  shown : ∀ id entry, state.index.get? id = some entry →
    entry.level = (source id).shown (state.snapshotLevel id)

/-- Loading everything anew enters each stored cluster with its snapshot. -/
theorem get?_rereadIndex {state : State} (hkeyed : state.Keyed) {id : String} {cluster : Cluster}
    (hstored : state.clusters.get? id = some cluster) :
    state.rereadIndex.get? id =
      some { cluster with health := state.holdings.health.get? cluster.id } := by
  have hid := hkeyed id cluster hstored
  unfold rereadIndex
  dsimp only
  apply Table.get?_insertMany_of_mem
  · simp only [List.mem_map, List.map_map]
    refine ⟨cluster, (mem_records hkeyed).2 (hid.symm ▸ hstored), ?_⟩
    rw [← hid]
    rfl
  · intro other hother
    simp only [List.mem_map, List.map_map] at hother
    obtain ⟨another, hanother, hpair⟩ := hother
    have hanother := (mem_records hkeyed).1 hanother
    have hkey : another.id = id := congrArg Prod.fst hpair
    rw [hkey, hstored] at hanother
    cases hanother
    exact (congrArg Prod.snd hpair).symm

theorem snapshotLevel_report {before : State} {id : String} {report : Health}
    (hsame : (Snapshots.updated before.holdings.health id report).livenessChanged = false) :
    (Snapshots.updated before.holdings.health id report).snapshot.sensor = before.snapshotLevel id := by
  simp only [Snapshots.updated, Health.livenessDiffers, Bool.or_eq_false_iff, decide_eq_false_iff_not,
    Decidable.not_not, ne_eq] at hsame
  unfold snapshotLevel
  rw [Snapshots.updated, ← hsame.1]
  cases before.holdings.health.get? id <;> rfl

namespace ShowsLevels

variable {before after state : State} {source : String → LevelSource}

/-- A record is entered with its own level, in place of what was there. -/
theorem written (h : before.ShowsLevels source) (normal : Cluster) {id : String} {entry : Cluster}
    (hentry : (before.index.insert normal.id normal).get? id = some entry) :
    entry.level = (if id = normal.id then LevelSource.caller normal.level else source id).shown
      (before.snapshotLevel id) := by
  rw [Table.get?_insert] at hentry
  by_cases hid : id = normal.id
  · rw [if_pos hid] at hentry ⊢
    cases hentry
    rfl
  · rw [if_neg hid] at hentry ⊢
    exact h.shown id entry hentry

/-- A report enters a stored cluster anew if a level has changed, and leaves the level if not. -/
theorem reported (h : before.ShowsLevels source) (reported : String) (report : Health) {id : String}
    {entry : Cluster} (hentry : (before.reindexed reported report).get? id = some entry)
    (hafter : after.holdings = before.holdings.recordHealth reported report) :
    entry.level = ((Operation.updateHealth reported report).levelSource before (.ok .done) after id
      (source id)).shown (after.snapshotLevel id) := by
  unfold snapshotLevel Operation.levelSource
  rw [hafter]
  simp only [Holdings.recordHealth, Snapshots.record, Table.get?_insert]
  unfold reindexed at hentry
  dsimp only at hentry
  by_cases hid : id = reported
  · subst hid
    cases hstored : before.clusters.get? id with
    | none =>
      -- whoever is not stored is not in the index either
      rw [hstored] at hentry
      obtain ⟨cluster, hcluster, -⟩ := h.mirrors.stored_of_indexed hentry
      rw [hstored] at hcluster
      cases hcluster
    | some existing =>
      rw [hstored] at hentry
      dsimp only at hentry
      by_cases hchanged : (Snapshots.updated before.holdings.health id report).livenessChanged = true
      · rw [if_pos hchanged, Table.get?_insert_self] at hentry
        cases hentry
        rw [if_pos rfl, if_pos ⟨rfl, hchanged⟩]
        rfl
      · rw [if_neg hchanged] at hentry
        have hlevel := snapshotLevel_report (Bool.eq_false_iff.2 hchanged)
        rw [if_pos rfl, if_neg fun hboth => hchanged hboth.2, Option.bind_some, hlevel]
        exact h.shown id entry hentry
  · have hentry : before.index.get? id = some entry := by
      split at hentry
      · split at hentry
        · rwa [Table.get?_insert_of_ne _ _ hid] at hentry
        · exact hentry
      · exact hentry
    rw [if_neg hid, if_neg fun hboth => hid hboth.1.symm]
    exact h.shown id entry hentry

theorem effect {scope : Scope} {operation : Operation} {answer : Except Failure Answer}
    (hcalm : before.conditions = {}) (hsound : before.Sound) (h : before.ShowsLevels source)
    (heffect : Effect scope before operation answer after) :
    after.ShowsLevels fun id => operation.levelSource before answer after id (source id) := by
  have hindexed : ¬ IsUnindexed before answer := fun ⟨_, _, hfault⟩ => hfault.disorder hcalm
  have huninterrupted : ¬ IsInterrupted before answer := fun ⟨_, _, hfault⟩ => hfault.disorder hcalm
  have hmirrors := mirrors_effect h.mirrors hsound.keyed heffect hindexed
  refine ⟨hmirrors, ?_⟩
  intro id entry hentry
  cases heffect with
  | idle tally hanswer =>
    have hsame : ({ before with tally } : State).clusters = before.clusters := rfl
    rw [Operation.levelSource_of_idle hsame hanswer]
    exact h.shown id entry hentry
  | @enrolled _ _ given normal tally index flows hoperation _ henrol hend =>
    obtain ⟨-, rfl, -⟩ := hend.resolve_right fun hend =>
      hend.2.elim (fun hend => hindexed hend.1) fun hend => huninterrupted hend.1
    have hlevel : normal.level = given.level := (Cluster.level_of_prepare henrol.prepared).trans rfl
    have habsent : before.clusters.get? normal.id = none := henrol.id ▸ hsound.absent_of_next
    rw [Operation.levelSource_of_newcomer hoperation hlevel habsent rfl]
    exact h.written normal hentry
  | @revised _ _ _ existing given normal tally index roster hoperation hstored _ hid _ hprepare hend =>
    obtain ⟨⟨value, rfl⟩, rfl⟩ := hend.resolve_right fun hend => hindexed hend.1
    have hplain := (hsound.kept _ existing hstored).plain
    rw [← hid, ← (Cluster.sameSubject_of_prepare hprepare).id] at hstored
    rw [Operation.levelSource_of_revision hoperation hstored hplain hprepare rfl]
    exact h.written normal hentry
  | amended hoperation =>
    rw [Operation.levelSource_of_amendment hoperation]
    exact h.shown id entry hentry
  | reported index _ hend =>
    obtain ⟨rfl, rfl⟩ := hend.resolve_right fun hend => huninterrupted hend.1
    exact h.reported _ _ hentry rfl
  | @removed removed _ _ _ tally index _ _ hend =>
    obtain ⟨rfl, rfl⟩ := hend.resolve_right fun hend => hindexed hend.1
    change (before.index.erase removed).get? id = some entry at hentry
    rw [Table.get?_erase] at hentry
    split at hentry
    · cases hentry
    · exact h.shown id entry hentry
  | rebuilt tally index hend =>
    obtain ⟨rfl, rfl⟩ := hend.resolve_right fun hend => hindexed hend.1
    obtain ⟨cluster, hstored, -⟩ := hmirrors.stored_of_indexed hentry
    change before.rereadIndex.get? id = some entry at hentry
    rw [get?_rereadIndex hsound.keyed hstored] at hentry
    cases hentry
    change (before.holdings.health.get? cluster.id).bind (·.sensor) = _
    rw [hsound.keyed id cluster hstored]
    rfl

/-- What is not a call leaves the index alone, and the snapshots of the clusters in it. -/
theorem next (hcalm : state.conditions = {}) (hsound : state.Sound) (hsummoned : state.Summoned)
    (hdeparted : state.Departed) (h : state.ShowsLevels source) (event : Event) :
    (state.next event).ShowsLevels fun id => state.levelSourceAfter id (source id) event := by
  rcases next_cases hsound.keyed event with ⟨hevent, hsame⟩ | ⟨scope, operation, rfl, heffect⟩
  · have hsource : ∀ id, state.levelSourceAfter id (source id) event = source id := by
      intro id
      cases event with
      | call scope operation => exact absurd rfl (hevent scope operation)
      | _ => rfl
    refine ⟨?_, ?_⟩
    · rw [hsame.index, hsame.clusters]
      exact h.mirrors
    · intro id entry hentry
      rw [hsame.index] at hentry
      -- settling forgets snapshots, but only those of clusters that are gone
      obtain ⟨cluster, hstored, -⟩ := h.mirrors.stored_of_indexed hentry
      rw [hsource, snapshotLevel, get?_health_next hsummoned hevent (hdeparted.ne_of_stored hstored)]
      exact h.shown id entry hentry
  · exact h.effect hcalm hsound heffect

theorem following (hcalm : state.conditions = {}) (hsound : state.Sound) (hsummoned : state.Summoned)
    (hdeparted : state.Departed) (h : state.ShowsLevels source) {events : List Event}
    (hevents : events.all Event.isCalm = true) :
    (state.following events).ShowsLevels fun id => state.levelSource id (source id) events := by
  induction events generalizing state source with
  | nil => exact h
  | cons event rest ih =>
    rw [List.all_cons, Bool.and_eq_true] at hevents
    exact ih (conditions_next hsound.keyed hevents.1 hcalm) (hsound.next event)
      (summoned_next hsound hsummoned event).1 (departed_next hsound hsummoned hdeparted event)
      (h.next hcalm hsound hsummoned hdeparted event) hevents.2

theorem start (runtime : Runtime) (settings : Settings) (now : Instant) (source : String → LevelSource) :
    (start runtime settings now).ShowsLevels source := by
  refine ⟨mirrors_start runtime settings now, ?_⟩
  intro id entry hentry
  cases hentry

end ShowsLevels

end State

/-- In a run without any fault a search for a level finds, of the clusters that the scope may read, exactly
the stored ones that go by that level, each once and by name and then id. They go by the level in the
snapshot, unless the configuration of the record was written last with another level: then by that. -/
theorem level_search_finds_levels_shown (runtime : Runtime) (settings : Settings) (now : Instant)
    (events : List Event) (hevents : events.all Event.isCalm = true) (scope : Scope)
    (level : HealthLevel) :
    let state := (State.start runtime settings now).following events
    let source := fun id => (State.start runtime settings now).levelSource id .snapshot events
    let found := state.listing scope fun cluster =>
      (source cluster.id).shown (state.snapshotLevel cluster.id) = some level
    Registry.search scope { sensor := some level } state = .ok (found.map Hit.ofCluster) state ∧
    Registry.searchRecords scope { sensor := some level } state =
      .ok (found.map state.decorated) state ∧
    (found.Pairwise fun a b => a.name < b.name ∨ a.name = b.name ∧ a.id < b.id) ∧
    (∀ cluster, cluster ∈ found ↔ (∃ id, state.clusters.get? id = some cluster) ∧
      (source cluster.id).shown (state.snapshotLevel cluster.id) = some level ∧
      state.grants.mayRead scope (some cluster.id) = true) ∧
    (∀ cluster, source cluster.id = .snapshot ∨
        source cluster.id = .caller (state.snapshotLevel cluster.id) →
      (cluster ∈ found ↔ (∃ id, state.clusters.get? id = some cluster) ∧
        state.snapshotLevel cluster.id = some level ∧
        state.grants.mayRead scope (some cluster.id) = true)) := by
  intro state source found
  have hsound := State.sound_start runtime settings now
  have hkeyed : state.Keyed := (hsound.following events).keyed
  have hcalm : state.conditions = {} := State.conditions_following hsound rfl hevents
  have hshows : state.ShowsLevels source :=
    State.ShowsLevels.following rfl hsound (State.summoned_start runtime settings now)
      (State.departed_start runtime settings now) (.start runtime settings now fun _ => .snapshot)
      hevents
  have hsearch : Registry.search scope { sensor := some level } state =
      .ok (found.map Hit.ofCluster) state := by
    rw [Registry.search_of_calm hcalm, State.found_eq_listing hkeyed hshows.mirrors scope]
    intro id cluster entry hstored hindexed
    have hlevel := hshows.shown id entry hindexed
    rw [hkeyed id cluster hstored, ← hlevel, Bool.eq_iff_iff, Query.accepts_of_level, decide_eq_true_eq]
  have hmem : ∀ cluster, cluster ∈ found ↔ (∃ id, state.clusters.get? id = some cluster) ∧
      (source cluster.id).shown (state.snapshotLevel cluster.id) = some level ∧
      state.grants.mayRead scope (some cluster.id) = true := by
    intro cluster
    rw [State.mem_listing hkeyed, State.stored_iff hkeyed, decide_eq_true_eq]
  refine ⟨hsearch, Registry.searchRecords_of_search hcalm hkeyed hsearch,
    State.pairwise_lt_listing hkeyed scope _, hmem, ?_⟩
  intro cluster hsource
  have hshown : (source cluster.id).shown (state.snapshotLevel cluster.id) =
      state.snapshotLevel cluster.id := by
    rcases hsource with hsource | hsource <;> rw [hsource] <;> rfl
  rw [hmem, hshown]

/-- Two clusters are reported unhealthy. After that the one is announced with a new configuration, and the
record of the other is written again with the level of its snapshot. -/
def reconfiguration : List Event := [
  .call .system (.create { name := "edge" }),
  .call .system (.create { name := "core" }),
  .call .system (.updateHealth "$1" { sensor := some .unhealthy }),
  .call .system (.updateHealth "$2" { sensor := some .unhealthy }),
  .call .system (.announce { clusterId := some "$1", declaration := some {
    name := "edge", config := some { fingerprint := "v2" } } }),
  .call .system (.update { id := "$2", name := "core", health := some { sensor := some .unhealthy } })]

/-- Only the cluster that was written with the level of its snapshot is still found by it. -/
theorem level_search_finds_levels_shown_of_reconfiguration :
    let state := (State.start {} {} ⟨0, false⟩).following reconfiguration
    reconfiguration.all Event.isCalm = true ∧
    Registry.search .system { sensor := some .unhealthy } state = .ok [⟨"$2", "core"⟩] state := by
  intro state
  have hevents : reconfiguration.all Event.isCalm = true := by decide
  refine ⟨hevents, ?_⟩
  obtain ⟨hsearch, -⟩ := level_search_finds_levels_shown {} {} ⟨0, false⟩ reconfiguration hevents
    .system .unhealthy
  refine hsearch.trans ?_
  congr 1
  decide +kernel

/-- A search by level misses a stored cluster although its snapshot has that level. -/
theorem level_search_misses_reconfigured_cluster :
    let state := (State.start {} {} ⟨0, false⟩).following reconfiguration
    reconfiguration.all Event.isCalm = true ∧
    (state.clusters.get? "$1").map Hit.ofCluster = some ⟨"$1", "edge"⟩ ∧
    state.snapshotLevel "$1" = some .unhealthy ∧
    ∃ hits, Registry.search .system { sensor := some .unhealthy } state = .ok hits state ∧
      ⟨"$1", "edge"⟩ ∉ hits := by
  intro state
  have hcalm : state.conditions = {} := by decide +kernel
  refine ⟨by decide, by decide +kernel, by decide +kernel, _, Registry.search_of_calm hcalm _ _, ?_⟩
  decide +kernel

end Fleet
