import Fleet.Proofs.Departures

/-!
# Snapshots without a cluster

Reports are recorded for any id, whether a cluster of that id is stored or not. A teardown deletes the
snapshot of its cluster, so what is left over when everything has settled are the reports that came too
late for a teardown, or for an id that no cluster has had since. They are told apart by the time of the
report: there was no record then and no teardown pending, and no record has been stored afterwards.
-/

namespace Fleet

open Fleet.Action

/-! ## What settling does to snapshots -/

/-- While nothing is out of order a teardown deletes the snapshot of its cluster, and no other. -/
theorem Cascade.get?_health_run_of_calm (cluster : Cluster) (connection : ConnectionEnd)
    (holdings : Holdings) (id : String) :
    (run {} cluster connection holdings).holdings.health.get? id =
      if id = cluster.id then none else holdings.health.get? id := by
  have hhealth := health_run {} cluster connection holdings
  have hin : ({} : Conditions).isOut .healthDelete cluster.id = false := rfl
  rw [Holdings.forgetHealth_eq, hin] at hhealth
  rw [hhealth.2, Table.get?_erase]

theorem Registry.get?_health_foldl_finish_of_calm (met : List (Job × ConnectionEnd))
    (reports : List (Job × Report)) {state : State} (hcalm : state.conditions = {}) {id : String}
    (h : state.holdings.health.get? id = none ∨ ∃ entry ∈ met, id = entry.1.cluster.id) :
    (met.foldl finish (reports, state)).2.holdings.health.get? id = none := by
  induction met generalizing reports state with
  | nil =>
    rcases h with hnone | ⟨_, hentry, -⟩
    · exact hnone
    · cases hentry
  | cons first rest ih =>
    have hfirst : (finish (reports, state) first).2.holdings.health.get? id =
        if id = first.1.cluster.id then none else state.holdings.health.get? id := by
      change (Cascade.run state.conditions _ _ _).holdings.health.get? id = _
      rw [hcalm]
      exact Cascade.get?_health_run_of_calm _ _ _ _
    rw [List.foldl_cons]
    refine ih _ hcalm ?_
    rcases h with hnone | ⟨entry, hentry, heq⟩
    · rw [hnone, ite_self] at hfirst
      exact .inl hfirst
    · rcases List.mem_cons.1 hentry with rfl | hrest
      · rw [if_pos heq] at hfirst
        exact .inl hfirst
      · exact .inr ⟨entry, hrest, heq⟩

namespace State

/-- Settling deletes the snapshots of the clusters that are being torn down. -/
theorem get?_health_settle_of_calm {state : State} (hsummoned : state.Summoned)
    (hcalm : state.conditions = {}) {id : String}
    (hpending : ∃ job ∈ state.queue.jobs, id = job.cluster.id) :
    (state.next .settle).holdings.health.get? id = none := by
  obtain ⟨job, hjob, hid⟩ := hpending
  change (Registry.settle state).2.holdings.health.get? id = none
  rw [Registry.settle_eq]
  unfold Registry.settling
  rw [List.take_length]
  have hrested : (Registry.rested state).conditions = {} := hcalm
  refine Registry.get?_health_foldl_finish_of_calm _ _ hrested (.inr ?_)
  rw [← hsummoned.finished_perm.mem_iff, List.mem_map] at hjob
  obtain ⟨entry, hentry, rfl⟩ := hjob
  exact ⟨entry, hentry, hid⟩

/-! ## Strays -/

/-- The cluster is not stored, and no teardown of it is pending. -/
structure Unattended (state : State) (id : String) : Prop where
  absent : state.clusters.get? id = none
  idle : ∀ job ∈ state.queue.jobs, id ≠ job.cluster.id

/-- A snapshot that nobody will delete. -/
structure Stray (state : State) (id : String) : Prop extends state.Unattended id where
  present : state.holdings.health.get? id ≠ none

/-- The event is a report about the cluster, and it is recorded. -/
def Records (state : State) (id : String) (event : Event) : Prop :=
  ∃ scope report, event = .call scope (.updateHealth id report) ∧
    ((Operation.updateHealth id report).run scope).answer state = .ok .done

/-- No record of the cluster is stored in any state of a run. -/
def StaysAbsent (state : State) (id : String) : List Event → Prop
  | [] => state.clusters.get? id = none
  | event :: rest => state.clusters.get? id = none ∧ (state.next event).StaysAbsent id rest

theorem StaysAbsent.absent {state : State} {id : String} {events : List Event}
    (h : state.StaysAbsent id events) : state.clusters.get? id = none := by
  cases events with
  | nil => exact h
  | cons event rest => exact h.1

/-! ## Steps -/

section

variable {state : State} {event : Event} {id : String}

/-- Only a removal drops a record. -/
theorem stored_next (hsound : state.Sound)
    (hremove : ∀ scope ticket, event ≠ .call scope (.remove id ticket))
    (hstored : state.clusters.get? id ≠ none) : (state.next event).clusters.get? id ≠ none := by
  have hinsert : ∀ other cluster, (state.clusters.insert other cluster).get? id ≠ none := by
    intro other cluster
    rw [Table.get?_insert]
    split
    · exact Option.some_ne_none _
    · exact hstored
  rcases next_cases hsound.keyed event with ⟨-, hsame⟩ | ⟨scope, operation, rfl, heffect⟩
  · rw [hsame.clusters]
    exact hstored
  · generalize state.next (.call scope operation) = after,
      (operation.run scope).answer state = answer at heffect ⊢
    cases heffect with
    | idle | reported | rebuilt => exact hstored
    | enrolled | revised | amended => exact hinsert _ _
    | @removed other ticket =>
      rw [Table.get?_erase, if_neg]
      · exact hstored
      · rintro rfl
        exact hremove scope ticket rfl

/-- A cluster gets out of sight of all teardowns only by itself: whichever event leaves it without a record
and without a pending teardown has found it so. -/
theorem unattended_next (hsound : state.Sound) (hsettle : event ≠ .settle) :
    (state.next event).Unattended id ↔
      (state.next event).clusters.get? id = none ∧ state.Unattended id := by
  by_cases hremoval : ∃ scope other ticket, event = .call scope (.remove other ticket)
  · obtain ⟨scope, other, ticket, rfl⟩ := hremoval
    cases hobstacle : state.removalObstacle? scope other with
    | some failure =>
      rw [next_remove_of_obstacle hobstacle]
      exact ⟨fun h => ⟨h.absent, h⟩, fun h => h.2⟩
    | none =>
      obtain ⟨cluster, hstored, hnext⟩ := next_remove_of_unobstructed hobstacle ticket
      have hid : cluster.id = other := hsound.keyed other cluster hstored
      have hjobs : ∀ job, job ∈ (state.next (.call scope (.remove other ticket))).queue.jobs ↔
          job ∈ state.queue.jobs ∨ job = ⟨cluster, ticket⟩ := by
        intro job
        rw [hnext, ← List.mem_singleton, ← List.mem_append]
        exact (TeardownQueue.jobs_submit _ _ _).mem_iff
      have hclusters : id ≠ other →
          (state.next (.call scope (.remove other ticket))).clusters.get? id =
            state.clusters.get? id := by
        intro hne
        rw [hnext, withoutRecord, Table.get?_erase, if_neg hne]
      constructor
      · intro h
        have hne : id ≠ other := hid ▸ h.idle ⟨cluster, ticket⟩ ((hjobs _).2 (.inr rfl))
        refine ⟨h.absent, (hclusters hne).symm.trans h.absent, ?_⟩
        exact fun job hjob => h.idle job ((hjobs job).2 (.inl hjob))
      · rintro ⟨habsent, h⟩
        refine ⟨habsent, fun job hjob => ?_⟩
        rcases (hjobs job).1 hjob with hold | rfl
        · exact h.idle job hold
        · rintro rfl
          have habsent : state.clusters.get? cluster.id = none := h.absent
          rw [← hid, habsent] at hstored
          cases hstored
  · obtain ⟨hqueue, -⟩ := queue_next hsound
      (fun scope other ticket heq => hremoval ⟨scope, other, ticket, heq⟩) hsettle
    constructor
    · rintro ⟨habsent, hidle⟩
      rw [hqueue] at hidle
      refine ⟨habsent, ?_, hidle⟩
      refine Classical.byContradiction fun hstored => ?_
      exact stored_next hsound (fun scope ticket heq => hremoval ⟨scope, id, ticket, heq⟩) hstored
        habsent
    · rintro ⟨habsent, h⟩
      exact ⟨habsent, hqueue ▸ h.idle⟩

theorem present_of_records (hsound : state.Sound) (h : state.Records id event) :
    (state.next event).holdings.health.get? id ≠ none := by
  obtain ⟨scope, report, rfl, hanswer⟩ := h
  have heffect := (Operation.updateHealth id report).run_effect scope hsound.keyed
  rw [hanswer] at heffect
  change Effect scope state _ _ (state.next (.call scope (.updateHealth id report))) at heffect
  generalize state.next (.call scope (.updateHealth id report)) = after at heffect ⊢
  cases heffect with
  | idle _ hend => rcases hend with hasks | ⟨failure, hfailed⟩ <;> contradiction
  | enrolled _ _ _ hoperation => cases hoperation
  | revised _ _ _ hoperation => cases hoperation
  | amended hoperation => cases hoperation
  | reported =>
    change (state.holdings.health.insert id _).get? id ≠ none
    rw [Table.get?_insert_self]
    exact Option.some_ne_none _

/-- Nothing but settling and reports changes a snapshot, and no report that is recorded fails while
nothing is out of order. -/
theorem get?_health_of_unrecorded (hsound : state.Sound) (hcalm : state.conditions = {})
    (hsettle : event ≠ .settle) (h : ¬ state.Records id event) :
    (state.next event).holdings.health.get? id = state.holdings.health.get? id := by
  cases event with
  | settle => exact absurd rfl hsettle
  | resolveAlert alertId =>
    obtain ⟨holdings, hhealth, hnext⟩ := next_resolveAlert state alertId
    rw [hnext, ← hhealth]
  | call scope operation =>
    have heffect : Effect scope state operation _ (state.next (.call scope operation)) :=
      operation.run_effect scope hsound.keyed
    generalize hanswer : (operation.run scope).answer state = answer,
      state.next (.call scope operation) = after at heffect ⊢
    cases heffect with
    | @reported reported report _ _ _ hend =>
      refine Table.get?_insert_of_ne _ _ ?_
      rintro rfl
      rcases hend with ⟨rfl, -⟩ | ⟨⟨_, -, hfault⟩, -⟩
      · exact h ⟨scope, report, rfl, hanswer⟩
      · exact hfault.disorder hcalm
    | _ => rfl
  | _ => rfl

/-- Settling leaves the stray snapshots, and there are no others without a cluster afterwards. -/
theorem stray_settle (hsummoned : state.Summoned) (hcalm : state.conditions = {}) :
    (state.next .settle).Stray id ↔ state.Stray id := by
  have hclusters : (state.next .settle).clusters = state.clusters :=
    (SameRegistry.settle state).clusters
  have hqueue := summoned_settle hsummoned
  have hdeleted : ∀ job ∈ state.queue.jobs, id = job.cluster.id →
      (state.next .settle).holdings.health.get? id = none :=
    fun job hjob heq => get?_health_settle_of_calm hsummoned hcalm ⟨job, hjob, heq⟩
  have hkept : (∀ job ∈ state.queue.jobs, id ≠ job.cluster.id) →
      (state.next .settle).holdings.health.get? id = state.holdings.health.get? id :=
    get?_health_settle hsummoned
  generalize state.next .settle = after at *
  constructor
  · intro h
    have hidle : ∀ job ∈ state.queue.jobs, id ≠ job.cluster.id :=
      fun job hjob heq => h.present (hdeleted job hjob heq)
    refine ⟨⟨hclusters ▸ h.absent, hidle⟩, ?_⟩
    rw [← hkept hidle]
    exact h.present
  · intro h
    have hidle : ∀ job ∈ after.queue.jobs, id ≠ job.cluster.id := by
      rw [hqueue]
      exact List.forall_mem_nil _
    refine ⟨⟨hclusters ▸ h.absent, hidle⟩, ?_⟩
    rw [hkept h.idle]
    exact h.present

/-- A stray snapshot was stray before, or it comes from a report on a cluster that is unattended. -/
theorem stray_next (hsound : state.Sound) (hsummoned : state.Summoned) (hcalm : state.conditions = {}) :
    (state.next event).Stray id ↔ (state.next event).clusters.get? id = none ∧
      (state.Stray id ∨ state.Unattended id ∧ state.Records id event) := by
  by_cases hsettle : event = .settle
  · subst hsettle
    constructor
    · intro h
      exact ⟨h.absent, .inl ((stray_settle hsummoned hcalm).1 h)⟩
    · rintro ⟨-, h | ⟨-, scope, report, hreport, -⟩⟩
      · exact (stray_settle hsummoned hcalm).2 h
      · cases hreport
  · constructor
    · intro h
      obtain ⟨habsent, hunattended⟩ := (unattended_next hsound hsettle).1 h.toUnattended
      refine ⟨habsent, ?_⟩
      by_cases hrecords : state.Records id event
      · exact .inr ⟨hunattended, hrecords⟩
      · refine .inl ⟨hunattended, ?_⟩
        rw [← get?_health_of_unrecorded hsound hcalm hsettle hrecords]
        exact h.present
    · rintro ⟨habsent, h⟩
      have hbefore : state.Unattended id := by
        rcases h with hstray | ⟨hunattended, -⟩
        · exact hstray.toUnattended
        · exact hunattended
      refine ⟨(unattended_next hsound hsettle).2 ⟨habsent, hbefore⟩, ?_⟩
      by_cases hrecords : state.Records id event
      · exact present_of_records hsound hrecords
      · rw [get?_health_of_unrecorded hsound hcalm hsettle hrecords]
        exact (h.resolve_right fun hright => hrecords hright.2).present

end

/-! ## Runs -/

/-- Some event of a run has recorded a report on an unattended cluster, of which no record has been stored
since. -/
def RecordsStray (state : State) (id : String) (events : List Event) : Prop :=
  ∃ earlier report later, events = earlier ++ report :: later ∧
    (state.following earlier).Records id report ∧ (state.following earlier).Unattended id ∧
    (state.following (earlier ++ [report])).StaysAbsent id later

theorem recordsStray_cons {state : State} {id : String} {event : Event} {rest : List Event} :
    state.RecordsStray id (event :: rest) ↔
      state.Records id event ∧ state.Unattended id ∧ (state.next event).StaysAbsent id rest ∨
        (state.next event).RecordsStray id rest := by
  constructor
  · rintro ⟨earlier, report, later, hsplit, h⟩
    cases earlier with
    | nil =>
      cases hsplit
      exact .inl h
    | cons first earlier =>
      cases hsplit
      exact .inr ⟨earlier, report, later, rfl, h⟩
  · rintro (h | ⟨earlier, report, later, rfl, h⟩)
    · exact ⟨[], event, rest, rfl, h⟩
    · exact ⟨event :: earlier, report, later, rfl, h⟩

/-- After a run in which nothing goes out of order a snapshot is stray because it was so before and its
cluster has not been stored since, or because the run has recorded it so. -/
theorem stray_following {state : State} (hsound : state.Sound) (hsummoned : state.Summoned)
    (hcalm : state.conditions = {}) {events : List Event}
    (hevents : events.all Event.isCalm = true) (id : String) :
    (state.following events).Stray id ↔
      state.Stray id ∧ state.StaysAbsent id events ∨ state.RecordsStray id events := by
  induction events generalizing state with
  | nil =>
    constructor
    · exact fun h => .inl ⟨h, h.absent⟩
    · rintro (⟨h, -⟩ | ⟨earlier, report, later, hsplit, -⟩)
      · exact h
      · cases earlier <;> cases hsplit
  | cons event rest ih =>
    rw [List.all_cons, Bool.and_eq_true] at hevents
    have hrest := ih (hsound.next event) (summoned_next hsound hsummoned event).1
      (conditions_next hsound.keyed hevents.1 hcalm) hevents.2
    rw [following_cons, hrest, stray_next hsound hsummoned hcalm, recordsStray_cons]
    constructor
    · rintro (⟨⟨-, hstray | ⟨hunattended, hrecords⟩⟩, habsent⟩ | hlater)
      · exact .inl ⟨hstray, hstray.absent, habsent⟩
      · exact .inr (.inl ⟨hrecords, hunattended, habsent⟩)
      · exact .inr (.inr hlater)
    · rintro (⟨hstray, -, habsent⟩ | ⟨hrecords, hunattended, habsent⟩ | hlater)
      · exact .inl ⟨⟨habsent.absent, .inl hstray⟩, habsent⟩
      · exact .inl ⟨⟨habsent.absent, .inr ⟨hunattended, hrecords⟩⟩, habsent⟩
      · exact .inr hlater

end State

/-- When a run in which nothing goes out of order has settled, no teardown is pending, and a snapshot is
without its cluster in one case only: it was reported while no record of the cluster was stored and no
teardown of it was pending, and no record of it has been stored since. -/
theorem snapshots_outlive_clusters_iff (runtime : Runtime) (settings : Settings) (now : Instant)
    {events : List Event} (hevents : events.all Event.isCalm = true) :
    let start := State.start runtime settings now
    let settled := start.following (events ++ [.settle])
    settled.queue.pending = 0 ∧
      ∀ id, settled.holdings.health.get? id ≠ none ∧ settled.clusters.get? id = none ↔
        start.RecordsStray id events := by
  intro start settled
  have hstart : start.Sound := State.sound_start runtime settings now
  have hsummoned : start.Summoned := State.summoned_start runtime settings now
  let before := start.following events
  have hbefore : before.Summoned := (State.summoned_following hstart hsummoned events).1
  have hsettled : settled = before.next .settle := State.following_append _ _ _
  have hqueue : settled.queue = {} := hsettled ▸ State.summoned_settle hbefore
  refine ⟨by rw [hqueue], fun id => ?_⟩
  have hcalm : before.conditions = {} := State.conditions_following hstart rfl hevents
  have hstray : settled.Stray id ↔ start.RecordsStray id events := by
    rw [hsettled, State.stray_settle hbefore hcalm,
      State.stray_following hstart hsummoned rfl hevents]
    refine or_iff_right ?_
    rintro ⟨h, -⟩
    exact h.present rfl
  rw [← hstray]
  constructor
  · rintro ⟨hpresent, habsent⟩
    refine ⟨⟨habsent, ?_⟩, hpresent⟩
    rw [hqueue]
    exact List.forall_mem_nil _
  · exact fun h => ⟨h.present, h.absent⟩

/-- A removed cluster is reported while its teardown is pending, and another one while it is registered. A
third report is about an id that no cluster ever gets. -/
def straggling : List Event := [
  .call .system (.create { name := "prod" }),
  .call .system (.create { name := "lab" }),
  .call .system (.remove "$1" none),
  .call .system (.updateHealth "$1" { sensor := some .healthy }),
  .call .system (.updateHealth "$2" { sensor := some .healthy }),
  .call .system (.updateHealth "elsewhere" { sensor := some .healthy })]

/-- Of these reports only the last one leaves a snapshot without a cluster. -/
theorem snapshots_outlive_clusters_iff_of_straggling :
    let start := State.start {} {} ⟨0, false⟩
    straggling.all Event.isCalm = true ∧
      ¬ start.RecordsStray "$1" straggling ∧ ¬ start.RecordsStray "$2" straggling ∧
      start.RecordsStray "elsewhere" straggling := by
  intro start
  have hevents : straggling.all Event.isCalm = true := by decide
  obtain ⟨-, hstray⟩ := snapshots_outlive_clusters_iff {} {} ⟨0, false⟩ hevents
  refine ⟨hevents, ?_, ?_, ?_⟩
  · rw [← hstray]
    decide +kernel
  · rw [← hstray]
    decide +kernel
  · rw [← hstray]
    decide +kernel

/-- A report that comes after the teardown leaves a snapshot, although nothing is out of order. -/
theorem snapshot_outlives_cluster :
    let events : List Event := [
      .call .system (.create { name := "prod" }),
      .call .system (.remove "$1" none),
      .settle,
      .call .system (.updateHealth "$1" { sensor := some .healthy }),
      .settle]
    let state := (State.start {} {} ⟨0, false⟩).following events
    events.all Event.isCalm = true ∧ state.queue.pending = 0 ∧
      state.holdings.health.get? "$1" ≠ none ∧ state.clusters.get? "$1" = none := by
  decide +kernel

end Fleet
