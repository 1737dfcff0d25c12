import Fleet.Proofs.Accounting

/-!
# Removed clusters are gone for good

A teardown is pending only for clusters whose records were dropped, and since no id is used twice they do
not come back. So settling leaves the snapshots of stored clusters alone, and as long as a cluster is
stored only the reports about it change its snapshot.
-/

namespace Fleet

open Fleet.Action

/-! ## Snapshots under teardowns -/

/-- A teardown forgets the snapshot of its own cluster only. -/
theorem Cascade.get?_health_run (conditions : Conditions) (cluster : Cluster)
    (connection : ConnectionEnd) (holdings : Holdings) {id : String} (hne : id ≠ cluster.id) :
    (run conditions cluster connection holdings).holdings.health.get? id =
      holdings.health.get? id := by
  have hhealth := health_run conditions cluster connection holdings
  cases hforget : holdings.forgetHealth conditions cluster.id with
  | error failure =>
    rw [hforget] at hhealth
    rw [hhealth.2]
  | ok forgotten =>
    rw [hforget] at hhealth
    rw [hhealth.2, Table.get?_erase, if_neg hne]

theorem Registry.get?_health_foldl_finish (met : List (Job × ConnectionEnd))
    (reports : List (Job × Report)) (state : State) {id : String}
    (h : ∀ entry ∈ met, id ≠ entry.1.cluster.id) :
    (met.foldl finish (reports, state)).2.holdings.health.get? id =
      state.holdings.health.get? id := by
  induction met generalizing reports state with
  | nil => rfl
  | cons first rest ih =>
    rw [List.foldl_cons]
    refine (ih _ _ fun entry hentry => h entry (List.mem_cons_of_mem _ hentry)).trans ?_
    exact Cascade.get?_health_run _ _ _ _ (h first List.mem_cons_self)

namespace State

/-! ## Pending teardowns -/

/-- Every pending teardown is that of a cluster which was stored and is stored no more. -/
def Departed (state : State) : Prop :=
  ∀ job ∈ state.queue.jobs,
    state.HasIssued job.cluster.id ∧ state.clusters.get? job.cluster.id = none

theorem departed_start (runtime : Runtime) (settings : Settings) (now : Instant) :
    (start runtime settings now).Departed := by
  intro job hjob
  cases hjob

/-- A cluster that was dropped is never stored again. -/
theorem absent_next {state : State} (hsound : state.Sound) (event : Event) {id : String}
    (hissued : state.HasIssued id) (habsent : state.clusters.get? id = none) :
    (state.next event).HasIssued id ∧ (state.next event).clusters.get? id = none := by
  have hcontinues := Continues.next hsound event
  refine ⟨hcontinues.hasIssued hissued, ?_⟩
  cases hstored : (state.next event).clusters.get? id with
  | none => rfl
  | some cluster =>
    obtain ⟨earlier, hearlier, -⟩ := hcontinues.stored_of_issued hissued hstored
    rw [habsent] at hearlier
    cases hearlier

theorem departed_remove {state : State} (hsound : state.Sound) (h : state.Departed) (scope : Scope)
    (id : String) (ticket : Option Nat) : (state.next (.call scope (.remove id ticket))).Departed := by
  cases hobstacle : state.removalObstacle? scope id with
  | some failure =>
    rw [next_remove_of_obstacle hobstacle]
    exact h
  | none =>
    obtain ⟨cluster, hstored, hnext⟩ := next_remove_of_unobstructed hobstacle ticket
    have hkept := hsound.kept id cluster hstored
    have hjobs : (state.next (.call scope (.remove id ticket))).queue.jobs.Perm
        (state.queue.jobs ++ [⟨cluster, ticket⟩]) := by
      rw [hnext]
      exact TeardownQueue.jobs_submit _ _ _
    have habsent : (state.next (.call scope (.remove id ticket))).clusters.get? id = none := by
      rw [hnext, withoutRecord, Table.get?_erase, if_pos rfl]
    have hcontinues := Continues.next hsound (.call scope (.remove id ticket))
    intro job hjob
    rw [hjobs.mem_iff, List.mem_append, List.mem_singleton] at hjob
    rcases hjob with hjob | rfl
    · obtain ⟨hissued, habsent⟩ := h job hjob
      exact absent_next hsound _ hissued habsent
    · rw [show (⟨cluster, ticket⟩ : Job).cluster.id = id from hkept.keyed]
      exact ⟨hcontinues.hasIssued hkept.issued, habsent⟩

theorem departed_next {state : State} (hsound : state.Sound) (hsummoned : state.Summoned)
    (h : state.Departed) (event : Event) : (state.next event).Departed := by
  by_cases hremoval : ∃ scope id ticket, event = .call scope (.remove id ticket)
  · obtain ⟨scope, id, ticket, rfl⟩ := hremoval
    exact departed_remove hsound h scope id ticket
  · intro job hjob
    by_cases hsettle : event = .settle
    · rw [hsettle, summoned_settle hsummoned] at hjob
      cases hjob
    · obtain ⟨hqueue, -⟩ := queue_next hsound
        (fun scope id ticket heq => hremoval ⟨scope, id, ticket, heq⟩) hsettle
      rw [hqueue] at hjob
      obtain ⟨hissued, habsent⟩ := h job hjob
      exact absent_next hsound event hissued habsent

/-- No teardown is pending for a cluster that is stored. -/
theorem Departed.ne_of_stored {state : State} (h : state.Departed) {id : String} {cluster : Cluster}
    (hstored : state.clusters.get? id = some cluster) :
    ∀ job ∈ state.queue.jobs, id ≠ job.cluster.id := by
  rintro job hjob rfl
  rw [(h job hjob).2] at hstored
  cases hstored

/-! ## Snapshots under all events -/

theorem get?_health_settle {state : State} (hsummoned : state.Summoned) {id : String}
    (hpending : ∀ job ∈ state.queue.jobs, id ≠ job.cluster.id) :
    (state.next .settle).holdings.health.get? id = state.holdings.health.get? id := by
  change (Registry.settle state).2.holdings.health.get? id = _
  rw [Registry.settle_eq]
  unfold Registry.settling
  rw [List.take_length]
  refine Registry.get?_health_foldl_finish _ _ _ ?_
  intro entry hentry
  refine hpending entry.1 ?_
  rw [← hsummoned.finished_perm.mem_iff]
  exact List.mem_map_of_mem hentry

/-- Only calls change the snapshots of clusters for which no teardown is pending. -/
theorem get?_health_next {state : State} (hsummoned : state.Summoned) {event : Event}
    (hevent : ∀ scope operation, event ≠ .call scope operation) {id : String}
    (hpending : ∀ job ∈ state.queue.jobs, id ≠ job.cluster.id) :
    (state.next event).holdings.health.get? id = state.holdings.health.get? id := by
  cases event with
  | call scope operation => exact absurd rfl (hevent scope operation)
  | settle => exact get?_health_settle hsummoned hpending
  | resolveAlert alertId =>
    obtain ⟨holdings, hhealth, hnext⟩ := next_resolveAlert state alertId
    rw [hnext, ← hhealth]
  | _ => rfl

end State

end Fleet
