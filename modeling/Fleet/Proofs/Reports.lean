import Fleet.Proofs.Reading
import Fleet.Proofs.Restraint

/-!
# Health reports sent again

A report is recorded first and compared with the snapshot that was there, and only a change of level is
brought to the index. A report that was recorded and then failed is no change when it is sent again: the
snapshot has its levels already. So the second attempt brings the index up to date exactly if the first
one got nowhere.
-/

namespace Fleet

open Fleet.Action

/-! ## Levels that searches look at -/

namespace Health

/-- The levels that searches look at: that of the sensor and that of the collector. -/
def liveness (health : Health) : Option HealthLevel × Option HealthLevel :=
  (health.sensor, health.collector)

theorem livenessDiffers_eq_false_iff (before after : Health) :
    before.livenessDiffers after = false ↔ after.liveness = before.liveness := by
  simp only [livenessDiffers, liveness, Bool.or_eq_false_iff, decide_eq_false_iff_not, ne_eq,
    Decidable.not_not, Prod.mk.injEq]
  exact and_congr eq_comm eq_comm

/-- A report that is made once more says nothing new. -/
theorem merge_merge (snapshot report : Health) :
    (snapshot.merge report).merge report = snapshot.merge report := by
  have hfield : ∀ {α : Type} (reported kept : Option α),
      (reported <|> (reported <|> kept)) = (reported <|> kept) := by
    intro α reported kept
    cases reported <;> rfl
  simp only [merge, hfield]

end Health

namespace State

/-- The levels in the snapshot of a cluster. -/
def liveness (state : State) (id : String) : Option HealthLevel × Option HealthLevel :=
  ((state.holdings.health.get? id).getD default).liveness

/-- The index has a cluster with the levels in its snapshot. -/
def ShowsLiveness (state : State) (id : String) : Prop :=
  (state.index.get? id).map (fun entry => (entry.health.getD default).liveness) =
    some (state.liveness id)

instance (state : State) (id : String) : Decidable (state.ShowsLiveness id) :=
  inferInstanceAs (Decidable (_ = _))

variable {before after : State} {id : String} {report : Health}

theorem ShowsLiveness.of_same (h : before.ShowsLiveness id)
    (hindex : after.index.get? id = before.index.get? id)
    (hliveness : after.liveness id = before.liveness id) : after.ShowsLiveness id := by
  unfold ShowsLiveness
  rw [hindex, hliveness]
  exact h

/-- The snapshot of a cluster after a report was recorded. -/
theorem snapshot_of_recorded (h : after.holdings = before.holdings.recordHealth id report) :
    after.holdings.health.get? id =
      some (((before.holdings.health.get? id).getD default).merge report) := by
  rw [h]
  exact Table.get?_insert_self _ _ _

theorem livenessChanged_eq_false_iff (hholdings : after.holdings = before.holdings.recordHealth id report) :
    (Snapshots.updated before.holdings.health id report).livenessChanged = false ↔
      after.liveness id = before.liveness id := by
  unfold liveness
  rw [snapshot_of_recorded hholdings]
  exact Health.livenessDiffers_eq_false_iff _ _

/-- A recorded report that changes no level leaves the index as it was. -/
theorem index_of_unchanged (hindex : after.index = before.reindexed id report)
    (hholdings : after.holdings = before.holdings.recordHealth id report)
    (hsame : after.liveness id = before.liveness id) : after.index = before.index := by
  unfold reindexed at hindex
  dsimp only at hindex
  rw [hindex, (livenessChanged_eq_false_iff hholdings).2 hsame]
  cases before.clusters.get? id <;> rfl

/-- A recorded report that changes a level of a stored cluster brings the index up to date. -/
theorem showsLiveness_of_changed {cluster : Cluster} (hstored : before.clusters.get? id = some cluster)
    (hindex : after.index = before.reindexed id report)
    (hholdings : after.holdings = before.holdings.recordHealth id report)
    (hchanged : after.liveness id ≠ before.liveness id) : after.ShowsLiveness id := by
  have hupdated : (Snapshots.updated before.holdings.health id report).livenessChanged = true :=
    eq_true_of_ne_false fun hfalse => hchanged ((livenessChanged_eq_false_iff hholdings).1 hfalse)
  unfold reindexed at hindex
  dsimp only at hindex
  rw [hstored, hupdated] at hindex
  dsimp only at hindex
  rw [if_pos rfl] at hindex
  unfold ShowsLiveness liveness
  rw [hindex, Table.get?_insert_self, snapshot_of_recorded hholdings]
  rfl

end State

/-! ## What a report comes to -/

namespace Effect

variable {scope : Scope} {before after : State} {id : String} {report : Health}

/-- A report that fails is recorded or not. The index is what it was. -/
theorem report_of_error {failure : Failure}
    (h : Effect scope before (.updateHealth id report) (.error failure) after) :
    after.clusters = before.clusters ∧ after.index = before.index ∧
      (after.holdings = before.holdings ∨
        after.holdings = before.holdings.recordHealth id report) := by
  cases h with
  | idle => exact ⟨rfl, rfl, .inl rfl⟩
  | reported index _ hend =>
    obtain ⟨hok, -⟩ | ⟨-, rfl⟩ := hend
    · cases hok
    · exact ⟨rfl, rfl, .inr rfl⟩
  | enrolled _ _ _ hoperation => cases hoperation
  | revised _ _ _ hoperation => cases hoperation

/-- A report that succeeds is recorded and brought to the index. -/
theorem report_of_ok {value : Answer}
    (h : Effect scope before (.updateHealth id report) (.ok value) after) :
    after.index = before.reindexed id report ∧
      after.holdings = before.holdings.recordHealth id report := by
  cases h with
  | idle _ hanswer =>
    obtain hasks | ⟨failure, hfailed⟩ := hanswer
    · cases hasks
    · cases hfailed
  | reported index _ hend =>
    obtain ⟨-, rfl⟩ | ⟨⟨failure, hfailed, -⟩, -⟩ := hend
    · exact ⟨rfl, rfl⟩
    · cases hfailed
  | enrolled _ _ _ hoperation => cases hoperation
  | revised _ _ _ hoperation => cases hoperation
  | amended hoperation => cases hoperation

end Effect

/-- A report on a stored cluster that the index has with the levels of its snapshot fails, whatever is
out of order, and succeeds when it is sent again with everything in order. Then the report is recorded, and
the index has the cluster with the levels of its snapshot if and only if the failed attempt had not changed
them. If it had, then the index is as it was before either attempt. -/
theorem report_sent_again_reaches_index_iff {state : State} (hkeyed : state.Keyed) {id : String}
    {cluster : Cluster} (hstored : state.clusters.get? id = some cluster)
    (hshown : state.ShowsLiveness id) {scope : Scope} {report : Health} {failure : Failure}
    (hfailed : state.failureOf (.call scope (.updateHealth id report)) = some failure)
    (hagain : (state.next (.call scope (.updateHealth id report))).calmed.failureOf
      (.call scope (.updateHealth id report)) = none) :
    let failed := state.next (.call scope (.updateHealth id report))
    let again := failed.calmed.next (.call scope (.updateHealth id report))
    again.holdings.health.get? id = some (((state.holdings.health.get? id).getD default).merge report) ∧
      (again.ShowsLiveness id ↔ failed.liveness id = state.liveness id) ∧
      (failed.liveness id ≠ state.liveness id → again.index = state.index) := by
  intro failed again
  have hfirst : Effect scope state (.updateHealth id report) (.error failure) failed := by
    rw [← State.answer_of_failureOf hfailed]
    exact Operation.run_effect scope _ hkeyed
  obtain ⟨hclusters, hindex, hholdings⟩ := hfirst.report_of_error
  have hkeyed' : failed.calmed.Keyed := by
    change ∀ id cluster, failed.clusters.get? id = some cluster → cluster.id = id
    rw [hclusters]
    exact hkeyed
  have hstored' : failed.calmed.clusters.get? id = some cluster := by
    change failed.clusters.get? id = some cluster
    rw [hclusters]
    exact hstored
  obtain ⟨value, after, hrun⟩ := State.ok_of_failureOf_none hagain
  have hsecond : Effect scope failed.calmed (.updateHealth id report) (.ok value) again := by
    rw [← answer_of_ok hrun]
    exact Operation.run_effect scope _ hkeyed'
  obtain ⟨hindex', hholdings'⟩ := hsecond.report_of_ok
  have hsnapshot := State.snapshot_of_recorded hholdings'
  rcases hholdings with hunrecorded | hrecorded
  · -- the first attempt got nowhere, so the second is the first to be recorded
    have hsame : failed.liveness id = state.liveness id := by
      unfold State.liveness
      rw [hunrecorded]
    refine ⟨?_, iff_of_true ?_ hsame, fun hchanged => absurd hsame hchanged⟩
    · rw [hsnapshot, State.calmed, hunrecorded]
    · by_cases hkept : again.liveness id = failed.liveness id
      · have hindex'' : again.index = failed.index := State.index_of_unchanged hindex' hholdings' hkept
        refine hshown.of_same ?_ (hkept.trans hsame)
        rw [hindex'', hindex]
      · exact State.showsLiveness_of_changed hstored' hindex' hholdings' hkept
  · -- the second attempt finds the levels in the snapshot that it reports
    have hmerged := State.snapshot_of_recorded hrecorded
    have hsnapshot' : again.holdings.health.get? id = failed.holdings.health.get? id := by
      rw [hsnapshot, State.calmed, hmerged, Option.getD_some, Health.merge_merge]
    have hkept : again.liveness id = failed.liveness id := by
      unfold State.liveness
      rw [hsnapshot']
    have hindex'' : again.index = failed.index := State.index_of_unchanged hindex' hholdings' hkept
    refine ⟨hsnapshot'.trans hmerged, ?_, fun _ => hindex''.trans hindex⟩
    unfold State.ShowsLiveness at hshown ⊢
    rw [hindex'', hindex, hkept, hshown, Option.some.injEq, eq_comm]

/-- A cluster is created and reported degraded. -/
def degraded : List Event := [
  .call .system (.create { name := "prod" }),
  .call .system (.updateHealth "$1" { sensor := some .degraded, collector := some .degraded })]

/-- The sensor of the cluster is reported unhealthy. -/
def worsening : Event :=
  .call .system (.updateHealth "$1" { sensor := some .unhealthy })

/-- The snapshot cannot be written at first. Sent again, the report is in the index too. -/
theorem report_sent_again_reaches_index_iff_of_unwritten :
    let state := (State.start {} {} ⟨0, false⟩).following degraded
    let disturbed : State := { state with conditions := { outages := [⟨"health.upsert", none⟩] } }
    let failed := disturbed.next worsening
    disturbed.failureOf worsening = some Call.healthPut.failure ∧
      failed.calmed.failureOf worsening = none ∧ failed.calmed.liveness "$1" ≠
        (failed.calmed.next worsening).liveness "$1" ∧
      (failed.calmed.next worsening).ShowsLiveness "$1" := by
  intro state disturbed failed
  have hreachable : state.Reachable := ⟨_, _, _, _, rfl⟩
  have hkeyed : disturbed.Keyed := hreachable.sound.keyed
  obtain ⟨cluster, hstored⟩ : ∃ cluster, disturbed.clusters.get? "$1" = some cluster :=
    Option.isSome_iff_exists.1 (by decide +kernel)
  have hfailed : disturbed.failureOf worsening = some Call.healthPut.failure := by decide +kernel
  have hagain : failed.calmed.failureOf worsening = none := by decide +kernel
  obtain ⟨-, hreaches, -⟩ := report_sent_again_reaches_index_iff hkeyed hstored
    (by decide +kernel) hfailed hagain
  refine ⟨hfailed, hagain, by decide +kernel, hreaches.2 ?_⟩
  decide +kernel

/-- The index is offline at first. Sent again, the report is answered, and the index still has the cluster
with the level it had before. -/
theorem report_sent_again_misses_index :
    let state := (State.start {} {} ⟨0, false⟩).following degraded
    let disturbed : State := { state with conditions := { offline := [.index] } }
    let failed := disturbed.next worsening
    let again := failed.calmed.next worsening
    (disturbed.clusters.get? "$1").isSome = true ∧ disturbed.ShowsLiveness "$1" ∧
      disturbed.failureOf worsening = some Part.index.failure ∧
      Part.index.failure.isRetryable = true ∧
      failed.calmed.failureOf worsening = none ∧
      ¬ again.ShowsLiveness "$1" := by
  decide +kernel

end Fleet
