import Fleet.Proofs.Edits
import Fleet.Proofs.Reading

/-!
# Reports do not get in each other's way

Every report writes the whole record of its cluster, and yet it changes only the part that it is about. So
reports on different parts may come in any order and none of them is lost, and an update may overtake
reports on the status and the audit logs, even if the record that it brings was read before them.
-/

namespace Fleet

open Fleet.Action

namespace Cluster

variable (cluster : Cluster) (status : ClusterStatus)

theorem setUpgrade_setStatus (upgrade : UpgradeStatus) :
    (cluster.setStatus status).setUpgrade upgrade = (cluster.setUpgrade upgrade).setStatus status := by
  unfold setUpgrade setStatus
  cases cluster.status <;> rfl

theorem setCertExpiry_setStatus (expiry : CertExpiry) :
    (cluster.setStatus status).setCertExpiry expiry = (cluster.setCertExpiry expiry).setStatus status := by
  unfold setCertExpiry setStatus
  cases cluster.status <;> rfl

end Cluster

namespace Amendment

/-- Reports on different parts of a record come to the same in either order. -/
theorem apply_comm {first second : Amendment} (h : ∀ part ∈ first.parts, part ∉ second.parts)
    (cluster : Cluster) :
    first.apply (second.apply cluster) = second.apply (first.apply cluster) := by
  cases first <;> cases second
  case upgrade.upgrade | certExpiry.certExpiry | status.status | sensor.sensor =>
    exact absurd (List.mem_singleton_self _) (h _ (List.mem_singleton_self _))
  case upgrade.status upgrade status => exact cluster.setUpgrade_setStatus status upgrade
  case status.upgrade status upgrade => exact (cluster.setUpgrade_setStatus status upgrade).symm
  case certExpiry.status expiry status => exact cluster.setCertExpiry_setStatus status expiry
  case status.certExpiry status expiry => exact (cluster.setCertExpiry_setStatus status expiry).symm
  case auditLogs.auditLogs positions others =>
    have hkeys : ∀ key ∈ others.keys, key ∉ positions.keys := by
      intro key hother hkey
      exact h _ (List.mem_map_of_mem hkey) (List.mem_map_of_mem hother)
    have hlogs := cluster.auditLogs.insertMany_comm_of_disjoint hkeys
    exact congrArg (fun logs => { cluster with auditLogs := logs }) hlogs
  all_goals rfl

/-- A report that is made once more changes nothing. -/
theorem apply_apply (amendment : Amendment) (cluster : Cluster) :
    amendment.apply (amendment.apply cluster) = amendment.apply cluster := by
  cases amendment with
  | auditLogs positions =>
    have hlogs := cluster.auditLogs.insertMany_insertMany_self positions
    exact congrArg (fun logs => { cluster with auditLogs := logs }) hlogs
  | _ => rfl

/-- An update keeps what was reported, unless it is about the agent. -/
theorem keeping_apply {amendment : Amendment} (hsensor : .sensor ∉ amendment.parts)
    (given existing : Cluster) :
    given.keeping (amendment.apply existing) = amendment.apply (given.keeping existing) := by
  cases amendment with
  | sensor => exact absurd (List.mem_singleton_self _) hsensor
  | _ => rfl

end Amendment

namespace State

variable {state : State} {id other : String}

theorem amended_comm {f g : Amendment} (h : id = other → ∀ part ∈ f.parts, part ∉ g.parts) :
    (state.amended id f.apply).amended other g.apply =
      (state.amended other g.apply).amended id f.apply := by
  unfold amended
  congr 1
  refine Table.change_comm _ fun hid cluster _ => ?_
  rw [Amendment.apply_stored, Amendment.apply_stored, Amendment.apply_comm (h hid)]

theorem amended_amended (amendment : Amendment) :
    (state.amended id amendment.apply).amended id amendment.apply =
      state.amended id amendment.apply := by
  unfold amended
  congr 1
  refine Table.change_change_self _ fun cluster _ => ?_
  rw [Amendment.apply_stored, Amendment.apply_apply]
  rfl

theorem isSome_amended (id other : String) (change : Cluster → Cluster) :
    ((state.amended id change).clusters.get? other).isSome = (state.clusters.get? other).isSome :=
  state.clusters.isSome_get?_change id other _

end State

/-! ## Reports in any order -/

/-- A report that a scope makes about a cluster. -/
structure Notice where
  scope : Scope
  id : String
  amendment : Amendment

namespace Notice

/-- The call that makes the report. -/
def operation (notice : Notice) : Operation :=
  notice.amendment.operation notice.id

/-- The call as something that happens. -/
def event (notice : Notice) : Event :=
  .call notice.scope notice.operation

/-- What the report fails with, if it does. -/
def obstacle? (notice : Notice) (state : State) : Option Failure :=
  (notice.amendment.flaw? notice.id).or (state.amendObstacle? notice.scope notice.id)

/-- No part of a record is in both reports. -/
def Apart (first second : Notice) : Prop :=
  first.id = second.id → ∀ part ∈ first.amendment.parts, part ∉ second.amendment.parts

instance (first second : Notice) : Decidable (first.Apart second) :=
  inferInstanceAs (Decidable (_ → _))

theorem Apart.symm {first second : Notice} (h : first.Apart second) : second.Apart first :=
  fun hid part hsecond hfirst => h hid.symm part hfirst hsecond

variable (notice : Notice) {state : State}

theorem obstacle?_congr {other : State} (hconditions : state.conditions = other.conditions)
    (hgrants : state.grants = other.grants)
    (hstored : (state.clusters.get? notice.id).isSome = (other.clusters.get? notice.id).isSome) :
    notice.obstacle? state = notice.obstacle? other := by
  unfold obstacle?
  rw [State.amendObstacle?_congr hconditions hgrants hstored]

theorem next_event (hkeyed : state.Keyed) :
    state.next notice.event =
      if (notice.obstacle? state).isSome then state
      else state.amended notice.id notice.amendment.apply := by
  have hrun := notice.amendment.run_operation notice.id notice.scope hkeyed
  change (notice.operation.run notice.scope).after state = _
  unfold Action.after operation
  rw [hrun]
  unfold obstacle?
  cases (notice.amendment.flaw? notice.id).or (state.amendObstacle? notice.scope notice.id) <;> rfl

theorem answer_run (hkeyed : state.Keyed) :
    (notice.operation.run notice.scope).answer state =
      match notice.obstacle? state with
      | some failure => .error failure
      | none => .ok .done := by
  have hrun := notice.amendment.run_operation notice.id notice.scope hkeyed
  unfold Action.answer operation
  rw [hrun]
  unfold obstacle?
  cases (notice.amendment.flaw? notice.id).or (state.amendObstacle? notice.scope notice.id) <;> rfl

/-- No report gets in the way of another. -/
theorem obstacle?_next (other : Notice) (hkeyed : state.Keyed) :
    notice.obstacle? (state.next other.event) = notice.obstacle? state := by
  rw [other.next_event hkeyed]
  split
  · rfl
  · exact notice.obstacle?_congr rfl rfl (State.isSome_amended _ _ _)

theorem obstacle?_following (notices : List Notice) (hsound : state.Sound) :
    notice.obstacle? (state.following (notices.map event)) = notice.obstacle? state := by
  induction notices generalizing state with
  | nil => rfl
  | cons first rest ih =>
    rw [List.map_cons, State.following_cons, ih (hsound.next _), notice.obstacle?_next first hsound.keyed]

variable {notice}

/-- Two reports without a common part may change places. -/
theorem next_comm {first second : Notice} (hapart : first.Apart second) (hsound : state.Sound) :
    (state.next first.event).next second.event = (state.next second.event).next first.event := by
  have hkeyed := hsound.keyed
  have hfirst := first.obstacle?_next second hkeyed
  have hsecond := second.obstacle?_next first hkeyed
  rw [second.next_event (hsound.next _).keyed, first.next_event (hsound.next _).keyed, hfirst, hsecond,
    first.next_event hkeyed, second.next_event hkeyed]
  split <;> split
  · rfl
  · rfl
  · rfl
  · exact State.amended_comm hapart

/-- A report that is made once more changes nothing. -/
theorem next_next (notice : Notice) (hsound : state.Sound) :
    (state.next notice.event).next notice.event = state.next notice.event := by
  rw [notice.next_event (hsound.next _).keyed, notice.obstacle?_next notice hsound.keyed,
    notice.next_event hsound.keyed]
  split
  · rfl
  · exact State.amended_amended notice.amendment

/-- Reports of which no two have a common part come in any order. -/
theorem following_perm {notices order : List Notice} (hperm : order.Perm notices)
    (hapart : order.Pairwise Apart) (hsound : state.Sound) :
    state.following (order.map event) = state.following (notices.map event) := by
  induction hperm generalizing state with
  | nil => rfl
  | cons first _ ih => exact ih (List.pairwise_cons.1 hapart).2 (hsound.next first.event)
  | swap first second rest =>
    have hpair := (List.pairwise_cons.1 hapart).1 first List.mem_cons_self
    simp only [List.map_cons, State.following_cons, next_comm hpair hsound]
  | trans hearlier _ ih ih' =>
    exact (ih hapart hsound).trans (ih' ((hearlier.pairwise_iff Apart.symm).1 hapart) hsound)

/-- After a run of reports of which no two have a common part, each of them has come to its end. -/
theorem next_following {notices : List Notice} (hapart : notices.Pairwise Apart)
    (hsound : state.Sound) (hmem : notice ∈ notices) :
    (state.following (notices.map event)).next notice.event =
      state.following (notices.map event) := by
  obtain ⟨before, after, rfl⟩ := List.append_of_mem hmem
  have hlast : (before ++ notice :: after).Perm ((before ++ after) ++ [notice]) :=
    List.perm_middle.trans (List.perm_append_singleton _ _).symm
  rw [following_perm hlast hapart hsound, List.map_append, State.following_append]
  exact notice.next_next (hsound.following _)

end Notice

/-! ## Updates among reports -/

namespace Amendment

variable (amendment : Amendment) (cluster : Cluster)

theorem name_apply : (amendment.apply cluster).name = cluster.name := by
  cases amendment <;> rfl

theorem dynamic_apply : (amendment.apply cluster).dynamic = cluster.dynamic := by
  cases amendment <;> rfl

theorem accepts_apply (query : Query) : query.accepts (amendment.apply cluster) = query.accepts cluster := by
  cases amendment <;> rfl

end Amendment

namespace State

variable (state : State) (written : Cluster)

/-- Writing an amended record in place of an amended one is the same as amending the written one. -/
theorem withRecord_amended (amendment : Amendment) :
    (state.amended written.id amendment.apply).withRecord (amendment.apply written) =
      (state.withRecord written).amended written.id amendment.apply := by
  have hclusters : (state.clusters.change written.id fun cluster =>
        (amendment.apply cluster).stored).insert written.id (amendment.apply written).stored =
      (state.clusters.insert written.id written.stored).change written.id fun cluster =>
        (amendment.apply cluster).stored := by
    rw [Table.insert_change_self, Table.change_of_get? (Table.get?_insert_self _ _ _),
      Table.insert_insert_self, amendment.apply_stored]
    rfl
  unfold withRecord amended
  rw [amendment.id_apply, amendment.name_apply, hclusters]

theorem found_congr {state other : State} {query : Query}
    (h : ∀ id, (state.index.get? id).map (fun entry => (query.accepts entry, entry.name)) =
      (other.index.get? id).map fun entry => (query.accepts entry, entry.name)) :
    state.found query = other.found query := by
  have hmem : ∀ (any : State) (hit : Hit), hit ∈ any.found query ↔
      (any.index.get? hit.id).map (fun entry => (query.accepts entry, entry.name)) =
        some (true, hit.name) := by
    intro any hit
    rw [mem_found, Option.map_eq_some_iff]
    simp only [Prod.mk.injEq]
  apply Hit.eq_of_mem_iff (pairwise_found query) (pairwise_found query) (nodup_found query)
    (nodup_found query)
  intro hit
  rw [hmem, hmem, h]

/-- Searches find a record as before once it is amended. -/
theorem found_insert_apply (amendment : Amendment) (index : Table Cluster) (query : Query) :
    ({ state with index := index.insert written.id (amendment.apply written) } : State).found query =
      ({ state with index := index.insert written.id written } : State).found query := by
  apply found_congr
  intro id
  rw [Table.get?_insert, Table.get?_insert]
  split
  · rw [Option.map_some, Option.map_some, amendment.accepts_apply, amendment.name_apply]
  · rfl

/-- Amending what an update writes comes to the same before and after it. -/
theorem amended_replacing {update : Action Delivery} {amendment : Amendment}
    (hrun : update state = state.replacing written)
    (hrun' : update (state.amended written.id amendment.apply) =
      (state.amended written.id amendment.apply).replacing (amendment.apply written)) :
    let reported := state.amended written.id amendment.apply
    let updated := (update.after state).amended written.id amendment.apply
    update.answer reported = update.answer state ∧
      update.after reported = { updated with index := (update.after reported).index } ∧
      ∀ query, (update.after reported).found query = updated.found query := by
  intro reported updated
  have hrecord := state.withRecord_amended written amendment
  have hindex' : reported.conditions.indexFailure? (amendment.apply written).id =
      state.conditions.indexFailure? written.id := by
    rw [amendment.id_apply]
    rfl
  cases hindex : state.conditions.indexFailure? written.id with
  | some failure =>
    rw [state.replacing_of_failure hindex] at hrun
    rw [reported.replacing_of_failure (hindex'.trans hindex), hrecord] at hrun'
    have hupdated : updated = (state.withRecord written).amended written.id amendment.apply := by
      change (update.after state).amended written.id _ = _
      rw [after_of_error hrun]
    rw [hupdated, answer_of_error hrun, answer_of_error hrun', after_of_error hrun']
    exact ⟨rfl, rfl, fun _ => rfl⟩
  | none =>
    rw [state.replacing_of_indexed hindex] at hrun
    rw [reported.replacing_of_indexed (hindex'.trans hindex), hrecord, amendment.id_apply,
      amendment.dynamic_apply] at hrun'
    have hupdated : updated = State.amended { (state.withRecord written).withIndexed written with
        roster := (state.roster.send written.id (written.dynamic.getD default)).2 } written.id
        amendment.apply := by
      change (update.after state).amended written.id _ = _
      rw [after_of_ok hrun]
    rw [hupdated, answer_of_ok hrun, answer_of_ok hrun', after_of_ok hrun']
    refine ⟨rfl, ?_, fun query => ?_⟩
    · unfold State.withIndexed State.amended
      rw [amendment.id_apply]
      rfl
    · have hfound := state.found_insert_apply written amendment state.index query
      unfold State.withIndexed State.amended
      rw [amendment.id_apply]
      exact hfound

end State

theorem State.next_update (state : State) (scope : Scope) (given : Cluster) :
    state.next (.call scope (.update given)) = (Registry.update scope given).after state :=
  Action.after_bind_pure _ _ state

namespace Notice

variable {state : State} {given : Cluster} (notice : Notice)

/-- No report gets in the way of an update. -/
theorem updateObstacle?_next (scope : Scope) (given : Cluster) (hkeyed : state.Keyed) :
    (state.next notice.event).updateObstacle? scope given = state.updateObstacle? scope given := by
  rw [notice.next_event hkeyed]
  split
  · rfl
  · apply State.updateObstacle?_congr
    · rfl
    · rfl
    · rfl
    · change ((state.clusters.change notice.id _).get? given.id).map (·.name) = _
      rw [Table.get?_change]
      split
      · rename_i heq
        rw [heq, Option.map_map]
        congr 1
        funext cluster
        exact notice.amendment.name_apply cluster
      · rfl

/-- No update gets in the way of a report. -/
theorem obstacle?_update (scope : Scope) :
    notice.obstacle? ((Registry.update scope given).after state) = notice.obstacle? state := by
  cases hupdate : state.updateObstacle? scope given with
  | some failure => rw [Action.after_of_error (Registry.update_of_obstacle hupdate)]
  | none =>
    obtain ⟨-, -, -, existing, normal, hstored, -, hprepare⟩ := State.updateObstacle?_eq_none_iff.1 hupdate
    have hrun := Registry.update_of_unobstructed hupdate hstored hprepare
    have hid : (normal.keeping existing).id = given.id := (Cluster.sameSubject_of_prepare hprepare).id
    have hkept : ∀ cluster, ((state.clusters.insert (normal.keeping existing).id cluster).get?
        notice.id).isSome = (state.clusters.get? notice.id).isSome := by
      intro cluster
      rw [Table.get?_insert]
      split
      · rename_i heq
        rw [heq, hid, hstored]
        rfl
      · rfl
    cases hindex : state.conditions.indexFailure? (normal.keeping existing).id with
    | some failure =>
      rw [Action.after_of_error (hrun.trans (state.replacing_of_failure hindex))]
      exact notice.obstacle?_congr rfl rfl (hkept _)
    | none =>
      rw [Action.after_of_ok (hrun.trans (state.replacing_of_indexed hindex))]
      exact notice.obstacle?_congr rfl rfl (hkept _)

/-- What becomes of a record in the course of an update that is not refused, on the status quo and after a
report. -/
theorem exists_replacing (hsound : state.Sound) (hid : notice.id = given.id)
    (hsensor : .sensor ∉ notice.amendment.parts) {scope : Scope}
    (hnotice : notice.obstacle? state = none) (hupdate : state.updateObstacle? scope given = none) :
    ∃ written, written.id = notice.id ∧
      state.next notice.event = state.amended written.id notice.amendment.apply ∧
      Registry.update scope given state = state.replacing written ∧
      Registry.update scope given (state.amended written.id notice.amendment.apply) =
        (state.amended written.id notice.amendment.apply).replacing (notice.amendment.apply written) := by
  have hnext : state.next notice.event = state.amended given.id notice.amendment.apply := by
    rw [notice.next_event hsound.keyed, hnotice, hid]
    rfl
  have hupdate' := notice.updateObstacle?_next scope given hsound.keyed
  rw [hupdate, hnext] at hupdate'
  obtain ⟨-, -, -, existing, normal, hstored, -, hprepare⟩ := State.updateObstacle?_eq_none_iff.1 hupdate
  have hreported : (state.amended given.id notice.amendment.apply).clusters.get? given.id =
      some (notice.amendment.apply existing).stored := by
    change (state.clusters.change given.id _).get? given.id = _
    rw [Table.get?_change, if_pos rfl, hstored]
    rfl
  have hwritten : (normal.keeping existing).id = given.id := (Cluster.sameSubject_of_prepare hprepare).id
  refine ⟨normal.keeping existing, hwritten.trans hid.symm, ?_,
    Registry.update_of_unobstructed hupdate hstored hprepare, ?_⟩
  · rw [hnext, hwritten]
  · rw [hwritten, Registry.update_of_unobstructed hupdate' hreported hprepare,
      ← Amendment.keeping_apply hsensor]
    rfl

/-- An update and a report on something else than the agent come to the same in either order. The index
may have an entry for the one or the other record, but no search tells. -/
theorem update_next (hsound : state.Sound) (hid : notice.id = given.id)
    (hsensor : .sensor ∉ notice.amendment.parts) (scope : Scope) :
    let update := Registry.update scope given
    let reported := state.next notice.event
    let updated := update.after state
    update.answer reported = update.answer state ∧
      notice.obstacle? updated = notice.obstacle? state ∧
      update.after reported = { updated.next notice.event with index := (update.after reported).index } ∧
      ∀ query, (update.after reported).found query = (updated.next notice.event).found query := by
  intro update reported updated
  have hobstacle : notice.obstacle? updated = notice.obstacle? state := notice.obstacle?_update scope
  have hkeyed : updated.Keyed := by
    have hsound' := hsound.next (.call scope (.update given))
    rw [State.next_update] at hsound'
    exact hsound'.keyed
  cases hupdate : state.updateObstacle? scope given with
  | some failure =>
    have hrun : update state = .error failure state := Registry.update_of_obstacle hupdate
    have hrun' : update reported = .error failure reported :=
      Registry.update_of_obstacle ((notice.updateObstacle?_next scope given hsound.keyed).trans hupdate)
    have hupdated : updated = state := after_of_error hrun
    rw [hupdated, answer_of_error hrun, answer_of_error hrun', after_of_error hrun']
    exact ⟨rfl, rfl, rfl, fun _ => rfl⟩
  | none =>
    cases hnotice : notice.obstacle? state with
    | some failure =>
      have hreported : reported = state := by
        change state.next notice.event = state
        rw [notice.next_event hsound.keyed, hnotice]
        rfl
      have hupdated : updated.next notice.event = updated := by
        rw [notice.next_event hkeyed, hobstacle, hnotice]
        rfl
      rw [hreported, hupdated]
      exact ⟨rfl, hobstacle.trans hnotice, rfl, fun _ => rfl⟩
    | none =>
      obtain ⟨written, hwritten, hreported, hrun, hrun'⟩ :=
        notice.exists_replacing hsound hid hsensor hnotice hupdate
      obtain ⟨hanswer, hafter, hfound⟩ := state.amended_replacing written hrun hrun'
      have hupdated : updated.next notice.event = updated.amended written.id notice.amendment.apply := by
        rw [notice.next_event hkeyed, hobstacle, hnotice, hwritten]
        rfl
      rw [show reported = _ from hreported, hupdated]
      exact ⟨hanswer, hobstacle.trans hnotice, hafter, hfound⟩

end Notice

/-- In every reachable state, whatever is out of order, reports of which no two have a common part of a
record lead to one state in any order. In it, each of them is answered as it was at first and is in force:
made once more, it changes nothing. And an update comes to the same before and after a report on its record,
whenever the record that it brings was read, unless the report is about the agent: it is answered alike and
leaves the same state, up to index entries that no search tells apart. -/
theorem status_reports_commute {state : State} (hreachable : state.Reachable) :
    (∀ notices order : List Notice, notices.Pairwise Notice.Apart → order.Perm notices →
      let after := state.following (notices.map Notice.event)
      state.following (order.map Notice.event) = after ∧
      ∀ notice ∈ notices, let report := notice.operation.run notice.scope
        report.answer after = report.answer state ∧ report.after after = after) ∧
    ∀ (notice : Notice) (scope : Scope) (given : Cluster), notice.id = given.id →
      .sensor ∉ notice.amendment.parts →
      let update := Registry.update scope given
      let report := notice.operation.run notice.scope
      let reported := report.after state
      let updated := update.after state
      update.answer reported = update.answer state ∧ report.answer updated = report.answer state ∧
      update.after reported = { report.after updated with index := (update.after reported).index } ∧
      ∀ query, (update.after reported).found query = (report.after updated).found query := by
  have hsound := hreachable.sound
  constructor
  · intro notices order hapart hperm after
    have hapart' : order.Pairwise Notice.Apart := (hperm.pairwise_iff Notice.Apart.symm).2 hapart
    refine ⟨Notice.following_perm hperm hapart' hsound, fun notice hmem => ⟨?_, ?_⟩⟩
    · rw [notice.answer_run (hsound.following _).keyed, notice.answer_run hsound.keyed,
        notice.obstacle?_following notices hsound]
    · exact Notice.next_following hapart hsound hmem
  · intro notice scope given hid hsensor update report reported updated
    obtain ⟨hupdate, hobstacle, hstate, hfound⟩ := notice.update_next hsound hid hsensor scope
    refine ⟨hupdate, ?_, hstate, hfound⟩
    have hupdated : updated.Keyed := by
      have hsound' := hsound.next (.call scope (.update given))
      rw [State.next_update] at hsound'
      exact hsound'.keyed
    rw [notice.answer_run hupdated, notice.answer_run hsound.keyed, hobstacle]

/-- An agent reports the version of its cluster, when its certificate expires and how far two audit logs
were read. -/
def inspection : List Notice := [
  ⟨.system, "$1", .certExpiry { expiry := some ⟨60, false⟩ }⟩,
  ⟨.system, "$1", .auditLogs (.ofList [("master", { lastAuditId := "7" })])⟩,
  ⟨.system, "$1", .status { sensorVersion := "4.1" }⟩,
  ⟨.system, "$1", .auditLogs (.ofList [("worker", { lastAuditId := "9" })])⟩]

/-- The reports come in the opposite order, and then somebody updates the record that was read before. -/
theorem status_reports_commute_of_inspection :
    let state := (State.start {} {} ⟨0, false⟩).following [.call .system (.create { name := "prod" })]
    let after := state.following (inspection.reverse.map Notice.event)
    let given : Cluster := { id := "$1", name := "prod", labels := .ofList [("team", "blue")] }
    let expiring : Notice := ⟨.system, "$1", .certExpiry { expiry := some ⟨90, false⟩ }⟩
    state.Reachable ∧ inspection.Pairwise Notice.Apart ∧
    after = state.following (inspection.map Notice.event) ∧
    (after.clusters.get? "$1").map (fun cluster => (cluster.status, cluster.auditLogs.keys)) =
      some (some { sensorVersion := "4.1", certExpiry := some { expiry := some ⟨60, false⟩ } },
        ["master", "worker"]) ∧
    expiring.id = given.id ∧ .sensor ∉ expiring.amendment.parts ∧
    ((Registry.update .system given).after (after.next expiring.event)).clusters =
      (((Registry.update .system given).after after).next expiring.event).clusters := by
  intro state after given expiring
  have hreachable : state.Reachable := ⟨_, _, _, _, rfl⟩
  have hapart : inspection.Pairwise Notice.Apart := by decide +kernel
  have hsensor : .sensor ∉ expiring.amendment.parts := by decide +kernel
  have hrecord : (after.clusters.get? "$1").map (fun cluster => (cluster.status, cluster.auditLogs.keys)) =
      some (some { sensorVersion := "4.1", certExpiry := some { expiry := some ⟨60, false⟩ } },
        ["master", "worker"]) := by decide +kernel
  have hreports := (status_reports_commute hreachable).1 inspection inspection.reverse hapart
    (List.reverse_perm _)
  have hafter : after.Reachable := hreachable.following _
  have hstate := ((status_reports_commute hafter).2 expiring .system given rfl hsensor).2.2.1
  refine ⟨hreachable, hapart, hreports.1, hrecord, rfl, hsensor, ?_⟩
  clear_value after
  exact (congrArg State.clusters hstate :)

end Fleet
