import Fleet.Proofs.Counting
import Fleet.Proofs.Registration
import Fleet.Proofs.Repetition

/-!
# Registrations after failures

A registration that a collaborator has stopped is made again. What has been stored by then is found and
taken for what it is, so that store and directory come to be what they would have become at once; but
nobody goes back to the index or to the flow store for a record that is there already.
-/

namespace Fleet

open Fleet.Action

/-- The state with everything in order again, at a time. -/
def State.recovered (state : State) (now : Instant) : State :=
  { state with conditions := {}, now }

namespace Registry

/-! ## Registrations step by step -/

theorem ensureWrite_of_recovered {scope : Scope} {id : String} (state : State) (now : Instant)
    (hallowed : state.grants.mayWrite scope (named? id) = true) :
    ensureWrite scope id (state.recovered now) = .ok () (state.recovered now) := by
  have hask := (Calls.mayWrite_serves (state.recovered now) scope (named? id)).calm rfl
  unfold ensureWrite
  rw [bind_of_ok hask]
  change (if state.grants.mayWrite scope (named? id) = true then _ else _ : Action Unit) _ = _
  rw [if_pos hallowed]
  rfl

section

variable {scope : Scope} {announcement : Announcement} {given : Cluster} {state : State}
  {failure : Failure}

theorem run_announce_of_decided {reconciled : Reconciled} {decided : State}
    (hwrite : ensureWrite scope (announcement.clusterId.getD "") state = .ok () state)
    (hdecide : decide announcement state.now state = .ok reconciled decided) :
    ∃ tally, (Operation.announce announcement).run scope state =
      .ok (.record reconciled.cluster) { decided with tally } := by
  have hreconcile := reconcile_apply announcement state.now state
  rw [hdecide] at hreconcile
  obtain ⟨tally, hanswer⟩ := Effected.answer_announce reconciled
    { decided with tally := decided.tally.countOutcome reconciled.outcome }
  have hannounce : announce scope announcement state =
      .ok reconciled.cluster { decided with tally } := by
    unfold announce
    rw [bind_of_ok hwrite, bind_of_ok (get_apply state), bind_of_ok hreconcile]
    exact hanswer
  exact ⟨tally, bind_of_ok hannounce⟩

theorem run_announce_of_undecided {decided : State}
    (hwrite : ensureWrite scope (announcement.clusterId.getD "") state = .ok () state)
    (hdecide : decide announcement state.now state = .error failure decided) :
    ∃ tally, (Operation.announce announcement).run scope state =
      .error failure { decided with tally } := by
  have hreconcile := reconcile_apply announcement state.now state
  rw [hdecide] at hreconcile
  have hannounce : announce scope announcement state = .error failure
      { decided with tally := decided.tally.countOutcome .rejected } := by
    unfold announce
    rw [bind_of_ok hwrite, bind_of_ok (get_apply state)]
    exact bind_of_error hreconcile
  exact ⟨_, bind_of_error hannounce⟩

theorem run_announce_of_forbidden
    (hwrite : ensureWrite scope (announcement.clusterId.getD "") state = .error failure state) :
    (Operation.announce announcement).run scope state = .error failure state :=
  bind_of_error (bind_of_error hwrite)

theorem run_create_of_enrolled {normal : Cluster} {enrolled : State}
    (hwrite : ensureWrite scope given.id state = .ok () state)
    (henrol : enrol given state = .ok normal enrolled) :
    ∃ tally, (Operation.create given).run scope state = .ok (.id normal.id) { enrolled with tally } := by
  have hcreate : create scope given state = .ok normal.id
      { enrolled with tally := enrolled.tally.noteRegistered enrolled.directory.size } := by
    unfold create
    rw [bind_of_ok hwrite, bind_of_ok (attempt_of_ok henrol)]
    rfl
  exact ⟨_, bind_of_ok hcreate⟩

theorem run_create_of_unenrolled {enrolled : State}
    (hwrite : ensureWrite scope given.id state = .ok () state)
    (henrol : enrol given state = .error failure enrolled) :
    ∃ tally, (Operation.create given).run scope state = .error failure { enrolled with tally } := by
  have hcreate : create scope given state = .error failure
      { enrolled with tally := enrolled.tally.noteRegistered enrolled.directory.size } := by
    unfold create
    rw [bind_of_ok hwrite, bind_of_ok (attempt_of_error henrol)]
    rfl
  exact ⟨_, bind_of_error hcreate⟩

theorem run_create_of_forbidden
    (hwrite : ensureWrite scope given.id state = .error failure state) :
    (Operation.create given).run scope state = .error failure state :=
  bind_of_error (bind_of_error hwrite)

end

/-- What a call to announce a cluster can come to. -/
inductive Announces (scope : Scope) (announcement : Announcement) (state : State) :
    EStateM.Result Failure State Answer → Prop
  | refused {failure : Failure} : Announces scope announcement state (.error failure state)
  | undecided {failure : Failure} {decided : State} (tally : Tally)
      (hallowed : state.grants.mayWrite scope (named? (announcement.clusterId.getD "")) = true)
      (hdecide : decide announcement state.now state = .error failure decided) :
      Announces scope announcement state (.error failure { decided with tally })
  | decided {reconciled : Reconciled} {decided : State} (tally : Tally)
      (hdecide : decide announcement state.now state = .ok reconciled decided) :
      Announces scope announcement state (.ok (.record reconciled.cluster) { decided with tally })

theorem announce_result (scope : Scope) (announcement : Announcement) (state : State) :
    Announces scope announcement state ((Operation.announce announcement).run scope state) := by
  generalize hask : ensureWrite scope (announcement.clusterId.getD "") state = asked
  cases hask ▸ ensureWrite_result scope (announcement.clusterId.getD "") state with
  | failed | denied =>
    rw [run_announce_of_forbidden hask]
    exact .refused
  | allowed hallowed =>
    cases hdecide : decide announcement state.now state with
    | error failure decided =>
      obtain ⟨tally, hrun⟩ := run_announce_of_undecided hask hdecide
      rw [hrun]
      exact .undecided tally hallowed hdecide
    | ok reconciled decided =>
      obtain ⟨tally, hrun⟩ := run_announce_of_decided hask hdecide
      rw [hrun]
      exact .decided tally hdecide

/-- An announcement is answered with a cluster. -/
theorem record_of_announced {scope : Scope} {announcement : Announcement} {state after : State}
    {value : Answer} (h : (Operation.announce announcement).run scope state = .ok value after) :
    ∃ cluster, value = .record cluster := by
  cases h ▸ announce_result scope announcement state with
  | @decided reconciled _ _ _ => exact ⟨reconciled.cluster, rfl⟩

/-- What a call to create a cluster can come to. -/
inductive Creates (scope : Scope) (given : Cluster) (state : State) :
    EStateM.Result Failure State Answer → Prop
  | refused {failure : Failure} : Creates scope given state (.error failure state)
  | unenrolled {failure : Failure} {enrolled : State} (tally : Tally)
      (hallowed : state.grants.mayWrite scope (named? given.id) = true)
      (henrol : enrol given state = .error failure enrolled) :
      Creates scope given state (.error failure { enrolled with tally })
  | enrolled {normal : Cluster} {enrolled : State} (tally : Tally)
      (henrol : enrol given state = .ok normal enrolled) :
      Creates scope given state (.ok (.id normal.id) { enrolled with tally })

theorem create_result (scope : Scope) (given : Cluster) (state : State) :
    Creates scope given state ((Operation.create given).run scope state) := by
  generalize hask : ensureWrite scope given.id state = asked
  cases hask ▸ ensureWrite_result scope given.id state with
  | failed | denied =>
    rw [run_create_of_forbidden hask]
    exact .refused
  | allowed hallowed =>
    cases henrol : enrol given state with
    | error failure enrolled =>
      obtain ⟨tally, hrun⟩ := run_create_of_unenrolled hask henrol
      rw [hrun]
      exact .unenrolled tally hallowed henrol
    | ok normal enrolled =>
      obtain ⟨tally, hrun⟩ := run_create_of_enrolled hask henrol
      rw [hrun]
      exact .enrolled tally henrol

/-- What an announcement that fails comes to, apart from being counted: nothing is written, or the record is
written and the index or the flow store has failed. -/
inductive Halts (announcement : Announcement) (now : Instant) (state : State) (failure : Failure) :
    State → Prop
  | unwritten : Halts announcement now state failure state
  | enrolled {normal : Cluster} {index : Table Cluster}
      (htarget : target? state.directory announcement = none)
      (henrol : Enrollable announcement.newCluster state normal)
      (hindex : IsIndexFailure failure ∧ index = state.index ∨
        index = state.index.insert normal.id normal) :
      Halts announcement now state failure { state.withNewcomer normal with index }
  | revised {id : String} {cluster revised normal : Cluster}
      (htarget : target? state.directory announcement = some id)
      (hadopt : Adoptable id announcement now state cluster)
      (hrevised : cluster.converged? announcement.managed = some revised)
      (hprepare : revised.prepare state.settings.admissionTimeout = .ok normal)
      (hindex : IsIndexFailure failure) :
      Halts announcement now state failure (state.withRecord normal)

theorem halts_of_decide {announcement : Announcement} {now : Instant} {state decided : State}
    {failure : Failure} (h : decide announcement now state = .error failure decided) :
    Halts announcement now state failure decided := by
  cases htarget : target? state.directory announcement with
  | none =>
    by_cases hname : announcement.name = ""
    · rw [decide_of_anonymous htarget hname] at h
      cases h
      exact .unwritten
    · rw [decide_of_newcomer htarget hname] at h
      generalize hrun : enrol announcement.newCluster state = enrolled at h
      cases hrun ▸ enrol_result announcement.newCluster state with
      | done henrol =>
        rw [bind_of_ok hrun] at h
        cases h
      | refused =>
        rw [bind_of_error hrun] at h
        cases h
        exact .unwritten
      | unindexed hfault henrol =>
        rw [bind_of_error hrun] at h
        cases h
        exact .enrolled htarget henrol (.inl ⟨hfault.ofIndex, rfl⟩)
      | flowless hfault henrol =>
        rw [bind_of_error hrun] at h
        cases h
        exact .enrolled htarget henrol (.inr rfl)
  | some id =>
    rw [decide_of_target htarget] at h
    generalize hrun : adopt id announcement now state = adopted at h
    cases hrun ▸ adopt_result id announcement now state with
    | refused =>
      cases h
      exact .unwritten
    | unindexed hadopt hrevised hprepare hfault =>
      cases h
      exact .revised htarget hadopt hrevised hprepare hfault.ofIndex
    | kept | revised => cases h

end Registry

open Registry

namespace State

/-! ## Clusters that are registered -/

/-- A cluster is registered: its record is stored as it was answered, and its id and its name lead to each
other. It is in the index and has a flow store, but for what it lacks. -/
structure Hosts (state : State) (cluster : Cluster) (shortfall : Shortfall) : Prop where
  stored : state.clusters.get? cluster.id = some cluster
  named : state.directory.nameOf? cluster.id = some cluster.name
  reached : state.directory.idOf? cluster.name = some cluster.id
  indexed : shortfall.unindexed = false →
    ∃ entry, state.index.get? cluster.id = some entry ∧ entry.face = cluster.face
  provided : state.flows.contains cluster.id = !shortfall.flowless

theorem Provides.hosts {state : State} {cluster : Cluster} {shortfall : Shortfall}
    (hsound : state.Sound) (hstored : state.clusters.get? cluster.id = some cluster)
    (h : state.Provides cluster.id shortfall) : state.Hosts cluster shortfall := by
  have hname := hsound.nameOf?_of_stored hstored
  refine ⟨hstored, hname, ?_, h.indexed cluster hstored, h.flows cluster hstored⟩
  rwa [Directory.idOf?_eq_some_iff]

/-- The cluster of an accepted announcement is stored as it was answered. -/
theorem stored_of_accepted {state after : State} {scope : Scope} {announcement : Announcement}
    {cluster : Cluster} (hsound : state.Sound) (hcalm : state.conditions = {})
    (hrun : (Operation.announce announcement).run scope state = .ok (.record cluster) after)
    (hafter : after.Sound) : after.clusters.get? cluster.id = some cluster := by
  generalize hresult : (Answer.record cluster) = value at hrun
  cases hrun ▸ announce_result scope announcement state with
  | @decided reconciled decided tally hdecide =>
    cases hresult
    obtain ⟨id, hsettled⟩ := settled_of_accepts hsound hcalm (accepts_of_decide hdecide)
    have hstored : decided.clusters.get? id = some reconciled.cluster := hsettled.adopt.stored
    have hid : reconciled.cluster.id = id := hafter.keyed id reconciled.cluster hstored
    rw [hid]
    exact hstored

/-! ## Registrations that are made again -/

/-- Where a registration ends that is made again after a failed attempt, compared with where it ends if it
is made once everything is in order: store and directory are the same, and so is whatever was indexed or
provided. Only of the record that the attempt has written the index may have missed the change, if it was
the index that failed, and only the record that the attempt has made may be left without a flow store. -/
structure CatchesUp (before attempt : State) (failure : Failure) (first again : State) : Prop where
  clusters : again.clusters = first.clusters
  directory : again.directory = first.directory
  index : ∀ id, again.index.get? id = first.index.get? id ∨
    IsIndexFailure failure ∧ attempt.clusters.get? id ≠ before.clusters.get? id
  flows : ∀ id, again.flows.get? id = first.flows.get? id ∨
    before.clusters.get? id = none ∧ attempt.clusters.get? id ≠ none

namespace CatchesUp

variable {before : State} {failure : Failure} {now : Instant}

/-- The attempt has written nothing. -/
theorem of_counted {attempt first : State} (tally : Tally) :
    CatchesUp before attempt failure first { first with tally } :=
  ⟨rfl, rfl, fun _ => .inl rfl, fun _ => .inl rfl⟩

/-- The attempt has made the record of a new cluster. -/
theorem of_enrolled {given normal : Cluster} {index : Table Cluster} (tally early late : Tally)
    (hsound : before.Sound) (henrol : Enrollable given before normal)
    (hindex : IsIndexFailure failure ∧ index = before.index ∨
      index = before.index.insert normal.id normal) :
    let attempt : State := { before.withNewcomer normal with index, tally }
    let first : State := (((before.recovered now).withNewcomer normal).withIndexed normal).withFlows
      normal.id
    CatchesUp before attempt failure { first with tally := early }
      { attempt.recovered now with tally := late } := by
  intro attempt first
  have habsent : before.clusters.get? normal.id = none := henrol.id ▸ hsound.absent_of_next
  have hmade : attempt.clusters.get? normal.id = some normal.stored := Table.get?_insert_self _ _ _
  have hfirst : first.index = before.index.insert normal.id normal := rfl
  refine ⟨rfl, rfl, fun id => ?_, fun id => ?_⟩
  · rcases hindex with ⟨hfailed, hindex⟩ | hindex
    · by_cases hid : id = normal.id
      · subst hid
        exact .inr ⟨hfailed, by rw [hmade, habsent]; exact nofun⟩
      · refine .inl ?_
        change index.get? id = first.index.get? id
        rw [hindex, hfirst, Table.get?_insert_of_ne _ _ hid]
    · exact .inl (congrArg (Table.get? · id) hindex)
  · by_cases hid : id = normal.id
    · subst hid
      exact .inr ⟨habsent, by rw [hmade]; exact nofun⟩
    · exact .inl (Table.get?_insert_of_ne _ _ hid).symm

/-- The attempt has changed the record of a known cluster, and the index has failed. -/
theorem of_revised {id : String} {cluster normal : Cluster} (tally early late : Tally)
    (hstored : before.clusters.get? id = some cluster) (hid : normal.id = id)
    (hchanged : normal.managed ≠ cluster.managed) (hfailed : IsIndexFailure failure) :
    let attempt : State := { before.withRecord normal with tally }
    let first : State := ((before.recovered now).withRecord normal).withIndexed normal
    CatchesUp before attempt failure { first with tally := early }
      { attempt.recovered now with tally := late } := by
  intro attempt first
  refine ⟨rfl, rfl, fun other => ?_, fun _ => .inl rfl⟩
  by_cases hother : other = id
  · subst hother
    refine .inr ⟨hfailed, fun hsame => hchanged ?_⟩
    change (before.clusters.insert normal.id normal.stored).get? other = _ at hsame
    rw [hid, Table.get?_insert_self, hstored] at hsame
    cases hsame
    rfl
  · exact .inl (Table.get?_insert_of_ne _ _ (hid ▸ hother)).symm

end CatchesUp

/-- A registration that has failed is made again once everything is in order. It ends where a first call
would, and with the same answer; only a creation whose record was made by the failed attempt finds the name
taken by that record. -/
structure Recovers (scope : Scope) (operation : Operation) (failure : Failure) (now : Instant)
    (before attempt : State) : Prop where
  catchesUp : CatchesUp before attempt failure ((operation.run scope).after (before.recovered now))
    ((operation.run scope).after (attempt.recovered now))
  answer : (operation.run scope).answer (attempt.recovered now) =
      (operation.run scope).answer (before.recovered now) ∨
    ∃ given id, operation = .create given ∧ before.clusters.get? id = none ∧
      attempt.clusters.get? id ≠ none ∧
      (operation.run scope).answer (attempt.recovered now) = .error (.nameTaken given.name id)

namespace Recovers

variable {scope : Scope} {failure : Failure} {now : Instant} {before attempt : State}

/-- Nothing but the counts differs, and nobody asks for them. -/
theorem of_counted {operation : Operation} (hcounts : IgnoresCounts (operation.run scope))
    (tally : Tally) : Recovers scope operation failure now before { before with tally } := by
  obtain ⟨later, hlater⟩ := hcounts.after (before.recovered now) tally
  have hanswer := hcounts.answer (before.recovered now) tally
  refine ⟨?_, .inl hanswer⟩
  change CatchesUp _ _ _ _
    ((operation.run scope).after { before.recovered now with tally })
  rw [hlater]
  exact .of_counted later

/-! ### Creations -/

section

variable {given normal : Cluster}

theorem nameTaken_of_enrolled (henrol : Enrollable given before normal) :
    enrolmentObjection? (before.withNewcomer normal).directory given =
      some (.nameTaken given.name normal.id) := by
  obtain ⟨hid, hname, -⟩ := (enrolmentObjection?_eq_none_iff _ _).1 henrol.unobjected
  have howner : (before.withNewcomer normal).directory.idOf? given.name = some normal.id := by
    rw [Directory.idOf?_eq_some_iff, ← henrol.name]
    exact (Directory.nameOf?_insert _ _ _ _).trans (if_pos rfl)
  simp [enrolmentObjection?, hid, hname, howner]

theorem create_of_enrolled {index : Table Cluster} (tally : Tally) (hsound : before.Sound)
    (hallowed : before.grants.mayWrite scope (named? given.id) = true)
    (henrol : Enrollable given before normal)
    (hindex : IsIndexFailure failure ∧ index = before.index ∨
      index = before.index.insert normal.id normal) :
    Recovers scope (.create given) failure now before
      { before.withNewcomer normal with index, tally } := by
  have henrol' : Enrollable given (before.recovered now) normal :=
    ⟨henrol.unobjected, henrol.prepared⟩
  have hfirst := enrol_of_enrollable rfl henrol'
  obtain ⟨early, hfirst⟩ := run_create_of_enrolled (ensureWrite_of_recovered before now hallowed) hfirst
  let attempt : State := { before.withNewcomer normal with index, tally }
  have hagain : enrol given (attempt.recovered now) = .error (.nameTaken given.name normal.id)
      (attempt.recovered now) := enrol_of_objection (nameTaken_of_enrolled henrol)
  obtain ⟨late, hagain⟩ := run_create_of_unenrolled (ensureWrite_of_recovered attempt now hallowed) hagain
  refine ⟨?_, .inr ⟨given, normal.id, rfl, ?_, ?_, answer_of_error hagain⟩⟩
  · rw [after_of_ok hfirst, after_of_error hagain]
    exact .of_enrolled tally early late hsound henrol hindex
  · rw [henrol.id]
    exact hsound.absent_of_next
  · change (before.clusters.insert normal.id normal.stored).get? normal.id ≠ none
    rw [Table.get?_insert_self]
    exact nofun

theorem create (hsound : before.Sound)
    (hrun : (Operation.create given).run scope before = .error failure attempt) :
    Recovers scope (.create given) failure now before attempt := by
  have hcounts : IgnoresCounts ((Operation.create given).run scope) :=
    (ignoresCounts_create scope given).bind fun _ => ignoresCounts_pure _
  cases hrun ▸ create_result scope given before with
  | refused => exact .of_counted hcounts before.tally
  | unenrolled tally hallowed hfailed =>
    cases hfailed ▸ enrol_result given before with
    | refused => exact .of_counted hcounts tally
    | unindexed hfault henrol =>
      exact create_of_enrolled tally hsound hallowed henrol (.inl ⟨hfault.ofIndex, rfl⟩)
    | flowless _ henrol => exact create_of_enrolled tally hsound hallowed henrol (.inr rfl)

end

/-! ### Announcements -/

section

variable {announcement : Announcement} {normal : Cluster}

theorem announce_of_enrolled {index : Table Cluster} (tally : Tally) (hsound : before.Sound)
    (hallowed : before.grants.mayWrite scope (named? (announcement.clusterId.getD "")) = true)
    (htarget : target? before.directory announcement = none)
    (henrol : Enrollable announcement.newCluster before normal)
    (hindex : IsIndexFailure failure ∧ index = before.index ∨
      index = before.index.insert normal.id normal) :
    Recovers scope (.announce announcement) failure now before
      { before.withNewcomer normal with index, tally } := by
  have henrol' : Enrollable announcement.newCluster (before.recovered now) normal :=
    ⟨henrol.unobjected, henrol.prepared⟩
  have hname : announcement.name ≠ "" := by
    rw [← Announcement.newCluster_name]
    exact ((enrolmentObjection?_eq_none_iff _ _).1 henrol.unobjected).2.1
  have htarget' : target? (before.recovered now).directory announcement = none := htarget
  have hdecide : Registry.decide announcement now (before.recovered now) = .ok ⟨normal, .created⟩
      ((((before.recovered now).withNewcomer normal).withIndexed normal).withFlows normal.id) := by
    rw [decide_of_newcomer htarget' hname]
    exact bind_of_ok (enrol_of_enrollable rfl henrol')
  obtain ⟨early, hfirst⟩ := run_announce_of_decided (ensureWrite_of_recovered before now hallowed) hdecide
  let attempt : State := { before.withNewcomer normal with index, tally }
  have hsettled : Settled announcement now (attempt.recovered now) normal.id normal :=
    (Settled.of_created rfl htarget' henrol').congr rfl rfl rfl rfl rfl
  obtain ⟨late, hagain⟩ :=
    run_announce_of_decided (ensureWrite_of_recovered attempt now hallowed) hsettled.decide
  refine ⟨?_, .inl ?_⟩
  · rw [after_of_ok hfirst, after_of_ok hagain]
    exact .of_enrolled tally early late hsound henrol hindex
  · rw [answer_of_ok hfirst, answer_of_ok hagain]

theorem announce_of_revised {id : String} {cluster revised : Cluster} (tally : Tally)
    (hsound : before.Sound)
    (hallowed : before.grants.mayWrite scope (named? (announcement.clusterId.getD "")) = true)
    (htarget : target? before.directory announcement = some id)
    (hadopt : Adoptable id announcement now (before.recovered now) cluster)
    (hrevised : cluster.converged? announcement.managed = some revised)
    (hprepare : revised.prepare before.settings.admissionTimeout = .ok normal)
    (hfailed : IsIndexFailure failure) :
    Recovers scope (.announce announcement) failure now before
      { before.withRecord normal with tally } := by
  have hsound' : (before.recovered now).Sound := hsound
  have htarget' : target? (before.recovered now).directory announcement = some id := htarget
  have hdecide : Registry.decide announcement now (before.recovered now) =
      .ok ⟨normal, .ofRevised announcement.managed⟩
        (((before.recovered now).withRecord normal).withIndexed normal) := by
    rw [decide_of_target htarget']
    exact adopt_of_revised rfl hadopt hrevised hprepare
  obtain ⟨early, hfirst⟩ := run_announce_of_decided (ensureWrite_of_recovered before now hallowed) hdecide
  let attempt : State := { before.withRecord normal with tally }
  have hsettled : Settled announcement now (attempt.recovered now) id normal :=
    (Settled.of_revised hsound' rfl htarget' hadopt hrevised hprepare).congr rfl rfl rfl rfl rfl
  obtain ⟨late, hagain⟩ :=
    run_announce_of_decided (ensureWrite_of_recovered attempt now hallowed) hsettled.decide
  have hstored : before.clusters.get? id = some cluster := hadopt.stored
  have hid : normal.id = id :=
    ((Cluster.sameSubject_of_prepare hprepare).trans (Cluster.sameSubject_of_converged? hrevised)).id.trans
      (hsound.keyed id cluster hstored)
  have hchanged : normal.managed ≠ cluster.managed := by
    rw [Cluster.managed_of_prepare hprepare]
    exact Cluster.managed_ne_of_converged? hrevised
  refine ⟨?_, .inl ?_⟩
  · rw [after_of_ok hfirst, after_of_ok hagain]
    exact .of_revised tally early late hstored hid hchanged hfailed
  · rw [answer_of_ok hfirst, answer_of_ok hagain]

/-- Whoever would be accepted at once may adopt the cluster. -/
theorem adoptable_of_accepted {id : String} {cluster : Cluster}
    (hfirst : (before.recovered now).failureOf (.call scope (.announce announcement)) = none)
    (htarget : target? before.directory announcement = some id)
    (hstored : before.clusters.get? id = some cluster) :
    Adoptable id announcement now (before.recovered now) cluster := by
  have heither : ∀ {other found}, target? before.directory announcement = some other →
      Adoptable other announcement now (before.recovered now) found →
      Adoptable id announcement now (before.recovered now) cluster := by
    intro other found hother hadopt
    rw [htarget] at hother
    cases hother
    have hfound : before.clusters.get? id = some found := hadopt.stored
    rw [hstored] at hfound
    cases hfound
    exact hadopt
  obtain ⟨value, after, hrun⟩ := ok_of_failureOf_none hfirst
  cases hrun ▸ announce_result scope announcement (before.recovered now) with
  | decided _ hdecide =>
    cases accepts_of_decide hdecide with
    | created hnone _ => exact absurd (htarget.symm.trans hnone) nofun
    | kept hother hadopt _ => exact heither hother hadopt
    | revised hother hadopt _ _ => exact heither hother hadopt

theorem announce (hsound : before.Sound)
    (hrun : (Operation.announce announcement).run scope before = .error failure attempt)
    (hnow : now = before.now ∨
      (before.recovered now).failureOf (.call scope (.announce announcement)) = none) :
    Recovers scope (.announce announcement) failure now before attempt := by
  have hcounts : IgnoresCounts ((Operation.announce announcement).run scope) :=
    (ignoresCounts_announce scope announcement).bind fun _ => ignoresCounts_pure _
  cases hrun ▸ announce_result scope announcement before with
  | refused => exact .of_counted hcounts before.tally
  | undecided tally hallowed hdecide =>
    cases halts_of_decide hdecide with
    | unwritten => exact .of_counted hcounts tally
    | enrolled htarget henrol hindex =>
      exact announce_of_enrolled tally hsound hallowed htarget henrol hindex
    | @revised id cluster _ _ htarget hadopt hrevised hprepare hindex =>
      have hagain : Adoptable id announcement now (before.recovered now) cluster := by
        rcases hnow with rfl | hfirst
        · exact ⟨hadopt.stored, hadopt.named, hadopt.entitled⟩
        · exact adoptable_of_accepted hfirst htarget hadopt.stored
      exact announce_of_revised tally hsound hallowed htarget hagain hrevised hprepare hindex

end

theorem registration {operation : Operation} {given : Cluster} (hsound : before.Sound)
    (hoperation : operation.newcomer? = some given)
    (hfailure : before.failureOf (.call scope operation) = some failure)
    (hnow : now = before.now ∨ (before.recovered now).failureOf (.call scope operation) = none) :
    Recovers scope operation failure now before (before.next (.call scope operation)) := by
  have hrun := error_of_failureOf hfailure
  cases operation with
  | create cluster => exact create hsound hrun
  | announce announcement => exact announce hsound hrun hnow
  | _ => cases hoperation

end Recovers

end State

/-- Whatever has failed in a run from an empty start, an announcement that is accepted while nothing is out
of order finds its cluster registered: stored as it is answered, under its name, in the index unless the
index has missed a change that nobody has entered since, and with a flow store if the call that made the
record was answered. And a creation or an announcement that has failed, when it is made again with
everything in order, ends where a first call would, at the time of the failure or at any time at which
that first call is accepted. -/
theorem accepted_cluster_is_registered (runtime : Runtime) (settings : Settings) (began : Instant)
    (events : List Event) (scope : Scope) :
    let state := (State.start runtime settings began).following events
    (∀ announcement cluster after, state.conditions = {} →
      (Operation.announce announcement).run scope state = .ok (.record cluster) after →
      after.Hosts cluster ((State.start runtime settings began).shortfall cluster.id {}
        (events ++ [.call scope (.announce announcement)]))) ∧
    (∀ operation given failure now, operation.newcomer? = some given →
      state.failureOf (.call scope operation) = some failure →
      now = state.now ∨ (state.recovered now).failureOf (.call scope operation) = none →
      State.Recovers scope operation failure now state (state.next (.call scope operation))) := by
  intro state
  have hsound : state.Sound := State.Reachable.sound ⟨runtime, settings, began, events, rfl⟩
  constructor
  · intro announcement cluster after hcalm hrun
    let call : Event := .call scope (.announce announcement)
    have hafter : (State.start runtime settings began).following (events ++ [call]) = after := by
      rw [State.following_append, State.following_cons]
      exact after_of_ok hrun
    have hlater : after.Sound := hafter ▸ State.Reachable.sound ⟨runtime, settings, began, _, rfl⟩
    have hstored := State.stored_of_accepted hsound hcalm hrun hlater
    refine State.Provides.hosts hlater hstored ?_
    rw [← hafter]
    exact .following (State.sound_start runtime settings began)
      (.start runtime settings began cluster.id {}) _
  · intro operation given failure now hoperation hfailure hnow
    exact .registration hsound hoperation hfailure hnow

/-- The flow store is offline when a cluster is announced. The announcement is made again when it is back:
it ends as a first one would, and the cluster is registered and lacks nothing but the flow store. -/
theorem accepted_cluster_is_registered_of_retried :
    let call : Event := .call .system (.announce declaring)
    let offline := (State.start {} {} ⟨0, false⟩).following [.setOffline .flows true]
    let online := offline.following [call, .setOffline .flows false]
    (∃ cluster after,
      (Operation.announce declaring).run .system online = .ok (.record cluster) after ∧
        cluster.id = "$1" ∧ after.Hosts cluster { flowless := true }) ∧
    offline.failureOf call = some (.flowStoreMissing "$1" Part.flows.failure) ∧
    State.Recovers .system (.announce declaring) (.flowStoreMissing "$1" Part.flows.failure) ⟨0, false⟩
      offline (offline.next call) := by
  intro call offline online
  have hcalm : online.conditions = {} := by decide +kernel
  have hanswer : (((Operation.announce declaring).run .system).answer online).toOption.map
      (fun | .record cluster => cluster.id | _ => "") = some "$1" := by decide +kernel
  have hlacks : (State.start {} {} ⟨0, false⟩).shortfall "$1" {}
      ([.setOffline .flows true, call, .setOffline .flows false] ++ [call]) =
        { flowless := true } := by decide +kernel
  have hfailure : offline.failureOf call = some (.flowStoreMissing "$1" Part.flows.failure) := by
    decide +kernel
  have hrun := accepted_cluster_is_registered {} {} ⟨0, false⟩
    [.setOffline .flows true, call, .setOffline .flows false] .system
  have hattempt := accepted_cluster_is_registered {} {} ⟨0, false⟩ [.setOffline .flows true] .system
  refine ⟨?_, hfailure, hattempt.2 _ _ _ _ rfl hfailure (.inl rfl)⟩
  obtain ⟨value, after, haccepted, hid⟩ := exists_ok_of_answer hanswer
  obtain ⟨cluster, rfl⟩ := record_of_announced haccepted
  have hhosts := hrun.1 declaring cluster after hcalm haccepted
  change cluster.id = "$1" at hid
  rw [hid, hlacks] at hhosts
  exact ⟨cluster, after, haccepted, hid, hhosts⟩

/-- A cluster is announced while the flow store is offline, and again when it is back: the announcement is
accepted and the cluster has no flow store. With the index offline at first it is missing from the index. -/
theorem accepted_cluster_lacks_missed_parts :
    let announce := (Operation.announce declaring).run .system
    let retried := fun part => (State.start {} {} ⟨0, false⟩).following [
      .setOffline part true, .call .system (.announce declaring), .setOffline part false]
    ((retried .flows).conditions = {} ∧ ∃ cluster, cluster.id = "$1" ∧
      announce.answer (retried .flows) = .ok (.record cluster) ∧
      (announce.after (retried .flows)).flows.get? "$1" = none) ∧
    ((retried .index).conditions = {} ∧ ∃ cluster, cluster.id = "$1" ∧
      announce.answer (retried .index) = .ok (.record cluster) ∧
      (announce.after (retried .index)).index.get? "$1" = none) := by
  intro announce retried
  have haccepted : ∀ {state : State}, ((announce.answer state).toOption.map
      (fun | .record cluster => cluster.id | _ => "") = some "$1") →
      ∃ cluster : Cluster, cluster.id = "$1" ∧ announce.answer state = .ok (.record cluster) := by
    intro state hanswer
    obtain ⟨value, after, hrun, hid⟩ := exists_ok_of_answer hanswer
    obtain ⟨cluster, rfl⟩ := record_of_announced hrun
    exact ⟨cluster, hid, answer_of_ok hrun⟩
  obtain ⟨first, hfirst, hflows⟩ := @haccepted (retried .flows) (by decide +kernel)
  obtain ⟨second, hsecond, hindex⟩ := @haccepted (retried .index) (by decide +kernel)
  refine ⟨⟨?_, first, hfirst, hflows, ?_⟩, ⟨?_, second, hsecond, hindex, ?_⟩⟩ <;> decide +kernel

end Fleet
