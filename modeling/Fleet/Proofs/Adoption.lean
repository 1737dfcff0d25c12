import Fleet.Proofs.Records
import Fleet.Proofs.Takeover
import Fleet.Registry.Reconciliation

/-!
# What an announcement can come to

The record that an adoption writes, if it writes one, and everything that adoption and reconciliation
can come to. Whatever is written concerns the one cluster that the announcement is about, and a call
that is refused has written nothing.
-/

namespace Fleet

namespace Cluster

/-- The record that brings a cluster in line with an announcement; none if it is in line. -/
def converged? (cluster : Cluster) : Option ManagedConfig → Option Cluster
  | none => if cluster.isManaged then some { cluster with managed := none } else none
  | some config =>
    if cluster.fingerprint? = some config.fingerprint then none
    else some { cluster.configure config with managed := some config }

theorem sameSubject_of_converged? {cluster revised : Cluster} {managed : Option ManagedConfig}
    (h : cluster.converged? managed = some revised) : revised.SameSubject cluster := by
  cases managed with
  | none =>
    simp only [converged?] at h
    split at h <;> cases h
    exact ⟨rfl, rfl, rfl⟩
  | some config =>
    simp only [converged?] at h
    split at h <;> cases h
    exact ⟨rfl, rfl, rfl⟩

theorem managed_of_converged? {cluster revised : Cluster} {managed : Option ManagedConfig}
    (h : cluster.converged? managed = some revised) : revised.managed = managed := by
  cases managed with
  | none =>
    simp only [converged?] at h
    split at h <;> cases h
    rfl
  | some config =>
    simp only [converged?] at h
    split at h <;> cases h
    rfl

/-- Bringing a cluster in line changes by which configuration it is managed. -/
theorem managed_ne_of_converged? {cluster revised : Cluster} {managed : Option ManagedConfig}
    (h : cluster.converged? managed = some revised) : revised.managed ≠ cluster.managed := by
  rw [managed_of_converged? h]
  intro heq
  cases managed with
  | none => simp [converged?, isManaged, ← heq] at h
  | some config => simp [converged?, fingerprint?, ← heq] at h

/-- What is stored stays without health and priority when it is brought in line. -/
theorem stored_of_converged? {cluster revised : Cluster} {managed : Option ManagedConfig}
    (h : cluster.converged? managed = some revised) (hstored : cluster.stored = cluster) :
    revised.stored = revised := by
  have hhealth : cluster.health = none := (congrArg Cluster.health hstored).symm
  have hpriority : cluster.priority = 0 := (congrArg Cluster.priority hstored).symm
  cases managed with
  | none =>
    simp only [converged?] at h
    split at h <;> cases h
    simp only [stored, hhealth, hpriority]
  | some config =>
    simp only [converged?] at h
    split at h <;> cases h
    simp only [stored, configure, hhealth, hpriority]

end Cluster

namespace Announcement

@[simp] theorem newCluster_id (announcement : Announcement) : announcement.newCluster.id = "" := by
  cases h : announcement.config <;> simp [newCluster, Cluster.configure, h]

@[simp] theorem newCluster_name (announcement : Announcement) :
    announcement.newCluster.name = announcement.name := by
  cases h : announcement.config <;> simp [newCluster, Cluster.configure, h]

@[simp] theorem newCluster_sensor (announcement : Announcement) :
    announcement.newCluster.sensor = announcement.sensor := by
  cases h : announcement.config <;> simp [newCluster, Cluster.configure, h]

/-- A configuration that is to manage the cluster is one that is announced. -/
theorem config_of_managed (announcement : Announcement) {declared : ManagedConfig}
    (h : announcement.managed = some declared) : announcement.config = some declared := by
  obtain ⟨declaration, hdeclaration, hconfig⟩ := Option.bind_eq_some_iff.1 h
  obtain ⟨hannounced, -⟩ := Option.filter_eq_some_iff.1 hdeclaration
  rw [Announcement.config, hannounced]
  exact hconfig

theorem stored_newCluster (announcement : Announcement) :
    announcement.newCluster.stored = announcement.newCluster := by
  cases h : announcement.config <;> simp [newCluster, Cluster.configure, Cluster.stored, h]

end Announcement

namespace Outcome

/-- The outcome of an adoption that writes nothing. -/
def ofKept (managed : Option ManagedConfig) : Outcome :=
  if managed.isSome then .unchanged else .adopted

/-- The outcome of an adoption that writes the record. -/
def ofRevised (managed : Option ManagedConfig) : Outcome :=
  if managed.isSome then .updated else .cleared

end Outcome

namespace Registry

open Fleet.Action Calls

theorem converge_of_kept {cluster : Cluster} {managed : Option ManagedConfig}
    (h : cluster.converged? managed = none) :
    converge cluster managed = pure ⟨cluster, .ofKept managed⟩ := by
  unfold Cluster.converged? at h
  unfold converge
  cases managed with
  | none =>
    cases hmanaged : cluster.isManaged
    · rfl
    · simp [hmanaged] at h
  | some config =>
    by_cases hfingerprint : cluster.fingerprint? = some config.fingerprint
    · simp only [hfingerprint, if_true]
      rfl
    · simp [hfingerprint] at h

theorem converge_of_revised {cluster revised : Cluster} {managed : Option ManagedConfig}
    (h : cluster.converged? managed = some revised) :
    converge cluster managed =
      (store revised >>= fun normal => pure ⟨normal, .ofRevised managed⟩) := by
  unfold Cluster.converged? at h
  unfold converge
  cases managed with
  | none =>
    cases hmanaged : cluster.isManaged
    · simp [hmanaged] at h
    · simp only [hmanaged, if_true] at h
      cases h
      rfl
  | some config =>
    by_cases hfingerprint : cluster.fingerprint? = some config.fingerprint
    · simp [hfingerprint] at h
    · simp only [hfingerprint, if_false] at h ⊢
      cases h
      rfl

/-! ## The target -/

section

variable {directory : Directory} {announcement : Announcement}

theorem target?_of_id {given : String} (hid : announcement.clusterId = some given)
    (hgiven : given ≠ "") : target? directory announcement = some given := by
  unfold target?
  rw [hid, Option.filter_some_pos (by simpa using hgiven)]
  rfl

theorem target?_of_no_id (hid : announcement.clusterId.getD "" = "") :
    target? directory announcement =
      if announcement.name = "" then none else directory.idOf? announcement.name := by
  have hfilter : announcement.clusterId.filter (· ≠ "") = none := by
    rw [Option.filter_eq_none_iff]
    intro given hgiven
    rw [hgiven] at hid
    simpa using hid
  unfold target?
  rw [hfilter]
  rfl

/-- An announcement is about the cluster of its id, or else about the one that has its name. -/
theorem target?_eq_some_iff {id : String} :
    target? directory announcement = some id ↔
      (announcement.clusterId = some id ∧ id ≠ "") ∨
      (announcement.clusterId.getD "" = "" ∧ announcement.name ≠ "" ∧
        directory.idOf? announcement.name = some id) := by
  by_cases hid : announcement.clusterId.getD "" = ""
  · have hnot : ¬ (announcement.clusterId = some id ∧ id ≠ "") := by
      rintro ⟨hgiven, hne⟩
      rw [hgiven] at hid
      exact hne hid
    rw [target?_of_no_id hid]
    by_cases hname : announcement.name = "" <;> simp [hid, hname, hnot]
  · obtain ⟨given, hgiven⟩ : ∃ given, announcement.clusterId = some given := by
      cases hcase : announcement.clusterId with
      | none => exact absurd (by rw [hcase]; rfl) hid
      | some given => exact ⟨given, rfl⟩
    have hne : given ≠ "" := by
      rw [hgiven] at hid
      exact hid
    rw [target?_of_id hgiven hne, hgiven]
    simp only [Option.some.injEq, Option.getD_some, hne, false_and, or_false]
    constructor
    · rintro rfl
      exact ⟨rfl, hne⟩
    · exact fun h => h.1

theorem target?_eq_none_iff :
    target? directory announcement = none ↔
      announcement.clusterId.getD "" = "" ∧
        (announcement.name = "" ∨ directory.idOf? announcement.name = none) := by
  by_cases hid : announcement.clusterId.getD "" = ""
  · rw [target?_of_no_id hid]
    by_cases hname : announcement.name = "" <;> simp [hid, hname]
  · cases hcase : announcement.clusterId with
    | none => exact absurd (by rw [hcase]; rfl) hid
    | some given =>
      rw [hcase] at hid
      rw [target?_of_id hcase hid]
      simpa using fun hempty : given = "" => absurd hempty hid

end

/-! ## Adoption -/

/-- The cluster is stored, the agent knows its name or does not care, and it may take it over. -/
structure Adoptable (id : String) (announcement : Announcement) (now : Instant) (state : State)
    (cluster : Cluster) : Prop where
  stored : state.clusters.get? id = some cluster
  named : announcement.name ≠ "" → announcement.name = cluster.name
  entitled : ¬ IsTakeover state.settings.moveGrace cluster.sensor announcement.sensor
    (Snapshots.lastContact state.holdings.health cluster.id) now

/-- What adopting a cluster can come to. -/
inductive Adopts (id : String) (announcement : Announcement) (now : Instant) (state : State) :
    EStateM.Result Failure State Reconciled → Prop
  | refused {failure : Failure} : Adopts id announcement now state (.error failure state)
  | kept {cluster : Cluster} (hadopt : Adoptable id announcement now state cluster)
      (hkept : cluster.converged? announcement.managed = none) :
      Adopts id announcement now state (.ok ⟨cluster, .ofKept announcement.managed⟩ state)
  | unindexed {failure : Failure} {cluster revised normal : Cluster}
      (hadopt : Adoptable id announcement now state cluster)
      (hrevised : cluster.converged? announcement.managed = some revised)
      (hprepare : revised.prepare state.settings.admissionTimeout = .ok normal)
      (hfault : IsIndexFault state failure) :
      Adopts id announcement now state (.error failure (state.withRecord normal))
  | revised {cluster revised normal : Cluster}
      (hadopt : Adoptable id announcement now state cluster)
      (hrevised : cluster.converged? announcement.managed = some revised)
      (hprepare : revised.prepare state.settings.admissionTimeout = .ok normal) :
      Adopts id announcement now state
        (.ok ⟨normal, .ofRevised announcement.managed⟩
          ((state.withRecord normal).withIndexed normal))

theorem guardTakeover_cases (cluster : Cluster) (incoming : Option SensorIdentity) (now : Instant)
    (state : State) :
    (∃ failure, guardTakeover cluster incoming now state = .error failure state) ∨
      guardTakeover cluster incoming now state = .ok () state ∧
        ¬ IsTakeover state.settings.moveGrace cluster.sensor incoming
          (Snapshots.lastContact state.holdings.health cluster.id) now := by
  unfold guardTakeover
  rcases lastContact_serves state cluster.id with hcontact | ⟨failure, -, hcontact⟩
  · rw [bind_of_ok hcontact, bind_of_ok (get_apply state)]
    cases hrefusal : takeoverRefusal? state.settings.moveGrace cluster.name cluster.sensor incoming
        (Snapshots.lastContact state.holdings.health cluster.id) now with
    | some failure => exact .inl ⟨failure, rfl⟩
    | none => exact .inr ⟨rfl, takeoverRefusal?_eq_none_iff.1 hrefusal⟩
  · rw [bind_of_error hcontact]
    exact .inl ⟨failure, rfl⟩

theorem adopt_result (id : String) (announcement : Announcement) (now : Instant) (state : State) :
    Adopts id announcement now state (adopt id announcement now state) := by
  unfold adopt
  generalize hload : load id state = loaded
  cases hload ▸ load_result id state with
  | failed =>
    rw [bind_of_error hload]
    exact .refused
  | missing =>
    rw [bind_of_error hload]
    exact .refused
  | @found cluster hstored =>
    rw [bind_of_ok hload]
    split
    · exact .refused
    · rename_i hname
      have hnamed : announcement.name ≠ "" → announcement.name = cluster.name := by
        intro hannounced
        by_cases heq : announcement.name = cluster.name
        · exact heq
        · exact absurd ⟨hannounced, heq⟩ hname
      change Adopts id announcement now state
        ((guardTakeover cluster announcement.sensor now >>= fun _ =>
          converge cluster announcement.managed) state)
      rcases guardTakeover_cases cluster announcement.sensor now state with
        ⟨failure, hguard⟩ | ⟨hguard, hentitled⟩
      · rw [bind_of_error hguard]
        exact .refused
      · rw [bind_of_ok hguard]
        have hadopt : Adoptable id announcement now state cluster := ⟨hstored, hnamed, hentitled⟩
        cases hconverged : cluster.converged? announcement.managed with
        | none =>
          rw [converge_of_kept hconverged]
          exact .kept hadopt hconverged
        | some revised =>
          rw [converge_of_revised hconverged]
          generalize hstore : store revised state = written
          cases hstore ▸ store_result revised state with
          | unfit =>
            rw [bind_of_error hstore]
            exact .refused
          | failed =>
            rw [bind_of_error hstore]
            exact .refused
          | unindexed hfault hprepare =>
            rw [bind_of_error hstore]
            exact .unindexed hadopt hconverged hprepare hfault
          | done hprepare =>
            rw [bind_of_ok hstore]
            exact .revised hadopt hconverged hprepare

/-! ## Adoption while nothing is out of order -/

section

variable {id : String} {announcement : Announcement} {now : Instant} {state : State}
  {cluster : Cluster}

theorem adopt_of_absent (hcalm : state.conditions = {})
    (habsent : state.clusters.get? id = none) :
    adopt id announcement now state = .error (.notFound id) state := by
  unfold adopt
  rw [bind_of_error (load_of_absent hcalm habsent)]

theorem adopt_of_misnamed (hcalm : state.conditions = {})
    (hstored : state.clusters.get? id = some cluster)
    (hname : announcement.name ≠ "" ∧ announcement.name ≠ cluster.name) :
    adopt id announcement now state =
      .error (.nameMismatch id cluster.name announcement.name) state := by
  unfold adopt
  rw [bind_of_ok (load_of_stored hcalm hstored), if_pos hname]
  rfl

theorem adopt_of_refusal {failure : Failure} (hcalm : state.conditions = {})
    (hstored : state.clusters.get? id = some cluster)
    (hnamed : announcement.name ≠ "" → announcement.name = cluster.name)
    (hrefusal : takeoverRefusal? state.settings.moveGrace cluster.name cluster.sensor
      announcement.sensor (Snapshots.lastContact state.holdings.health cluster.id) now =
        some failure) :
    adopt id announcement now state = .error failure state := by
  have hname : ¬ (announcement.name ≠ "" ∧ announcement.name ≠ cluster.name) :=
    fun h => h.2 (hnamed h.1)
  have hguard : guardTakeover cluster announcement.sensor now state = .error failure state := by
    unfold guardTakeover
    rw [bind_of_ok ((lastContact_serves state cluster.id).calm hcalm),
      bind_of_ok (get_apply state), hrefusal]
    rfl
  unfold adopt
  rw [bind_of_ok (load_of_stored hcalm hstored), if_neg hname]
  change (guardTakeover cluster announcement.sensor now >>= fun _ => _) state = _
  rw [bind_of_error hguard]

theorem adopt_of_takeover (hcalm : state.conditions = {})
    (hstored : state.clusters.get? id = some cluster)
    (hnamed : announcement.name ≠ "" → announcement.name = cluster.name)
    (htakeover : IsTakeover state.settings.moveGrace cluster.sensor announcement.sensor
      (Snapshots.lastContact state.holdings.health cluster.id) now) :
    ∃ failure : Failure, failure.IsConflictOf cluster.name ∧
      adopt id announcement now state = .error failure state := by
  cases hrefusal : takeoverRefusal? state.settings.moveGrace cluster.name cluster.sensor
      announcement.sensor (Snapshots.lastContact state.holdings.health cluster.id) now with
  | none => exact absurd htakeover (takeoverRefusal?_eq_none_iff.1 hrefusal)
  | some failure =>
    exact ⟨failure, isConflictOf_of_takeoverRefusal? hrefusal,
      adopt_of_refusal hcalm hstored hnamed hrefusal⟩

/-- An agent that may adopt the cluster comes to bring its record in line. -/
theorem adopt_of_adoptable (hcalm : state.conditions = {})
    (h : Adoptable id announcement now state cluster) :
    adopt id announcement now state = converge cluster announcement.managed state := by
  have hname : ¬ (announcement.name ≠ "" ∧ announcement.name ≠ cluster.name) :=
    fun hboth => hboth.2 (h.named hboth.1)
  have hguard : guardTakeover cluster announcement.sensor now state = .ok () state := by
    unfold guardTakeover
    rw [bind_of_ok ((lastContact_serves state cluster.id).calm hcalm),
      bind_of_ok (get_apply state), takeoverRefusal?_eq_none_iff.2 h.entitled]
    rfl
  unfold adopt
  rw [bind_of_ok (load_of_stored hcalm h.stored), if_neg hname]
  change (guardTakeover cluster announcement.sensor now >>= fun _ => _) state = _
  rw [bind_of_ok hguard]

theorem adopt_of_kept (hcalm : state.conditions = {})
    (h : Adoptable id announcement now state cluster)
    (hkept : cluster.converged? announcement.managed = none) :
    adopt id announcement now state = .ok ⟨cluster, .ofKept announcement.managed⟩ state := by
  rw [adopt_of_adoptable hcalm h, converge_of_kept hkept]
  rfl

theorem adopt_of_unfit {revised : Cluster} {failure : Failure} (hcalm : state.conditions = {})
    (h : Adoptable id announcement now state cluster)
    (hrevised : cluster.converged? announcement.managed = some revised)
    (hprepare : revised.prepare state.settings.admissionTimeout = .error failure) :
    adopt id announcement now state = .error failure state := by
  rw [adopt_of_adoptable hcalm h, converge_of_revised hrevised,
    bind_of_error (store_of_unfit hprepare)]

theorem adopt_of_revised {revised normal : Cluster} (hcalm : state.conditions = {})
    (h : Adoptable id announcement now state cluster)
    (hrevised : cluster.converged? announcement.managed = some revised)
    (hprepare : revised.prepare state.settings.admissionTimeout = .ok normal) :
    adopt id announcement now state =
      .ok ⟨normal, .ofRevised announcement.managed⟩
        ((state.withRecord normal).withIndexed normal) := by
  rw [adopt_of_adoptable hcalm h, converge_of_revised hrevised,
    bind_of_ok (store_of_prepared hcalm hprepare)]
  rfl

/-! ## Reconciliation -/

theorem decide_of_target (h : target? state.directory announcement = some id) :
    decide announcement now state = adopt id announcement now state := by
  unfold decide
  rw [bind_of_ok (get_apply state), h]

theorem decide_of_anonymous (h : target? state.directory announcement = none)
    (hname : announcement.name = "") :
    decide announcement now state = .error .anonymous state := by
  unfold decide
  rw [bind_of_ok (get_apply state), h]
  simp only [hname, if_true]
  rfl

theorem decide_of_newcomer (h : target? state.directory announcement = none)
    (hname : announcement.name ≠ "") :
    decide announcement now state =
      (enrol announcement.newCluster >>= fun cluster => pure ⟨cluster, .created⟩) state := by
  unfold decide
  rw [bind_of_ok (get_apply state), h]
  simp only [hname, if_false]
  rfl

end

/-- Reconciling an announcement is deciding on it and counting the outcome. -/
theorem reconcile_apply (announcement : Announcement) (now : Instant) (state : State) :
    reconcile announcement now state = match decide announcement now state with
      | .ok reconciled after =>
        .ok reconciled { after with tally := after.tally.countOutcome reconciled.outcome }
      | .error failure after =>
        .error failure { after with tally := after.tally.countOutcome .rejected } := by
  unfold reconcile
  cases hdecide : decide announcement now state with
  | ok reconciled after =>
    rw [bind_of_ok (attempt_of_ok hdecide)]
    rfl
  | error failure after =>
    rw [bind_of_ok (attempt_of_error hdecide)]
    rfl

/-- An announcement that revises a record is answered with the record as it is written. -/
theorem reconcile_of_revised {announcement : Announcement} {now : Instant} {state : State}
    {id : String} {cluster revised normal : Cluster} (hcalm : state.conditions = {})
    (htarget : target? state.directory announcement = some id)
    (hadopt : Adoptable id announcement now state cluster)
    (hrevised : cluster.converged? announcement.managed = some revised)
    (hprepare : revised.prepare state.settings.admissionTimeout = .ok normal) :
    reconcile announcement now state = .ok ⟨normal, .ofRevised announcement.managed⟩
      { (state.withRecord normal).withIndexed normal with
        tally := state.tally.countOutcome (.ofRevised announcement.managed) } := by
  rw [reconcile_apply, decide_of_target htarget, adopt_of_revised hcalm hadopt hrevised hprepare]
  rfl

/-- An announcement that asks for a record that is not accepted fails. -/
theorem reconcile_of_unfit {announcement : Announcement} {now : Instant} {state : State}
    {id : String} {cluster revised : Cluster} {failure : Failure} (hcalm : state.conditions = {})
    (htarget : target? state.directory announcement = some id)
    (hadopt : Adoptable id announcement now state cluster)
    (hrevised : cluster.converged? announcement.managed = some revised)
    (hprepare : revised.prepare state.settings.admissionTimeout = .error failure) :
    reconcile announcement now state =
      .error failure { state with tally := state.tally.countOutcome .rejected } := by
  rw [reconcile_apply, decide_of_target htarget, adopt_of_unfit hcalm hadopt hrevised hprepare]

/-! ## What is accepted -/

/-- What an announcement that is accepted comes to, apart from being counted. -/
inductive Accepts (announcement : Announcement) (now : Instant) (state : State) :
    Reconciled → State → Prop
  | created {normal : Cluster} (htarget : target? state.directory announcement = none)
      (henrol : Enrollable announcement.newCluster state normal) :
      Accepts announcement now state ⟨normal, .created⟩
        (((state.withNewcomer normal).withIndexed normal).withFlows normal.id)
  | kept {id : String} {cluster : Cluster}
      (htarget : target? state.directory announcement = some id)
      (hadopt : Adoptable id announcement now state cluster)
      (hkept : cluster.converged? announcement.managed = none) :
      Accepts announcement now state ⟨cluster, .ofKept announcement.managed⟩ state
  | revised {id : String} {cluster revised normal : Cluster}
      (htarget : target? state.directory announcement = some id)
      (hadopt : Adoptable id announcement now state cluster)
      (hrevised : cluster.converged? announcement.managed = some revised)
      (hprepare : revised.prepare state.settings.admissionTimeout = .ok normal) :
      Accepts announcement now state ⟨normal, .ofRevised announcement.managed⟩
        ((state.withRecord normal).withIndexed normal)

theorem accepts_of_decide {announcement : Announcement} {now : Instant} {state after : State}
    {reconciled : Reconciled} (h : decide announcement now state = .ok reconciled after) :
    Accepts announcement now state reconciled after := by
  cases htarget : target? state.directory announcement with
  | none =>
    by_cases hname : announcement.name = ""
    · rw [decide_of_anonymous htarget hname] at h
      cases h
    · rw [decide_of_newcomer htarget hname] at h
      generalize hrun : enrol announcement.newCluster state = enrolled at h
      cases hrun ▸ enrol_result announcement.newCluster state with
      | done henrol =>
        rw [bind_of_ok hrun] at h
        cases h
        exact .created htarget henrol
      | _ =>
        rw [bind_of_error hrun] at h
        cases h
  | some id =>
    rw [decide_of_target htarget] at h
    generalize hrun : adopt id announcement now state = adopted at h
    cases hrun ▸ adopt_result id announcement now state with
    | kept hadopt hkept =>
      cases h
      exact .kept htarget hadopt hkept
    | revised hadopt hrevised hprepare =>
      cases h
      exact .revised htarget hadopt hrevised hprepare
    | _ => cases h

/-- What is accepted is counted under its outcome. -/
theorem accepts_of_reconcile {announcement : Announcement} {now : Instant} {state after : State}
    {reconciled : Reconciled} (h : reconcile announcement now state = .ok reconciled after) :
    ∃ decided, Accepts announcement now state reconciled decided ∧
      after = { decided with tally := decided.tally.countOutcome reconciled.outcome } := by
  rw [reconcile_apply] at h
  cases hrun : decide announcement now state with
  | ok answer decided =>
    rw [hrun] at h
    cases h
    exact ⟨decided, accepts_of_decide hrun, rfl⟩
  | error failure decided =>
    rw [hrun] at h
    cases h

end Registry

end Fleet
