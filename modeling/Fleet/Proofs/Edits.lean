import Fleet.Proofs.Accounting

/-!
# What an edit comes to

An edit changes one stored record: an update replaces it, an amendment changes parts of it. If something
stands against it, it changes nothing; and what that is depends on the record only by whether there is
one and, for an update, by its name. Otherwise the record is written, and no fault but one of the index
makes an edit fail by then.
-/

namespace Fleet

open Fleet.Action

/-- A call leaves the same state whatever is made of its answer. -/
theorem Action.after_bind_pure {α β : Type} (action : Action α) (f : α → β) (state : State) :
    (action >>= fun answer => pure (f answer)).after state = action.after state := by
  unfold Action.after
  rw [bind_apply]
  cases action state <;> rfl

/-! ## Amendments -/

/-- A part of a record that is reported by itself. -/
inductive RecordPart where
  | upgrade
  | certExpiry
  | status
  | sensor
  | auditLog (node : String)
deriving DecidableEq, Repr

/-- What is reported about a cluster to be kept in its record. -/
inductive Amendment where
  | upgrade (reported : UpgradeStatus)
  | certExpiry (reported : CertExpiry)
  | status (reported : ClusterStatus)
  | sensor (reported : SensorIdentity)
  | auditLogs (positions : Table AuditPosition)

namespace Amendment

/-- The parts that are written. -/
def parts : Amendment → List RecordPart
  | upgrade _ => [.upgrade]
  | certExpiry _ => [.certExpiry]
  | status _ => [.status]
  | sensor _ => [.sensor]
  | auditLogs positions => positions.keys.map .auditLog

/-- What becomes of a record. -/
def apply : Amendment → Cluster → Cluster
  | upgrade reported => (·.setUpgrade reported)
  | certExpiry reported => (·.setCertExpiry reported)
  | status reported => (·.setStatus reported)
  | sensor reported => (·.setSensor reported)
  | auditLogs positions => (·.enterAuditLogs positions)

/-- The call that reports it about a cluster. -/
def operation (id : String) : Amendment → Operation
  | upgrade reported => .updateUpgradeStatus id reported
  | certExpiry reported => .updateCertExpiry id reported
  | status reported => .updateStatus id reported
  | sensor reported => .updateSensor id reported
  | auditLogs positions => .updateAuditLogs id positions

/-- What is wrong with a report itself, if something is. -/
def flaw? (id : String) : Amendment → Option Failure
  | auditLogs positions =>
    if id = "" then some (.reportWithoutId "audit log file states")
    else if positions.isEmpty then some (.noAuditPositions id)
    else none
  | _ => none

variable (amendment : Amendment) (cluster : Cluster)

theorem id_apply : (amendment.apply cluster).id = cluster.id := by
  cases amendment <;> rfl

/-- What is looked up on reading is none of the parts. -/
theorem apply_stored : amendment.apply cluster.stored = (amendment.apply cluster).stored := by
  cases amendment <;> rfl

end Amendment

namespace State

variable (state : State)

/-- What keeps a scope from changing the record of a cluster, whatever is stored. -/
def refusal? (scope : Scope) (id : String) : Option Failure :=
  if state.conditions.isOut .accessWrite ((named? id).getD "") then some Call.accessWrite.failure
  else if !state.grants.mayWrite scope (named? id) then some (.denied id)
  else if state.conditions.isOut .clusterGet id then some Call.clusterGet.failure
  else none

/-- What an amendment fails with, if it does. -/
def amendObstacle? (scope : Scope) (id : String) : Option Failure :=
  if id = "" then some (.reportWithoutId "cluster")
  else match state.refusal? scope id with
  | some failure => some failure
  | none =>
    if (state.clusters.get? id).isNone then some (.notFound id)
    else if state.conditions.isOut .clusterPut id then some Call.clusterPut.failure
    else none

/-- The state with a stored record changed. -/
def amended (id : String) (change : Cluster → Cluster) : State :=
  { state with clusters := state.clusters.change id fun cluster => (change cluster).stored }

variable {state} {other : State}

theorem refusal?_congr (hconditions : state.conditions = other.conditions)
    (hgrants : state.grants = other.grants) (scope : Scope) (id : String) :
    state.refusal? scope id = other.refusal? scope id := by
  unfold refusal?
  rw [hconditions, hgrants]

theorem amendObstacle?_congr (hconditions : state.conditions = other.conditions)
    (hgrants : state.grants = other.grants) {id : String}
    (hstored : (state.clusters.get? id).isSome = (other.clusters.get? id).isSome) (scope : Scope) :
    state.amendObstacle? scope id = other.amendObstacle? scope id := by
  unfold amendObstacle?
  rw [refusal?_congr hconditions hgrants, hconditions, ← Option.not_isSome, ← Option.not_isSome,
    hstored]

end State

namespace Registry

open Calls

variable {state : State} {scope : Scope} {id : String}

theorem requireId_of_named (hid : id ≠ "") (subject : String) :
    requireId id subject state = .ok () state := by
  unfold requireId
  rw [if_neg hid]
  rfl

theorem requireId_of_unnamed (hid : id = "") (subject : String) :
    requireId id subject state = .error (.reportWithoutId subject) state := by
  unfold requireId
  rw [if_pos hid]
  rfl

/-- A change of a stored record starts with the record, unless it is refused. -/
theorem ensured_load_apply {α : Type} (scope : Scope) (id : String) (next : Cluster → Action α)
    (state : State) :
    (ensureWrite scope id >>= fun _ => load id >>= next) state =
      match state.refusal? scope id with
      | some failure => .error failure state
      | none =>
        match state.clusters.get? id with
        | some cluster => next cluster state
        | none => .error (.notFound id) state := by
  unfold State.refusal?
  rw [bind_apply, ensureWrite_apply]
  by_cases hasked : state.conditions.isOut .accessWrite ((named? id).getD "")
  · rw [if_pos hasked, if_pos hasked]
  rw [if_neg hasked, if_neg hasked]
  by_cases hdenied : !state.grants.mayWrite scope (named? id)
  · rw [if_pos hdenied, if_pos hdenied]
  rw [if_neg hdenied, if_neg hdenied]
  dsimp only
  rw [bind_apply, load_apply]
  by_cases hloaded : state.conditions.isOut .clusterGet id
  · rw [if_pos hloaded, if_pos hloaded]
  rw [if_neg hloaded, if_neg hloaded]
  cases state.clusters.get? id <;> rfl

theorem putCluster_apply (cluster : Cluster) (state : State) :
    putCluster cluster state =
      if state.conditions.isOut .clusterPut cluster.id then .error Call.clusterPut.failure state
      else .ok () { state with clusters := state.clusters.insert cluster.id cluster.stored } :=
  expect_bind state _ _ _

theorem amend_apply (hkeyed : state.Keyed) {change : Cluster → Cluster}
    (hchange : ∀ cluster, (change cluster).id = cluster.id) (scope : Scope) (id : String) :
    amend scope id change state =
      match state.amendObstacle? scope id with
      | some failure => .error failure state
      | none => .ok () (state.amended id change) := by
  unfold amend State.amendObstacle?
  by_cases hid : id = ""
  · rw [if_pos hid, bind_of_error (requireId_of_unnamed hid _)]
  rw [if_neg hid, bind_of_ok (requireId_of_named hid _), ensured_load_apply]
  cases state.refusal? scope id with
  | some failure => rfl
  | none =>
    dsimp only
    cases hstored : state.clusters.get? id with
    | none => rfl
    | some cluster =>
      have hput := putCluster_apply (change cluster) state
      rw [hchange, hkeyed id cluster hstored] at hput
      dsimp only
      rw [hput, Option.isNone_some, if_neg Bool.false_ne_true, State.amended,
        Table.change_of_get? hstored]
      by_cases hout : state.conditions.isOut .clusterPut id
      · rw [if_pos hout, if_pos hout]
      · rw [if_neg hout, if_neg hout]

theorem updateAuditLogs_apply (scope : Scope) (id : String) (positions : Table AuditPosition)
    (state : State) :
    updateAuditLogs scope id positions state =
      match (Amendment.auditLogs positions).flaw? id with
      | some failure => .error failure state
      | none => amend scope id (Amendment.auditLogs positions).apply state := by
  unfold updateAuditLogs
  by_cases hid : id = ""
  · rw [bind_of_error (requireId_of_unnamed hid _)]
    simp only [Amendment.flaw?, if_pos hid]
  rw [bind_of_ok (requireId_of_named hid _)]
  by_cases hempty : positions.isEmpty
  · simp only [Amendment.flaw?, if_neg hid, if_pos hempty]
    rfl
  · simp only [Amendment.flaw?, if_neg hid, if_neg hempty]
    rfl

end Registry

/-- What a report comes to. -/
theorem Amendment.run_operation (amendment : Amendment) (id : String) (scope : Scope) {state : State}
    (hkeyed : state.Keyed) :
    (amendment.operation id).run scope state =
      match (amendment.flaw? id).or (state.amendObstacle? scope id) with
      | some failure => .error failure state
      | none => .ok .done (state.amended id amendment.apply) := by
  have hdone : ∀ report : Action Unit,
      (report state = match amendment.flaw? id with
        | some failure => .error failure state
        | none => Registry.amend scope id amendment.apply state) →
      (report >>= fun _ => pure Answer.done) state =
        match (amendment.flaw? id).or (state.amendObstacle? scope id) with
        | some failure => .error failure state
        | none => .ok .done (state.amended id amendment.apply) := by
    intro report hreport
    rw [bind_apply, hreport]
    cases amendment.flaw? id with
    | some failure => rfl
    | none =>
      dsimp only
      rw [Registry.amend_apply hkeyed amendment.id_apply]
      cases state.amendObstacle? scope id <;> rfl
  cases amendment with
  | auditLogs positions => exact hdone _ (Registry.updateAuditLogs_apply scope id positions state)
  | _ => exact hdone _ rfl

/-! ## Updates -/

/-- The record with status and audit log positions of another. -/
def Cluster.keeping (cluster existing : Cluster) : Cluster :=
  { cluster with status := existing.status, auditLogs := existing.auditLogs }

namespace Cluster

variable (cluster existing : Cluster) (defaultTimeout : Int32)

theorem normalize_keeping :
    (cluster.keeping existing).normalize defaultTimeout =
      ((cluster.normalize defaultTimeout).1.keeping existing,
        (cluster.normalize defaultTimeout).2) := by
  have hfill : (cluster.keeping existing).fill = cluster.fill.keeping existing := rfl
  have htimeout : (cluster.fill.keeping existing).admissionTimeout = cluster.fill.admissionTimeout := rfl
  simp only [normalize, hfill, htimeout]
  split
  · rfl
  · split <;> rfl

/-- Status and audit log positions have no part in what is checked and filled in. -/
theorem prepare_keeping :
    (cluster.keeping existing).prepare defaultTimeout =
      (cluster.prepare defaultTimeout).map (·.keeping existing) := by
  unfold prepare
  rw [normalize_keeping]
  obtain ⟨normal, problem⟩ := cluster.normalize defaultTimeout
  cases problem with
  | some failure => rfl
  | none =>
    have hobjection : (normal.keeping existing).objection? = normal.objection? := rfl
    simp only [hobjection]
    cases normal.objection? <;> rfl

end Cluster

/-- What adding an entry to the index fails with, if it does. -/
def Conditions.indexFailure? (conditions : Conditions) (id : String) : Option Failure :=
  if conditions.isOut .indexAdd id then some Call.indexAdd.failure
  else if conditions.offline.contains .index then some Part.index.failure
  else none

namespace State

variable (state : State)

/-- What an update fails with before it writes anything, if it does. -/
def updateObstacle? (scope : Scope) (given : Cluster) : Option Failure :=
  if given.id = "" then some (.updateWithoutId given.name)
  else match state.refusal? scope given.id with
  | some failure => some failure
  | none =>
    match (state.clusters.get? given.id).map (·.name) with
    | none => some (.notFound given.id)
    | some name =>
      if name ≠ given.name then some (.renamed name given.name)
      else match given.prepare state.settings.admissionTimeout with
      | .error failure => some failure
      | .ok _ =>
        if state.conditions.isOut .clusterPut given.id then some Call.clusterPut.failure else none

/-- What an update comes to once a record is to be written: it is stored, indexed and sent to the agent,
unless the index fails. -/
def replacing (written : Cluster) : EStateM.Result Failure State Delivery :=
  match state.conditions.indexFailure? written.id with
  | some failure => .error failure (state.withRecord written)
  | none =>
    let sent := state.roster.send written.id (written.dynamic.getD default)
    .ok sent.1 { (state.withRecord written).withIndexed written with roster := sent.2 }

theorem replacing_of_failure {written : Cluster} {failure : Failure}
    (h : state.conditions.indexFailure? written.id = some failure) :
    state.replacing written = .error failure (state.withRecord written) := by
  unfold replacing
  rw [h]

theorem replacing_of_indexed {written : Cluster}
    (h : state.conditions.indexFailure? written.id = none) :
    state.replacing written =
      .ok (state.roster.send written.id (written.dynamic.getD default)).1
        { (state.withRecord written).withIndexed written with
          roster := (state.roster.send written.id (written.dynamic.getD default)).2 } := by
  unfold replacing
  rw [h]

variable {state} {other : State}

theorem updateObstacle?_congr (hconditions : state.conditions = other.conditions)
    (hgrants : state.grants = other.grants) (hsettings : state.settings = other.settings)
    {given : Cluster}
    (hnamed : (state.clusters.get? given.id).map (·.name) = (other.clusters.get? given.id).map (·.name))
    (scope : Scope) : state.updateObstacle? scope given = other.updateObstacle? scope given := by
  unfold updateObstacle?
  rw [refusal?_congr hconditions hgrants, hconditions, hsettings, hnamed]

theorem updateObstacle?_eq_none_iff {scope : Scope} {given : Cluster} :
    state.updateObstacle? scope given = none ↔
      given.id ≠ "" ∧ state.refusal? scope given.id = none ∧
        state.conditions.isOut .clusterPut given.id = false ∧
        ∃ existing normal, state.clusters.get? given.id = some existing ∧
          existing.name = given.name ∧
          given.prepare state.settings.admissionTimeout = .ok normal := by
  unfold updateObstacle?
  constructor
  · intro h
    split at h
    · cases h
    rename_i hid
    split at h
    · cases h
    rename_i hrefusal
    split at h
    · cases h
    rename_i name hname
    obtain ⟨existing, hstored, rfl⟩ := Option.map_eq_some_iff.1 hname
    split at h
    · cases h
    rename_i hsame
    split at h
    · cases h
    rename_i normal hprepare
    split at h
    · cases h
    rename_i hput
    exact ⟨hid, hrefusal, Bool.eq_false_iff.2 hput, existing, normal, hstored,
      Decidable.not_not.1 hsame, hprepare⟩
  · rintro ⟨hid, hrefusal, hput, existing, normal, hstored, hname, hprepare⟩
    rw [if_neg hid, hrefusal, hstored, Option.map_some]
    dsimp only
    rw [if_neg (not_not_intro hname), hprepare]
    dsimp only
    rw [hput, if_neg Bool.false_ne_true]

end State

namespace Registry

open Calls

theorem expectOnline_apply (part : Part) (state : State) :
    expectOnline part state =
      if state.conditions.offline.contains part then .error part.failure state else .ok () state := by
  change conclude (state.conditions.checkPart part) state = _
  unfold Conditions.checkPart
  split <;> rfl

theorem indexCluster_apply (cluster : Cluster) (state : State) :
    indexCluster cluster state =
      match state.conditions.indexFailure? cluster.id with
      | some failure => .error failure state
      | none => .ok () (state.withIndexed cluster) := by
  unfold indexCluster Conditions.indexFailure?
  rw [expect_bind]
  by_cases hout : state.conditions.isOut .indexAdd cluster.id
  · rw [if_pos hout, if_pos hout]
  rw [if_neg hout, if_neg hout, bind_apply, expectOnline_apply]
  by_cases hoffline : state.conditions.offline.contains .index
  · rw [if_pos hoffline, if_pos hoffline]
  · rw [if_neg hoffline, if_neg hoffline]
    rfl

theorem store_apply {cluster normal : Cluster} {state : State}
    (hprepare : cluster.prepare state.settings.admissionTimeout = .ok normal) :
    store cluster state =
      if state.conditions.isOut .clusterPut normal.id then .error Call.clusterPut.failure state
      else match state.conditions.indexFailure? normal.id with
      | some failure => .error failure (state.withRecord normal)
      | none => .ok normal ((state.withRecord normal).withIndexed normal) := by
  have hput := putCluster_apply normal state
  have hindex := indexCluster_apply normal (state.withRecord normal)
  rw [show (state.withRecord normal).conditions = state.conditions from rfl] at hindex
  unfold store
  rw [bind_apply, prepare_apply, hprepare]
  change (putCluster normal >>= fun _ => publish normal >>= fun _ => pure normal) state = _
  by_cases hout : state.conditions.isOut .clusterPut normal.id
  · rw [if_pos hout] at hput ⊢
    rw [bind_of_error hput]
  rw [if_neg hout] at hput ⊢
  rw [bind_of_ok hput]
  change (indexCluster normal >>= fun _ => pure normal) (state.withRecord normal) = _
  rw [bind_apply, hindex]
  cases state.conditions.indexFailure? normal.id <;> rfl

/-- A record that is stored is sent to the agent too. -/
theorem store_push_apply {cluster normal : Cluster} {state : State}
    (hprepare : cluster.prepare state.settings.admissionTimeout = .ok normal) :
    (store cluster >>= push) state =
      if state.conditions.isOut .clusterPut normal.id then .error Call.clusterPut.failure state
      else state.replacing normal := by
  unfold State.replacing
  rw [bind_apply, store_apply hprepare]
  by_cases hout : state.conditions.isOut .clusterPut normal.id
  · rw [if_pos hout, if_pos hout]
  · rw [if_neg hout, if_neg hout]
    cases state.conditions.indexFailure? normal.id <;> rfl

variable {state : State} {scope : Scope} {given : Cluster}

theorem update_of_named (hid : given.id ≠ "") :
    update scope given state = (ensureWrite scope given.id >>= fun _ => load given.id >>= fun existing =>
      if existing.name ≠ given.name then throw (.renamed existing.name given.name)
      else store (given.keeping existing) >>= push) state := by
  unfold update
  rw [if_neg hid]
  rfl

theorem update_of_obstacle {failure : Failure} (h : state.updateObstacle? scope given = some failure) :
    update scope given state = .error failure state := by
  unfold State.updateObstacle? at h
  by_cases hid : given.id = ""
  · unfold update
    rw [if_pos hid] at h ⊢
    cases h
    rfl
  rw [if_neg hid] at h
  rw [update_of_named hid, ensured_load_apply]
  cases hrefusal : state.refusal? scope given.id with
  | some refusal =>
    rw [hrefusal] at h
    cases h
    rfl
  | none =>
    rw [hrefusal] at h
    dsimp only at h ⊢
    cases hstored : state.clusters.get? given.id with
    | none =>
      rw [hstored] at h
      cases h
      rfl
    | some existing =>
      rw [hstored] at h
      dsimp only [Option.map_some] at h ⊢
      by_cases hname : existing.name ≠ given.name
      · rw [if_pos hname] at h ⊢
        cases h
        rfl
      rw [if_neg hname] at h ⊢
      have hkeeping := given.prepare_keeping existing state.settings.admissionTimeout
      cases hprepare : given.prepare state.settings.admissionTimeout with
      | error unfit =>
        rw [hprepare] at h hkeeping
        cases h
        rw [bind_of_error (store_of_unfit hkeeping)]
      | ok normal =>
        rw [hprepare] at h hkeeping
        dsimp only at h
        have hnormal : (normal.keeping existing).id = given.id :=
          (Cluster.sameSubject_of_prepare hprepare).id
        rw [store_push_apply hkeeping, hnormal]
        split at h
        · rename_i hout
          cases h
          rw [if_pos hout]
        · cases h

theorem update_of_unobstructed (h : state.updateObstacle? scope given = none) {existing normal : Cluster}
    (hstored : state.clusters.get? given.id = some existing)
    (hprepare : given.prepare state.settings.admissionTimeout = .ok normal) :
    update scope given state = state.replacing (normal.keeping existing) := by
  obtain ⟨hid, hrefusal, hput, another, -, hanother, hname, -⟩ := State.updateObstacle?_eq_none_iff.1 h
  rw [hstored] at hanother
  cases hanother
  have hkeeping := given.prepare_keeping existing state.settings.admissionTimeout
  rw [hprepare] at hkeeping
  have hnormal : (normal.keeping existing).id = given.id :=
    (Cluster.sameSubject_of_prepare hprepare).id
  rw [update_of_named hid, ensured_load_apply, hrefusal, hstored]
  dsimp only
  rw [if_neg (not_not_intro hname), store_push_apply hkeeping, hnormal, hput,
    if_neg Bool.false_ne_true]

end Registry

end Fleet
