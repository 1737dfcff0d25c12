import Fleet.Proofs.Actions
import Fleet.Proofs.Directory
import Fleet.Proofs.NormalForm
import Fleet.Registry.Enrolment
import Fleet.Registry.Reads

/-!
# Reading and writing records

Everything that the steps of a call can come to, with the faults of the collaborators taken into
account, and what they do come to while nothing is out of order. A write that is interrupted has stored
the record and entered its name; what comes later may be missing.
-/

namespace Fleet

namespace State

/-- The state with a record stored and its name entered. -/
def withRecord (state : State) (cluster : Cluster) : State :=
  { state with
    clusters := state.clusters.insert cluster.id cluster.stored
    directory := state.directory.insert cluster.id cluster.name }

/-- The state with a record indexed. -/
def withIndexed (state : State) (cluster : Cluster) : State :=
  { state with index := state.index.insert cluster.id cluster }

/-- The state with a flow store for a cluster. -/
def withFlows (state : State) (id : String) : State :=
  { state with flows := state.flows.insert id () }

/-- The state with the record of a new cluster stored, its name entered and its id used up. -/
def withNewcomer (state : State) (cluster : Cluster) : State :=
  { state.withRecord cluster with issued := state.issued + 1 }

end State

namespace Registry

open Fleet.Action Calls

/-! ## Loading and access -/

/-- What loading a record can come to. -/
inductive Loads (id : String) (state : State) : EStateM.Result Failure State Cluster → Prop
  | failed {failure : Failure} (hfault : IsFault state failure) :
      Loads id state (.error failure state)
  | missing (habsent : state.clusters.get? id = none) : Loads id state (.error (.notFound id) state)
  | found {cluster : Cluster} (hstored : state.clusters.get? id = some cluster) :
      Loads id state (.ok cluster state)

theorem load_result (id : String) (state : State) : Loads id state (load id state) := by
  unfold load
  rcases findCluster_serves state id with hfind | ⟨failure, hfault, hfind⟩
  · rw [bind_of_ok hfind]
    cases hget : state.clusters.get? id with
    | none => exact .missing hget
    | some cluster => exact .found hget
  · rw [bind_of_error hfind]
    exact .failed hfault

theorem load_of_stored {id : String} {state : State} {cluster : Cluster}
    (hcalm : state.conditions = {}) (hstored : state.clusters.get? id = some cluster) :
    load id state = .ok cluster state := by
  unfold load
  rw [bind_of_ok ((findCluster_serves state id).calm hcalm), hstored]
  rfl

theorem load_of_absent {id : String} {state : State} (hcalm : state.conditions = {})
    (habsent : state.clusters.get? id = none) : load id state = .error (.notFound id) state := by
  unfold load
  rw [bind_of_ok ((findCluster_serves state id).calm hcalm), habsent]
  rfl

/-- What the check of write access can come to. -/
inductive Permits (scope : Scope) (id : String) (state : State) :
    EStateM.Result Failure State Unit → Prop
  | failed {failure : Failure} (hfault : IsFault state failure) :
      Permits scope id state (.error failure state)
  | denied (hdenied : state.grants.mayWrite scope (named? id) = false) :
      Permits scope id state (.error (.denied id) state)
  | allowed (hallowed : state.grants.mayWrite scope (named? id) = true) :
      Permits scope id state (.ok () state)

theorem ensureWrite_result (scope : Scope) (id : String) (state : State) :
    Permits scope id state (ensureWrite scope id state) := by
  unfold ensureWrite
  rcases mayWrite_serves state scope (named? id) with hask | ⟨failure, hfault, hask⟩
  · rw [bind_of_ok hask]
    cases hallowed : state.grants.mayWrite scope (named? id) with
    | false => exact .denied hallowed
    | true => exact .allowed hallowed
  · rw [bind_of_error hask]
    exact .failed hfault

/-! ## Storing -/

/-- What storing a record can come to. -/
inductive Stores (cluster : Cluster) (state : State) : EStateM.Result Failure State Cluster → Prop
  | unfit {failure : Failure}
      (hprepare : cluster.prepare state.settings.admissionTimeout = .error failure) :
      Stores cluster state (.error failure state)
  | failed {failure : Failure} (hfault : IsFault state failure) :
      Stores cluster state (.error failure state)
  | unindexed {failure : Failure} {normal : Cluster} (hfault : IsIndexFault state failure)
      (hprepare : cluster.prepare state.settings.admissionTimeout = .ok normal) :
      Stores cluster state (.error failure (state.withRecord normal))
  | done {normal : Cluster}
      (hprepare : cluster.prepare state.settings.admissionTimeout = .ok normal) :
      Stores cluster state (.ok normal ((state.withRecord normal).withIndexed normal))

theorem prepare_apply (cluster : Cluster) (state : State) :
    prepare cluster state = conclude (cluster.prepare state.settings.admissionTimeout) state := rfl

theorem store_result (cluster : Cluster) (state : State) :
    Stores cluster state (store cluster state) := by
  unfold store
  rw [bind_apply, prepare_apply]
  cases hprepare : cluster.prepare state.settings.admissionTimeout with
  | error failure => exact .unfit hprepare
  | ok normal =>
    change Stores cluster state ((putCluster normal >>= fun _ => publish normal >>= fun _ =>
      pure normal) state)
    rcases putCluster_serves state normal with hput | ⟨failure, hfault, hput⟩
    · rw [bind_of_ok hput]
      change Stores cluster state ((indexCluster normal >>= fun _ => pure normal)
        (state.withRecord normal))
      rcases indexCluster_serves (state.withRecord normal) normal with
        hindex | ⟨failure, hfault, hindex⟩
      · rw [bind_of_ok hindex]
        exact .done hprepare
      · rw [bind_of_error hindex]
        exact .unindexed
          ⟨⟨hfault.retryable, hfault.disorder⟩, isIndexFailure_of_indexCluster hindex⟩ hprepare
    · rw [bind_of_error hput]
      exact .failed hfault

theorem store_of_prepared {cluster normal : Cluster} {state : State}
    (hcalm : state.conditions = {})
    (hprepare : cluster.prepare state.settings.admissionTimeout = .ok normal) :
    store cluster state = .ok normal ((state.withRecord normal).withIndexed normal) := by
  unfold store
  rw [bind_apply, prepare_apply, hprepare]
  change (putCluster normal >>= fun _ => publish normal >>= fun _ => pure normal) state = _
  rw [bind_of_ok ((putCluster_serves state normal).calm hcalm)]
  change (indexCluster normal >>= fun _ => pure normal) (state.withRecord normal) = _
  rw [bind_of_ok ((indexCluster_serves (state.withRecord normal) normal).calm hcalm)]
  rfl

theorem store_of_unfit {cluster : Cluster} {state : State} {failure : Failure}
    (hprepare : cluster.prepare state.settings.admissionTimeout = .error failure) :
    store cluster state = .error failure state := by
  unfold store
  rw [bind_apply, prepare_apply, hprepare]
  rfl

theorem dropRecord_serves (id : String) (state : State) :
    Serves (dropRecord id) state () { state with
      clusters := state.clusters.erase id, directory := state.directory.erase id } := by
  unfold dropRecord
  rcases dropCluster_serves state id with hdrop | ⟨failure, hfault, hdrop⟩
  · exact .inl (bind_of_ok hdrop)
  · exact .inr ⟨failure, hfault, bind_of_error hdrop⟩

/-! ## Enrolling -/

/-- A record can be enrolled, and this is its normal form under the next id. -/
structure Enrollable (cluster : Cluster) (state : State) (normal : Cluster) : Prop where
  unobjected : enrolmentObjection? state.directory cluster = none
  prepared : ({ cluster with id := state.nextId } : Cluster).prepare
    state.settings.admissionTimeout = .ok normal

/-- Nothing speaks against enrolling a record that has no id and a name that nobody has. -/
theorem enrolmentObjection?_eq_none_iff (directory : Directory) (cluster : Cluster) :
    enrolmentObjection? directory cluster = none ↔
      cluster.id = "" ∧ cluster.name ≠ "" ∧ directory.idOf? cluster.name = none := by
  unfold enrolmentObjection?
  by_cases hid : cluster.id = ""
  · by_cases hname : cluster.name = ""
    · simp [hid, hname]
    · simp [hid, hname]
  · simp [hid]

namespace Enrollable

variable {cluster normal : Cluster} {state : State}

theorem anonymous (h : Enrollable cluster state normal) : cluster.id = "" :=
  ((enrolmentObjection?_eq_none_iff _ _).1 h.unobjected).1

theorem id (h : Enrollable cluster state normal) : normal.id = state.nextId :=
  (Cluster.sameSubject_of_prepare h.prepared).id

theorem name (h : Enrollable cluster state normal) : normal.name = cluster.name :=
  (Cluster.sameSubject_of_prepare h.prepared).name

theorem sensor (h : Enrollable cluster state normal) : normal.sensor = cluster.sensor :=
  (Cluster.sameSubject_of_prepare h.prepared).sensor

theorem managed (h : Enrollable cluster state normal) : normal.managed = cluster.managed := by
  rw [Cluster.managed_of_prepare h.prepared]

theorem stored (h : Enrollable cluster state normal) (hstored : cluster.stored = cluster) :
    normal.stored = normal := by
  refine Cluster.stored_of_prepare h.prepared ?_
  exact congrArg (fun given : Cluster => { given with id := state.nextId }) hstored

/-- Nobody goes by the name of a record that can be enrolled. -/
theorem free (h : Enrollable cluster state normal) (id : String) :
    state.directory.nameOf? id ≠ some normal.name := by
  have hfree := ((enrolmentObjection?_eq_none_iff _ _).1 h.unobjected).2.2
  rw [h.name]
  exact (Directory.idOf?_eq_none_iff _ _).1 hfree id

end Enrollable

/-- What enrolling a record can come to. -/
inductive Enrols (cluster : Cluster) (state : State) : EStateM.Result Failure State Cluster → Prop
  | refused {failure : Failure} : Enrols cluster state (.error failure state)
  | unindexed {failure : Failure} {normal : Cluster} (hfault : IsIndexFault state failure)
      (henrol : Enrollable cluster state normal) :
      Enrols cluster state (.error failure (state.withNewcomer normal))
  | flowless {failure : Failure} {normal : Cluster} (hfault : IsFault state failure)
      (henrol : Enrollable cluster state normal) :
      Enrols cluster state (.error failure ((state.withNewcomer normal).withIndexed normal))
  | done {normal : Cluster} (henrol : Enrollable cluster state normal) :
      Enrols cluster state
        (.ok normal (((state.withNewcomer normal).withIndexed normal).withFlows normal.id))

/-- The part of enrolling that follows the checks. -/
theorem enrol_of_unobjected {cluster : Cluster} {state : State}
    (h : enrolmentObjection? state.directory cluster = none) :
    enrol cluster state =
      (prepare { cluster with id := state.nextId } >>= fun normal =>
        putCluster normal >>= fun _ =>
        modify (fun state => { state with issued := state.issued + 1 }) >>= fun _ =>
        publish normal >>= fun _ =>
        (createFlows normal.id).attempt >>= fun provided =>
        match provided with
        | .ok () => pure normal
        | .error cause => throw (.flowStoreMissing normal.id cause)) state := by
  unfold enrol
  rw [bind_of_ok (get_apply state)]
  simp only [h]
  rfl

theorem enrol_of_objection {cluster : Cluster} {state : State} {failure : Failure}
    (h : enrolmentObjection? state.directory cluster = some failure) :
    enrol cluster state = .error failure state := by
  unfold enrol
  rw [bind_of_ok (get_apply state)]
  simp only [h]
  rfl

theorem enrol_result (cluster : Cluster) (state : State) :
    Enrols cluster state (enrol cluster state) := by
  cases hobjection : enrolmentObjection? state.directory cluster with
  | some failure =>
    rw [enrol_of_objection hobjection]
    exact .refused
  | none =>
    rw [enrol_of_unobjected hobjection, bind_apply, prepare_apply]
    cases hprepare : ({ cluster with id := state.nextId } : Cluster).prepare
        state.settings.admissionTimeout with
    | error failure => exact .refused
    | ok normal =>
      have henrol : Enrollable cluster state normal := ⟨hobjection, hprepare⟩
      change Enrols cluster state ((putCluster normal >>= fun _ => _) state)
      rcases putCluster_serves state normal with hput | ⟨failure, -, hput⟩
      · rw [bind_of_ok hput]
        let stored := state.withNewcomer normal
        change Enrols cluster state ((indexCluster normal >>= fun _ => _) stored)
        rcases indexCluster_serves stored normal with hindex | ⟨failure, hfault, hindex⟩
        · rw [bind_of_ok hindex]
          let indexed := stored.withIndexed normal
          change Enrols cluster state (((createFlows normal.id).attempt >>= _) indexed)
          rcases createFlows_serves indexed normal.id with hflow | ⟨failure, hfault, hflow⟩
          · rw [bind_of_ok (attempt_of_ok hflow)]
            exact .done henrol
          · rw [bind_of_ok (attempt_of_error hflow)]
            exact .flowless ⟨rfl, hfault.disorder⟩ henrol
        · rw [bind_of_error hindex]
          exact .unindexed
            ⟨⟨hfault.retryable, hfault.disorder⟩, isIndexFailure_of_indexCluster hindex⟩ henrol
      · rw [bind_of_error hput]
        exact .refused

theorem enrol_of_enrollable {cluster normal : Cluster} {state : State}
    (hcalm : state.conditions = {}) (h : Enrollable cluster state normal) :
    enrol cluster state =
      .ok normal (((state.withNewcomer normal).withIndexed normal).withFlows normal.id) := by
  let stored := state.withNewcomer normal
  let indexed := stored.withIndexed normal
  rw [enrol_of_unobjected h.unobjected, bind_apply, prepare_apply, h.prepared]
  change (putCluster normal >>= fun _ => _) state = _
  rw [bind_of_ok ((putCluster_serves state normal).calm hcalm)]
  change (indexCluster normal >>= fun _ => _) stored = _
  rw [bind_of_ok ((indexCluster_serves stored normal).calm hcalm)]
  change ((createFlows normal.id).attempt >>= _) indexed = _
  rw [bind_of_ok (attempt_of_ok ((createFlows_serves indexed normal.id).calm hcalm))]
  rfl

theorem enrol_of_unfit {cluster : Cluster} {state : State} {failure : Failure}
    (hobjection : enrolmentObjection? state.directory cluster = none)
    (hprepare : ({ cluster with id := state.nextId } : Cluster).prepare
      state.settings.admissionTimeout = .error failure) :
    enrol cluster state = .error failure state := by
  rw [enrol_of_unobjected hobjection, bind_apply, prepare_apply, hprepare]
  rfl

end Registry

end Fleet
