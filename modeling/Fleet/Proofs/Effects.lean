import Fleet.Proofs.Adoption
import Fleet.Proofs.Questions
import Fleet.Registry.Operation

/-!
# What a call to the registry can do to the state

Every call, on behalf of any scope and with any collaborators out of order, does one of a few things to
the state: nothing, or one kind of write that may have been interrupted. `Effect` lists them with what
has been checked by then; what holds of every run is shown from this list alone.
-/

namespace Fleet

open Fleet.Action

/-! ## Access -/

namespace Grants

/-- Who may write all clusters may write each of them. -/
theorem mayWrite_of_none {grants : Grants} {scope : Scope}
    (h : grants.mayWrite scope none = true) (id : String) :
    grants.mayWrite scope (some id) = true := by
  cases scope with
  | system => rfl
  | subject name =>
    simp only [mayWrite, Option.any_eq_true, Grant.coversWrite, Option.any_none, Bool.or_false] at h ⊢
    obtain ⟨grant, hgrant, hall⟩ := h
    exact ⟨grant, hgrant, by simp [hall]⟩

theorem mayWrite_of_named {grants : Grants} {scope : Scope} {id : String}
    (h : grants.mayWrite scope (named? id) = true) : grants.mayWrite scope (some id) = true := by
  unfold named? at h
  split at h
  · exact mayWrite_of_none h id
  · exact h

end Grants

/-- Who may make an announcement may write the cluster that it is about. -/
theorem Registry.mayWrite_of_target? {grants : Grants} {scope : Scope} {directory : Directory}
    {announcement : Announcement} {id : String}
    (htarget : target? directory announcement = some id)
    (h : grants.mayWrite scope (named? (announcement.clusterId.getD "")) = true) :
    grants.mayWrite scope (some id) = true := by
  rcases target?_eq_some_iff.1 htarget with ⟨hid, -⟩ | ⟨hid, -, -⟩
  · rw [hid] at h
    exact Grants.mayWrite_of_named h
  · rw [hid] at h
    exact Grants.mayWrite_of_none h id

/-! ## The kinds of writes -/

namespace Operation

/-- A call that may be answered without a write: a question, or an announcement of what is known. -/
def asks : Operation → Bool
  | read _ | readAll | isRegistered _ | nameOf _ | search _ | searchRecords _ | count _ | pending
  | announce _ => true
  | _ => false

/-- The record that a call may enrol. -/
def newcomer? : Operation → Option Cluster
  | create cluster => some cluster
  | announce announcement => some announcement.newCluster
  | _ => none

/-- The record that a call may store in place of an existing one. -/
def revision? (existing : Cluster) : Operation → Option Cluster
  | update given => some { given with status := existing.status, auditLogs := existing.auditLogs }
  | announce announcement => existing.converged? announcement.managed
  | _ => none

/-- The cluster of which a call changes the stored record and nothing else, and the change. -/
def amendment? : Operation → Option (String × (Cluster → Cluster))
  | updateUpgradeStatus id upgrade => some (id, (·.setUpgrade upgrade))
  | updateCertExpiry id expiry => some (id, (·.setCertExpiry expiry))
  | updateStatus id status => some (id, (·.setStatus status))
  | updateSensor id sensor => some (id, (·.setSensor sensor))
  | updateAuditLogs id positions => some (id, (·.enterAuditLogs positions))
  | _ => none

theorem frame_of_amendment? {operation : Operation} {id : String} {change : Cluster → Cluster}
    (h : operation.amendment? = some (id, change)) (cluster : Cluster) :
    (change cluster).id = cluster.id ∧ (change cluster).name = cluster.name := by
  cases operation <;> cases h <;> exact ⟨rfl, rfl⟩

end Operation

namespace State

/-- Every record is stored under its own id. -/
def Keyed (state : State) : Prop :=
  ∀ id cluster, state.clusters.get? id = some cluster → cluster.id = id

/-- Every stored record, as it is loaded anew. -/
def records (state : State) : List Cluster :=
  state.clusters.values.mergeSort Cluster.before

/-- The directory after the stored names were entered anew. -/
def rereadDirectory (state : State) : Directory :=
  state.records.foldl (fun names cluster => names.insert cluster.id cluster.name) state.directory

/-- The index after the stored records were entered anew, each with its health. -/
def rereadIndex (state : State) : Table Cluster :=
  let clusters := state.records.map fun cluster =>
    { cluster with health := state.holdings.health.get? cluster.id }
  state.index.insertMany (clusters.map fun cluster => (cluster.id, cluster))

/-- What a report makes of the index: an entry is renewed if the cluster is stored and a level that
searches look at has changed. -/
def reindexed (state : State) (id : String) (report : Health) : Table Cluster :=
  let update := Snapshots.updated state.holdings.health id report
  match state.clusters.get? id with
  | some cluster =>
    if update.livenessChanged then
      state.index.insert id { cluster with health := some update.snapshot }
    else state.index
  | none => state.index

end State

/-- The answer is the failure of a collaborator that is out of order. -/
def IsInterrupted (before : State) (answer : Except Failure Answer) : Prop :=
  ∃ failure, answer = .error failure ∧ IsFault before failure

/-- The answer is the failure of the search index. -/
def IsUnindexed (before : State) (answer : Except Failure Answer) : Prop :=
  ∃ failure, answer = .error failure ∧ IsIndexFault before failure

/-- What a call on behalf of a scope can do to the state. A write that comes to its end is answered;
one that does not is interrupted by a collaborator. -/
inductive Effect (scope : Scope) (before : State) : Operation → Except Failure Answer → State → Prop
  /-- Nothing is written; at most the call is counted. -/
  | idle {operation : Operation} {answer : Except Failure Answer} (tally : Tally)
      (hanswer : operation.asks = true ∨ ∃ failure, answer = .error failure) :
      Effect scope before operation answer { before with tally }
  /-- The record of a new cluster is written. -/
  | enrolled {operation : Operation} {answer : Except Failure Answer} {given normal : Cluster}
      (tally : Tally) (index : Table Cluster) (flows : Table Unit)
      (hoperation : operation.newcomer? = some given)
      (hallowed : before.grants.mayWrite scope none = true)
      (henrol : Registry.Enrollable given before normal)
      (hend : (∃ value, answer = .ok value) ∧ index = before.index.insert normal.id normal ∧
          flows = before.flows.insert normal.id () ∨
        flows = before.flows ∧ (IsUnindexed before answer ∧ index = before.index ∨
          IsInterrupted before answer ∧ index = before.index.insert normal.id normal)) :
      Effect scope before operation answer { before.withNewcomer normal with index, flows, tally }
  /-- The record of a known cluster is written. -/
  | revised {operation : Operation} {answer : Except Failure Answer} {id : String}
      {existing given normal : Cluster} (tally : Tally) (index : Table Cluster) (roster : Roster)
      (hoperation : operation.revision? existing = some given)
      (hstored : before.clusters.get? id = some existing)
      (hallowed : before.grants.mayWrite scope (some id) = true)
      (hid : given.id = id) (hname : given.name = existing.name)
      (hprepare : given.prepare before.settings.admissionTimeout = .ok normal)
      (hend : (∃ value, answer = .ok value) ∧ index = before.index.insert normal.id normal ∨
        IsUnindexed before answer ∧ index = before.index)
      (hroster : roster = before.roster ∨
        roster = (before.roster.send normal.id (normal.dynamic.getD default)).2) :
      Effect scope before operation answer { before.withRecord normal with index, roster, tally }
  /-- The stored record of a cluster is changed and nothing else. -/
  | amended {operation : Operation} {id : String} {change : Cluster → Cluster} {existing : Cluster}
      (hoperation : operation.amendment? = some (id, change))
      (hstored : before.clusters.get? id = some existing)
      (hallowed : before.grants.mayWrite scope (some id) = true) :
      Effect scope before operation (.ok .done)
        { before with clusters := before.clusters.insert id (change existing).stored }
  /-- A health report is recorded. -/
  | reported {id : String} {report : Health} {answer : Except Failure Answer}
      (index : Table Cluster)
      (hallowed : before.grants.mayWrite scope (some id) = true)
      (hend : answer = .ok .done ∧ index = before.reindexed id report ∨
        IsInterrupted before answer ∧ index = before.index) :
      Effect scope before (.updateHealth id report) answer
        { before with holdings := before.holdings.recordHealth id report, index }
  /-- A record is dropped and its teardown submitted. -/
  | removed {id : String} {ticket : Option Nat} {cluster : Cluster} {answer : Except Failure Answer}
      (tally : Tally) (index : Table Cluster)
      (hstored : before.clusters.get? id = some cluster)
      (hallowed : before.grants.mayWrite scope (some id) = true)
      (hend : answer = .ok .done ∧ index = before.index.erase id ∨
        IsUnindexed before answer ∧ index = before.index) :
      Effect scope before (.remove id ticket) answer
        { before with
          clusters := before.clusters.erase id
          directory := before.directory.erase id
          index
          queue := before.queue.submit before.settings.queueCapacity { cluster, ticket }
          agenda := before.agenda.call (before.queue.nextTurn before.settings.queueCapacity)
          tally }
  /-- Directory and index are loaded anew. -/
  | rebuilt {answer : Except Failure Answer} (tally : Tally) (index : Table Cluster)
      (hend : answer = .ok .done ∧ index = before.rereadIndex ∨
        IsUnindexed before answer ∧ index = before.index) :
      Effect scope before .rebuild answer
        { before with directory := before.rereadDirectory, index, tally }

theorem Effect.refused {scope : Scope} {before : State} {operation : Operation} {failure : Failure}
    (tally : Tally) : Effect scope before operation (.error failure) { before with tally } :=
  .idle tally (.inr ⟨failure, rfl⟩)

/-! ## Every call has one of these effects -/

/-- What a call comes to, with its answer wrapped, is an effect of the operation. -/
def Effected {α : Type} (scope : Scope) (before : State) (operation : Operation) (wrap : α → Answer) :
    EStateM.Result Failure State α → Prop
  | .ok answer after => Effect scope before operation (.ok (wrap answer)) after
  | .error failure after => Effect scope before operation (.error failure) after

namespace Effected

section

variable {α : Type} {scope : Scope} {before : State} {operation : Operation} {wrap : α → Answer}

theorem of_answered {action : Action α} (h : Effected scope before operation wrap (action before)) :
    Effected scope before operation (fun answer => answer)
      ((action >>= fun answer => pure (wrap answer)) before) := by
  rw [bind_apply]
  cases hrun : action before with
  | ok answer after =>
    rw [hrun] at h
    exact h
  | error failure after =>
    rw [hrun] at h
    exact h

theorem of_quiet {action : Action α} (h : Quiet action) (hasks : operation.asks = true) :
    Effected scope before operation wrap (action before) := by
  rcases h.cases before with ⟨answer, hrun⟩ | ⟨failure, hrun⟩
  · rw [hrun]
    exact .idle before.tally (.inl hasks)
  · rw [hrun]
    exact .refused before.tally

theorem of_requireId {id subject : String} {next : Unit → Action α}
    (h : Effected scope before operation wrap (next () before)) :
    Effected scope before operation wrap ((Registry.requireId id subject >>= next) before) := by
  by_cases hid : id = ""
  · have hrefused : Registry.requireId id subject before =
        .error (.reportWithoutId subject) before := by
      unfold Registry.requireId
      rw [if_pos hid]
      rfl
    rw [bind_of_error hrefused]
    exact .refused before.tally
  · have hpassed : Registry.requireId id subject before = .ok () before := by
      unfold Registry.requireId
      rw [if_neg hid]
      rfl
    rw [bind_of_ok hpassed]
    exact h

/-- A call goes on only if the scope may write the cluster. -/
theorem of_ensureWrite {id : String} {next : Unit → Action α}
    (h : before.grants.mayWrite scope (named? id) = true →
      Effected scope before operation wrap (next () before)) :
    Effected scope before operation wrap ((Registry.ensureWrite scope id >>= next) before) := by
  generalize hask : Registry.ensureWrite scope id before = asked
  cases hask ▸ Registry.ensureWrite_result scope id before with
  | failed =>
    rw [bind_of_error hask]
    exact .refused before.tally
  | denied =>
    rw [bind_of_error hask]
    exact .refused before.tally
  | allowed hallowed =>
    rw [bind_of_ok hask]
    exact h hallowed

/-- A call goes on only if the cluster is stored. -/
theorem of_load {id : String} {next : Cluster → Action α}
    (h : ∀ cluster, before.clusters.get? id = some cluster →
      Effected scope before operation wrap (next cluster before)) :
    Effected scope before operation wrap ((Registry.load id >>= next) before) := by
  generalize hload : Registry.load id before = loaded
  cases hload ▸ Registry.load_result id before with
  | failed =>
    rw [bind_of_error hload]
    exact .refused before.tally
  | missing =>
    rw [bind_of_error hload]
    exact .refused before.tally
  | found hstored =>
    rw [bind_of_ok hload]
    exact h _ hstored

end

variable {scope : Scope} {before : State}

section

variable {operation : Operation} {given : Cluster} {after : State}

/-- A record that is enrolled on a call is an effect of it, however the call is counted. -/
theorem of_enrol_ok {normal : Cluster} (hrun : Registry.enrol given before = .ok normal after)
    (hoperation : operation.newcomer? = some given)
    (hallowed : given.id = "" → before.grants.mayWrite scope none = true) (tally : Tally)
    (value : Answer) : Effect scope before operation (.ok value) { after with tally } := by
  cases hrun ▸ Registry.enrol_result given before with
  | done henrol =>
    exact .enrolled tally _ _ hoperation (hallowed henrol.anonymous) henrol
      (.inl ⟨⟨_, rfl⟩, rfl, rfl⟩)

theorem of_enrol_error {failure : Failure}
    (hrun : Registry.enrol given before = .error failure after)
    (hoperation : operation.newcomer? = some given)
    (hallowed : given.id = "" → before.grants.mayWrite scope none = true) (tally : Tally) :
    Effect scope before operation (.error failure) { after with tally } := by
  cases hrun ▸ Registry.enrol_result given before with
  | refused => exact .refused tally
  | unindexed hfault henrol =>
    exact .enrolled tally before.index before.flows hoperation (hallowed henrol.anonymous) henrol
      (.inr ⟨rfl, .inl ⟨⟨_, rfl, hfault⟩, rfl⟩⟩)
  | flowless hfault henrol =>
    exact .enrolled tally _ before.flows hoperation (hallowed henrol.anonymous) henrol
      (.inr ⟨rfl, .inr ⟨⟨_, rfl, hfault⟩, rfl⟩⟩)

end

theorem create (given : Cluster) :
    Effected scope before (.create given) .id (Registry.create scope given before) := by
  unfold Registry.create
  refine of_ensureWrite fun hallowed => ?_
  have hfree : given.id = "" → before.grants.mayWrite scope none = true := by
    intro hid
    rwa [hid] at hallowed
  cases hrun : Registry.enrol given before with
  | ok normal after =>
    rw [bind_of_ok (attempt_of_ok hrun)]
    exact of_enrol_ok hrun rfl hfree _ _
  | error failure after =>
    rw [bind_of_ok (attempt_of_error hrun)]
    exact of_enrol_error hrun rfl hfree _

theorem update (given : Cluster) :
    Effected scope before (.update given) .delivery (Registry.update scope given before) := by
  unfold Registry.update
  split
  · exact .refused before.tally
  rename_i hid
  refine of_ensureWrite fun hallowed => of_load fun existing hstored => ?_
  split
  · exact .refused before.tally
  rename_i hname
  have hallowed := Grants.mayWrite_of_named hallowed
  have hname : given.name = existing.name := (Decidable.not_not.1 hname).symm
  let revised : Cluster :=
    { given with status := existing.status, auditLogs := existing.auditLogs }
  change Effected _ _ _ _ ((Registry.store revised >>= Registry.push) before)
  generalize hstore : Registry.store revised before = written
  cases hstore ▸ Registry.store_result revised before with
  | unfit =>
    rw [bind_of_error hstore]
    exact .refused before.tally
  | failed =>
    rw [bind_of_error hstore]
    exact .refused before.tally
  | unindexed hfault hprepare =>
    rw [bind_of_error hstore]
    exact .revised before.tally before.index before.roster rfl hstored hallowed rfl hname hprepare
      (.inr ⟨⟨_, rfl, hfault⟩, rfl⟩) (.inl rfl)
  | done hprepare =>
    rw [bind_of_ok hstore]
    exact .revised before.tally _ _ rfl hstored hallowed rfl hname hprepare
      (.inl ⟨⟨_, rfl⟩, rfl⟩) (.inr rfl)

theorem amend {operation : Operation} {id : String} {change : Cluster → Cluster}
    (hkeyed : before.Keyed) (hoperation : operation.amendment? = some (id, change)) :
    Effected scope before operation (fun _ => .done) (Registry.amend scope id change before) := by
  unfold Registry.amend
  refine of_requireId (of_ensureWrite fun hallowed => of_load fun existing hstored => ?_)
  have hid : (change existing).id = id :=
    (Operation.frame_of_amendment? hoperation existing).1.trans (hkeyed id existing hstored)
  rcases Calls.putCluster_serves before (change existing) with hput | ⟨failure, -, hput⟩
  · rw [hput, hid]
    exact .amended hoperation hstored (Grants.mayWrite_of_named hallowed)
  · rw [hput]
    exact .refused before.tally

theorem updateAuditLogs (id : String) (positions : Table AuditPosition) (hkeyed : before.Keyed) :
    Effected scope before (.updateAuditLogs id positions) (fun _ => .done)
      (Registry.updateAuditLogs scope id positions before) := by
  unfold Registry.updateAuditLogs
  refine of_requireId ?_
  split
  · exact .refused before.tally
  · exact amend hkeyed rfl

theorem updateHealth (id : String) (report : Health) (hkeyed : before.Keyed) :
    Effected scope before (.updateHealth id report) (fun _ => .done)
      (Registry.updateHealth scope id report before) := by
  unfold Registry.updateHealth
  refine of_requireId (of_ensureWrite fun hallowed => ?_)
  have hallowed := Grants.mayWrite_of_named hallowed
  let recorded : State := { before with holdings := before.holdings.recordHealth id report }
  rcases Calls.recordHealth_serves before id report with hrecord | ⟨failure, -, hrecord⟩
  · rw [bind_of_ok hrecord]
    change Effected _ _ _ _ ((if (Snapshots.updated before.holdings.health id report).livenessChanged
      then _ else _ : Action Unit) recorded)
    split
    · rename_i hchanged
      rcases Calls.findCluster_serves recorded id with hfind | ⟨failure, hfault, hfind⟩
      · rw [bind_of_ok hfind]
        cases hstored : before.clusters.get? id with
        | none => exact .reported _ hallowed (.inl ⟨rfl, by simp [State.reindexed, hstored]⟩)
        | some cluster =>
          have hid : cluster.id = id := hkeyed id cluster hstored
          let seen : Cluster := { cluster with
            health := some (Snapshots.updated before.holdings.health id report).snapshot }
          change Effected _ _ _ _ (Calls.indexCluster seen recorded)
          rcases Calls.indexCluster_serves recorded seen with hindex | ⟨failure, hfault, hindex⟩
          · rw [hindex]
            have hindexed : before.index.insert seen.id seen = before.reindexed id report := by
              rw [show seen.id = id from hid]
              simp only [State.reindexed, hstored, hchanged, if_true]
              rfl
            exact .reported _ hallowed (.inl ⟨rfl, hindexed⟩)
          · rw [hindex]
            exact .reported _ hallowed (.inr ⟨⟨_, rfl, hfault.retryable, hfault.disorder⟩, rfl⟩)
      · rw [bind_of_error hfind]
        exact .reported _ hallowed (.inr ⟨⟨_, rfl, hfault.retryable, hfault.disorder⟩, rfl⟩)
    · rename_i hsame
      exact .reported _ hallowed (.inl ⟨rfl, by
        cases hstored : before.clusters.get? id <;> simp [State.reindexed, hstored, hsame]⟩)
  · rw [bind_of_error hrecord]
    exact .refused before.tally

theorem remove (id : String) (ticket : Option Nat) :
    Effected scope before (.remove id ticket) (fun _ => .done)
      (Registry.remove scope id ticket before) := by
  unfold Registry.remove
  refine of_ensureWrite fun hallowed => of_load fun cluster hstored => ?_
  have hallowed := Grants.mayWrite_of_named hallowed
  let dropped : State := { before with
    clusters := before.clusters.erase id, directory := before.directory.erase id }
  rcases Registry.dropRecord_serves id before with hdrop | ⟨failure, -, hdrop⟩
  · rw [bind_of_ok hdrop]
    change Effected _ _ _ _ (((Calls.unindexCluster id).attempt >>= fun _ => _) dropped)
    rcases Calls.unindexCluster_serves dropped id with hunindex | ⟨failure, hfault, hunindex⟩
    · rw [bind_of_ok (attempt_of_ok hunindex)]
      exact .removed _ _ hstored hallowed (.inl ⟨rfl, rfl⟩)
    · rw [bind_of_ok (attempt_of_error hunindex)]
      exact .removed _ _ hstored hallowed (.inr ⟨⟨_, rfl, ⟨hfault.retryable, hfault.disorder⟩,
        Calls.isIndexFailure_of_unindexCluster hunindex⟩, rfl⟩)
  · rw [bind_of_error hdrop]
    exact .refused before.tally

theorem rebuild :
    Effected scope before .rebuild (fun _ => .done) (Registry.rebuild before) := by
  unfold Registry.rebuild
  rcases Calls.allClusters_serves before with hall | ⟨failure, -, hall⟩
  · rw [bind_of_ok hall]
    rcases Calls.allHealth_serves before with hhealth | ⟨failure, -, hhealth⟩
    · rw [bind_of_ok hhealth]
      let reread : State := { before with directory := before.rereadDirectory }
      let clusters := before.records.map fun cluster =>
        { cluster with health := before.holdings.health.get? cluster.id }
      change Effected _ _ _ _ ((Calls.indexClusters clusters >>= fun _ => _) reread)
      rcases Calls.indexClusters_serves reread clusters with hindex | ⟨failure, hfault, hindex⟩
      · rw [bind_of_ok hindex]
        exact .rebuilt _ _ (.inl ⟨rfl, rfl⟩)
      · rw [bind_of_error hindex]
        exact .rebuilt before.tally _ (.inr ⟨⟨_, rfl, ⟨hfault.retryable, hfault.disorder⟩,
          Calls.isIndexFailure_of_indexClusters hindex⟩, rfl⟩)
    · rw [bind_of_error hhealth]
      exact .refused before.tally
  · rw [bind_of_error hall]
    exact .refused before.tally

/-- What is left of an announcement once it is reconciled: it is counted and answered. -/
theorem answer_announce (reconciled : Registry.Reconciled) (after : State) :
    ∃ tally, (do
      if reconciled.outcome = .created then Registry.noteRegistered
      return reconciled.cluster : Action Cluster) after =
        .ok reconciled.cluster { after with tally } := by
  by_cases hcreated : reconciled.outcome = .created
  · rw [if_pos hcreated]
    exact ⟨_, rfl⟩
  · rw [if_neg hcreated]
    exact ⟨after.tally, rfl⟩

theorem announce (announcement : Announcement) (hkeyed : before.Keyed) :
    Effected scope before (.announce announcement) .record
      (Registry.announce scope announcement before) := by
  unfold Registry.announce
  refine of_ensureWrite fun hallowed => ?_
  rw [bind_of_ok (get_apply before), bind_apply, Registry.reconcile_apply]
  cases htarget : Registry.target? before.directory announcement with
  | none =>
    obtain ⟨hid, -⟩ := Registry.target?_eq_none_iff.1 htarget
    have hfree : before.grants.mayWrite scope none = true := by
      rwa [hid] at hallowed
    by_cases hname : announcement.name = ""
    · rw [Registry.decide_of_anonymous htarget hname]
      exact .refused _
    · rw [Registry.decide_of_newcomer htarget hname]
      cases hrun : Registry.enrol announcement.newCluster before with
      | ok normal after =>
        rw [bind_of_ok hrun]
        exact of_enrol_ok hrun rfl (fun _ => hfree) _ _
      | error failure after =>
        rw [bind_of_error hrun]
        exact of_enrol_error hrun rfl (fun _ => hfree) _
  | some id =>
    have hallowed := Registry.mayWrite_of_target? htarget hallowed
    rw [Registry.decide_of_target htarget]
    generalize hrun : Registry.adopt id announcement before.now before = adopted
    cases hrun ▸ Registry.adopt_result id announcement before.now before with
    | refused => exact .refused _
    | @kept cluster _ hkept =>
      obtain ⟨tally, hanswer⟩ := answer_announce ⟨cluster, .ofKept announcement.managed⟩
        { before with tally := before.tally.countOutcome (.ofKept announcement.managed) }
      refine (congrArg (Effected _ _ _ _) hanswer).mpr ?_
      exact .idle tally (.inl rfl)
    | unindexed hadopt hrevised hprepare hfault =>
      have hsubject := Cluster.sameSubject_of_converged? hrevised
      have hid := hsubject.id.trans (hkeyed id _ hadopt.stored)
      exact .revised _ before.index before.roster hrevised hadopt.stored hallowed hid hsubject.name
        hprepare (.inr ⟨⟨_, rfl, hfault⟩, rfl⟩) (.inl rfl)
    | @revised cluster revised normal hadopt hrevised hprepare =>
      have hsubject := Cluster.sameSubject_of_converged? hrevised
      have hid := hsubject.id.trans (hkeyed id _ hadopt.stored)
      obtain ⟨tally, hanswer⟩ := answer_announce ⟨normal, .ofRevised announcement.managed⟩
        { (before.withRecord normal).withIndexed normal with
          tally := before.tally.countOutcome (.ofRevised announcement.managed) }
      refine (congrArg (Effected _ _ _ _) hanswer).mpr ?_
      exact .revised tally _ before.roster hrevised hadopt.stored hallowed hid hsubject.name
        hprepare (.inl ⟨⟨_, rfl⟩, rfl⟩) (.inl rfl)

end Effected

/-- Whatever a call comes to is one of its effects. -/
theorem Operation.run_effected (scope : Scope) (operation : Operation) {before : State}
    (hkeyed : before.Keyed) :
    Effected scope before operation (fun answer => answer) (operation.run scope before) := by
  cases operation with
  | rebuild => exact .of_answered .rebuild
  | read id => exact .of_answered (.of_quiet (Registry.quiet_read scope id) rfl)
  | readAll => exact .of_answered (.of_quiet (Registry.quiet_readAll scope) rfl)
  | isRegistered id => exact .of_answered (.of_quiet (Registry.quiet_isRegistered scope id) rfl)
  | nameOf id => exact .of_answered (.of_quiet (Registry.quiet_nameOf scope id) rfl)
  | search query => exact .of_answered (.of_quiet (Registry.quiet_search scope query) rfl)
  | searchRecords query => exact .of_answered (.of_quiet (Registry.quiet_searchRecords scope query) rfl)
  | count query => exact .of_answered (.of_quiet (Registry.quiet_count scope query) rfl)
  | pending => exact .of_answered (.of_quiet (fun _ => rfl) rfl)
  | create cluster => exact .of_answered (.create cluster)
  | update cluster => exact .of_answered (.update cluster)
  | updateHealth id report => exact .of_answered (.updateHealth id report hkeyed)
  | updateUpgradeStatus id upgrade => exact .of_answered (.amend hkeyed rfl)
  | updateCertExpiry id expiry => exact .of_answered (.amend hkeyed rfl)
  | updateStatus id status => exact .of_answered (.amend hkeyed rfl)
  | updateSensor id sensor => exact .of_answered (.amend hkeyed rfl)
  | updateAuditLogs id positions => exact .of_answered (.updateAuditLogs id positions hkeyed)
  | remove id ticket => exact .of_answered (.remove id ticket)
  | announce announcement => exact .of_answered (.announce announcement hkeyed)

theorem Operation.run_effect (scope : Scope) (operation : Operation) {before : State}
    (hkeyed : before.Keyed) :
    Effect scope before operation ((operation.run scope).answer before)
      ((operation.run scope).after before) := by
  have h := operation.run_effected scope hkeyed
  unfold Action.answer Action.after
  cases hrun : operation.run scope before with
  | ok answer after =>
    rw [hrun] at h
    exact h
  | error failure after =>
    rw [hrun] at h
    exact h

end Fleet
