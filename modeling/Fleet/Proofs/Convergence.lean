import Fleet.Proofs.Soundness

/-!
# Declared configurations converge

A declared configuration makes the same record of a cluster whatever the cluster was before: everything
that can be configured comes out as if the cluster had just been announced for the first time, and what
the registry knows of the cluster beside its configuration stays. This needs every field that the normal
form looks at to be taken from the declaration, or not to be looked at for the outcome.
-/

namespace Fleet

open Registry

namespace Cluster

/-- A record with the past of another: the id, the agent, the status and the audit log positions, which no
configuration sets. -/
def withHistoryOf (made existing : Cluster) : Cluster :=
  { made with
    id := existing.id
    sensor := existing.sensor
    status := existing.status
    auditLogs := existing.auditLogs }

/-- The defaults do not touch what no configuration sets. -/
theorem normalForm_withHistoryOf_self (cluster : Cluster) (defaultTimeout : Int32) :
    (cluster.normalForm defaultTimeout).withHistoryOf cluster = cluster.normalForm defaultTimeout := by
  rw [normalForm_frame]
  rfl

section

variable {cluster other : Cluster} {defaultTimeout : Int32}
  (hother : other = { cluster with
    id := other.id
    runtimeSupport := other.runtimeSupport
    sensor := other.sensor
    status := other.status
    auditLogs := other.auditLogs })

include hother

/-- What the defaults make of a record depends on its past, and on what it says about runtime data, only
in that the past stays. -/
theorem normalize_withHistoryOf :
    other.normalize defaultTimeout =
      ((cluster.normalize defaultTimeout).1.withHistoryOf other,
        (cluster.normalize defaultTimeout).2) := by
  have hname : other.name = cluster.name := by
    rw [hother]
  have hfill : other.fill = cluster.fill.withHistoryOf other := by
    rw [hother]
    rfl
  simp only [normalize, hfill, hname]
  change (if cluster.fill.admissionTimeout < 0 then _ else if cluster.fill.admissionTimeout = 0
    then _ else _) = _
  split
  · rfl
  · split <;> rfl

/-- A record is stored or refused whatever its past is, and what is stored has that past. -/
theorem prepare_withHistoryOf :
    other.prepare defaultTimeout =
      (cluster.prepare defaultTimeout).map (·.withHistoryOf other) := by
  unfold prepare
  rw [normalize_withHistoryOf hother]
  cases cluster.normalize defaultTimeout with
  | mk normal problem =>
    cases problem with
    | some failure => rfl
    | none =>
      have hsame : (normal.withHistoryOf other).objection? = normal.objection? := rfl
      simp only [hsame]
      cases normal.objection? <;> rfl

end

end Cluster

namespace Registry

open Fleet.Action

/-- An announcement that asks for another record is answered with that record in its normal form, or with
what forbids it. -/
theorem answer_of_converged? {announcement : Announcement} {now : Instant} {state : State} {id : String}
    {cluster revised : Cluster} (hcalm : state.conditions = {})
    (htarget : target? state.directory announcement = some id)
    (hadopt : Adoptable id announcement now state cluster)
    (hrevised : cluster.converged? announcement.managed = some revised) :
    (reconcile announcement now).answer state =
      (revised.prepare state.settings.admissionTimeout).map
        fun normal => ⟨normal, .ofRevised announcement.managed⟩ := by
  cases hprepare : revised.prepare state.settings.admissionTimeout with
  | ok normal => exact answer_of_ok (reconcile_of_revised hcalm htarget hadopt hrevised hprepare)
  | error failure => exact answer_of_error (reconcile_of_unfit hcalm htarget hadopt hrevised hprepare)

/-- An announcement under a name that nobody has is answered with the record of a new cluster, or with
what forbids it. -/
theorem answer_of_newcomer {announcement : Announcement} {now : Instant} {state : State}
    (hcalm : state.conditions = {}) (hname : announcement.name ≠ "")
    (htarget : target? state.directory announcement = none) :
    (reconcile announcement now).answer state =
      (announcement.newCluster.prepare state.settings.admissionTimeout).map
        fun normal => ⟨{ normal with id := state.nextId }, .created⟩ := by
  let numbered : Cluster := { announcement.newCluster with id := state.nextId }
  have hfree : state.directory.idOf? announcement.name = none := by
    have hnone := htarget
    unfold target? at hnone
    rw [Option.orElse_eq_orElse, Option.orElse_eq_or, Option.or_eq_none_iff, if_neg hname] at hnone
    exact hnone.2
  have hobjection : enrolmentObjection? state.directory announcement.newCluster = none := by
    rw [enrolmentObjection?_eq_none_iff, Announcement.newCluster_name]
    exact ⟨announcement.newCluster_id, hname, hfree⟩
  have hnumbered : numbered.prepare state.settings.admissionTimeout =
      (announcement.newCluster.prepare state.settings.admissionTimeout).map
        (·.withHistoryOf numbered) := Cluster.prepare_withHistoryOf rfl
  unfold Action.answer
  rw [reconcile_apply, decide_of_newcomer htarget hname]
  cases hprepare : announcement.newCluster.prepare state.settings.admissionTimeout with
  | error failure =>
    rw [hprepare] at hnumbered
    rw [bind_of_error (enrol_of_unfit hobjection hnumbered)]
    rfl
  | ok normal =>
    rw [hprepare] at hnumbered
    rw [bind_of_ok (enrol_of_enrollable hcalm ⟨hobjection, hnumbered⟩)]
    have hsame : normal.withHistoryOf announcement.newCluster = normal := by
      obtain ⟨-, rfl⟩ := (Cluster.prepare_eq_ok_iff _ _ _).1 hprepare
      exact Cluster.normalForm_withHistoryOf_self _ _
    exact congrArg (fun kept : Cluster => Except.ok
      (⟨{ kept with id := state.nextId }, .created⟩ : Reconciled)) hsame

end Registry

/-- An announcement of another configuration than the one a cluster is managed by comes to the same,
whatever was stored before, as the announcement of a new cluster of that name with that configuration:
both are refused for the same reason, or both are accepted, and then the records differ in nothing but
the id, the agent, the status and the audit log positions, which the known cluster keeps. -/
theorem declared_configuration_converges {state : State} {announcement fresh : Announcement}
    {now : Instant} {id : String} {cluster : Cluster} {config : ManagedConfig}
    (hreachable : state.Reachable) (hcalm : state.conditions = {})
    (htarget : target? state.directory announcement = some id)
    (hadopt : Adoptable id announcement now state cluster)
    (hdeclared : announcement.managed = some config)
    (hdiffers : cluster.fingerprint? ≠ some config.fingerprint)
    (hname : fresh.name = cluster.name) (hfresh : fresh.managed = some config) :
    let prepared := fresh.newCluster.prepare state.settings.admissionTimeout
    (reconcile announcement now).answer state =
        prepared.map (fun normal => ⟨normal.withHistoryOf cluster, .updated⟩) ∧
      (∀ normal, prepared = .ok normal → normal.name = cluster.name ∧
        ((reconcile announcement now).after state).clusters.get? id =
          some (normal.withHistoryOf cluster)) ∧
      ∀ elsewhere time, elsewhere.conditions = {} →
        elsewhere.settings.admissionTimeout = state.settings.admissionTimeout →
        target? elsewhere.directory fresh = none →
        (reconcile fresh time).answer elsewhere = prepared.map fun normal =>
          ⟨{ normal with id := elsewhere.nextId }, .created⟩ := by
  intro prepared
  have hkept := hreachable.sound.kept id cluster hadopt.stored
  let revised : Cluster := { cluster.configure config with managed := some config }
  have hrevised : cluster.converged? announcement.managed = some revised := by
    rw [hdeclared]
    exact if_neg hdiffers
  have hconfig : fresh.config = some config := fresh.config_of_managed hfresh
  -- Only the past of the record, and what it says about runtime data, is older than the declaration.
  have hother : revised = { fresh.newCluster with
      id := revised.id
      runtimeSupport := revised.runtimeSupport
      sensor := revised.sensor
      status := revised.status
      auditLogs := revised.auditLogs } := by
    have hhealth : cluster.health = none := (congrArg Cluster.health hkept.plain).symm
    have hpriority : cluster.priority = 0 := (congrArg Cluster.priority hkept.plain).symm
    simp only [Announcement.newCluster, hconfig, hfresh, hname, revised, Cluster.configure, hhealth,
      hpriority]
  have hprepare : revised.prepare state.settings.admissionTimeout =
      prepared.map (·.withHistoryOf cluster) := Cluster.prepare_withHistoryOf hother
  refine ⟨?_, ?_, ?_⟩
  · rw [answer_of_converged? hcalm htarget hadopt hrevised, hprepare, hdeclared]
    cases prepared <;> rfl
  · intro normal hnormal
    rw [hnormal] at hprepare
    have hsubject := Cluster.sameSubject_of_prepare hnormal
    have hplain := Cluster.stored_of_prepare hnormal fresh.stored_newCluster
    refine ⟨(hsubject.name.trans fresh.newCluster_name).trans hname, ?_⟩
    rw [Action.after_of_ok (reconcile_of_revised hcalm htarget hadopt hrevised hprepare)]
    change (state.clusters.insert cluster.id (normal.withHistoryOf cluster).stored).get? id = _
    rw [hkept.keyed, Table.get?_insert_self]
    exact congrArg (fun made : Cluster => some (made.withHistoryOf cluster)) hplain
  · intro elsewhere time hcalm' hsettings hnew
    have hnamed : fresh.name ≠ "" := by
      intro hempty
      have hblank := hkept.named
      rw [← hname, hempty] at hblank
      cases hblank
    rw [answer_of_newcomer hcalm' hnamed hnew, hsettings]

/-- A cluster is declared without the collection of runtime data, and its agent connects. -/
def onceDeclared : List Event := [
  .call .system (.announce { declaration := some { name := "prod", config := some {
    fingerprint := "v1", static := { collectionMethod := .off, slimCollector := true } } } }),
  .call .system (.updateSensor "$1" { systemNamespaceId := "s1" })]

/-- It is declared again, and nearly everything is left open. -/
def redeclared : Announcement :=
  { declaration := some { name := "prod", config := some {
      fingerprint := "v2", static := { kind := .openshift4 } } } }

/-- Nothing is left of the first declaration, and the agent is still known. -/
theorem declared_configuration_converges_of_redeclared :
    let state := (State.start {} {} ⟨0, false⟩).following onceDeclared
    ∃ cluster normal : Cluster, state.clusters.get? "$1" = some cluster ∧
      cluster.sensor = some { systemNamespaceId := "s1" } ∧
      (reconcile redeclared ⟨7, false⟩).answer state =
        .ok ⟨normal.withHistoryOf cluster, .updated⟩ ∧
      (reconcile redeclared ⟨7, false⟩).answer (State.start {} {} ⟨0, false⟩) =
        .ok ⟨{ normal with id := idOfNumber 1 }, .created⟩ := by
  intro state
  have hcalm : state.conditions = {} := by decide +kernel
  have htarget : target? state.directory redeclared = some "$1" := by decide +kernel
  have hfound : (state.clusters.get? "$1").map (fun cluster =>
      (cluster.name, cluster.id, cluster.fingerprint?, cluster.sensor)) =
        some ("prod", "$1", some "v1", some { systemNamespaceId := "s1" }) := by decide +kernel
  obtain ⟨cluster, hstored, hcluster⟩ := Option.map_eq_some_iff.1 hfound
  simp only [Prod.mk.injEq] at hcluster
  obtain ⟨hname, hid, hfingerprint, hsensor⟩ := hcluster
  have hadopt : Adoptable "$1" redeclared ⟨7, false⟩ state cluster := by
    refine ⟨hstored, fun _ => hname.symm, ?_⟩
    rintro ⟨contact, last, hcontact, -, -⟩
    have hsilent : Snapshots.lastContact state.holdings.health "$1" = none := by decide +kernel
    rw [hid, hsilent] at hcontact
    cases hcontact
  have hdiffers : cluster.fingerprint? ≠ some "v2" := by
    rw [hfingerprint]
    decide
  have hsettings : state.settings.admissionTimeout = 3 := by decide +kernel
  obtain ⟨normal, hprepared⟩ : ∃ normal, redeclared.newCluster.prepare 3 = .ok normal := ⟨_, rfl⟩
  have hnamed : redeclared.name = cluster.name := hname.symm
  have hconverges := declared_configuration_converges ⟨_, _, _, _, rfl⟩ hcalm htarget hadopt
    (rfl : redeclared.managed = some _) hdiffers hnamed rfl
  rw [hsettings, hprepared] at hconverges
  obtain ⟨hanswer, -, helsewhere⟩ := hconverges
  exact ⟨cluster, normal, hstored, hsensor, hanswer, helsewhere _ _ rfl rfl rfl⟩

end Fleet
