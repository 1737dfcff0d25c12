import Fleet.Proofs.Soundness

/-!
# The protocol of reconciliation

What an announcement is to come to, as a list of tests of which the first that applies counts, and that
reconciling it comes to just that. Nothing is written unless a record is created or revised, and what is
written then is the record that is answered, under its own id.
-/

namespace Fleet

instance (cluster : Cluster) : Decidable cluster.Acceptable :=
  decidable_of_iff
    (0 ≤ cluster.admissionTimeout ∧ Text.isBlankText cluster.name = false ∧
      cluster.mainImage.toList.any Text.isBlank = false)
    ⟨fun h => ⟨h.1, h.2.1, h.2.2⟩, fun h => ⟨h.timeout, h.named, h.image⟩⟩

instance (grace : Duration) (stored incoming : Option SensorIdentity) (lastContact : Option Instant)
    (now : Instant) : Decidable (IsTakeover grace stored incoming lastContact now) :=
  decidable_of_iff (takeoverRefusal? grace "" stored incoming lastContact now ≠ none)
    ⟨fun h => Classical.byContradiction fun hnot => h (takeoverRefusal?_eq_none_iff.2 hnot),
      fun h hnone => takeoverRefusal?_eq_none_iff.1 hnone h⟩

namespace Registry

open Fleet.Action

/-! ## Verdicts -/

/-- What an announcement is to come to. -/
inductive Verdict where
  | invalid
  | notFound (id : String)
  | conflict (name : String)
  | accepted (outcome : Outcome) (id : String)
deriving DecidableEq

/-- The id that is announced, or else the one that goes by the announced name. -/
def subject? (state : State) (announcement : Announcement) : Option String :=
  if announcement.clusterId.getD "" ≠ "" then announcement.clusterId
  else if announcement.name ≠ "" then state.directory.idOf? announcement.name
  else none

/-- What an announcement is to come to if the agent may take the cluster over. A declaration counts only
if it holds a configuration and is not marked as one that does not manage. -/
def verdictOnDeclaration (id : String) (cluster : Cluster) : Option Declaration → Verdict
  | some ⟨_, some config, false⟩ =>
    if cluster.fingerprint? = some config.fingerprint then .accepted .unchanged id
    else if (cluster.configure config).Acceptable then .accepted .updated id
    else .invalid
  | _ =>
    if cluster.isManaged then .accepted .cleared id
    else .accepted .adopted id

/-- What an announcement made at `now` is to come to: the first of the tests that applies counts. -/
def verdict (state : State) (announcement : Announcement) (now : Instant) : Verdict :=
  match subject? state announcement with
  | none =>
    if announcement.name = "" then .invalid
    else if announcement.newCluster.Acceptable then .accepted .created state.nextId
    else .invalid
  | some id =>
    match state.clusters.get? id with
    | none => .notFound id
    | some cluster =>
      if announcement.name ≠ "" ∧ announcement.name ≠ cluster.name then .conflict cluster.name
      else if IsTakeover state.settings.moveGrace cluster.sensor announcement.sensor
          (Snapshots.lastContact state.holdings.health id) now then .conflict cluster.name
      else verdictOnDeclaration id cluster announcement.declaration

/-! ## What complies with a verdict -/

/-- A failure that a verdict asks for. -/
def Verdict.Refuses : Verdict → Failure → Prop
  | .invalid, failure => failure.IsInvalid
  | .notFound id, failure => failure = .notFound id
  | .conflict name, failure => failure.IsConflictOf name
  | .accepted _ _, _ => False

/-- A record is written under its id, and nothing else changes. -/
structure Writes (cluster : Cluster) (before after : State) : Prop where
  clusters : after.clusters = before.clusters.insert cluster.id cluster.stored
  index : after.index = before.index.insert cluster.id cluster
  names : ∀ id, after.directory.nameOf? id =
    if id = cluster.id then some cluster.name else before.directory.nameOf? id

/-- What is left behind by an announcement with this outcome about the cluster. -/
def Leaves (cluster : Cluster) (before after : State) : Outcome → Prop
  | .created => Writes cluster before after ∧ after.flows = before.flows.insert cluster.id ()
  | .updated | .cleared => Writes cluster before after ∧ after.flows = before.flows
  | .unchanged | .adopted | .rejected => State.SameRegistry before after

/-- The run of a call complies with a verdict. -/
def Verdict.Complies (verdict : Verdict) (before : State) :
    EStateM.Result Failure State Reconciled → Prop
  | .error failure after => verdict.Refuses failure ∧ State.SameRegistry before after
  | .ok reconciled after =>
    verdict = .accepted reconciled.outcome reconciled.cluster.id ∧
      Leaves reconciled.cluster before after reconciled.outcome

/-! ## Compliance, test by test -/

theorem subject?_eq_target? (state : State) (announcement : Announcement) :
    subject? state announcement = target? state.directory announcement := by
  unfold subject?
  by_cases hid : announcement.clusterId.getD "" = ""
  · rw [target?_of_no_id hid]
    by_cases hname : announcement.name = "" <;> simp [hid, hname]
  · cases hgiven : announcement.clusterId with
    | none =>
      rw [hgiven] at hid
      exact absurd rfl hid
    | some given =>
      rw [hgiven] at hid
      rw [target?_of_id hgiven hid]
      simp [show given ≠ "" from hid]

theorem verdictOnDeclaration_eq (id : String) (cluster : Cluster) (announcement : Announcement) :
    verdictOnDeclaration id cluster announcement.declaration = match announcement.managed with
      | some config =>
        if cluster.fingerprint? = some config.fingerprint then .accepted .unchanged id
        else if (cluster.configure config).Acceptable then .accepted .updated id
        else .invalid
      | none =>
        if cluster.isManaged then .accepted .cleared id
        else .accepted .adopted id := by
  unfold Announcement.managed
  cases announcement.declaration with
  | none => rfl
  | some declaration =>
    obtain ⟨name, config, notManaged⟩ := declaration
    cases config <;> cases notManaged <;> rfl

section

variable {state : State} {announcement : Announcement} {now : Instant}

theorem complies_of_error {verdict : Verdict} {failure : Failure}
    (hdecide : decide announcement now state = .error failure state) (h : verdict.Refuses failure) :
    verdict.Complies state (reconcile announcement now state) := by
  rw [reconcile_apply, hdecide]
  exact ⟨h, .tally _ _⟩

theorem complies_of_ok {after : State} {reconciled : Reconciled}
    (hdecide : decide announcement now state = .ok reconciled after)
    (hleaves : ∀ tally, Leaves reconciled.cluster state { after with tally } reconciled.outcome) :
    (Verdict.accepted reconciled.outcome reconciled.cluster.id).Complies state
      (reconcile announcement now state) := by
  rw [reconcile_apply, hdecide]
  exact ⟨rfl, hleaves _⟩

/-- An announcement about no cluster makes a new one, if it has a name and its record is accepted. -/
theorem complies_of_newcomer (hcalm : state.conditions = {})
    (htarget : target? state.directory announcement = none) (hname : announcement.name ≠ "") :
    (if announcement.newCluster.Acceptable then .accepted .created state.nextId
      else .invalid : Verdict).Complies state (reconcile announcement now state) := by
  have hfree : state.directory.idOf? announcement.name = none :=
    (target?_eq_none_iff.1 htarget).2.resolve_left hname
  have hunobjected : enrolmentObjection? state.directory announcement.newCluster = none := by
    rw [enrolmentObjection?_eq_none_iff, Announcement.newCluster_id, Announcement.newCluster_name]
    exact ⟨rfl, hname, hfree⟩
  let given : Cluster := { announcement.newCluster with id := state.nextId }
  split
  · rename_i hacceptable
    have hgiven : given.Acceptable := ⟨hacceptable.timeout, hacceptable.named, hacceptable.image⟩
    obtain ⟨normal, henrol⟩ : ∃ normal, Enrollable announcement.newCluster state normal :=
      ⟨_, hunobjected, Cluster.prepare_of_acceptable hgiven _⟩
    have hdecide : decide announcement now state = .ok ⟨normal, .created⟩
        (((state.withNewcomer normal).withIndexed normal).withFlows normal.id) := by
      rw [decide_of_newcomer htarget hname, bind_of_ok (enrol_of_enrollable hcalm henrol)]
      rfl
    have hcomplies := complies_of_ok hdecide fun tally =>
      ⟨⟨rfl, rfl, Directory.nameOf?_insert_of_free fun other hother =>
        absurd hother (henrol.free other)⟩, rfl⟩
    rwa [henrol.id] at hcomplies
  · rename_i hnot
    have hgiven : ¬ given.Acceptable := fun h => hnot ⟨h.timeout, h.named, h.image⟩
    obtain ⟨failure, hprepare, hinvalid⟩ :=
      Cluster.prepare_of_not_acceptable hgiven state.settings.admissionTimeout
    have hdecide : decide announcement now state = .error failure state := by
      rw [decide_of_newcomer htarget hname, bind_of_error (enrol_of_unfit hunobjected hprepare)]
    exact complies_of_error hdecide hinvalid

theorem complies_of_kept {id : String} {cluster : Cluster} (hsound : state.Sound)
    (hcalm : state.conditions = {}) (htarget : target? state.directory announcement = some id)
    (hadopt : Adoptable id announcement now state cluster)
    (hkept : cluster.converged? announcement.managed = none) :
    (Verdict.accepted (.ofKept announcement.managed) id).Complies state
      (reconcile announcement now state) := by
  have hdecide : decide announcement now state =
      .ok ⟨cluster, .ofKept announcement.managed⟩ state := by
    rw [decide_of_target htarget, adopt_of_kept hcalm hadopt hkept]
  have hcomplies := complies_of_ok hdecide fun tally => by
    cases announcement.managed <;> exact .tally _ _
  rwa [hsound.keyed id cluster hadopt.stored] at hcomplies

theorem complies_of_revised {id : String} {cluster revised : Cluster} (hsound : state.Sound)
    (hcalm : state.conditions = {}) (htarget : target? state.directory announcement = some id)
    (hadopt : Adoptable id announcement now state cluster)
    (hrevised : cluster.converged? announcement.managed = some revised)
    (hacceptable : revised.Acceptable) :
    (Verdict.accepted (.ofRevised announcement.managed) id).Complies state
      (reconcile announcement now state) := by
  have hprepare := Cluster.prepare_of_acceptable hacceptable state.settings.admissionTimeout
  generalize revised.normalForm state.settings.admissionTimeout = normal at hprepare
  have hsubject := (Cluster.sameSubject_of_prepare hprepare).trans
    (Cluster.sameSubject_of_converged? hrevised)
  have hid : normal.id = id := hsubject.id.trans (hsound.keyed id cluster hadopt.stored)
  have hfree : ∀ other, state.directory.nameOf? other = some normal.name → other = normal.id := by
    intro other hother
    rw [hsubject.name] at hother
    rw [hid]
    exact hsound.owner_eq hadopt.stored hother
  have hdecide : decide announcement now state = .ok ⟨normal, .ofRevised announcement.managed⟩
      ((state.withRecord normal).withIndexed normal) := by
    rw [decide_of_target htarget, adopt_of_revised hcalm hadopt hrevised hprepare]
  have hcomplies := complies_of_ok hdecide fun tally => by
    cases announcement.managed <;>
      exact ⟨⟨rfl, rfl, Directory.nameOf?_insert_of_free hfree⟩, rfl⟩
  rwa [hid] at hcomplies

theorem complies_of_unfit {id : String} {cluster revised : Cluster}
    (hcalm : state.conditions = {}) (htarget : target? state.directory announcement = some id)
    (hadopt : Adoptable id announcement now state cluster)
    (hrevised : cluster.converged? announcement.managed = some revised)
    (hnot : ¬ revised.Acceptable) :
    Verdict.invalid.Complies state (reconcile announcement now state) := by
  obtain ⟨failure, hprepare, hinvalid⟩ :=
    Cluster.prepare_of_not_acceptable hnot state.settings.admissionTimeout
  have hdecide : decide announcement now state = .error failure state := by
    rw [decide_of_target htarget, adopt_of_unfit hcalm hadopt hrevised hprepare]
  exact complies_of_error hdecide hinvalid

/-- An agent that may take the cluster over brings its record in line, if the result is accepted.
Without a declaration it always is, because what is stored is normal. -/
theorem complies_of_adoptable {id : String} {cluster : Cluster} (hsound : state.Sound)
    (hcalm : state.conditions = {}) (hpositive : 0 < state.settings.admissionTimeout)
    (htarget : target? state.directory announcement = some id)
    (hadopt : Adoptable id announcement now state cluster) :
    (verdictOnDeclaration id cluster announcement.declaration).Complies state
      (reconcile announcement now state) := by
  rw [verdictOnDeclaration_eq]
  cases hmanaged : announcement.managed with
  | none =>
    have hconverged : cluster.converged? announcement.managed =
        if cluster.isManaged then some { cluster with managed := none } else none := by
      rw [hmanaged]
      rfl
    by_cases hcluster : cluster.isManaged = true
    · rw [if_pos hcluster] at hconverged ⊢
      have hnormal := (hsound.kept id cluster hadopt.stored).normal hpositive
      have hcomplies := complies_of_revised hsound hcalm htarget hadopt hconverged
        ⟨hnormal.acceptable.timeout, hnormal.named, hnormal.image⟩
      rwa [hmanaged] at hcomplies
    · rw [if_neg hcluster] at hconverged ⊢
      have hcomplies := complies_of_kept hsound hcalm htarget hadopt hconverged
      rwa [hmanaged] at hcomplies
  | some config =>
    have hconverged : cluster.converged? announcement.managed =
        if cluster.fingerprint? = some config.fingerprint then none
        else some { cluster.configure config with managed := some config } := by
      rw [hmanaged]
      rfl
    by_cases hfingerprint : cluster.fingerprint? = some config.fingerprint
    · rw [if_pos hfingerprint] at hconverged
      have hcomplies := complies_of_kept hsound hcalm htarget hadopt hconverged
      rw [hmanaged] at hcomplies
      simp only [if_pos hfingerprint]
      exact hcomplies
    · rw [if_neg hfingerprint] at hconverged
      simp only [if_neg hfingerprint]
      by_cases hacceptable : (cluster.configure config).Acceptable
      · rw [if_pos hacceptable]
        have hcomplies := complies_of_revised hsound hcalm htarget hadopt hconverged
          ⟨hacceptable.timeout, hacceptable.named, hacceptable.image⟩
        rwa [hmanaged] at hcomplies
      · rw [if_neg hacceptable]
        refine complies_of_unfit hcalm htarget hadopt hconverged ?_
        exact fun h => hacceptable ⟨h.timeout, h.named, h.image⟩

end

end Registry

/-- In every reachable state and at every time, with nothing out of order, reconciling an announcement
comes to just what the protocol says, and writes only what belongs to the record that it answers. -/
theorem reconcile_complies_with_verdict {state : State} (hreachable : state.Reachable)
    (hcalm : state.conditions = {}) (hpositive : 0 < state.settings.admissionTimeout)
    (announcement : Announcement) (now : Instant) :
    (Registry.verdict state announcement now).Complies state
      (Registry.reconcile announcement now state) := by
  have hsound := hreachable.sound
  unfold Registry.verdict
  rw [Registry.subject?_eq_target?]
  cases htarget : Registry.target? state.directory announcement with
  | none =>
    by_cases hname : announcement.name = ""
    · simp only [if_pos hname]
      refine Registry.complies_of_error (Registry.decide_of_anonymous htarget hname) ?_
      exact ⟨_, _, _, rfl⟩
    · simp only [if_neg hname]
      exact Registry.complies_of_newcomer hcalm htarget hname
  | some id =>
    cases hstored : state.clusters.get? id with
    | none =>
      simp only [hstored]
      refine Registry.complies_of_error ?_ rfl
      rw [Registry.decide_of_target htarget, Registry.adopt_of_absent hcalm hstored]
    | some cluster =>
      simp only [hstored]
      have hid : cluster.id = id := hsound.keyed id cluster hstored
      by_cases hname : announcement.name ≠ "" ∧ announcement.name ≠ cluster.name
      · rw [if_pos hname]
        have hdecide : Registry.decide announcement now state =
            .error (.nameMismatch id cluster.name announcement.name) state := by
          rw [Registry.decide_of_target htarget, Registry.adopt_of_misnamed hcalm hstored hname]
        exact Registry.complies_of_error hdecide ⟨_, rfl⟩
      · rw [if_neg hname]
        have hnamed : announcement.name ≠ "" → announcement.name = cluster.name := by
          intro hannounced
          by_cases heq : announcement.name = cluster.name
          · exact heq
          · exact absurd ⟨hannounced, heq⟩ hname
        by_cases htakeover : IsTakeover state.settings.moveGrace cluster.sensor announcement.sensor
            (Snapshots.lastContact state.holdings.health id) now
        · rw [if_pos htakeover]
          rw [← hid] at htakeover
          obtain ⟨failure, hconflict, hadopt⟩ :=
            Registry.adopt_of_takeover hcalm hstored hnamed htakeover
          refine Registry.complies_of_error ?_ hconflict
          rw [Registry.decide_of_target htarget, hadopt]
        · rw [if_neg htakeover]
          rw [← hid] at htakeover
          exact Registry.complies_of_adoptable hsound hcalm hpositive htarget
            ⟨hstored, hnamed, htakeover⟩

/-- An agent announces a new cluster and is heard of, and the index is away for a while. -/
def encounter : List Event := [
  .call .system (.announce {
    sensor := some { systemNamespaceId := "system-1" }
    declaration := some { name := "prod" } }),
  .setOffline .index true,
  .call .system (.updateHealth "$1" { lastContact := some ⟨5, false⟩ }),
  .setOffline .index false]

/-- An agent from elsewhere announces itself as that cluster, without a declaration. -/
def stranger : Announcement :=
  { clusterId := some "$1", sensor := some { systemNamespaceId := "system-2" } }

/-- The stranger meets a conflict, and nothing is written. -/
theorem reconcile_complies_with_verdict_of_stranger :
    let state := (State.start {} {} ⟨0, false⟩).following encounter
    ∃ failure after, Registry.reconcile stranger ⟨7, false⟩ state = .error failure after ∧
      failure.IsConflictOf "prod" ∧ State.SameRegistry state after := by
  intro state
  have hcalm : state.conditions = {} := by decide +kernel
  have hpositive : 0 < state.settings.admissionTimeout := by decide +kernel
  have hverdict : Registry.verdict state stranger ⟨7, false⟩ = .conflict "prod" := by decide +kernel
  have hcomplies := reconcile_complies_with_verdict ⟨_, _, _, _, rfl⟩ hcalm hpositive stranger ⟨7, false⟩
  rw [hverdict] at hcomplies
  cases hrun : Registry.reconcile stranger ⟨7, false⟩ state with
  | error failure after =>
    rw [hrun] at hcomplies
    exact ⟨failure, after, rfl, hcomplies⟩
  | ok reconciled after =>
    rw [hrun] at hcomplies
    cases hcomplies.1

end Fleet
