import Fleet.Proofs.Soundness

/-!
# Repeated announcements

An announcement that was accepted may be made again at the same time as often as one likes. The cluster
is settled after the first time, whatever came of it: later calls find the record that was answered, by
id or by the name just entered, let its own agent pass, and see that it is in line already.
-/

namespace Fleet

namespace Cluster

/-- A record that holds the announced declaration is in line with it. -/
theorem converged?_of_managed {cluster : Cluster} {managed : Option ManagedConfig}
    (h : cluster.managed = managed) : cluster.converged? managed = none := by
  cases managed with
  | none => simp [converged?, isManaged, h]
  | some config => simp [converged?, fingerprint?, h]

end Cluster

/-- An agent takes nothing over from itself. -/
theorem not_isTakeover_self (grace : Duration) (sensor : Option SensorIdentity)
    (lastContact : Option Instant) (now : Instant) :
    ¬ IsTakeover grace sensor sensor lastContact now := by
  rintro ⟨contact, last, -, hlast, -, hforeign⟩
  exact hforeign last hlast ⟨rfl, rfl, rfl⟩

namespace Registry

open Fleet.Action

/-- Nothing is out of order, and the announcement is about a cluster whose record is in line with it. -/
structure Settled (announcement : Announcement) (now : Instant) (state : State) (id : String)
    (cluster : Cluster) : Prop where
  calm : state.conditions = {}
  target : target? state.directory announcement = some id
  adopt : Adoptable id announcement now state cluster
  kept : cluster.converged? announcement.managed = none

variable {announcement : Announcement} {now : Instant} {state : State} {id : String}
  {cluster : Cluster}

namespace Settled

/-- Only what it speaks of has a part in it. -/
theorem congr {other : State} (h : Settled announcement now state id cluster)
    (hconditions : other.conditions = state.conditions) (hsettings : other.settings = state.settings)
    (hclusters : other.clusters = state.clusters) (hdirectory : other.directory = state.directory)
    (hholdings : other.holdings = state.holdings) : Settled announcement now other id cluster where
  calm := hconditions.trans h.calm
  target := hdirectory ▸ h.target
  adopt := ⟨hclusters ▸ h.adopt.stored, h.adopt.named, hsettings ▸ hholdings ▸ h.adopt.entitled⟩
  kept := h.kept

/-- The counts have no part in it. -/
theorem withTally (h : Settled announcement now state id cluster) (tally : Tally) :
    Settled announcement now { state with tally } id cluster :=
  h.congr rfl rfl rfl rfl rfl

/-- Another call finds the record as it is. -/
theorem decide (h : Settled announcement now state id cluster) :
    decide announcement now state = .ok ⟨cluster, .ofKept announcement.managed⟩ state := by
  rw [decide_of_target h.target, adopt_of_kept h.calm h.adopt h.kept]

/-- Another call changes nothing but the counts. -/
theorem reconcile (h : Settled announcement now state id cluster) :
    reconcile announcement now state = .ok ⟨cluster, .ofKept announcement.managed⟩
      { state with tally := state.tally.countOutcome (.ofKept announcement.managed) } := by
  rw [reconcile_apply, h.decide]

theorem of_created (hcalm : state.conditions = {}) {normal : Cluster}
    (htarget : target? state.directory announcement = none)
    (henrol : Enrollable announcement.newCluster state normal) :
    Settled announcement now (((state.withNewcomer normal).withIndexed normal).withFlows normal.id)
      normal.id normal := by
  have hname : normal.name = announcement.name :=
    henrol.name.trans (Announcement.newCluster_name announcement)
  have hsensor : normal.sensor = announcement.sensor :=
    henrol.sensor.trans (Announcement.newCluster_sensor announcement)
  have hplain : normal.stored = normal := henrol.stored (Announcement.stored_newCluster announcement)
  have hmanaged : normal.managed = announcement.managed := henrol.managed
  refine ⟨hcalm, ?_, ⟨?_, ?_, ?_⟩, Cluster.converged?_of_managed hmanaged⟩
  · -- The announcement carries no id, and its name leads to the new record.
    have hid := (target?_eq_none_iff.1 htarget).1
    have hnonempty : announcement.name ≠ "" := by
      rw [← Announcement.newCluster_name]
      exact ((enrolmentObjection?_eq_none_iff _ _).1 henrol.unobjected).2.1
    rw [target?_eq_some_iff, Directory.idOf?_eq_some_iff]
    refine .inr ⟨hid, hnonempty, ?_⟩
    change (state.directory.insert normal.id normal.name).nameOf? normal.id = _
    rw [Directory.nameOf?_insert, if_pos rfl, hname]
  · change (state.clusters.insert normal.id normal.stored).get? normal.id = some normal
    rw [Table.get?_insert_self, hplain]
  · exact fun _ => hname.symm
  · rw [hsensor]
    exact not_isTakeover_self _ _ _ _

theorem of_revised (hsound : state.Sound) (hcalm : state.conditions = {}) {revised normal : Cluster}
    (htarget : target? state.directory announcement = some id)
    (hadopt : Adoptable id announcement now state cluster)
    (hrevised : cluster.converged? announcement.managed = some revised)
    (hprepare : revised.prepare state.settings.admissionTimeout = .ok normal) :
    Settled announcement now ((state.withRecord normal).withIndexed normal) id normal := by
  have hrevisedSubject := Cluster.sameSubject_of_converged? hrevised
  have hsubject := (Cluster.sameSubject_of_prepare hprepare).trans hrevisedSubject
  have hkept := hsound.kept id cluster hadopt.stored
  have hdirectory := (hsound.revised hadopt.stored (hrevisedSubject.id.trans hkept.keyed)
    hrevisedSubject.name hprepare).2
  have hplain : normal.stored = normal :=
    Cluster.stored_of_prepare hprepare (Cluster.stored_of_converged? hrevised hkept.plain)
  have hmanaged : normal.managed = announcement.managed :=
    (Cluster.managed_of_prepare hprepare).trans (Cluster.managed_of_converged? hrevised)
  refine ⟨hcalm, ?_, ⟨?_, ?_, ?_⟩, Cluster.converged?_of_managed hmanaged⟩
  · change target? (state.withRecord normal).directory announcement = some id
    rw [hdirectory, htarget]
  · change (state.clusters.insert normal.id normal.stored).get? id = some normal
    rw [hsubject.id, hkept.keyed, Table.get?_insert_self, hplain]
  · rw [hsubject.name]
    exact hadopt.named
  · rw [hsubject.sensor, hsubject.id]
    exact hadopt.entitled

end Settled

/-- Whatever an accepted announcement came to, its cluster is settled afterwards. -/
theorem settled_of_accepts {reconciled : Reconciled} {after : State} (hsound : state.Sound)
    (hcalm : state.conditions = {}) (h : Accepts announcement now state reconciled after) :
    ∃ id, Settled announcement now after id reconciled.cluster := by
  cases h with
  | created htarget henrol => exact ⟨_, .of_created hcalm htarget henrol⟩
  | kept htarget hadopt hkept => exact ⟨_, hcalm, htarget, hadopt, hkept⟩
  | revised htarget hadopt hrevised hprepare =>
    exact ⟨_, .of_revised hsound hcalm htarget hadopt hrevised hprepare⟩

/-- The state after an announcement has been made so many times at one time. -/
def repeated (announcement : Announcement) (now : Instant) : Nat → State → State
  | 0, state => state
  | n + 1, state => repeated announcement now n ((reconcile announcement now).after state)

/-- Once the cluster is settled it stays so, and nothing but the counts changes. -/
theorem Settled.repeated (h : Settled announcement now state id cluster) (n : Nat) :
    ∃ tally, Registry.repeated announcement now n state = { state with tally } ∧
      Settled announcement now { state with tally } id cluster := by
  induction n generalizing state with
  | zero => exact ⟨state.tally, rfl, h⟩
  | succ n ih =>
    rw [Registry.repeated, after_of_ok h.reconcile]
    exact ih (h.withTally _)

end Registry

/-- An accepted announcement may be made again at the same time as often as one likes: each time it is
answered with the very same cluster, as one that was not changed, and nothing in the whole state is
different but the counts. -/
theorem reconcile_again {state after : State} (hreachable : state.Reachable)
    (hcalm : state.conditions = {}) {announcement : Announcement} {now : Instant}
    {reconciled : Registry.Reconciled}
    (haccepted : Registry.reconcile announcement now state = .ok reconciled after) (n : Nat) :
    ∃ outcome later tally,
      Registry.reconcile announcement now (Registry.repeated announcement now n after) =
        .ok ⟨reconciled.cluster, outcome⟩ later ∧
      (outcome = .unchanged ∨ outcome = .adopted) ∧ later = { after with tally } := by
  obtain ⟨decided, haccepts, rfl⟩ := Registry.accepts_of_reconcile haccepted
  obtain ⟨id, hsettled⟩ := Registry.settled_of_accepts hreachable.sound hcalm haccepts
  obtain ⟨tally, hstate, hagain⟩ := (hsettled.withTally _).repeated n
  rw [hstate]
  refine ⟨_, _, _, hagain.reconcile, ?_, rfl⟩
  cases announcement.managed with
  | none => exact .inr rfl
  | some config => exact .inl rfl

/-- The agent of a cluster that is known by its name alone declares a configuration for it. -/
def declaring : Announcement :=
  { declaration := some { name := "prod", config := some { fingerprint := "f-1" } } }

/-- The first announcement revises the record, and the fourth one finds it as it is. -/
theorem reconcile_again_after_declaring :
    let state := (State.start {} {} ⟨0, false⟩).following [.call .system (.create { name := "prod" })]
    ∃ reconciled after, Registry.reconcile declaring ⟨7, false⟩ state = .ok reconciled after ∧
      reconciled.outcome = .updated ∧
      ∃ outcome later tally,
        Registry.reconcile declaring ⟨7, false⟩ (Registry.repeated declaring ⟨7, false⟩ 2 after) =
          .ok ⟨reconciled.cluster, outcome⟩ later ∧
        (outcome = .unchanged ∨ outcome = .adopted) ∧ later = { after with tally } := by
  intro state
  have hcalm : state.conditions = {} := by decide +kernel
  have hanswer : ((Registry.reconcile declaring ⟨7, false⟩).answer state).toOption.map (·.outcome) =
      some .updated := by decide +kernel
  obtain ⟨reconciled, after, haccepted, houtcome⟩ := Action.exists_ok_of_answer hanswer
  exact ⟨reconciled, after, haccepted, houtcome, reconcile_again ⟨_, _, _, _, rfl⟩ hcalm haccepted 2⟩

end Fleet
