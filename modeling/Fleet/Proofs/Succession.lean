import Fleet.Proofs.Ownership

/-!
# Succession of agents

Which agent was recorded last for a cluster, over a whole run, and that the stored record says so. While
the agent recorded last was in contact within the grace period, an announcement is accepted only from an
agent of the same physical cluster, whatever has happened before.
-/

namespace Fleet

/-- The instant comes before the end of a period that starts at another one, leap seconds counted. -/
def Instant.IsWithin (now : Instant) (period : Duration) (start : Instant) : Prop :=
  now.nanos + now.leapSeconds start * nanosPerSecond < start.nanos + period.nanos

theorem Instant.IsWithin.elapsed_lt {now start : Instant} {period : Duration}
    (h : now.IsWithin period start) (hperiod : 0 < period.nanos) :
    (now.elapsed start).nanos < period.nanos := by
  unfold IsWithin at h
  unfold elapsed
  dsimp only
  omega

/-! ## Recordings -/

/-- The identification that a call records for a cluster: the one that its record is made with, or the
one that is reported for it. -/
def Operation.recording? (id : String) (answer : Except Failure Answer) (gained : Bool) :
    Operation → Option SensorIdentity
  | create cluster => if gained then cluster.sensor else none
  | announce announcement => if gained then announcement.sensor else none
  | updateSensor subject sensor => if subject = id ∧ answer.isOk then some sensor else none
  | _ => none

/-- A call records nothing for a cluster that is there unless it reports an agent of it. -/
theorem Operation.recording?_of_known {id : String} {answer : Except Failure Answer}
    {operation : Operation}
    (h : ∀ sensor, operation = .updateSensor id sensor → answer.isOk = false) :
    operation.recording? id answer false = none := by
  cases operation with
  | updateSensor subject sensor =>
    unfold recording?
    refine if_neg ?_
    rintro ⟨rfl, hanswer⟩
    rw [h sensor rfl] at hanswer
    cases hanswer
  | _ => rfl

namespace State

/-- The agent that the stored record of a cluster names. -/
def sensorOf? (state : State) (id : String) : Option SensorIdentity :=
  (state.clusters.get? id).bind (·.sensor)

/-- The identification that an event records for a cluster. -/
def recording? (state : State) (id : String) (event : Event) : Option SensorIdentity :=
  match event with
  | .call scope operation =>
    operation.recording? id ((operation.run scope).answer state)
      ((state.clusters.get? id).isNone && ((state.next event).clusters.get? id).isSome)
  | _ => none

/-- The identification that was recorded last for a cluster in a run. -/
def lastRecording? (state : State) (id : String) : List Event → Option SensorIdentity
  | [] => none
  | event :: rest => (state.next event).lastRecording? id rest <|> state.recording? id event

/-- An update carries the agent that the stored record names. -/
def KeepsSensor (state : State) : Operation → Prop
  | .update given => ∀ existing, state.clusters.get? given.id = some existing →
    given.sensor = existing.sensor
  | _ => True

/-- Every update of a run carries the agent that the stored record names by then. -/
def KeepsSensors (state : State) : List Event → Prop
  | [] => True
  | event :: rest =>
    (∀ scope operation, event = .call scope operation → state.KeepsSensor operation) ∧
      (state.next event).KeepsSensors rest

end State

/-! ## Steps -/

namespace Effect

variable {scope : Scope} {before after : State} {operation : Operation}
  {answer : Except Failure Answer} {id : String}

/-- A record that a call makes names the agent that the call brings. -/
theorem sensor_of_gained (heffect : Effect scope before operation answer after) {cluster : Cluster}
    (hfresh : before.clusters.get? id = none) (hstored : after.clusters.get? id = some cluster) :
    cluster.sensor = operation.recording? id answer true := by
  cases heffect with
  | idle | reported | rebuilt =>
    rw [hfresh] at hstored
    cases hstored
  | removed =>
    rw [Table.get?_erase, hfresh] at hstored
    split at hstored <;> cases hstored
  | @amended _ other change existing hoperation hother _ =>
    rw [Table.get?_insert] at hstored
    split at hstored
    · rename_i heq
      rw [heq, hother] at hfresh
      cases hfresh
    · rw [hfresh] at hstored
      cases hstored
  | @revised _ _ other existing given _ _ _ _ _ hother _ hid _ hprepare _ _ =>
    change (before.clusters.insert _ _).get? id = some cluster at hstored
    rw [Table.get?_insert, (Cluster.sameSubject_of_prepare hprepare).id, hid] at hstored
    split at hstored
    · rename_i heq
      rw [heq, hother] at hfresh
      cases hfresh
    · rw [hfresh] at hstored
      cases hstored
  | @enrolled _ _ given normal _ _ _ hoperation _ henrol _ =>
    change (before.clusters.insert _ _).get? id = some cluster at hstored
    rw [Table.get?_insert] at hstored
    split at hstored
    · cases hstored
      change normal.sensor = _
      rw [henrol.sensor]
      cases operation <;> cases hoperation
      · rfl
      · exact Announcement.newCluster_sensor _
    · rw [hfresh] at hstored
      cases hstored

/-- A stored record names another agent only after that agent was reported. -/
theorem sensor_of_stored (hsound : before.Sound)
    (heffect : Effect scope before operation answer after) (hkeeps : before.KeepsSensor operation)
    {earlier cluster : Cluster} (hearlier : before.clusters.get? id = some earlier)
    (hstored : after.clusters.get? id = some cluster) :
    cluster.sensor = (operation.recording? id answer false <|> earlier.sensor) := by
  cases heffect.becomes hsound hearlier hstored with
  | kept hfailed =>
    have hreported : ∀ sensor, operation = .updateSensor id sensor → answer.isOk = false := by
      rintro sensor rfl
      exact hfailed _ rfl
    rw [Operation.recording?_of_known hreported]
    rfl
  | revised hoperation hid hprepare =>
    have hreported : ∀ sensor, operation = .updateSensor id sensor → answer.isOk = false := by
      rintro sensor rfl
      cases hoperation
    rw [Operation.recording?_of_known hreported]
    refine (Cluster.sameSubject_of_prepare hprepare).sensor.trans ?_
    cases operation with
    | update record =>
      cases hoperation
      exact hkeeps earlier (hid ▸ hearlier)
    | announce announcement => exact (Cluster.sameSubject_of_converged? hoperation).sensor
    | _ => cases hoperation
  | amended hoperation hanswer =>
    cases operation with
    | updateSensor subject sensor =>
      cases hoperation
      have hrecording : Operation.recording? id answer false (.updateSensor id sensor) =
          some sensor := if_pos ⟨rfl, hanswer ▸ rfl⟩
      rw [hrecording]
      rfl
    | _ => cases hoperation <;> rfl

end Effect

/-! ## Runs -/

namespace State

variable {state : State} {id : String}

/-- After an event the stored record names the agent that the event recorded, or else the one before. -/
theorem sensor_next (hsound : state.Sound) {event : Event}
    (hkeeps : ∀ scope operation, event = .call scope operation → state.KeepsSensor operation)
    {cluster : Cluster} (hstored : (state.next event).clusters.get? id = some cluster) :
    cluster.sensor = (state.recording? id event <|> state.sensorOf? id) := by
  rcases next_cases hsound.keyed event with ⟨hcall, hsame⟩ | ⟨scope, operation, rfl, heffect⟩
  · have hnone : state.recording? id event = none := by
      cases event with
      | call scope operation => exact absurd rfl (hcall scope operation)
      | _ => rfl
    rw [hsame.clusters] at hstored
    rw [hnone, sensorOf?, hstored]
    rfl
  · unfold recording? sensorOf?
    simp only [hstored, Option.isSome_some, Bool.and_true]
    cases hearlier : state.clusters.get? id with
    | none =>
      rw [heffect.sensor_of_gained hearlier hstored]
      change _ = (operation.recording? id ((operation.run scope).answer state) true <|> none)
      cases operation.recording? id ((operation.run scope).answer state) true <;> rfl
    | some earlier => exact heffect.sensor_of_stored hsound (hkeeps _ _ rfl) hearlier hstored

/-- Nothing is recorded for a cluster that is not there afterwards. -/
theorem recording?_of_absent (hkeyed : state.Keyed) {event : Event}
    (habsent : (state.next event).clusters.get? id = none) : state.recording? id event = none := by
  rcases next_cases hkeyed event with ⟨hcall, -⟩ | ⟨scope, operation, rfl, heffect⟩
  · cases event with
    | call scope operation => exact absurd rfl (hcall scope operation)
    | _ => rfl
  · unfold recording?
    simp only [habsent, Option.isSome_none, Bool.and_false]
    refine Operation.recording?_of_known ?_
    rintro sensor rfl
    generalize (Operation.run scope (.updateSensor id sensor)).answer state = answer at heffect
    generalize state.next (.call scope (.updateSensor id sensor)) = after at heffect habsent
    cases heffect with
    | idle _ hanswer =>
      rcases hanswer with hasks | ⟨failure, rfl⟩
      · cases hasks
      · rfl
    | enrolled _ _ _ hoperation => cases hoperation
    | revised _ _ _ hoperation => cases hoperation
    | amended hoperation =>
      cases hoperation
      rw [Table.get?_insert_self] at habsent
      cases habsent

/-- After a run the stored record names the agent recorded last in it, or else the one before. -/
theorem sensor_following (hsound : state.Sound) {events : List Event}
    (hkeeps : state.KeepsSensors events) {cluster : Cluster}
    (hstored : (state.following events).clusters.get? id = some cluster) :
    cluster.sensor = (state.lastRecording? id events <|> state.sensorOf? id) := by
  induction events generalizing state with
  | nil =>
    rw [following_nil] at hstored
    rw [lastRecording?, sensorOf?, hstored]
    rfl
  | cons event rest ih =>
    obtain ⟨hfirst, hrest⟩ := hkeeps
    have hlater := ih (hsound.next event) hrest hstored
    rw [lastRecording?, hlater]
    cases hnext : (state.next event).clusters.get? id with
    | some middle =>
      have hmiddle := sensor_next hsound hfirst hnext
      rw [sensorOf?, hnext, Option.bind_some, hmiddle]
      cases (state.next event).lastRecording? id rest <;> rfl
    | none =>
      -- The id was given out later, so that the cluster was not there before either.
      have habsent : state.clusters.get? id = none := by
        cases hearlier : state.clusters.get? id with
        | none => rfl
        | some earlier =>
          have hissued := (Continues.next hsound event).hasIssued
            (hsound.kept id earlier hearlier).issued
          obtain ⟨middle, hmiddle, -⟩ :=
            (Continues.following (hsound.next event) rest).stored_of_issued hissued hstored
          rw [hnext] at hmiddle
          cases hmiddle
      rw [recording?_of_absent hsound.keyed hnext, sensorOf?, hnext, sensorOf?, habsent]
      cases (state.next event).lastRecording? id rest <;> rfl

/-- A cluster that was stored before it was announced has been adopted. -/
theorem adoptable_of_reconcile {state after : State} (hsound : state.Sound)
    {announcement : Announcement} {now : Instant} {reconciled : Registry.Reconciled}
    {cluster : Cluster}
    (haccepted : Registry.reconcile announcement now state = .ok reconciled after)
    (hstored : state.clusters.get? reconciled.cluster.id = some cluster) :
    Registry.Adoptable reconciled.cluster.id announcement now state cluster := by
  obtain ⟨decided, haccepts, -⟩ := Registry.accepts_of_reconcile haccepted
  cases haccepts with
  | created _ henrol =>
    have hissued := (hsound.kept _ _ hstored).issued
    rw [henrol.id] at hissued
    exact absurd hissued (State.not_hasIssued_nextId _)
  | kept _ hadopt _ =>
    rw [hsound.keyed _ _ hadopt.stored] at hstored ⊢
    rw [hadopt.stored] at hstored
    cases hstored
    exact hadopt
  | revised _ hadopt hrevised hprepare =>
    have hsubject := (Cluster.sameSubject_of_prepare hprepare).trans
      (Cluster.sameSubject_of_converged? hrevised)
    rw [hsubject.id, hsound.keyed _ _ hadopt.stored] at hstored ⊢
    rw [hadopt.stored] at hstored
    cases hstored
    exact hadopt

end State

/-- While the agent of a stored cluster was in contact within the grace period, whatever has happened
since the empty start, an announcement about the cluster is accepted only from an agent that runs in the
same physical cluster as the one recorded last. -/
theorem sameCluster_of_accepted {runtime : Runtime} {settings : Settings}
    {begin now contact : Instant} {events : List Event} {state after : State} {announcement : Announcement}
    {reconciled : Registry.Reconciled} {cluster : Cluster} {last : SensorIdentity}
    (hgrace : 0 < settings.moveGrace.nanos)
    (hkeeps : (State.start runtime settings begin).KeepsSensors events)
    (hstate : state = (State.start runtime settings begin).following events)
    (haccepted : Registry.reconcile announcement now state = .ok reconciled after)
    (hstored : state.clusters.get? reconciled.cluster.id = some cluster)
    (hcontact : Snapshots.lastContact state.holdings.health reconciled.cluster.id = some contact)
    (hwithin : now.IsWithin settings.moveGrace contact)
    (hlast : (State.start runtime settings begin).lastRecording? reconciled.cluster.id events =
      some last) :
    ∃ agent, announcement.sensor = some agent ∧ agent.sameCluster last := by
  have hstart := State.sound_start runtime settings begin
  have hsound : state.Sound := hstate ▸ hstart.following events
  have hsettings : state.settings = settings := by
    rw [hstate]
    exact (State.Continues.following hstart events).settings
  have hsensor : cluster.sensor = some last := by
    rw [hstate] at hstored
    rw [State.sensor_following hstart hkeeps hstored, hlast]
    rfl
  have hentitled := (State.adoptable_of_reconcile hsound haccepted hstored).entitled
  rw [hsettings, hsound.keyed _ _ hstored] at hentitled
  have hprotected := hwithin.elapsed_lt hgrace
  refine Classical.byContradiction fun hnone => hentitled ?_
  refine ⟨contact, last, hcontact, hsensor, hprotected, ?_⟩
  intro agent hagent hsame
  exact hnone ⟨agent, hagent, hsame⟩

/-- Agents that run on the nodes of one physical cluster. -/
def agentOn (node : String) : SensorIdentity :=
  { systemNamespaceId := "system-1", nodeName := node }

/-- The announcement of one of them. -/
def announcementFrom (node : String) : Announcement :=
  { sensor := some (agentOn node), declaration := some { name := "prod" } }

/-- An agent announces a new cluster, and another one takes over and is heard of. -/
def handover : List Event := [
  .call .system (.announce (announcementFrom "node-1")),
  .call .system (.updateSensor "$1" (agentOn "node-2")),
  .call .system (.updateHealth "$1" { lastContact := some ⟨5, false⟩ })]

/-- The state after the handover. -/
def handedOver : State := (State.start {} {} ⟨0, false⟩).following handover

/-- After the handover a third agent is accepted by the name of the cluster, because it runs in the same
physical cluster as the second one. -/
theorem sameCluster_of_accepted_after_handover :
    ∃ reconciled after,
      Registry.reconcile (announcementFrom "node-3") ⟨7, false⟩ handedOver = .ok reconciled after ∧
      (State.start {} {} ⟨0, false⟩).lastRecording? reconciled.cluster.id handover =
        some (agentOn "node-2") ∧
      ∃ agent, (announcementFrom "node-3").sensor = some agent ∧
        agent.sameCluster (agentOn "node-2") := by
  have hanswer : ((Registry.reconcile (announcementFrom "node-3") ⟨7, false⟩).answer
      handedOver).toOption.map (·.cluster.id) = some "$1" := by decide +kernel
  have hsome : (handedOver.clusters.get? "$1").isSome = true := by decide +kernel
  have hcontact : Snapshots.lastContact handedOver.holdings.health "$1" = some ⟨5, false⟩ := by
    decide +kernel
  have hlast : (State.start {} {} ⟨0, false⟩).lastRecording? "$1" handover =
      some (agentOn "node-2") := by decide +kernel
  have hstate : handedOver = (State.start {} {} ⟨0, false⟩).following handover := rfl
  -- From here on the state is not to be computed.
  generalize handedOver = state at *
  obtain ⟨reconciled, after, haccepted, hid⟩ := Action.exists_ok_of_answer hanswer
  obtain ⟨cluster, hstored⟩ := Option.isSome_iff_exists.1 hsome
  rw [← hid] at hstored hcontact hlast
  have hkeeps : (State.start {} {} ⟨0, false⟩).KeepsSensors handover := by
    refine ⟨?_, ?_, ?_, trivial⟩ <;> rintro scope operation ⟨⟩ <;> trivial
  have hgrace : 0 < ({} : Settings).moveGrace.nanos := by decide +kernel
  have hwithin : Instant.IsWithin ⟨7, false⟩ ({} : Settings).moveGrace ⟨5, false⟩ := by
    unfold Instant.IsWithin
    decide +kernel
  exact ⟨reconciled, after, haccepted, hlast,
    sameCluster_of_accepted hgrace hkeeps hstate haccepted hstored hcontact hwithin hlast⟩

end Fleet
