import Fleet.Proofs.Connections
import Fleet.Proofs.Retries

/-!
# Sending configurations

An update ends by sending the configuration that was stored to the agent of its cluster. Whatever has
become of the connections by then, one agent at most hears of it, the one that serves the cluster, and it
hears of it once. The connections have no say in what the update is answered and in what it stores.
-/

namespace Fleet

open Fleet.Action

/-! ## Who hears of a configuration -/

namespace Connection

/-- Whether the agent takes what is sent to it: it was not asked to end and has not closed. -/
def isListening (connection : Connection) : Bool :=
  connection.ending.isNone && connection.receiving

/-- The connection with one more configuration waiting for the agent. -/
def hearing (connection : Connection) (config : DynamicConfig) : Connection :=
  { connection with inbox := connection.inbox ++ [config] }

end Connection

namespace Roster

/-- The live connection of a cluster, if its agent takes what is sent to it. -/
def listener? (roster : Roster) (id : String) : Option Nat :=
  (roster.live.get? id).filter fun number => (roster.connections[number]?).any (·.isListening)

/-- The agent of a cluster has room for one more command, if it listens. -/
def HasRoom (roster : Roster) (id : String) : Prop :=
  ∀ number connection, roster.listener? id = some number →
    roster.connections[number]? = some connection → connection.inbox.length < connection.capacity

variable {roster : Roster} {id : String} {number : Nat}

theorem listener?_eq_some : roster.listener? id = some number ↔
    roster.live.get? id = some number ∧
      ∃ connection, roster.connections[number]? = some connection ∧ connection.isListening = true := by
  unfold listener?
  rw [Option.filter_eq_some_iff, Option.any_eq_true]

theorem deliveryTo_eq (connection : Connection) :
    deliveryTo connection =
      if connection.isListening then
        if connection.inbox.length < connection.capacity then .queued else .full
      else .closed := by
  unfold deliveryTo Connection.isListening
  cases connection.ending <;> cases connection.receiving <;> rfl

theorem send_of_listener (hlistener : roster.listener? id = some number) (hroom : roster.HasRoom id)
    (config : DynamicConfig) :
    roster.send id config = (.queued, roster.change number (·.hearing config)) := by
  obtain ⟨hlive, connection, hconnection, hlistening⟩ := listener?_eq_some.1 hlistener
  have hqueued : deliveryTo connection = .queued := by
    rw [deliveryTo_eq, if_pos hlistening, if_pos (hroom number connection hlistener hconnection)]
  unfold send
  rw [hlive]
  dsimp only
  rw [hconnection]
  dsimp only
  rw [hqueued]
  rfl

theorem send_of_no_listener (h : roster.listener? id = none) (config : DynamicConfig) :
    (roster.send id config).2 = roster ∧ (roster.send id config).1 ≠ .full := by
  unfold send
  cases hlive : roster.live.get? id with
  | none => exact ⟨rfl, nofun⟩
  | some number =>
    dsimp only
    cases hconnection : roster.connections[number]? with
    | none => exact ⟨rfl, nofun⟩
    | some connection =>
      have hdeaf : ¬ connection.isListening = true := by
        intro hlistening
        rw [listener?_eq_some.2 ⟨hlive, connection, hconnection, hlistening⟩] at h
        cases h
      dsimp only
      rw [deliveryTo_eq, if_neg hdeaf]
      exact ⟨rfl, nofun⟩

/-- A configuration comes to the agent that listens for the cluster and to nobody else. -/
theorem getElem?_connections_send (hroom : roster.HasRoom id) (config : DynamicConfig) (number : Nat) :
    (roster.send id config).2.connections[number]? =
      if roster.listener? id = some number then (roster.connections[number]?).map (·.hearing config)
      else roster.connections[number]? := by
  cases hlistener : roster.listener? id with
  | none =>
    rw [(send_of_no_listener hlistener config).1]
    rfl
  | some reached =>
    rw [send_of_listener hlistener hroom]
    unfold change
    dsimp only
    rw [List.getElem?_modify]
    by_cases hnumber : reached = number
    · subst hnumber
      simp
    · simp [hnumber]

theorem live_send (roster : Roster) (id : String) (config : DynamicConfig) :
    (roster.send id config).2.live = roster.live := by
  unfold send
  split
  · rfl
  · split
    · rfl
    · split <;> rfl

theorem send_ne_full (hroom : roster.HasRoom id) (config : DynamicConfig) :
    (roster.send id config).1 ≠ .full := by
  cases hlistener : roster.listener? id with
  | none => exact (send_of_no_listener hlistener config).2
  | some number =>
    rw [send_of_listener hlistener hroom]
    nofun

/-- Whoever listens for a cluster is its own agent and was not replaced. -/
theorem Consistent.listener (h : roster.Consistent) (hlistener : roster.listener? id = some number) :
    ∃ connection, roster.connections[number]? = some connection ∧ connection.clusterId = id ∧
      connection.ending = none ∧ connection.receiving = true := by
  obtain ⟨hlive, connection, hconnection, hlistening⟩ := listener?_eq_some.1 hlistener
  obtain ⟨own, hown⟩ := h id number hlive
  obtain ⟨hsame, hid⟩ := connectionOf?_eq_some.1 hown
  rw [hconnection] at hsame
  cases hsame
  obtain ⟨hending, hreceiving⟩ := Bool.and_eq_true_iff.1 hlistening
  exact ⟨connection, hconnection, hid, Option.isNone_iff_eq_none.1 hending, hreceiving⟩

end Roster

/-! ## What an update sends -/

/-- A record that was prepared has a configuration for its agent. -/
theorem Cluster.exists_dynamic_of_prepare {cluster normal : Cluster} {defaultTimeout : Int32}
    (h : cluster.prepare defaultTimeout = .ok normal) : ∃ config, normal.dynamic = some config := by
  obtain ⟨-, rfl⟩ := (prepare_eq_ok_iff _ _ _).1 h
  obtain ⟨dynamic, -, hdynamic, -⟩ := cluster.dynamic_fill
  rw [normalForm_eq]
  split
  · unfold withAdmissionTimeout
    rw [hdynamic]
    exact ⟨_, rfl⟩
  · exact ⟨dynamic, hdynamic⟩

namespace Registry

/-- An update fails before it sends anything, whoever is connected, or it stores a record whose
configuration it sends to the connections there are. -/
theorem update_sends (scope : Scope) (given : Cluster) (state : State) :
    (∃ (failure : Failure) (kept : State), ∀ roster,
      update scope given { state with roster } = .error failure { kept with roster }) ∨
    ∃ (config : DynamicConfig) (kept : State) (record : Cluster),
      kept.clusters.get? given.id = some record ∧ record.dynamic = some config ∧ ∀ roster,
        update scope given { state with roster } =
          .ok (roster.send given.id config).1 { kept with roster := (roster.send given.id config).2 } := by
  have hobstacle : ∀ roster, ({ state with roster } : State).updateObstacle? scope given =
      state.updateObstacle? scope given :=
    fun roster => State.updateObstacle?_congr rfl rfl rfl rfl scope
  cases hupdate : state.updateObstacle? scope given with
  | some failure =>
    refine .inl ⟨failure, state, fun roster => ?_⟩
    exact update_of_obstacle ((hobstacle roster).trans hupdate)
  | none =>
    obtain ⟨-, -, -, existing, normal, hstored, -, hprepare⟩ :=
      State.updateObstacle?_eq_none_iff.1 hupdate
    let written : Cluster := normal.keeping existing
    have hreplacing : ∀ roster, update scope given { state with roster } =
        ({ state with roster } : State).replacing written :=
      fun roster => update_of_unobstructed ((hobstacle roster).trans hupdate) hstored hprepare
    have hid : written.id = given.id := (Cluster.sameSubject_of_prepare hprepare).id
    obtain ⟨config, hdynamic⟩ := Cluster.exists_dynamic_of_prepare hprepare
    have hconfig : written.dynamic = some config := hdynamic
    cases hindex : state.conditions.indexFailure? written.id with
    | some failure =>
      refine .inl ⟨failure, state.withRecord written, fun roster => ?_⟩
      exact (hreplacing roster).trans (State.replacing_of_failure _ hindex)
    | none =>
      refine .inr ⟨config, (state.withRecord written).withIndexed written, written.stored, ?_, hconfig,
        fun roster => ?_⟩
      · rw [← hid]
        exact Table.get?_insert_self _ _ _
      · have hsent := (hreplacing roster).trans (State.replacing_of_indexed _ hindex)
        rw [hid, hconfig] at hsent
        exact hsent

end Registry

/-- After any run, an update of a cluster whose agent has room for one more command sends nothing if it
fails. If it succeeds, the configuration that is stored then waits once more for the agent that listens for
the cluster, which is its own and was not asked to end, and for nobody else. If nobody listens, nobody
hears of it. Whatever connections there were instead, the update would succeed or fail as it does, and
leave everything but the connections as it does. -/
theorem update_reaches_listening_agent_once {runtime : Runtime} {settings : Settings} {now : Instant}
    {events : List Event} (horderly : ∀ event ∈ events, event.IsOrderly) (scope : Scope) (given : Cluster)
    (hroom : ((State.start runtime settings now).following events).roster.HasRoom given.id) :
    let state := (State.start runtime settings now).following events
    let update := Registry.update scope given
    let after := update.after state
    (∀ failure, update.answer state = .error failure → after.roster = state.roster) ∧
      (∀ delivery, update.answer state = .ok delivery → delivery ≠ .full ∧
        after.roster.live = state.roster.live ∧
        ∃ record config, after.clusters.get? given.id = some record ∧ record.dynamic = some config ∧
          ∀ number : Nat, after.roster.connections[number]? =
            if state.roster.listener? given.id = some number then
              (state.roster.connections[number]?).map (·.hearing config)
            else state.roster.connections[number]?) ∧
      (∀ number, state.roster.listener? given.id = some number →
        ∃ connection, state.roster.connections[number]? = some connection ∧
          connection.clusterId = given.id ∧ connection.ending = none ∧ connection.receiving = true) ∧
      ∀ roster, (update.answer { state with roster }).map (fun _ => ()) =
          (update.answer state).map (fun _ => ()) ∧
        { update.after { state with roster } with roster := after.roster } = after := by
  intro state update after
  have hconsistent : state.roster.Consistent :=
    ((State.Connected.start runtime settings now).following
      (State.sound_start runtime settings now) horderly).consistent
  have hlistener := fun number (h : state.roster.listener? given.id = some number) => hconsistent.listener h
  rcases Registry.update_sends scope given state with
    ⟨failure, kept, hfails⟩ | ⟨config, kept, record, hrecord, hconfig, hsends⟩
  · have hfailed : update state = .error failure { kept with roster := state.roster } :=
      hfails state.roster
    have hafter : after = { kept with roster := state.roster } := after_of_error hfailed
    refine ⟨fun _ _ => by rw [hafter], ?_, hlistener, fun roster => ⟨?_, ?_⟩⟩
    · intro delivery hanswer
      rw [answer_of_error hfailed] at hanswer
      cases hanswer
    · rw [answer_of_error (hfails roster), answer_of_error hfailed]
    · rw [after_of_error (hfails roster), hafter]
  · have hsent : update state = .ok (state.roster.send given.id config).1
        { kept with roster := (state.roster.send given.id config).2 } := hsends state.roster
    have hafter : after = { kept with roster := (state.roster.send given.id config).2 } :=
      after_of_ok hsent
    refine ⟨?_, ?_, hlistener, fun roster => ⟨?_, ?_⟩⟩
    · intro failure hanswer
      rw [answer_of_ok hsent] at hanswer
      cases hanswer
    · intro delivery hanswer
      rw [answer_of_ok hsent] at hanswer
      cases hanswer
      refine ⟨Roster.send_ne_full hroom config, ?_, record, config, ?_, hconfig, ?_⟩
      · rw [hafter]
        exact state.roster.live_send given.id config
      · rw [hafter]
        exact hrecord
      · rw [hafter]
        exact Roster.getElem?_connections_send hroom config
    · rw [answer_of_ok (hsends roster), answer_of_ok hsent]
      rfl
    · rw [after_of_ok (hsends roster), hafter]

/-- The agent of "prod" connects again, and its first connection is taken out late. -/
def reconnection : List Event := [
  .call .system (.create { name := "prod" }), .call .system (.create { name := "lab" }),
  .connect { clusterId := "$1", version := "4.1", capacity := 1 },
  .connect { clusterId := "$2", version := "4.1", capacity := 1 },
  .connect { clusterId := "$1", version := "4.2", capacity := 1 },
  .proceed (·.unregister 0)]

theorem update_reaches_listening_agent_once_of_reconnection :
    let state := (State.start {} {} ⟨0, false⟩).following reconnection
    let given : Cluster := { id := "$1", name := "prod", dynamic := some { disableAuditLogs := true } }
    let after := (Registry.update .system given).after state
    (∀ event ∈ reconnection, event.IsOrderly) ∧ state.roster.HasRoom "$1" ∧
      state.roster.listener? "$1" = some 2 ∧
      (Registry.update .system given).answer state = .ok .queued ∧
      ∃ config, (after.clusters.get? "$1").bind (·.dynamic) = some config ∧
        ∀ number : Nat, after.roster.inboxOf? number =
          if number = 2 then some [config] else state.roster.inboxOf? number := by
  intro state given after
  have horderly : ∀ event ∈ reconnection, event.IsOrderly := by
    unfold reconnection
    simp only [List.forall_mem_cons, Event.IsOrderly, true_and]
    exact ⟨⟨.unregister 0, fun _ => rfl⟩, List.forall_mem_nil _⟩
  have hlistener : state.roster.listener? "$1" = some 2 := by decide +kernel
  have hconnection : state.roster.connections[2]? =
      some { clusterId := "$1", version := "4.2", capacity := 1 } := by decide +kernel
  have hroom : state.roster.HasRoom "$1" := by
    intro number connection hnumber hsame
    rw [hlistener] at hnumber
    cases hnumber
    rw [hconnection] at hsame
    cases hsame
    exact Nat.zero_lt_one
  have hanswer : (Registry.update .system given).answer state = .ok .queued := by decide +kernel
  obtain ⟨-, hsent, -, -⟩ := update_reaches_listening_agent_once horderly .system given hroom
  obtain ⟨-, -, record, config, hrecord, hconfig, hconnections⟩ := hsent .queued hanswer
  refine ⟨horderly, hroom, hlistener, hanswer, config, ?_, ?_⟩
  · rw [hrecord]
    exact hconfig
  · intro number
    unfold Roster.inboxOf?
    rw [hconnections number, hlistener]
    by_cases hnumber : number = 2
    · rw [hnumber, if_pos rfl, if_pos rfl, hconnection]
      rfl
    · rw [if_neg hnumber, if_neg fun heq => hnumber (Option.some.inj heq).symm]

end Fleet
