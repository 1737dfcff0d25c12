import Fleet.Proofs.Departures

/-!
# Connections under teardowns

A teardown asks the agent of its own cluster to end and nobody else. What becomes of the connections of
another cluster while teardowns settle is what would have become of them anyway: an agent that was asked
to end before ends, and all the rest stays as it is.
-/

namespace Fleet

/-! ## What agents do -/

/-- What an agent does with its connection, or has done to it by whoever serves it. -/
inductive AgentMove where
  | drain (number : Nat)
  | close (number : Nat)
  | markStopped (number : Nat)
  | unregister (number : Nat)
  | send (clusterId : String) (config : DynamicConfig)

/-- The roster after a move. -/
def AgentMove.apply (roster : Roster) : AgentMove → Roster
  | drain number => (roster.drain number).2
  | close number => roster.close number
  | markStopped number => roster.markStopped number
  | unregister number => roster.unregister number
  | send clusterId config => (roster.send clusterId config).2

/-- Whether agents do in an event only what a roster offers them. -/
def Event.IsOrderly : Event → Prop
  | .proceed change => ∃ move : AgentMove, ∀ roster, change roster = move.apply roster
  | _ => True

/-- Whether a connection was asked to end and ends. -/
def Connection.isLeaving (connection : Connection) : Bool :=
  connection.ending.isSome && connection.stopDelay.isSome

namespace Roster

/-- The connection with a number, if it is one of the cluster. -/
def connectionOf? (roster : Roster) (id : String) (number : Nat) : Option Connection :=
  roster.connections[number]?.filter (·.clusterId = id)

/-- The live connection of a cluster is one of its own. -/
def Consistent (roster : Roster) : Prop :=
  ∀ id number, roster.live.get? id = some number →
    ∃ connection, roster.connectionOf? id number = some connection

/-- The roster with the live connection of a cluster asked to end for a newer one. -/
def relieved (roster : Roster) (id : String) : Roster :=
  match roster.live.get? id with
  | none => roster
  | some previous => roster.terminate previous "replaced by a newer connection"

/-- The connection with a number was asked to end and ends. -/
def Leaves (roster : Roster) (number : Nat) : Prop :=
  ∃ connection, roster.connections[number]? = some connection ∧ connection.isLeaving = true

/-- The connections of a cluster are what they were, but that those which were leaving may have ended. -/
structure Outlasts (id : String) (before after : Roster) : Prop where
  connections : ∀ number, after.connectionOf? id number = before.connectionOf? id number ∨
    ∃ connection, before.connectionOf? id number = some connection ∧
      connection.isLeaving = true ∧
      after.connectionOf? id number = some { connection with stopped := true }
  live : after.live.get? id = before.live.get? id ∨
    after.live.get? id = none ∧ ∃ number connection, before.live.get? id = some number ∧
      before.connectionOf? id number = some connection ∧ connection.isLeaving = true

/-! ## Changes of one connection -/

section

variable {roster : Roster} {f : Connection → Connection}

theorem connectionOf?_eq_some {id : String} {number : Nat} {connection : Connection} :
    roster.connectionOf? id number = some connection ↔
      roster.connections[number]? = some connection ∧ connection.clusterId = id := by
  unfold connectionOf?
  rw [Option.filter_eq_some_iff, decide_eq_true_iff]

/-- A connection belongs to one cluster. -/
theorem connectionOf?_of_ne {id other : String} {number : Nat} {connection : Connection}
    (h : roster.connectionOf? other number = some connection) (hne : id ≠ other) :
    roster.connectionOf? id number = none := by
  obtain ⟨hconnection, hother⟩ := connectionOf?_eq_some.1 h
  unfold connectionOf?
  rw [hconnection, Option.filter_some, hother, if_neg]
  simpa using Ne.symm hne

theorem connectionOf?_change (hf : ∀ connection, (f connection).clusterId = connection.clusterId)
    (id : String) (number other : Nat) :
    (roster.change number f).connectionOf? id other =
      if number = other then (roster.connectionOf? id other).map f
      else roster.connectionOf? id other := by
  unfold connectionOf? change
  rw [List.getElem?_modify]
  cases roster.connections[other]? with
  | none => simp
  | some connection =>
    split
    · simp only [Option.map_eq_map, Option.map_some, Option.filter_some, hf]
      split <;> rfl
    · simp

theorem connectionOf?_terminate (roster : Roster) (id : String) (number other : Nat) (reason : String) :
    (roster.terminate number reason).connectionOf? id other =
      if number = other then (roster.connectionOf? id other).map (·.terminate reason)
      else roster.connectionOf? id other := by
  refine connectionOf?_change ?_ id number other
  exact fun _ => rfl

theorem connectionOf?_unregister (roster : Roster) (id : String) (number other : Nat) :
    (roster.unregister number).connectionOf? id other =
      if number = other then (roster.connectionOf? id other).map ({ · with stopped := true })
      else roster.connectionOf? id other := by
  have hstopped : (roster.markStopped number).connectionOf? id other =
      if number = other then (roster.connectionOf? id other).map ({ · with stopped := true })
      else roster.connectionOf? id other := by
    refine connectionOf?_change ?_ id number other
    exact fun _ => rfl
  rw [← hstopped]
  unfold unregister
  split
  · rfl
  · split <;> rfl

theorem Leaves.change {number other : Nat} (h : roster.Leaves other)
    (hf : ∀ connection, connection.isLeaving = true → (f connection).isLeaving = true) :
    (roster.change number f).Leaves other := by
  obtain ⟨connection, hconnection, hleaving⟩ := h
  unfold Leaves Roster.change
  rw [List.getElem?_modify, hconnection]
  split
  · exact ⟨f connection, rfl, hf connection hleaving⟩
  · exact ⟨connection, rfl, hleaving⟩

theorem Consistent.change (h : roster.Consistent) (number : Nat)
    (hf : ∀ connection, (f connection).clusterId = connection.clusterId) :
    (roster.change number f).Consistent := by
  intro id other hlive
  obtain ⟨connection, hconnection⟩ := h id other hlive
  rw [connectionOf?_change hf, hconnection]
  split
  · exact ⟨f connection, rfl⟩
  · exact ⟨connection, rfl⟩

/-- Only the cluster of the connection loses it. -/
theorem get?_live_unregister (roster : Roster) (id : String) (number : Nat) :
    (roster.unregister number).live.get? id = roster.live.get? id ∨
      (roster.unregister number).live.get? id = none ∧ roster.live.get? id = some number ∧
        ∃ connection, roster.connectionOf? id number = some connection := by
  unfold unregister
  cases hconnection : roster.connections[number]? with
  | none => exact .inl rfl
  | some connection =>
    dsimp only
    split
    · rename_i hlive
      by_cases hid : id = connection.clusterId
      · subst hid
        refine .inr ⟨?_, hlive, connection, connectionOf?_eq_some.2 ⟨hconnection, rfl⟩⟩
        exact (Table.get?_erase _ _ _).trans (if_pos rfl)
      · exact .inl ((Table.get?_erase _ _ _).trans (if_neg hid))
    · exact .inl rfl

theorem Consistent.unregister (h : roster.Consistent) (number : Nat) :
    (roster.unregister number).Consistent := by
  intro id other hlive
  rcases get?_live_unregister roster id number with hkept | ⟨hnone, -⟩
  · rw [hkept] at hlive
    obtain ⟨connection, hconnection⟩ := h id other hlive
    rw [connectionOf?_unregister, hconnection]
    split
    · exact ⟨_, rfl⟩
    · exact ⟨connection, rfl⟩
  · rw [hnone] at hlive
    cases hlive

theorem Leaves.unregister {other : Nat} (h : roster.Leaves other) (number : Nat) :
    (roster.unregister number).Leaves other := by
  have hstopped : (roster.markStopped number).Leaves other := h.change fun _ hleaving => hleaving
  unfold Roster.unregister
  split
  · exact hstopped
  · split <;> exact hstopped

theorem isLeaving_terminate {connection : Connection} (h : connection.isLeaving = true)
    (reason : String) : (connection.terminate reason).isLeaving = true := by
  obtain ⟨hending, hdelay⟩ := Bool.and_eq_true_iff.1 h
  obtain ⟨earlier, hearlier⟩ := Option.isSome_iff_exists.1 hending
  refine Bool.and_eq_true_iff.2 ⟨?_, hdelay⟩
  simp [Connection.terminate, hearlier]

theorem Consistent.send (h : roster.Consistent) (clusterId : String) (config : DynamicConfig) :
    (roster.send clusterId config).2.Consistent := by
  unfold Roster.send
  split
  · exact h
  · split
    · exact h
    · split
      · exact h.change _ fun _ => rfl
      · exact h

theorem length_relieved (roster : Roster) (id : String) :
    (roster.relieved id).connections.length = roster.connections.length := by
  unfold relieved
  split
  · rfl
  · exact List.length_modify _ _ _

theorem register_eq (roster : Roster) (connection : Connection) :
    roster.register connection =
      { connections := (roster.relieved connection.clusterId).connections ++ [connection]
        live := roster.live.insert connection.clusterId roster.connections.length } := by
  rw [← roster.length_relieved connection.clusterId]
  unfold register relieved
  cases roster.live.get? connection.clusterId <;> rfl

theorem getElem?_register_self (roster : Roster) (connection : Connection) :
    (roster.register connection).connections[roster.connections.length]? = some connection := by
  rw [register_eq, ← roster.length_relieved connection.clusterId]
  exact List.getElem?_concat_length

/-- A cluster's new connection is its live one, and all others keep theirs. -/
theorem Consistent.register (h : roster.Consistent) (connection : Connection) :
    (roster.register connection).Consistent := by
  have hrelieved : (roster.relieved connection.clusterId).Consistent ∧
      (roster.relieved connection.clusterId).live = roster.live := by
    unfold Roster.relieved
    split
    · exact ⟨h, rfl⟩
    · exact ⟨h.change _ fun _ => rfl, rfl⟩
  obtain ⟨hkept, hsame⟩ := hrelieved
  have hself := getElem?_register_self roster connection
  rw [register_eq] at hself ⊢
  intro id number hlive
  dsimp only at hlive
  rw [Table.get?_insert] at hlive
  split at hlive
  · rename_i hid
    cases hlive
    exact ⟨connection, connectionOf?_eq_some.2 ⟨hself, hid.symm⟩⟩
  · obtain ⟨earlier, hearlier⟩ := hkept id number (hsame.symm ▸ hlive)
    obtain ⟨hconnection, hid⟩ := connectionOf?_eq_some.1 hearlier
    refine ⟨earlier, connectionOf?_eq_some.2 ⟨?_, hid⟩⟩
    rw [List.getElem?_append_left (List.getElem?_eq_some_iff.1 hconnection).1]
    exact hconnection

theorem Consistent.move (h : roster.Consistent) (move : AgentMove) :
    (move.apply roster).Consistent := by
  cases move with
  | unregister number => exact h.unregister number
  | send clusterId config => exact h.send clusterId config
  | _ => exact h.change _ fun _ => rfl

end

/-! ## Connections that others do not end -/

namespace Outlasts

variable {id : String} {origin roster : Roster} {number : Nat}

theorem refl (id : String) (roster : Roster) : Outlasts id roster roster :=
  ⟨fun _ => .inl rfl, .inl rfl⟩

theorem terminate (h : Outlasts id origin roster) (hother : roster.connectionOf? id number = none)
    (reason : String) : Outlasts id origin (roster.terminate number reason) := by
  refine ⟨?_, h.live⟩
  intro position
  have hsame : (roster.terminate number reason).connectionOf? id position =
      roster.connectionOf? id position := by
    rw [connectionOf?_terminate]
    split
    · rename_i heq
      rw [← heq, hother]
      rfl
    · rfl
  rw [hsame]
  exact h.connections position

/-- A connection which is leaving now was leaving from the first. -/
theorem leaving (h : Outlasts id origin roster) {connection : Connection}
    (hconnection : roster.connectionOf? id number = some connection)
    (hleaving : connection.isLeaving = true) :
    ∃ earlier, origin.connectionOf? id number = some earlier ∧ earlier.isLeaving = true ∧
      { connection with stopped := true } = { earlier with stopped := true } := by
  rcases h.connections number with hsame | ⟨earlier, hearlier, hleft, hstopped⟩
  · rw [hconnection] at hsame
    exact ⟨connection, hsame.symm, hleaving, rfl⟩
  · rw [hconnection] at hstopped
    cases hstopped
    exact ⟨earlier, hearlier, hleft, rfl⟩

theorem unregister (h : Outlasts id origin roster) (hleaves : roster.Leaves number) :
    Outlasts id origin (roster.unregister number) := by
  have hleaving : ∀ connection, roster.connectionOf? id number = some connection →
      connection.isLeaving = true := by
    intro connection hconnection
    obtain ⟨other, hother, hleaving⟩ := hleaves
    rw [(connectionOf?_eq_some.1 hconnection).1] at hother
    cases hother
    exact hleaving
  constructor
  · intro position
    rw [connectionOf?_unregister]
    split
    · rename_i heq
      subst heq
      cases hconnection : roster.connectionOf? id number with
      | none =>
        have hnone := h.connections number
        rw [hconnection] at hnone
        exact hnone
      | some connection =>
        obtain ⟨earlier, hearlier, hleft, hstopped⟩ :=
          h.leaving hconnection (hleaving connection hconnection)
        exact .inr ⟨earlier, hearlier, hleft, congrArg some hstopped⟩
    · exact h.connections position
  · rcases get?_live_unregister roster id number with hkept | ⟨hnone, hlive, connection, hconnection⟩
    · rw [hkept]
      exact h.live
    · obtain ⟨earlier, hearlier, hleft, -⟩ :=
        h.leaving hconnection (hleaving connection hconnection)
      rcases h.live with hsame | ⟨hgone, -⟩
      · exact .inr ⟨hnone, number, earlier, hsame ▸ hlive, hearlier, hleft⟩
      · rw [hgone] at hlive
        cases hlive

end Outlasts

end Roster

/-! ## The timeline -/

namespace Timeline

/-- Everybody who has a turn, now or later. -/
def turns (timeline : Timeline) : List Turn :=
  timeline.agenda ++ timeline.deferred ++ timeline.alarms.map (·.turn)

/-- No teardown on the timeline is one of a spared cluster, and only agents that were asked to end
depart. -/
structure Shields (spared : String → Prop) (origin : Roster) (timeline : Timeline) : Prop where
  consistent : timeline.roster.Consistent
  outlasts : ∀ id, spared id → origin.Outlasts id timeline.roster
  departing : ∀ number, .departure number ∈ timeline.turns → timeline.roster.Leaves number
  others : ∀ lane ∈ timeline.lanes, ∀ job ∈ lane.jobs, ¬ spared job.cluster.id

theorem mem_turns {timeline : Timeline} {turn : Turn} :
    turn ∈ timeline.turns ↔ turn ∈ timeline.agenda ∨ turn ∈ timeline.deferred ∨
      ∃ alarm ∈ timeline.alarms, alarm.turn = turn := by
  simp [turns]

theorem mem_of_mem_call {agenda : Agenda} {turn called : Turn} (h : turn ∈ agenda.call called) :
    turn ∈ agenda ∨ turn = called := by
  unfold Agenda.call at h
  split at h
  · exact .inl h
  · simpa using h

theorem mem_of_mem_callAgent {agenda : Agenda} {roster : Roster} {number : Nat} {turn : Turn}
    (h : turn ∈ agenda.callAgent roster number) : turn ∈ agenda ∨ turn = .agent number := by
  unfold Agenda.callAgent at h
  split at h
  · exact .inl h
  · split at h
    · exact mem_of_mem_call h
    · exact .inl h

theorem mem_of_mem_foldl_call {agenda : Agenda} {turns : List Turn} {turn : Turn}
    (h : turn ∈ turns.foldl Agenda.call agenda) : turn ∈ agenda ∨ turn ∈ turns := by
  obtain ⟨fresh, hfold, -, hfresh⟩ := exists_foldl_call agenda turns
  rw [hfold] at h
  rcases List.mem_append.1 h with hold | hnew
  · exact .inl hold
  · exact .inr (hfresh turn hnew).1

namespace Shields

variable {spared : String → Prop} {origin : Roster} {before after : Timeline}

/-- Whatever leaves the connections alone shields them, if it lets nobody depart anew. -/
theorem change (h : before.Shields spared origin) (hroster : after.roster = before.roster)
    (hturns : ∀ number, .departure number ∈ after.turns → .departure number ∈ before.turns)
    (hlanes : ∀ lane ∈ after.lanes, lane ∈ before.lanes ∨ ∀ job ∈ lane.jobs, ¬ spared job.cluster.id) :
    after.Shields spared origin where
  consistent := hroster ▸ h.consistent
  outlasts := fun id hid => hroster ▸ h.outlasts id hid
  departing := fun number hnumber => hroster ▸ h.departing number (hturns number hnumber)
  others := fun lane hlane => (hlanes lane hlane).elim (h.others lane) id

theorem finish (h : before.Shields spared origin) (job : Job) (connectionEnd : ConnectionEnd) :
    (before.finish job connectionEnd).Shields spared origin :=
  h.change rfl (fun _ hturn => hturn) fun _ hlane => .inl hlane

theorem setLane (h : before.Shields spared origin) (position : Nat) {lane : Lane}
    (hlane : ∀ job ∈ lane.jobs, ¬ spared job.cluster.id) :
    (before.setLane position lane).Shields spared origin := by
  refine h.change rfl (fun _ hturn => hturn) ?_
  intro other hother
  rcases List.mem_or_eq_of_mem_set hother with hold | rfl
  · exact .inl hold
  · exact .inr hlane

theorem setAlarm (h : before.Shields spared origin) (time position : Nat) :
    (before.setAlarm time (.lane position)).Shields spared origin := by
  refine h.change rfl ?_ fun _ hlane => .inl hlane
  intro number hnumber
  simpa [turns, Timeline.setAlarm] using hnumber

theorem dropAlarms (h : before.Shields spared origin) (turn : Turn) :
    (before.dropAlarms turn).Shields spared origin := by
  refine h.change rfl ?_ fun _ hlane => .inl hlane
  intro number hnumber
  rw [mem_turns] at hnumber ⊢
  refine hnumber.imp_right (Or.imp_right ?_)
  rintro ⟨alarm, halarm, hturn⟩
  exact ⟨alarm, (List.mem_filter.1 halarm).1, hturn⟩

theorem defer (h : before.Shields spared origin) (position : Nat) {lane : Lane}
    (hlane : ∀ job ∈ lane.jobs, ¬ spared job.cluster.id) :
    (before.defer position lane).Shields spared origin := by
  refine (h.setLane position hlane).change rfl ?_ fun _ hlane => .inl hlane
  intro number hnumber
  simpa [turns, Timeline.defer, Timeline.setLane] using hnumber

theorem await (h : before.Shields spared origin) (position : Nat) (wait : Wait) {jobs : List Job}
    (hjobs : ∀ job ∈ jobs, ¬ spared job.cluster.id) :
    (before.await position wait jobs).Shields spared origin := by
  unfold Timeline.await
  split
  · exact h
  · exact (h.setLane position hjobs).setAlarm _ _

/-- A teardown asks the live connection of its own cluster to end. -/
theorem terminate (h : before.Shields spared origin) {id : String} {number : Nat}
    (hid : ¬ spared id) (hlive : before.roster.live.get? id = some number) :
    (before.terminate number).Shields spared origin := by
  obtain ⟨connection, hconnection⟩ := h.consistent id number hlive
  refine ⟨h.consistent.change number fun _ => rfl, ?_, ?_, h.others⟩
  · intro other hother
    have hne : other ≠ id := by
      rintro rfl
      exact hid hother
    exact (h.outlasts other hother).terminate (Roster.connectionOf?_of_ne hconnection hne) _
  · intro other hother
    have hturn : .departure other ∈ before.turns := by
      rw [mem_turns] at hother ⊢
      refine hother.imp_left ?_
      intro hcalled
      rcases mem_of_mem_callAgent hcalled with hold | heq
      · exact hold
      · cases heq
    exact (h.departing other hturn).change fun _ hleaving => Roster.isLeaving_terminate hleaving _

theorem depart (h : before.Shields spared origin) {number : Nat}
    (hleaves : before.roster.Leaves number) : (before.depart number).Shields spared origin := by
  refine ⟨h.consistent.unregister number, ?_, ?_, h.others⟩
  · intro id hid
    exact (h.outlasts id hid).unregister hleaves
  · intro other hother
    have hturn : .departure other ∈ before.turns := by
      rw [mem_turns] at hother ⊢
      rcases hother with hcalled | hlater
      · rcases mem_of_mem_foldl_call hcalled with hold | hnew
        · exact .inl hold
        · obtain ⟨alarm, halarm, hturn⟩ := List.mem_map.1 (List.mem_filter.1 hnew).1
          exact .inr (.inr ⟨alarm, halarm, hturn⟩)
      · exact .inr hlater
    exact (h.departing other hturn).unregister number

/-- An agent departs only after it was asked to end. -/
theorem heed (h : before.Shields spared origin) (number : Nat) :
    (before.heed number).Shields spared origin := by
  unfold Timeline.heed
  split
  · exact h
  · rename_i connection hconnection
    split
    · rename_i reason delay hending hdelay
      have hleaves : before.roster.Leaves number :=
        ⟨connection, hconnection, by simp [Connection.isLeaving, hending, hdelay]⟩
      split
      · exact h.depart hleaves
      · refine ⟨h.consistent, h.outlasts, ?_, h.others⟩
        intro other hother
        simp only [turns, Timeline.setAlarm, List.map_append, List.map_cons, List.map_nil,
          ← List.append_assoc] at hother
        rcases List.mem_append.1 hother with hold | hnew
        · exact h.departing other hold
        · cases List.mem_singleton.1 hnew
          exact hleaves
    · exact h

theorem serve (timeout : Duration) (position left : Nat) (jobs : List Job) (timeline : Timeline)
    (h : timeline.Shields spared origin) (hjobs : ∀ job ∈ jobs, ¬ spared job.cluster.id) :
    (Timeline.serve timeout position left jobs timeline).Shields spared origin := by
  fun_induction Timeline.serve timeout position left jobs timeline with
  | case1 left timeline => exact h.setLane position (List.forall_mem_nil _)
  | case2 first rest timeline => exact h.defer position hjobs
  | case3 left first rest timeline hnone ih =>
    exact ih (h.finish first _) (List.forall_mem_cons.1 hjobs).2
  | case4 first rest timeline number hlive asked wait =>
    exact (h.terminate (List.forall_mem_cons.1 hjobs).1 hlive).defer position hjobs
  | case5 first rest timeline number hlive asked left hstopped ih =>
    obtain ⟨hfirst, hrest⟩ := List.forall_mem_cons.1 hjobs
    exact ih ((h.terminate hfirst hlive).finish first _) hrest
  | case6 first rest timeline number hlive asked left hrunning hzero ih =>
    obtain ⟨hfirst, hrest⟩ := List.forall_mem_cons.1 hjobs
    exact ih ((h.terminate hfirst hlive).finish first _) hrest
  | case7 first rest timeline number hlive asked wait left hrunning hpositive =>
    exact (h.terminate (List.forall_mem_cons.1 hjobs).1 hlive).await position _ hjobs

theorem resume (h : before.Shields spared origin) (timeout : Duration) (position : Nat) :
    (before.resume timeout position).Shields spared origin := by
  unfold Timeline.resume
  cases hlane : before.lanes[position]? with
  | none => exact h
  | some lane =>
    have hjobs := h.others lane (List.mem_of_getElem? hlane)
    obtain ⟨_ | wait, jobs⟩ := lane
    · exact serve timeout position _ jobs before h hjobs
    · cases jobs with
      | nil => exact serve timeout position _ [] before h hjobs
      | cons first rest =>
        have hrest := (List.forall_mem_cons.1 hjobs).2
        dsimp only
        split
        · exact serve timeout position _ rest _ ((h.dropAlarms _).finish first _) hrest
        · split
          · exact serve timeout position _ rest _ (h.finish first _) hrest
          · exact h.await position wait hjobs

theorem nextRound (h : before.Shields spared origin) : before.nextRound.Shields spared origin := by
  unfold Timeline.nextRound
  split
  · refine h.change rfl ?_ fun _ hlane => .inl hlane
    intro number hnumber
    simpa [turns] using hnumber
  · exact h

theorem take (h : before.Shields spared origin) (timeout : Duration) {turn : Turn} {rest : Agenda}
    (hagenda : before.agenda = turn :: rest) (taken : Nat) :
    (({ before with agenda := rest, taken } : Timeline).take timeout turn).Shields spared origin := by
  have hpopped : ({ before with agenda := rest, taken } : Timeline).Shields spared origin := by
    refine h.change rfl ?_ fun _ hlane => .inl hlane
    intro number hnumber
    rw [mem_turns] at hnumber ⊢
    rw [hagenda]
    exact hnumber.imp_left (List.mem_cons_of_mem _)
  cases turn with
  | lane position => exact hpopped.resume timeout position
  | agent number => exact hpopped.heed number
  | departure number =>
    refine hpopped.depart (h.departing number (mem_turns.2 (.inl ?_)))
    rw [hagenda]
    exact List.mem_cons_self

theorem elapse (h : before.Shields spared origin) (helapse : before.elapse? = some after) :
    after.Shields spared origin := by
  obtain ⟨alarm, -, -, rfl⟩ := elapse?_eq_some helapse
  refine h.change rfl ?_ fun _ hlane => .inl hlane
  intro number hnumber
  rw [mem_turns] at hnumber ⊢
  rcases hnumber with hcalled | hdeferred | ⟨other, hother, hturn⟩
  · rcases mem_of_mem_foldl_call hcalled with hold | hnew
    · exact .inl hold
    · obtain ⟨other, hother, hturn⟩ := List.mem_map.1 hnew
      exact .inr (.inr ⟨other, (List.mem_filter.1 hother).1, hturn⟩)
  · exact .inr (.inl hdeferred)
  · exact .inr (.inr ⟨other, (List.mem_filter.1 hother).1, hturn⟩)

theorem step? {timeout : Duration} (h : before.Shields spared origin)
    (hstep : before.step? timeout = some after) : after.Shields spared origin := by
  rcases step?_eq_some hstep with ⟨turn, rest, hagenda, rfl⟩ | ⟨-, helapse⟩
  · exact h.nextRound.take timeout hagenda _
  · exact h.nextRound.elapse helapse

theorem steps (timeout : Duration) (n : Nat) (h : before.Shields spared origin) :
    (before.steps timeout n).Shields spared origin := by
  induction n generalizing before with
  | zero => exact h
  | succ n ih =>
    unfold Timeline.steps
    cases hstep : before.step? timeout with
    | none => exact h
    | some next => exact ih (h.step? hstep)

theorem run (timeout : Duration) (h : before.Shields spared origin) :
    (before.run timeout).Shields spared origin := by
  unfold Timeline.run
  split
  · exact h
  · exact h.steps timeout _

/-- Every cluster for which no teardown is to be done is spared. -/
theorem start (pace : Pace) {roster : Roster} (hconsistent : roster.Consistent) {agenda : Agenda}
    (hagenda : ∀ number, .departure number ∉ agenda) (queue : TeardownQueue) :
    (Timeline.start pace roster queue agenda).Shields
      (fun id => ∀ job ∈ queue.jobs, id ≠ job.cluster.id) roster := by
  refine ⟨hconsistent, fun id _ => .refl id roster, ?_, ?_⟩
  · intro number hnumber
    refine absurd ?_ (hagenda number)
    simpa [turns, Timeline.start] using hnumber
  · intro lane hlane job hjob hspared
    refine hspared job ?_ rfl
    rcases List.mem_cons.1 hlane with rfl | hdetached
    · exact List.mem_append_left _ hjob
    · obtain ⟨own, hown, rfl⟩ := List.mem_map.1 hdetached
      rw [List.mem_singleton.1 hjob]
      exact List.mem_append_right _ hown

end Shields

/-- In the end no agent is taking its time any more. -/
theorem no_departure_run (timeout : Duration) (timeline : Timeline) (number : Nat) :
    .departure number ∉ (timeline.run timeout).agenda := by
  unfold run
  split
  · rename_i hidle
    intro hnumber
    cases List.all_eq_true.1 hidle _ hnumber
  · obtain ⟨hagenda, -⟩ := step?_eq_none (step?_steps timeout (Nat.le_refl timeline.stepsLeft))
    intro hnumber
    unfold nextRound at hagenda
    split at hagenda
    · rw [(List.append_eq_nil_iff.1 hagenda).1] at hnumber
      cases hnumber
    · rw [hagenda] at hnumber
      cases hnumber

end Timeline

/-! ## Connections in a run -/

namespace State

/-- Live connections are those of their clusters, and no agent is about to depart. -/
structure Connected (state : State) : Prop where
  consistent : state.roster.Consistent
  staying : ∀ number, .departure number ∉ state.agenda

theorem roster_foldl_finish (met : List (Job × ConnectionEnd)) (reports : List (Job × Report))
    (state : State) :
    (met.foldl Registry.finish (reports, state)).2.roster = state.roster ∧
      (met.foldl Registry.finish (reports, state)).2.agenda = state.agenda := by
  induction met generalizing reports state with
  | nil => exact ⟨rfl, rfl⟩
  | cons first rest ih =>
    rw [List.foldl_cons]
    exact ih _ _

theorem roster_settling (state : State) (n : Nat) :
    (Registry.settling state n).2.roster = (Registry.timeline state).roster ∧
      (Registry.settling state n).2.agenda = (Registry.timeline state).agenda :=
  roster_foldl_finish _ _ _

namespace Connected

variable {state : State}

theorem start (runtime : Runtime) (settings : Settings) (now : Instant) :
    (start runtime settings now).Connected :=
  ⟨nofun, by intro number hnumber; cases List.mem_singleton.1 hnumber⟩

theorem shields (h : state.Connected) :
    (Registry.timeline state).Shields (fun id => ∀ job ∈ state.queue.jobs, id ≠ job.cluster.id)
      state.roster :=
  (Timeline.Shields.start state.pace h.consistent h.staying state.queue).run _

theorem settling (h : state.Connected) (n : Nat) : (Registry.settling state n).2.Connected := by
  obtain ⟨hroster, hagenda⟩ := roster_settling state n
  constructor
  · rw [hroster]
    exact h.shields.consistent
  · rw [hagenda]
    exact Timeline.no_departure_run _ _

theorem call (h : state.Connected) {scope : Scope} {operation : Operation}
    {answer : Except Failure Answer} {after : State}
    (heffect : Effect scope state operation answer after) : after.Connected := by
  cases heffect with
  | revised _ _ _ _ _ _ _ _ _ _ hroster =>
    refine ⟨?_, h.staying⟩
    rcases hroster with rfl | rfl
    · exact h.consistent
    · exact h.consistent.send _ _
  | removed =>
    refine ⟨h.consistent, ?_⟩
    intro number hnumber
    rcases Timeline.mem_of_mem_call hnumber with hold | hnew
    · exact h.staying number hold
    · unfold TeardownQueue.nextTurn at hnew
      split at hnew <;> cases hnew
  | _ => exact ⟨h.consistent, h.staying⟩

theorem connect (h : state.Connected) (connection : Connection) :
    (state.connect connection).Connected := by
  refine ⟨h.consistent.register connection, ?_⟩
  intro number hnumber
  have hcalled : ∀ previous, .departure number ∉ state.agenda.callAgent state.roster previous := by
    intro previous hmem
    rcases Timeline.mem_of_mem_callAgent hmem with hold | hnew
    · exact h.staying number hold
    · cases hnew
  unfold State.connect at hnumber
  dsimp only at hnumber
  generalize state.roster.live.get? connection.clusterId = live at hnumber
  cases live with
  | none =>
    split at hnumber
    · rcases Timeline.mem_of_mem_call hnumber with hold | hnew
      · exact h.staying number hold
      · cases hnew
    · exact h.staying number hnumber
  | some previous =>
    split at hnumber
    · rcases Timeline.mem_of_mem_call hnumber with hold | hnew
      · exact hcalled previous hold
      · cases hnew
    · exact hcalled previous hnumber

theorem next (hsound : state.Sound) (h : state.Connected) {event : Event} (horderly : event.IsOrderly) :
    (state.next event).Connected := by
  cases event with
  | call scope operation => exact h.call (operation.run_effect scope hsound.keyed)
  | settle =>
    change (Registry.settle state).2.Connected
    rw [Registry.settle_eq]
    exact h.settling _
  | resolveAlert alertId =>
    obtain ⟨holdings, -, hnext⟩ := next_resolveAlert state alertId
    rw [hnext]
    exact ⟨h.consistent, h.staying⟩
  | connect connection => exact h.connect connection
  | terminate number reason =>
    refine ⟨h.consistent.change number fun _ => rfl, ?_⟩
    intro other hother
    rcases Timeline.mem_of_mem_callAgent hother with hold | hnew
    · exact h.staying other hold
    · cases hnew
  | proceed change =>
    obtain ⟨move, hmove⟩ := horderly
    refine ⟨?_, h.staying⟩
    change (change state.roster).Consistent
    rw [hmove]
    exact h.consistent.move move
  | _ => exact ⟨h.consistent, h.staying⟩

theorem following (hsound : state.Sound) (h : state.Connected) {events : List Event}
    (horderly : ∀ event ∈ events, event.IsOrderly) : (state.following events).Connected := by
  induction events generalizing state with
  | nil => exact h
  | cons event rest ih =>
    obtain ⟨hevent, hrest⟩ := List.forall_mem_cons.1 horderly
    exact ih (hsound.next event) (h.next hsound hevent) hrest

/-- Settling ends no connection of a cluster for which no teardown is pending, but those that were
leaving. -/
theorem outlasts (h : state.Connected) (n : Nat) {id : String}
    (hpending : ∀ job ∈ state.queue.jobs, id ≠ job.cluster.id) :
    state.roster.Outlasts id (Registry.settling state n).2.roster := by
  rw [(roster_settling state n).1]
  exact h.shields.outlasts id hpending

end Connected

end State

end Fleet
