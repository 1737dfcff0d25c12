import Fleet.Proofs.Connections
import Mathlib.Data.List.Induction

/-!
# The newest connection of each cluster

What a roster holds is told by its history. Connections register, are asked to end, and are taken out in
any order, late, more than once or never. The live connection of a cluster is the one that has registered
last for it, until that one is taken out; all others were asked to end or have been taken out. Who was
asked to end keeps the first reason for it and is sent nothing more, and who has ended stays so.
-/

namespace Fleet

/-! ## What a connection keeps -/

namespace Connection

/-- What a connection keeps for good: whose it is, the reason for which it was asked to end, and that it
has ended. -/
structure Continues (before after : Connection) : Prop where
  clusterId : after.clusterId = before.clusterId
  version : after.version = before.version
  ending : ∀ reason, before.ending = some reason → after.ending = some reason
  stopped : before.stopped = true → after.stopped = true

namespace Continues

variable {first second third : Connection}

theorem refl (connection : Connection) : connection.Continues connection :=
  ⟨rfl, rfl, fun _ => id, id⟩

theorem trans (h : first.Continues second) (h' : second.Continues third) : first.Continues third where
  clusterId := h'.clusterId.trans h.clusterId
  version := h'.version.trans h.version
  ending := fun reason hreason => h'.ending reason (h.ending reason hreason)
  stopped := fun hstopped => h'.stopped (h.stopped hstopped)

theorem isSome_ending (h : first.Continues second) (hending : first.ending.isSome = true) :
    second.ending.isSome = true := by
  obtain ⟨reason, hreason⟩ := Option.isSome_iff_exists.1 hending
  rw [h.ending reason hreason]
  rfl

end Continues

theorem continues_terminate (connection : Connection) (reason : String) :
    connection.Continues (connection.terminate reason) := by
  refine ⟨rfl, rfl, ?_, id⟩
  intro earlier hearlier
  simp [terminate, hearlier]

theorem isSome_ending_terminate (connection : Connection) (reason : String) :
    (connection.terminate reason).ending.isSome = true := by
  unfold terminate
  cases connection.ending <;> rfl

end Connection

namespace Roster

/-- Every connection of a roster is in a later one, under its number, with what it keeps. -/
def Continues (before after : Roster) : Prop :=
  ∀ (number : Nat) (connection : Connection), before.connections[number]? = some connection →
    ∃ current, after.connections[number]? = some current ∧ connection.Continues current

theorem Continues.refl (roster : Roster) : roster.Continues roster :=
  fun _ connection hconnection => ⟨connection, hconnection, .refl connection⟩

theorem Continues.trans {first second third : Roster} (h : first.Continues second)
    (h' : second.Continues third) : first.Continues third := by
  intro number connection hconnection
  obtain ⟨middle, hmiddle, hfirst⟩ := h number connection hconnection
  obtain ⟨current, hcurrent, hsecond⟩ := h' number middle hmiddle
  exact ⟨current, hcurrent, hfirst.trans hsecond⟩

theorem continues_change (roster : Roster) (number : Nat) {f : Connection → Connection}
    (hf : ∀ connection : Connection, connection.Continues (f connection)) :
    roster.Continues (roster.change number f) := by
  intro other connection hconnection
  unfold change
  dsimp only
  rw [List.getElem?_modify, hconnection]
  split
  · exact ⟨f connection, rfl, hf connection⟩
  · exact ⟨connection, rfl, .refl connection⟩

/-! ## Sending to one connection -/

/-- Send a configuration to one connection, live or not. -/
def inject (roster : Roster) (number : Nat) (config : DynamicConfig) : Delivery × Roster :=
  match roster.connections[number]? with
  | none => (.unconnected, roster)
  | some connection =>
    match deliveryTo connection with
    | .queued => (.queued, roster.change number fun c => { c with inbox := c.inbox ++ [config] })
    | delivery => (delivery, roster)

/-- The agent of a cluster is sent what its live connection is sent. -/
theorem send_of_live {roster : Roster} {id : String} {number : Nat}
    (h : roster.live.get? id = some number) (config : DynamicConfig) :
    roster.send id config = roster.inject number config := by
  unfold send
  rw [h]
  rfl

theorem send_of_unconnected {roster : Roster} {id : String} (h : roster.live.get? id = none)
    (config : DynamicConfig) : roster.send id config = (.unconnected, roster) := by
  unfold send
  rw [h]

/-- Whoever was asked to end is sent nothing. -/
theorem inject_of_ending {roster : Roster} {number : Nat} {connection : Connection} {reason : String}
    (hconnection : roster.connections[number]? = some connection)
    (hending : connection.ending = some reason) (config : DynamicConfig) :
    roster.inject number config = (.closed, roster) := by
  have hclosed : deliveryTo connection = .closed := by simp [deliveryTo, hending]
  unfold inject
  rw [hconnection]
  simp only [hclosed]

theorem change_id (roster : Roster) (number : Nat) : roster.change number id = roster := by
  unfold change
  rw [List.modify_id]

/-- What is sent to a connection changes at most what waits for its agent. -/
theorem exists_change_inject (roster : Roster) (number : Nat) (config : DynamicConfig) :
    ∃ f, (∀ connection : Connection, connection.Continues (f connection)) ∧
      (roster.inject number config).2 = roster.change number f := by
  have hsame : ∃ f, (∀ connection : Connection, connection.Continues (f connection)) ∧
      roster = roster.change number f :=
    ⟨id, .refl, (roster.change_id number).symm⟩
  unfold inject
  split
  · exact hsame
  · split
    · refine ⟨_, ?_, rfl⟩
      exact fun _ => ⟨rfl, rfl, fun _ => id, id⟩
    · exact hsame

end Roster

/-! ## Histories -/

/-- Something that happens to a roster. -/
inductive RosterEvent where
  | register (connection : Connection)
  | terminate (number : Nat) (reason : String)
  | inject (number : Nat) (config : DynamicConfig)
  | move (step : AgentMove)

namespace RosterEvent

/-- The roster after an event. -/
def apply (roster : Roster) : RosterEvent → Roster
  | register connection => roster.register connection
  | terminate number reason => roster.terminate number reason
  | inject number config => (roster.inject number config).2
  | move step => step.apply roster

/-- The connection that an event registers. -/
def newcomer? : RosterEvent → Option Connection
  | register connection => some connection
  | _ => none

end RosterEvent

/-- The roster after a history that began without connections. -/
def Roster.after (history : List RosterEvent) : Roster :=
  history.foldl RosterEvent.apply {}

theorem Roster.after_concat (history : List RosterEvent) (event : RosterEvent) :
    Roster.after (history ++ [event]) = event.apply (Roster.after history) :=
  List.foldl_append

/-- The connections that have registered, as they came; each one is known by its place in this list. -/
def registrations (history : List RosterEvent) : List Connection :=
  history.filterMap RosterEvent.newcomer?

/-- A connection has registered last for a cluster and has not been taken out since. -/
def Newest (history : List RosterEvent) (id : String) (number : Nat) : Prop :=
  ∃ earlier connection later, history = earlier ++ .register connection :: later ∧
    connection.clusterId = id ∧ number = (registrations earlier).length ∧
    (∀ other, .register other ∈ later → other.clusterId ≠ id) ∧
    .move (.unregister number) ∉ later

/-- A connection was taken out after it had registered. -/
def TakenOut (history : List RosterEvent) (number : Nat) : Prop :=
  ∃ earlier later, history = earlier ++ .move (.unregister number) :: later ∧
    number < (registrations earlier).length

section

variable {history : List RosterEvent} {event : RosterEvent} {id : String} {number : Nat}

theorem registrations_append (earlier later : List RosterEvent) :
    registrations (earlier ++ later) = registrations earlier ++ registrations later :=
  List.filterMap_append

theorem registrations_concat_register (history : List RosterEvent) (connection : Connection) :
    registrations (history ++ [.register connection]) = registrations history ++ [connection] :=
  registrations_append _ _

theorem registrations_concat (hevent : event.newcomer? = none) :
    registrations (history ++ [event]) = registrations history := by
  rw [registrations_append, registrations, registrations]
  simp [hevent]

/-- What a longer history holds at some point is its last event, or the shorter one holds it there. -/
theorem concat_eq_append_cons {α : Type} {earlier later whole : List α} {last middle : α} :
    whole ++ [last] = earlier ++ middle :: later ↔
      whole = earlier ∧ last = middle ∧ later = [] ∨
        ∃ rest, later = rest ++ [last] ∧ whole = earlier ++ middle :: rest := by
  constructor
  · intro h
    rcases List.eq_nil_or_concat later with rfl | ⟨rest, final, rfl⟩
    · obtain ⟨hwhole, hlast⟩ := List.append_inj' h rfl
      cases hlast
      exact .inl ⟨hwhole, rfl, rfl⟩
    · rw [List.concat_eq_append, ← List.cons_append, ← List.append_assoc] at h
      obtain ⟨hwhole, hlast⟩ := List.append_inj' h rfl
      cases hlast
      exact .inr ⟨rest, List.concat_eq_append, hwhole⟩
  · rintro (⟨rfl, rfl, rfl⟩ | ⟨rest, rfl, rfl⟩)
    · rfl
    · simp

/-- A newcomer is the newest connection of its cluster and of no other. -/
theorem newest_concat_register (connection : Connection) :
    Newest (history ++ [.register connection]) id number ↔
      if connection.clusterId = id then number = (registrations history).length
      else Newest history id number := by
  constructor
  · rintro ⟨earlier, newest, later, hsplit, hid, hnumber, hlast, hkept⟩
    rcases concat_eq_append_cons.1 hsplit with ⟨rfl, hnewest, rfl⟩ | ⟨rest, rfl, rfl⟩
    · cases hnewest
      rw [if_pos hid]
      exact hnumber
    · rw [if_neg (hlast connection (by simp))]
      refine ⟨earlier, newest, rest, rfl, hid, hnumber, ?_, ?_⟩
      · exact fun other hother => hlast other (List.mem_append_left _ hother)
      · exact fun hmem => hkept (List.mem_append_left _ hmem)
  · intro h
    split at h
    · rename_i hid
      exact ⟨history, connection, [], rfl, hid, h, nofun, nofun⟩
    · rename_i hid
      obtain ⟨earlier, newest, later, rfl, hnewest, hnumber, hlast, hkept⟩ := h
      refine ⟨earlier, newest, later ++ [.register connection], by simp, hnewest, hnumber, ?_, ?_⟩
      · intro other hother
        rcases List.mem_append.1 hother with hold | hnew
        · exact hlast other hold
        · cases List.mem_singleton.1 hnew
          exact hid
      · intro hmem
        rcases List.mem_append.1 hmem with hold | hnew
        · exact hkept hold
        · cases List.mem_singleton.1 hnew

/-- Whatever is no registration only takes the connection away that it takes out. -/
theorem newest_concat (hevent : event.newcomer? = none) :
    Newest (history ++ [event]) id number ↔
      Newest history id number ∧ event ≠ .move (.unregister number) := by
  constructor
  · rintro ⟨earlier, newest, later, hsplit, hid, hnumber, hlast, hkept⟩
    rcases concat_eq_append_cons.1 hsplit with ⟨-, rfl, -⟩ | ⟨rest, rfl, rfl⟩
    · cases hevent
    · refine ⟨⟨earlier, newest, rest, rfl, hid, hnumber, ?_, ?_⟩, ?_⟩
      · exact fun other hother => hlast other (List.mem_append_left _ hother)
      · exact fun hmem => hkept (List.mem_append_left _ hmem)
      · rintro rfl
        exact hkept (by simp)
  · rintro ⟨⟨earlier, newest, later, rfl, hid, hnumber, hlast, hkept⟩, hother⟩
    refine ⟨earlier, newest, later ++ [event], by simp, hid, hnumber, ?_, ?_⟩
    · intro other hmem
      rcases List.mem_append.1 hmem with hold | hnew
      · exact hlast other hold
      · rw [← List.mem_singleton.1 hnew] at hevent
        cases hevent
    · intro hmem
      rcases List.mem_append.1 hmem with hold | hnew
      · exact hkept hold
      · exact hother (List.mem_singleton.1 hnew).symm

theorem TakenOut.concat (h : TakenOut history number) (event : RosterEvent) :
    TakenOut (history ++ [event]) number := by
  obtain ⟨earlier, later, rfl, hregistered⟩ := h
  exact ⟨earlier, later ++ [event], by simp, hregistered⟩

end

/-! ## What an event does to a roster -/

namespace RosterEvent

variable {roster : Roster} {event : RosterEvent}

/-- Whatever is no registration takes a connection out, or changes one at most and leaves it what it
keeps. -/
theorem apply_cases (roster : Roster) (hevent : event.newcomer? = none) :
    (∃ number, event = .move (.unregister number)) ∨
      ∃ number f, (∀ connection : Connection, connection.Continues (f connection)) ∧
        event.apply roster = roster.change number f ∧ ∀ other, event ≠ .move (.unregister other) := by
  cases event with
  | register connection => cases hevent
  | terminate number reason =>
    exact .inr ⟨number, _, fun connection => connection.continues_terminate reason, rfl, nofun⟩
  | inject number config =>
    obtain ⟨f, hf, hinject⟩ := roster.exists_change_inject number config
    exact .inr ⟨number, f, hf, hinject, nofun⟩
  | move step =>
    cases step with
    | unregister number => exact .inl ⟨number, rfl⟩
    | drain number =>
      refine .inr ⟨number, _, ?_, rfl, nofun⟩
      exact fun _ => ⟨rfl, rfl, fun _ => id, id⟩
    | close number =>
      refine .inr ⟨number, _, ?_, rfl, nofun⟩
      exact fun _ => ⟨rfl, rfl, fun _ => id, id⟩
    | markStopped number =>
      refine .inr ⟨number, _, ?_, rfl, nofun⟩
      exact fun _ => ⟨rfl, rfl, fun _ => id, fun _ => rfl⟩
    | send clusterId config =>
      cases hlive : roster.live.get? clusterId with
      | none =>
        refine .inr ⟨0, id, .refl, ?_, nofun⟩
        change (roster.send clusterId config).2 = _
        rw [Roster.send_of_unconnected hlive, Roster.change_id]
      | some number =>
        obtain ⟨f, hf, hinject⟩ := roster.exists_change_inject number config
        rw [← Roster.send_of_live hlive] at hinject
        exact .inr ⟨number, f, hf, hinject, nofun⟩

/-- Whatever is no registration changes one connection at most, and leaves it what it keeps. -/
theorem exists_modify (roster : Roster) (hevent : event.newcomer? = none) :
    ∃ number f, (∀ connection : Connection, connection.Continues (f connection)) ∧
      (event.apply roster).connections = roster.connections.modify number f := by
  rcases event.apply_cases roster hevent with ⟨number, rfl⟩ | ⟨number, f, hf, happly, -⟩
  · refine ⟨number, ({ · with stopped := true }), fun _ => ⟨rfl, rfl, fun _ => id, fun _ => rfl⟩, ?_⟩
    change (roster.unregister number).connections = _
    unfold Roster.unregister
    split
    · rfl
    · split <;> rfl
  · rw [happly]
    exact ⟨number, f, hf, rfl⟩

end RosterEvent

namespace Roster

variable {roster : Roster} {event : RosterEvent} {id : String} {number : Nat}

theorem getElem?_relieved_of_live (h : roster.live.get? id = some number) :
    (roster.relieved id).connections[number]? =
      roster.connections[number]?.map (·.terminate "replaced by a newer connection") := by
  unfold relieved
  rw [h]
  exact List.getElem?_modify_eq _ _ _

theorem getElem?_relieved_of_other (h : roster.live.get? id ≠ some number) :
    (roster.relieved id).connections[number]? = roster.connections[number]? := by
  unfold relieved
  split
  · rfl
  · rename_i previous hlive
    have hne : previous ≠ number := fun heq => h (heq ▸ hlive)
    exact List.getElem?_modify_ne _ _ hne

/-- Whoever had registered before a newcomer is in its place, asked to end if it was the live one. -/
theorem getElem?_register_of_lt (connection : Connection) (h : number < roster.connections.length) :
    (roster.register connection).connections[number]? =
      (roster.relieved connection.clusterId).connections[number]? := by
  rw [register_eq]
  exact List.getElem?_append_left (by rw [length_relieved]; exact h)

theorem continues_register (roster : Roster) (connection : Connection) :
    roster.Continues (roster.register connection) := by
  intro number earlier hearlier
  rw [getElem?_register_of_lt connection (List.getElem?_eq_some_iff.1 hearlier).1]
  by_cases hlive : roster.live.get? connection.clusterId = some number
  · rw [getElem?_relieved_of_live hlive, hearlier]
    exact ⟨_, rfl, earlier.continues_terminate _⟩
  · rw [getElem?_relieved_of_other hlive]
    exact ⟨earlier, hearlier, .refl earlier⟩

theorem continues_apply (roster : Roster) (event : RosterEvent) :
    roster.Continues (event.apply roster) := by
  cases hevent : event.newcomer? with
  | some connection =>
    cases event <;> cases hevent
    exact roster.continues_register connection
  | none =>
    obtain ⟨number, f, hf, hconnections⟩ := event.exists_modify roster hevent
    intro other connection hconnection
    obtain ⟨current, hcurrent, hkept⟩ := roster.continues_change number hf other connection hconnection
    exact ⟨current, hconnections ▸ hcurrent, hkept⟩

theorem continues_after_append (history later : List RosterEvent) :
    (after history).Continues (after (history ++ later)) := by
  induction later using List.reverseRecOn with
  | nil =>
    rw [List.append_nil]
    exact .refl _
  | append_singleton later event ih =>
    rw [← List.append_assoc, after_concat]
    exact ih.trans (continues_apply _ event)

theorem length_apply (roster : Roster) (hevent : event.newcomer? = none) :
    (event.apply roster).connections.length = roster.connections.length := by
  obtain ⟨number, f, -, hconnections⟩ := event.exists_modify roster hevent
  rw [hconnections]
  exact List.length_modify _ _ _

theorem Consistent.apply (h : roster.Consistent) (event : RosterEvent) :
    (event.apply roster).Consistent := by
  cases hevent : event.newcomer? with
  | some connection =>
    cases event <;> cases hevent
    exact h.register connection
  | none =>
    rcases event.apply_cases roster hevent with ⟨number, rfl⟩ | ⟨number, f, hf, happly, -⟩
    · exact h.unregister number
    · rw [happly]
      exact h.change number fun connection => (hf connection).clusterId

/-- Taking a connection out leaves every other live connection, whichever cluster it is for. -/
theorem get?_live_unregister_iff (h : roster.Consistent) {other : Nat} :
    (roster.unregister number).live.get? id = some other ↔
      roster.live.get? id = some other ∧ number ≠ other := by
  rcases get?_live_unregister roster id number with hsame | ⟨hnone, hlive, -⟩
  · rw [hsame]
    refine ⟨fun hlive => ⟨hlive, ?_⟩, And.left⟩
    -- had it been live for the cluster it would be so no longer
    rintro rfl
    obtain ⟨connection, hown⟩ := h id number hlive
    obtain ⟨hconnection, rfl⟩ := connectionOf?_eq_some.1 hown
    unfold unregister at hsame
    rw [hconnection] at hsame
    dsimp only at hsame
    rw [if_pos hlive, Table.get?_erase, if_pos rfl, hlive] at hsame
    cases hsame
  · rw [hnone, hlive]
    constructor
    · intro hother
      cases hother
    · rintro ⟨hother, hne⟩
      cases hother
      exact absurd rfl hne

/-- Whatever is no registration only takes the connection out that it names. -/
theorem get?_live_apply_iff (h : roster.Consistent) (hevent : event.newcomer? = none) :
    (event.apply roster).live.get? id = some number ↔
      roster.live.get? id = some number ∧ event ≠ .move (.unregister number) := by
  rcases event.apply_cases roster hevent with ⟨other, rfl⟩ | ⟨other, f, -, happly, hother⟩
  · refine (get?_live_unregister_iff h).trans (and_congr_right fun _ => not_congr ?_)
    constructor
    · rintro rfl
      rfl
    · intro heq
      cases heq
      rfl
  · rw [happly]
    exact ⟨fun hlive => ⟨hlive, hother number⟩, And.left⟩

/-! ## Histories and rosters -/

/-- What a roster holds after a history. -/
structure Follows (roster : Roster) (history : List RosterEvent) : Prop where
  consistent : roster.Consistent
  length : roster.connections.length = (registrations history).length
  registered : ∀ (number : Nat) (newcomer : Connection), (registrations history)[number]? = some newcomer →
    ∃ connection, roster.connections[number]? = some connection ∧ newcomer.Continues connection
  newest : ∀ id number, roster.live.get? id = some number ↔ Newest history id number
  superseded : ∀ (number : Nat) (connection : Connection), roster.connections[number]? = some connection →
    roster.live.get? connection.clusterId = some number ∨ connection.ending.isSome = true ∨
      TakenOut history number

namespace Follows

variable {history : List RosterEvent}

theorem start : Follows {} [] := by
  refine ⟨nofun, rfl, nofun, ?_, nofun⟩
  intro id number
  constructor
  · intro hlive
    cases hlive
  · rintro ⟨earlier, connection, later, hsplit, -⟩
    cases earlier <;> cases hsplit

theorem register (h : roster.Follows history) (connection : Connection) :
    (roster.register connection).Follows (history ++ [.register connection]) where
  consistent := h.consistent.register connection
  length := by
    rw [registrations_concat_register, register_eq, List.length_append, List.length_append,
      length_relieved, h.length]
  registered := by
    intro number newcomer hnewcomer
    rw [registrations_concat_register] at hnewcomer
    by_cases hold : number < (registrations history).length
    · rw [List.getElem?_append_left hold] at hnewcomer
      obtain ⟨earlier, hearlier, hkept⟩ := h.registered number newcomer hnewcomer
      obtain ⟨current, hcurrent, hkept'⟩ := continues_register roster connection number earlier hearlier
      exact ⟨current, hcurrent, hkept.trans hkept'⟩
    · obtain ⟨rfl, rfl⟩ : number = roster.connections.length ∧ newcomer = connection := by
        rw [List.getElem?_append_right (Nat.le_of_not_lt hold), List.getElem?_singleton] at hnewcomer
        split at hnewcomer
        · cases hnewcomer
          rw [h.length]
          exact ⟨by omega, rfl⟩
        · cases hnewcomer
      exact ⟨newcomer, getElem?_register_self roster newcomer, .refl newcomer⟩
  newest := by
    intro id number
    rw [newest_concat_register, register_eq, Table.get?_insert, h.length, ← h.newest]
    by_cases hid : id = connection.clusterId
    · rw [if_pos hid, if_pos hid.symm]
      exact ⟨fun heq => (Option.some.inj heq).symm, fun heq => congrArg some heq.symm⟩
    · rw [if_neg hid, if_neg fun heq => hid heq.symm]
  superseded := by
    intro number current hcurrent
    have hlive : (roster.register connection).live.get? current.clusterId =
        if current.clusterId = connection.clusterId then some roster.connections.length
        else roster.live.get? current.clusterId := by
      rw [register_eq]
      exact Table.get?_insert ..
    rw [hlive]
    by_cases hold : number < roster.connections.length
    · rw [getElem?_register_of_lt connection hold] at hcurrent
      by_cases hprevious : roster.live.get? connection.clusterId = some number
      · rw [getElem?_relieved_of_live hprevious] at hcurrent
        obtain ⟨earlier, -, rfl⟩ := Option.map_eq_some_iff.1 hcurrent
        exact .inr (.inl (earlier.isSome_ending_terminate _))
      · rw [getElem?_relieved_of_other hprevious] at hcurrent
        rcases h.superseded number current hcurrent with hstill | hended | hout
        · have hid : current.clusterId ≠ connection.clusterId := by
            intro hid
            rw [hid] at hstill
            exact hprevious hstill
          rw [if_neg hid]
          exact .inl hstill
        · exact .inr (.inl hended)
        · exact .inr (.inr (hout.concat _))
    · have hnumber : number = roster.connections.length := by
        have hbound := (List.getElem?_eq_some_iff.1 hcurrent).1
        rw [register_eq, List.length_append, length_relieved, List.length_singleton] at hbound
        omega
      subst hnumber
      rw [getElem?_register_self] at hcurrent
      cases hcurrent
      exact .inl (if_pos rfl)

theorem other (h : roster.Follows history) (hevent : event.newcomer? = none) :
    (event.apply roster).Follows (history ++ [event]) where
  consistent := h.consistent.apply event
  length := by rw [registrations_concat hevent, length_apply roster hevent, h.length]
  registered := by
    intro number newcomer hnewcomer
    rw [registrations_concat hevent] at hnewcomer
    obtain ⟨earlier, hearlier, hkept⟩ := h.registered number newcomer hnewcomer
    obtain ⟨current, hcurrent, hkept'⟩ := continues_apply roster event number earlier hearlier
    exact ⟨current, hcurrent, hkept.trans hkept'⟩
  newest := by
    intro id number
    rw [get?_live_apply_iff h.consistent hevent, newest_concat hevent, h.newest]
  superseded := by
    intro number current hcurrent
    have hold : number < roster.connections.length := by
      rw [← length_apply roster hevent]
      exact (List.getElem?_eq_some_iff.1 hcurrent).1
    obtain ⟨same, hsame, hkept⟩ :=
      continues_apply roster event number _ (List.getElem?_eq_getElem hold)
    rw [hcurrent] at hsame
    cases hsame
    rw [hkept.clusterId]
    rcases h.superseded number _ (List.getElem?_eq_getElem hold) with hlive | hended | hout
    · by_cases hnamed : event = .move (.unregister number)
      · exact .inr (.inr ⟨history, [], by rw [hnamed], h.length ▸ hold⟩)
      · exact .inl ((get?_live_apply_iff h.consistent hevent).2 ⟨hlive, hnamed⟩)
    · exact .inr (.inl (hkept.isSome_ending hended))
    · exact .inr (.inr (hout.concat event))

theorem apply (h : roster.Follows history) (event : RosterEvent) :
    (event.apply roster).Follows (history ++ [event]) := by
  cases hevent : event.newcomer? with
  | none => exact h.other hevent
  | some connection =>
    cases event <;> cases hevent
    exact h.register connection

theorem after (history : List RosterEvent) : (Roster.after history).Follows history := by
  induction history using List.reverseRecOn with
  | nil => exact start
  | append_singleton history event ih =>
    rw [after_concat]
    exact ih.apply event

end Follows

end Roster

/-- After any history the live connection of a cluster is the one that has registered last for it, until
that one is taken out, and all live connections are counted. Every other connection was asked to end or
taken out. What a connection was asked to end for stands, it ends once, and it is sent nothing more. -/
theorem roster_holds_newest_connections (history later : List RosterEvent) :
    let roster := Roster.after history
    (∀ id number, roster.live.get? id = some number ↔ Newest history id number) ∧
      (∃ ids : List String, ids.Nodup ∧ (∀ id, id ∈ ids ↔ ∃ number, Newest history id number) ∧
        roster.size = ids.length) ∧
      (∀ (number : Nat) (newcomer : Connection), (registrations history)[number]? = some newcomer →
        ∃ connection, roster.connections[number]? = some connection ∧ newcomer.Continues connection ∧
          (Newest history newcomer.clusterId number ∨ connection.ending.isSome = true ∨
            TakenOut history number)) ∧
      roster.Continues (Roster.after (history ++ later)) ∧
      ∀ (number : Nat) (connection : Connection), roster.connections[number]? = some connection →
        connection.ending.isSome = true →
        ∀ config, roster.inject number config = (.closed, roster) := by
  intro roster
  have hfollows : roster.Follows history := Roster.Follows.after history
  refine ⟨hfollows.newest, ?_, ?_, Roster.continues_after_append history later, ?_⟩
  · refine ⟨roster.live.keys, Table.nodup_keys _, ?_, ?_⟩
    · intro id
      rw [Table.mem_keys]
      exact exists_congr fun number => hfollows.newest id number
    · exact (List.length_map _).symm
  · intro number newcomer hnewcomer
    obtain ⟨connection, hconnection, hkept⟩ := hfollows.registered number newcomer hnewcomer
    refine ⟨connection, hconnection, hkept, ?_⟩
    rw [← hfollows.newest, ← hkept.clusterId]
    exact hfollows.superseded number connection hconnection
  · intro number connection hconnection hending config
    obtain ⟨reason, hreason⟩ := Option.isSome_iff_exists.1 hending
    exact Roster.inject_of_ending hconnection hreason config

/-- An agent of "c" ends late, once its cluster has another, and is taken out twice. -/
def lateEnding : List RosterEvent :=
  [.register { clusterId := "c", version := "4.1", capacity := 8 },
    .register { clusterId := "d", version := "4.1", capacity := 8 },
    .register { clusterId := "c", version := "4.2", capacity := 8 },
    .terminate 0 "shutting down", .move (.unregister 0), .move (.unregister 0), .move (.unregister 1)]

theorem roster_holds_newest_connections_of_lateEnding :
    let roster := Roster.after lateEnding
    roster.live.get? "c" = some 2 ∧ roster.live.get? "d" = none ∧ roster.size = 1 ∧
      roster.connections.map (·.ending) = [some "replaced by a newer connection", none, none] ∧
      Newest lateEnding "c" 2 ∧ TakenOut lateEnding 1 := by
  intro roster
  have hlive : roster.live.get? "c" = some 2 := by decide +kernel
  refine ⟨hlive, by decide +kernel, by decide +kernel, by decide +kernel,
    ((roster_holds_newest_connections lateEnding []).1 "c" 2).1 hlive, ?_⟩
  exact ⟨lateEnding.take 6, [], by rfl, by decide +kernel⟩

end Fleet
