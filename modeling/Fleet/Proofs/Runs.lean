import Fleet.Proofs.Effects
import Fleet.Surroundings

/-!
# Runs of the control plane

Everything that can happen to the control plane, one thing after another, from an empty start. Nobody
writes to the stores of the registry but the registry itself; collaborators go out of order and come
back, agents connect and end as they like, and time may go anywhere.
-/

namespace Fleet

/-- Something that happens to the control plane. -/
inductive Event where
  | call (scope : Scope) (operation : Operation)
  | settle
  | setClock (now : Instant)
  | setRank (id : String) (rank : Int)
  | grant (subject : String) (permission : Permission)
  | setOutage (outage : Outage) (on : Bool)
  | setOffline (part : Part) (on : Bool)
  | addResource (kind : ResourceKind) (clusterId : String) (resource : Resource)
  | addAlert (alert : Alert)
  | resolveAlert (alertId : String)
  | connect (connection : Connection)
  | terminate (number : Nat) (reason : String)
  /-- Agents take commands, close and end. -/
  | proceed (change : Roster → Roster)
  | takeTally

/-- Whether an event puts nothing out of order. -/
def Event.isCalm : Event → Bool
  | .setOutage _ on => !on
  | .setOffline _ on => !on
  | _ => true

theorem Holdings.health_of_resolveAlert {holdings left : Holdings} {conditions : Conditions}
    {alertId : String} (h : holdings.resolveAlert conditions alertId = .ok left) :
    left.health = holdings.health := by
  unfold resolveAlert Conditions.check Conditions.checkPart at h
  split at h
  · cases h
  · split at h
    · cases h
    · cases hget : holdings.alerts.get? alertId with
      | none =>
        simp only [hget] at h
        cases h
      | some alert =>
        simp only [hget] at h
        cases h
        rfl

namespace State

/-- The state after something has happened. -/
def next (state : State) : Event → State
  | .call scope operation => (operation.run scope).after state
  | .settle => (Registry.settle state).2
  | .setClock now => state.setClock now
  | .setRank id rank => state.setRank id rank
  | .grant subject permission => state.grant subject permission
  | .setOutage outage on => state.setOutage outage on
  | .setOffline part on => state.setOffline part on
  | .addResource kind clusterId resource => state.addResource kind clusterId resource
  | .addAlert alert => state.addAlert alert
  | .resolveAlert alertId =>
    match state.resolveAlert alertId with
    | .ok after => after
    | .error _ => state
  | .connect connection => state.connect connection
  | .terminate number reason => state.terminate number reason
  | .proceed change => state.withRoster change
  | .takeTally => state.takeTally.2

/-- The state after a run of events, the first one first. -/
def following (state : State) (events : List Event) : State :=
  events.foldl next state

@[simp] theorem following_nil (state : State) : state.following [] = state := rfl

@[simp] theorem following_cons (state : State) (event : Event) (rest : List Event) :
    state.following (event :: rest) = (state.next event).following rest := rfl

theorem following_append (state : State) (first second : List Event) :
    state.following (first ++ second) = (state.following first).following second :=
  List.foldl_append

/-- The state before anything has happened. -/
def start (runtime : Runtime) (settings : Settings) (now : Instant) : State :=
  { runtime with settings, now }

/-- A state that some run of events leads to. -/
def Reachable (state : State) : Prop :=
  ∃ runtime settings now events, state = (start runtime settings now).following events

theorem Reachable.following {state : State} (h : state.Reachable) (events : List Event) :
    (state.following events).Reachable := by
  obtain ⟨runtime, settings, now, earlier, rfl⟩ := h
  exact ⟨runtime, settings, now, earlier ++ events, (following_append _ _ _).symm⟩

/-- Resolving an alert has to do with alerts only. -/
theorem next_resolveAlert (state : State) (alertId : String) :
    ∃ holdings, holdings.health = state.holdings.health ∧
      state.next (.resolveAlert alertId) = { state with holdings } := by
  cases hholdings : state.holdings.resolveAlert state.conditions.withoutOutages alertId with
  | error failure =>
    refine ⟨state.holdings, rfl, ?_⟩
    simp only [next, State.resolveAlert, hholdings]
    rfl
  | ok holdings =>
    refine ⟨holdings, Holdings.health_of_resolveAlert hholdings, ?_⟩
    simp only [next, State.resolveAlert, hholdings]
    rfl

/-- What the registry keeps: everything that only its calls change. -/
structure SameRegistry (before after : State) : Prop where
  ids : after.ids = before.ids
  settings : after.settings = before.settings
  clusters : after.clusters = before.clusters
  index : after.index = before.index
  directory : after.directory = before.directory
  flows : after.flows = before.flows
  issued : after.issued = before.issued

namespace SameRegistry

theorem refl (state : State) : SameRegistry state state := ⟨rfl, rfl, rfl, rfl, rfl, rfl, rfl⟩

theorem trans {first second third : State} (h : SameRegistry first second)
    (h' : SameRegistry second third) : SameRegistry first third where
  ids := h'.ids.trans h.ids
  settings := h'.settings.trans h.settings
  clusters := h'.clusters.trans h.clusters
  index := h'.index.trans h.index
  directory := h'.directory.trans h.directory
  flows := h'.flows.trans h.flows
  issued := h'.issued.trans h.issued

/-- The counts are not kept by the registry. -/
theorem tally (state : State) (tally : Tally) : SameRegistry state { state with tally } :=
  ⟨rfl, rfl, rfl, rfl, rfl, rfl, rfl⟩

/-- Cascades leave the registry alone, however many of them run. -/
theorem foldl_finish (met : List (Job × ConnectionEnd)) (reports : List (Job × Report))
    (state : State) : SameRegistry state (met.foldl Registry.finish (reports, state)).2 := by
  induction met generalizing reports state with
  | nil => exact refl state
  | cons first rest ih =>
    rw [List.foldl_cons]
    refine trans ?_ (ih _ _)
    exact ⟨rfl, rfl, rfl, rfl, rfl, rfl, rfl⟩

theorem settle (state : State) : SameRegistry state (Registry.settle state).2 := by
  unfold Registry.settle
  refine trans ?_ (foldl_finish _ _ _)
  exact ⟨rfl, rfl, rfl, rfl, rfl, rfl, rfl⟩

theorem resolveAlert (state : State) (alertId : String) :
    SameRegistry state (state.next (.resolveAlert alertId)) := by
  obtain ⟨holdings, -, hnext⟩ := next_resolveAlert state alertId
  rw [hnext]
  exact ⟨rfl, rfl, rfl, rfl, rfl, rfl, rfl⟩

end SameRegistry

/-- Only calls change what the registry keeps, and every call has one of its effects. -/
theorem next_cases {state : State} (hkeyed : state.Keyed) (event : Event) :
    ((∀ scope operation, event ≠ .call scope operation) ∧ SameRegistry state (state.next event)) ∨
      ∃ scope operation, event = .call scope operation ∧
        Effect scope state operation ((operation.run scope).answer state) (state.next event) := by
  cases event with
  | call scope operation => exact .inr ⟨scope, operation, rfl, operation.run_effect scope hkeyed⟩
  | settle => exact .inl ⟨(fun _ _ h => nomatch h), .settle state⟩
  | resolveAlert alertId => exact .inl ⟨(fun _ _ h => nomatch h), .resolveAlert state alertId⟩
  | _ => exact .inl ⟨(fun _ _ h => nomatch h), rfl, rfl, rfl, rfl, rfl, rfl, rfl⟩

/-! ## What stays in order -/

theorem conditions_effect {scope : Scope} {operation : Operation} {before after : State}
    {answer : Except Failure Answer} (h : Effect scope before operation answer after) :
    after.conditions = before.conditions := by
  cases h <;> rfl

theorem conditions_foldl_finish (met : List (Job × ConnectionEnd)) (reports : List (Job × Report))
    (state : State) :
    (met.foldl Registry.finish (reports, state)).2.conditions = state.conditions := by
  induction met generalizing reports state with
  | nil => rfl
  | cons first rest ih =>
    rw [List.foldl_cons]
    exact ih _ _

/-- As long as nothing is put out of order, everything is in order. -/
theorem conditions_next {state : State} (hkeyed : state.Keyed) {event : Event}
    (hevent : event.isCalm = true) (h : state.conditions = {}) : (state.next event).conditions = {} := by
  cases event with
  | call scope operation => exact (conditions_effect (operation.run_effect scope hkeyed)).trans h
  | settle => exact (conditions_foldl_finish _ _ _).trans h
  | resolveAlert alertId =>
    obtain ⟨holdings, -, hnext⟩ := next_resolveAlert state alertId
    rw [hnext]
    exact h
  | setOutage outage on =>
    change state.conditions.setOutage outage on = {}
    cases on with
    | false =>
      rw [h]
      rfl
    | true => cases hevent
  | setOffline part on =>
    change state.conditions.setOffline part on = {}
    cases on with
    | false =>
      rw [h]
      rfl
    | true => cases hevent
  | _ => exact h

end State

end Fleet
