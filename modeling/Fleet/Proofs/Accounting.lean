import Fleet.Proofs.Attendance
import Fleet.Proofs.Cleanup
import Fleet.Proofs.Soundness

/-!
# Every dropped record is torn down once

A removal either drops the record and submits its teardown, or it fails before that and changes nothing.
No other call submits one. Settling does every teardown that was submitted, whether it waits in the queue
or goes on by itself, and does it once. So the number of pending teardowns is always that of the
submitted ones less the finished ones, and whoever waits for a report gets it once if the record was
dropped and never otherwise.
-/

namespace Fleet

open Fleet.Action

/-- The teardowns that were submitted and are not finished. -/
def TeardownQueue.jobs (queue : TeardownQueue) : List Job :=
  queue.waiting ++ queue.detached

namespace TeardownQueue

theorem jobs_submit (queue : TeardownQueue) (capacity : Nat) (job : Job) :
    (queue.submit capacity job).jobs.Perm (queue.jobs ++ [job]) := by
  unfold submit jobs
  split
  · dsimp only
    rw [List.append_assoc, List.append_assoc]
    exact List.perm_append_comm.append_left _
  · dsimp only
    rw [List.append_assoc]

end TeardownQueue

/-! ## Removals -/

namespace Calls

variable (state : State) (id : String)

/-- A call that is out of order fails, and any other goes on. -/
theorem expect_bind {α : Type} (call : Call) (next : Unit → Action α) :
    (expect call id >>= next) state =
      if state.conditions.isOut call id then .error call.failure state else next () state := by
  have hexpect : expect call id state =
      if state.conditions.isOut call id then .error call.failure state else .ok () state := by
    change conclude (state.conditions.check call id) state = _
    unfold Conditions.check
    split <;> rfl
  by_cases hout : state.conditions.isOut call id
  · rw [if_pos hout] at hexpect ⊢
    exact bind_of_error hexpect
  · rw [if_neg hout] at hexpect ⊢
    exact bind_of_ok hexpect

theorem mayWrite_apply (scope : Scope) (cluster : Option String) :
    mayWrite scope cluster state =
      if state.conditions.isOut .accessWrite (cluster.getD "") then
        .error Call.accessWrite.failure state
      else .ok (state.grants.mayWrite scope cluster) state :=
  expect_bind state _ _ _

theorem findCluster_apply :
    findCluster id state =
      if state.conditions.isOut .clusterGet id then .error Call.clusterGet.failure state
      else .ok (state.clusters.get? id) state :=
  expect_bind state _ _ _

theorem dropCluster_apply :
    dropCluster id state =
      if state.conditions.isOut .clusterDelete id then .error Call.clusterDelete.failure state
      else .ok () { state with clusters := state.clusters.erase id } :=
  expect_bind state _ _ _

theorem unindexCluster_apply :
    unindexCluster id state =
      if state.conditions.isOut .indexDelete id then .error Call.indexDelete.failure state
      else .ok () { state with index := state.index.erase id } :=
  expect_bind state _ _ _

end Calls

namespace State

/-- What a removal fails with before it changes anything, if it does: the scope may not write the
cluster, there is no record, or the access checker or the store is out of order. -/
def removalObstacle? (state : State) (scope : Scope) (id : String) : Option Failure :=
  if state.conditions.isOut .accessWrite ((named? id).getD "") then some Call.accessWrite.failure
  else if !state.grants.mayWrite scope (named? id) then some (.denied id)
  else if state.conditions.isOut .clusterGet id then some Call.clusterGet.failure
  else if (state.clusters.get? id).isNone then some (.notFound id)
  else if state.conditions.isOut .clusterDelete id then some Call.clusterDelete.failure
  else none

/-- The state after a record was dropped and its teardown submitted. The index keeps its entry if it
could not be told. -/
def withoutRecord (state : State) (id : String) (job : Job) : State :=
  let directory := state.directory.erase id
  { state with
    clusters := state.clusters.erase id
    directory
    index := if state.conditions.isOut .indexDelete id then state.index else state.index.erase id
    queue := state.queue.submit state.settings.queueCapacity job
    agenda := state.agenda.call (state.queue.nextTurn state.settings.queueCapacity)
    tally := state.tally.noteRegistered directory.size }

end State

namespace Registry

open Calls

theorem ensureWrite_apply (scope : Scope) (id : String) (state : State) :
    ensureWrite scope id state =
      if state.conditions.isOut .accessWrite ((named? id).getD "") then
        .error Call.accessWrite.failure state
      else if !state.grants.mayWrite scope (named? id) then .error (.denied id) state
      else .ok () state := by
  have hask := mayWrite_apply state scope (named? id)
  unfold ensureWrite
  by_cases hout : state.conditions.isOut .accessWrite ((named? id).getD "")
  · rw [if_pos hout] at hask ⊢
    rw [bind_of_error hask]
  · rw [if_neg hout] at hask ⊢
    rw [bind_of_ok hask]
    cases state.grants.mayWrite scope (named? id) <;> rfl

theorem load_apply (id : String) (state : State) :
    load id state =
      if state.conditions.isOut .clusterGet id then .error Call.clusterGet.failure state
      else match state.clusters.get? id with
        | some cluster => .ok cluster state
        | none => .error (.notFound id) state := by
  have hfind := findCluster_apply state id
  unfold load
  by_cases hout : state.conditions.isOut .clusterGet id
  · rw [if_pos hout] at hfind ⊢
    rw [bind_of_error hfind]
  · rw [if_neg hout] at hfind ⊢
    rw [bind_of_ok hfind]
    cases state.clusters.get? id <;> rfl

theorem dropRecord_apply (id : String) (state : State) :
    dropRecord id state =
      if state.conditions.isOut .clusterDelete id then .error Call.clusterDelete.failure state
      else .ok () { state with
        clusters := state.clusters.erase id, directory := state.directory.erase id } := by
  have hdrop := dropCluster_apply state id
  unfold dropRecord
  by_cases hout : state.conditions.isOut .clusterDelete id
  · rw [if_pos hout] at hdrop ⊢
    rw [bind_of_error hdrop]
  · rw [if_neg hout] at hdrop ⊢
    rw [bind_of_ok hdrop]
    rfl

/-- Once the record is dropped, its teardown is submitted whether or not the index can be told. -/
theorem unindex_apply (id : String) (job : Job) (state : State) :
    ((unindexCluster id).attempt >>= fun unindexed =>
      submit job >>= fun _ => noteRegistered >>= fun _ => conclude unindexed)
      { state with clusters := state.clusters.erase id, directory := state.directory.erase id } =
      if state.conditions.isOut .indexDelete id then
        .error Call.indexDelete.failure (state.withoutRecord id job)
      else .ok () (state.withoutRecord id job) := by
  have hunindex := unindexCluster_apply
    { state with clusters := state.clusters.erase id, directory := state.directory.erase id } id
  unfold State.withoutRecord
  by_cases hout : state.conditions.isOut .indexDelete id
  · rw [if_pos hout] at hunindex
    rw [if_pos hout, if_pos hout, bind_of_ok (attempt_of_error hunindex)]
    rfl
  · rw [if_neg hout] at hunindex
    rw [if_neg hout, if_neg hout, bind_of_ok (attempt_of_ok hunindex)]
    rfl

theorem remove_of_obstacle {state : State} {scope : Scope} {id : String} {failure : Failure}
    (h : state.removalObstacle? scope id = some failure) (ticket : Option Nat) :
    remove scope id ticket state = .error failure state := by
  unfold State.removalObstacle? at h
  unfold remove
  rw [bind_apply, ensureWrite_apply]
  split at h
  · rename_i hout
    cases h
    rw [if_pos hout]
  · rename_i hasked
    rw [if_neg hasked]
    split at h
    · rename_i hdenied
      cases h
      rw [if_pos hdenied]
    · rename_i hallowed
      rw [if_neg hallowed]
      dsimp only
      rw [bind_apply, load_apply]
      split at h
      · rename_i hout
        cases h
        rw [if_pos hout]
      · rename_i hloaded
        rw [if_neg hloaded]
        cases hstored : state.clusters.get? id with
        | none =>
          rw [hstored] at h
          cases h
          rfl
        | some cluster =>
          rw [hstored] at h
          dsimp only
          rw [bind_apply, dropRecord_apply]
          split at h
          · rename_i hnone
            cases hnone
          · split at h
            · rename_i hout
              cases h
              rw [if_pos hout]
            · cases h

theorem remove_of_unobstructed {state : State} {scope : Scope} {id : String}
    (h : state.removalObstacle? scope id = none) (ticket : Option Nat) :
    ∃ cluster, state.clusters.get? id = some cluster ∧
      remove scope id ticket state =
        if state.conditions.isOut .indexDelete id then
          .error Call.indexDelete.failure (state.withoutRecord id ⟨cluster, ticket⟩)
        else .ok () (state.withoutRecord id ⟨cluster, ticket⟩) := by
  unfold State.removalObstacle? at h
  split at h
  · cases h
  · rename_i hasked
    split at h
    · cases h
    · rename_i hallowed
      split at h
      · cases h
      · rename_i hloaded
        split at h
        · cases h
        · rename_i hsome
          split at h
          · cases h
          · rename_i hdropped
            rw [Option.isNone_iff_eq_none] at hsome
            obtain ⟨cluster, hstored⟩ := Option.ne_none_iff_exists'.1 hsome
            refine ⟨cluster, hstored, ?_⟩
            unfold remove
            rw [bind_apply, ensureWrite_apply, if_neg hasked, if_neg hallowed]
            dsimp only
            rw [bind_apply, load_apply, if_neg hloaded, hstored]
            dsimp only
            rw [bind_apply, dropRecord_apply, if_neg hdropped]
            exact unindex_apply id ⟨cluster, ticket⟩ state

/-! ## Settling -/

section

variable (state : State)

/-- The teardowns of the queue on their way until everything has come to its end. -/
def timeline : Timeline :=
  (Timeline.start state.pace state.roster state.queue state.agenda).run state.settings.terminationTimeout

/-- The state in which every teardown has met its connection and no cascade has run. -/
def rested : State :=
  { state with
    roster := (timeline state).roster
    agenda := (timeline state).agenda
    queue := { state.queue with waiting := [], detached := [] } }

/-- The reports and the state after the first so many cascades of settling. -/
def settling (n : Nat) : List (Job × Report) × State :=
  ((timeline state).finished.take n).foldl finish ([], rested state)

theorem settle_eq :
    settle state = settling state (timeline state).finished.length := by
  unfold settling
  rw [List.take_length]
  rfl

end

/-- What cascades leave of the state: they only count down the pending teardowns. -/
theorem foldl_finish (met : List (Job × ConnectionEnd)) (reports : List (Job × Report))
    (state : State) :
    (met.foldl finish (reports, state)).1.map (·.1) = reports.map (·.1) ++ met.map (·.1) ∧
      (met.foldl finish (reports, state)).2.queue =
        { state.queue with pending := state.queue.pending - met.length } := by
  induction met generalizing reports state with
  | nil => simp
  | cons first rest ih =>
    rw [List.foldl_cons]
    obtain ⟨hjobs, hqueue⟩ := ih (finish (reports, state) first).1 (finish (reports, state) first).2
    refine ⟨hjobs.trans ?_, hqueue.trans ?_⟩
    · simp [finish]
    · simp only [finish, List.length_cons, Nat.sub_sub, Nat.add_comm]

theorem reports_settling (state : State) (n : Nat) :
    (settling state n).1.map (·.1) = ((timeline state).finished.take n).map (·.1) := by
  obtain ⟨hjobs, -⟩ := foldl_finish ((timeline state).finished.take n) [] (rested state)
  exact hjobs

theorem jobs_settle (state : State) :
    (settle state).1.map (·.1) = (timeline state).finished.map (·.1) := by
  rw [settle_eq, reports_settling, List.take_length]

/-- Every cascade of settling is that of the next teardown, on what the ones before it have left. -/
theorem settling_succ (state : State) {n : Nat} {job : Job} {connection : ConnectionEnd}
    (h : (timeline state).finished[n]? = some (job, connection)) :
    let cascade := Cascade.run state.conditions job.cluster connection (settling state n).2.holdings
    (settling state (n + 1)).1 = (settling state n).1 ++ [(job, cascade.report)] ∧
      (settling state (n + 1)).2.holdings = cascade.holdings := by
  have hsettling : settling state (n + 1) = finish (settling state n) (job, connection) := by
    unfold settling
    rw [List.take_add_one, h, List.foldl_append]
    rfl
  have hsame : (settling state n).2.conditions = state.conditions :=
    State.conditions_foldl_finish ((timeline state).finished.take n) [] (rested state)
  rw [hsettling, ← hsame]
  exact ⟨rfl, rfl⟩

end Registry

/-! ## Whoever has teardowns to do is called -/

namespace State

/-- Every lane with a teardown to do is on the agenda, and the pending teardowns are counted. -/
structure Summoned (state : State) : Prop where
  waiting : state.queue.waiting ≠ [] → .lane 0 ∈ state.agenda
  detached : ∀ k < state.queue.detached.length, .lane (k + 1) ∈ state.agenda
  counted : state.queue.pending = state.queue.jobs.length

namespace Summoned

variable {state after : State}

theorem finished_perm (h : state.Summoned) :
    ((Registry.timeline state).finished.map (·.1)).Perm state.queue.jobs :=
  Timeline.finished_run_perm _ _ _ h.waiting h.detached

theorem length_finished (h : state.Summoned) :
    (Registry.timeline state).finished.length = state.queue.pending := by
  rw [h.counted, ← h.finished_perm.length_eq, List.length_map]

/-- A longer agenda calls whoever was called before. -/
theorem grow (h : state.Summoned) (hqueue : after.queue = state.queue)
    (hagenda : state.agenda ⊆ after.agenda) : after.Summoned := by
  refine ⟨?_, ?_, ?_⟩
  · rw [hqueue]
    exact fun hsome => hagenda (h.waiting hsome)
  · rw [hqueue]
    exact fun k hk => hagenda (h.detached k hk)
  · rw [hqueue]
    exact h.counted

/-- The lane of a teardown that is submitted is called. -/
theorem submit (h : state.Summoned) (capacity : Nat) (job : Job)
    (hqueue : after.queue = state.queue.submit capacity job)
    (hagenda : after.agenda = state.agenda.call (state.queue.nextTurn capacity)) :
    after.Summoned := by
  have hcounted : after.queue.pending = after.queue.jobs.length := by
    rw [hqueue, (TeardownQueue.jobs_submit _ _ _).length_eq, List.length_append, ← h.counted]
    unfold TeardownQueue.submit
    split <;> rfl
  have hsubset := Timeline.subset_call state.agenda (state.queue.nextTurn capacity)
  have hcalled := Timeline.mem_call state.agenda (state.queue.nextTurn capacity)
  rw [← hagenda] at hsubset hcalled
  unfold TeardownQueue.submit at hqueue
  unfold TeardownQueue.nextTurn at hcalled
  split at hqueue
  · rename_i hroom
    rw [if_pos hroom] at hcalled
    refine ⟨fun _ => hcalled, ?_, hcounted⟩
    rw [hqueue]
    exact fun k hk => hsubset (h.detached k hk)
  · rename_i hfull
    rw [if_neg hfull] at hcalled
    refine ⟨?_, ?_, hcounted⟩
    · rw [hqueue]
      exact fun hsome => hsubset (h.waiting hsome)
    · rw [hqueue]
      intro k hk
      rw [List.length_append, List.length_singleton] at hk
      by_cases hlast : k = state.queue.detached.length
      · rw [hlast]
        exact hcalled
      · exact hsubset (h.detached k (by omega))

end Summoned

/-! ## What each event does to the queue -/

/-- Calls other than removals have nothing to do with the queue. -/
theorem queue_eq_of_effect {scope : Scope} {before after : State} {operation : Operation}
    {answer : Except Failure Answer} (h : Effect scope before operation answer after)
    (hother : ∀ id ticket, operation ≠ .remove id ticket) :
    after.queue = before.queue ∧ after.agenda = before.agenda := by
  cases h with
  | removed => exact absurd rfl (hother _ _)
  | _ => exact ⟨rfl, rfl⟩

theorem agenda_connect (state : State) (connection : Connection) :
    state.agenda ⊆ (state.connect connection).agenda := by
  unfold connect
  cases state.roster.live.get? connection.clusterId with
  | none =>
    dsimp only
    split
    · exact Timeline.subset_call _ _
    · exact List.Subset.refl _
  | some previous =>
    have hcalled := Timeline.subset_callAgent state.agenda state.roster previous
    dsimp only
    split
    · exact List.Subset.trans hcalled (Timeline.subset_call _ _)
    · exact hcalled

theorem queue_next {state : State} (hsound : state.Sound) {event : Event}
    (hremove : ∀ scope id ticket, event ≠ .call scope (.remove id ticket))
    (hsettle : event ≠ .settle) :
    (state.next event).queue = state.queue ∧ state.agenda ⊆ (state.next event).agenda := by
  cases event with
  | call scope operation =>
    have heffect := operation.run_effect scope hsound.keyed
    obtain ⟨hqueue, hagenda⟩ := queue_eq_of_effect heffect fun id ticket heq =>
      hremove scope id ticket (heq ▸ rfl)
    exact ⟨hqueue, hagenda ▸ List.Subset.refl _⟩
  | settle => exact absurd rfl hsettle
  | resolveAlert alertId =>
    obtain ⟨holdings, -, hnext⟩ := next_resolveAlert state alertId
    rw [hnext]
    exact ⟨rfl, List.Subset.refl _⟩
  | connect connection => exact ⟨rfl, agenda_connect state connection⟩
  | terminate number reason => exact ⟨rfl, Timeline.subset_callAgent _ _ _⟩
  | _ => exact ⟨rfl, List.Subset.refl _⟩

/-- The teardown that an event submits: that of a record which was stored before a removal and is gone
after it. -/
def submission? (state : State) : Event → Option Job
  | .call scope (.remove id ticket) =>
    match state.clusters.get? id,
      (state.next (.call scope (.remove id ticket))).clusters.get? id with
    | some cluster, none => some { cluster, ticket }
    | _, _ => none
  | _ => none

/-- The reports that come out with an event. -/
def reportsOf (state : State) : Event → List (Job × Report)
  | .settle => (Registry.settle state).1
  | _ => []

/-- A removal of a cluster, in the operation's own words. -/
theorem remove_cases (state : State) (scope : Scope) (id : String) (ticket : Option Nat) :
    (∃ failure, state.removalObstacle? scope id = some failure ∧
        (Operation.remove id ticket).run scope state = .error failure state) ∨
      ∃ cluster, state.removalObstacle? scope id = none ∧ state.clusters.get? id = some cluster ∧
        (Operation.remove id ticket).run scope state =
          if state.conditions.isOut .indexDelete id then
            .error Call.indexDelete.failure (state.withoutRecord id ⟨cluster, ticket⟩)
          else .ok .done (state.withoutRecord id ⟨cluster, ticket⟩) := by
  have hrun : (Operation.remove id ticket).run scope =
      Registry.remove scope id ticket >>= fun _ => pure .done := rfl
  rw [hrun]
  cases hobstacle : state.removalObstacle? scope id with
  | some failure =>
    exact .inl ⟨failure, rfl, bind_of_error (Registry.remove_of_obstacle hobstacle ticket)⟩
  | none =>
    obtain ⟨cluster, hstored, hremove⟩ := Registry.remove_of_unobstructed hobstacle ticket
    refine .inr ⟨cluster, rfl, hstored, ?_⟩
    by_cases hout : state.conditions.isOut .indexDelete id
    · rw [if_pos hout] at hremove ⊢
      exact bind_of_error hremove
    · rw [if_neg hout] at hremove ⊢
      exact bind_of_ok hremove

theorem next_remove_of_obstacle {state : State} {scope : Scope} {id : String} {failure : Failure}
    (h : state.removalObstacle? scope id = some failure) (ticket : Option Nat) :
    state.next (.call scope (.remove id ticket)) = state := by
  rcases state.remove_cases scope id ticket with ⟨_, -, hrun⟩ | ⟨_, hnone, -⟩
  · exact after_of_error hrun
  · rw [h] at hnone
    cases hnone

theorem next_remove_of_unobstructed {state : State} {scope : Scope} {id : String}
    (h : state.removalObstacle? scope id = none) (ticket : Option Nat) :
    ∃ cluster, state.clusters.get? id = some cluster ∧
      state.next (.call scope (.remove id ticket)) = state.withoutRecord id ⟨cluster, ticket⟩ := by
  rcases state.remove_cases scope id ticket with ⟨_, hsome, -⟩ | ⟨cluster, -, hstored, hrun⟩
  · rw [h] at hsome
    cases hsome
  · refine ⟨cluster, hstored, ?_⟩
    split at hrun
    · exact after_of_error hrun
    · exact after_of_ok hrun

/-- A removal submits a teardown if and only if nothing speaks against it, and then that of the record
as it was stored. -/
theorem submission?_remove (state : State) (scope : Scope) (id : String) (ticket : Option Nat) :
    state.submission? (.call scope (.remove id ticket)) =
      if (state.removalObstacle? scope id).isNone then
        (state.clusters.get? id).map fun cluster => { cluster, ticket }
      else none := by
  unfold submission?
  cases hobstacle : state.removalObstacle? scope id with
  | some failure =>
    dsimp only
    rw [next_remove_of_obstacle hobstacle]
    cases state.clusters.get? id <;> rfl
  | none =>
    obtain ⟨cluster, hstored, hnext⟩ := next_remove_of_unobstructed hobstacle ticket
    dsimp only
    rw [hnext, hstored]
    simp [withoutRecord, Table.get?_erase]

theorem summoned_settle {state : State} (h : state.Summoned) :
    (state.next .settle).queue = {} := by
  change (Registry.settle state).2.queue = _
  rw [Registry.settle_eq]
  unfold Registry.settling
  obtain ⟨-, hqueue⟩ := Registry.foldl_finish
    ((Registry.timeline state).finished.take (Registry.timeline state).finished.length) []
    (Registry.rested state)
  rw [hqueue, List.take_length, h.length_finished]
  simp [Registry.rested]

/-- What an event submits is pending until it is reported. -/
theorem summoned_next {state : State} (hsound : state.Sound) (h : state.Summoned) (event : Event) :
    (state.next event).Summoned ∧
      (state.queue.jobs ++ (state.submission? event).toList).Perm
        ((state.reportsOf event).map (·.1) ++ (state.next event).queue.jobs) := by
  by_cases hremoval : ∃ scope id ticket, event = .call scope (.remove id ticket)
  · obtain ⟨scope, id, ticket, rfl⟩ := hremoval
    rw [submission?_remove]
    cases hobstacle : state.removalObstacle? scope id with
    | some failure =>
      rw [next_remove_of_obstacle hobstacle]
      exact ⟨h, by simp [reportsOf]⟩
    | none =>
      obtain ⟨cluster, hstored, hnext⟩ := next_remove_of_unobstructed hobstacle ticket
      rw [hnext, hstored]
      refine ⟨h.submit _ _ rfl rfl, ?_⟩
      exact (TeardownQueue.jobs_submit _ _ _).symm
  · by_cases hsettle : event = .settle
    · subst hsettle
      have hqueue := summoned_settle h
      refine ⟨⟨?_, ?_, ?_⟩, ?_⟩
      · rw [hqueue]
        nofun
      · rw [hqueue]
        nofun
      · rw [hqueue]
        rfl
      · rw [hqueue]
        have hreports : (state.reportsOf .settle).map (·.1) =
            (Registry.timeline state).finished.map (·.1) := by
          change (Registry.settle state).1.map (·.1) = _
          rw [Registry.settle_eq, Registry.reports_settling, List.take_length]
        rw [hreports]
        simpa [submission?, TeardownQueue.jobs] using h.finished_perm.symm
    · obtain ⟨hqueue, hagenda⟩ := queue_next hsound
        (fun scope id ticket heq => hremoval ⟨scope, id, ticket, heq⟩) hsettle
      refine ⟨h.grow hqueue hagenda, ?_⟩
      have hnothing : state.submission? event = none := by
        unfold submission?
        split
        · rename_i scope id ticket
          exact absurd ⟨scope, id, ticket, rfl⟩ hremoval
        · rfl
      have hsilent : state.reportsOf event = [] := by
        unfold reportsOf
        split
        · exact absurd rfl hsettle
        · rfl
      rw [hqueue, hnothing, hsilent]
      simp

/-! ## Runs -/

/-- The teardowns that a run submits, the first one first. -/
def submitted (state : State) : List Event → List Job
  | [] => []
  | event :: rest => (state.submission? event).toList ++ (state.next event).submitted rest

/-- The reports that come out of a run, the first one first. -/
def outcomes (state : State) : List Event → List (Job × Report)
  | [] => []
  | event :: rest => state.reportsOf event ++ (state.next event).outcomes rest

theorem submitted_append (state : State) (first second : List Event) :
    state.submitted (first ++ second) =
      state.submitted first ++ (state.following first).submitted second := by
  induction first generalizing state with
  | nil => rfl
  | cons event rest ih => simp only [List.cons_append, submitted, ih, following_cons, List.append_assoc]

/-- Every teardown that was pending or is submitted is reported or pending in the end. -/
theorem summoned_following {state : State} (hsound : state.Sound) (h : state.Summoned)
    (events : List Event) :
    (state.following events).Summoned ∧
      (state.queue.jobs ++ state.submitted events).Perm
        ((state.outcomes events).map (·.1) ++ (state.following events).queue.jobs) := by
  induction events generalizing state with
  | nil => exact ⟨h, by simp [submitted, outcomes]⟩
  | cons event rest ih =>
    obtain ⟨hnext, hstep⟩ := summoned_next hsound h event
    obtain ⟨hlast, hrest⟩ := ih (hsound.next event) hnext
    refine ⟨hlast, ?_⟩
    have hsooner := hstep.append_right ((state.next event).submitted rest)
    have hlater := hrest.append_left ((state.reportsOf event).map (·.1))
    simp only [List.append_assoc] at hsooner
    simp only [submitted, outcomes, List.map_append, following_cons, List.append_assoc]
    exact hsooner.trans hlater

theorem summoned_start (runtime : Runtime) (settings : Settings) (now : Instant) :
    (start runtime settings now).Summoned :=
  ⟨nofun, nofun, rfl⟩

theorem perm_start (runtime : Runtime) (settings : Settings) (now : Instant) (events : List Event) :
    ((start runtime settings now).submitted events).Perm
      (((start runtime settings now).outcomes events).map (·.1) ++
        ((start runtime settings now).following events).queue.jobs) :=
  (summoned_following (sound_start runtime settings now) (summoned_start runtime settings now) events).2

/-! ## Whoever waits for a report -/

/-- What the holder of a ticket receives in a run. -/
def received (state : State) (events : List Event) (ticket : Nat) : List (Job × Report) :=
  (state.outcomes events).filter (·.1.ticket = some ticket)

end State

/-- The ticket that comes with a removal. -/
def Event.ticket? : Event → Option Nat
  | .call _ (.remove _ ticket) => ticket
  | _ => none

/-- Every report that comes out is that of the cascade of its teardown. -/
theorem Registry.report_of_foldl_finish (met : List (Job × ConnectionEnd))
    (reports : List (Job × Report)) (state : State) :
    ∀ entry ∈ (met.foldl finish (reports, state)).1, entry ∈ reports ∨
      ∃ conditions connection holdings,
        entry.2 = (Cascade.run conditions entry.1.cluster connection holdings).report := by
  induction met generalizing reports state with
  | nil => exact fun entry hentry => .inl hentry
  | cons first rest ih =>
    intro entry hentry
    rw [List.foldl_cons] at hentry
    rcases ih _ _ entry hentry with hsooner | hcascade
    · rcases List.mem_append.1 hsooner with hold | hnew
      · exact .inl hold
      · rw [List.mem_singleton.1 hnew]
        exact .inr ⟨_, _, _, rfl⟩
    · exact .inr hcascade

namespace State

theorem report_of_outcomes {state : State} {events : List Event} {entry : Job × Report}
    (h : entry ∈ state.outcomes events) :
    entry.2.clusterId = entry.1.cluster.id ∧ entry.2.clusterName = entry.1.cluster.name := by
  induction events generalizing state with
  | nil => cases h
  | cons event rest ih =>
    rcases List.mem_append.1 h with hnow | hlater
    · cases event with
      | settle =>
        change entry ∈ (Registry.settle state).1 at hnow
        rw [Registry.settle_eq] at hnow
        rcases Registry.report_of_foldl_finish _ _ _ entry hnow with hnone | ⟨_, _, _, hreport⟩
        · cases hnone
        · rw [hreport]
          exact Cascade.report_run _ _ _ _
      | _ => cases hnow
    · exact ih hlater

theorem ticket_of_submission? {state : State} {event : Event} {job : Job}
    (h : state.submission? event = some job) : job.ticket = event.ticket? := by
  unfold submission? at h
  split at h
  · split at h
    · cases h
      rfl
    · cases h
  · cases h

/-- Without a removal that comes with the ticket, no teardown has it. -/
theorem filter_submitted_eq_nil {events : List Event} (state : State) (ticket : Nat)
    (h : ∀ event ∈ events, event.ticket? ≠ some ticket) :
    (state.submitted events).filter (·.ticket = some ticket) = [] := by
  induction events generalizing state with
  | nil => rfl
  | cons event rest ih =>
    have hrest := ih (state.next event) fun other hother => h other (List.mem_cons_of_mem _ hother)
    rw [submitted, List.filter_append, hrest, List.append_nil]
    cases hsubmission : state.submission? event with
    | none => rfl
    | some job =>
      have hother := h event List.mem_cons_self
      rw [← ticket_of_submission? hsubmission] at hother
      simp [hother]

/-- Whoever alone holds a ticket receives, once everything is settled, what its removal has submitted. -/
theorem received_perm (runtime : Runtime) (settings : Settings) (now : Instant)
    (earlier later : List Event) (scope : Scope) (id : String) (ticket : Nat)
    (h : ∀ event ∈ earlier ++ later, event.ticket? ≠ some ticket) :
    (((start runtime settings now).received
        (earlier ++ .call scope (.remove id (some ticket)) :: later ++ [.settle]) ticket).map
          (·.1)).Perm
      (((start runtime settings now).following earlier).submission?
        (.call scope (.remove id (some ticket)))).toList := by
  let removal : Event := .call scope (.remove id (some ticket))
  let before := (start runtime settings now).following earlier
  let run := earlier ++ removal :: later
  have hsound := sound_start runtime settings now
  have hsummoned := summoned_following hsound (summoned_start runtime settings now) run
  have hidle : ((start runtime settings now).following (run ++ [.settle])).queue = {} := by
    rw [following_append]
    exact summoned_settle hsummoned.1
  have hperm := perm_start runtime settings now (run ++ [.settle])
  rw [hidle, show ({} : TeardownQueue).jobs = [] from rfl, List.append_nil] at hperm
  have hsubmitted : ((start runtime settings now).submitted (run ++ [.settle])).filter
      (·.ticket = some ticket) = (before.submission? removal).toList := by
    have hsooner := filter_submitted_eq_nil (start runtime settings now) ticket
      fun event hevent => h event (List.mem_append_left later hevent)
    have hlater := filter_submitted_eq_nil (before.next removal) ticket
      fun event hevent => h event (List.mem_append_right earlier hevent)
    have hlast : ((start runtime settings now).following run).submitted [.settle] = [] := rfl
    rw [submitted_append, hlast, List.append_nil, submitted_append, List.filter_append, hsooner,
      List.nil_append, submitted, List.filter_append, hlater, List.append_nil]
    cases hsubmission : before.submission? removal with
    | none => rfl
    | some job =>
      have hticket := ticket_of_submission? hsubmission
      simp only [Option.toList_some]
      exact List.filter_eq_self.2 (by simp [hticket, removal, Event.ticket?])
  rw [← hsubmitted]
  refine List.Perm.symm ?_
  have hfiltered := hperm.filter (·.ticket = some ticket)
  rwa [List.filter_map] at hfiltered

/-- Who removes a cluster with a ticket of its own receives one report on it if nothing speaks against
the removal, and none otherwise. -/
theorem received_of_removal (runtime : Runtime) (settings : Settings) (now : Instant)
    (earlier later : List Event) (scope : Scope) (id : String) (ticket : Nat)
    (h : ∀ event ∈ earlier ++ later, event.ticket? ≠ some ticket) :
    let state := (start runtime settings now).following earlier
    let received := (start runtime settings now).received
      (earlier ++ .call scope (.remove id (some ticket)) :: later ++ [.settle]) ticket
    match state.removalObstacle? scope id with
    | some _ => received = []
    | none => ∃ cluster report, state.clusters.get? id = some cluster ∧
        received = [(⟨cluster, some ticket⟩, report)] ∧
        report.clusterId = id ∧ report.clusterName = cluster.name := by
  intro state received
  have hperm : (received.map (·.1)).Perm
      (state.submission? (.call scope (.remove id (some ticket)))).toList :=
    received_perm runtime settings now earlier later scope id ticket h
  rw [submission?_remove] at hperm
  cases hobstacle : state.removalObstacle? scope id with
  | some failure =>
    rw [hobstacle] at hperm
    exact List.map_eq_nil_iff.1 hperm.eq_nil
  | none =>
    obtain ⟨cluster, hstored, -⟩ := next_remove_of_unobstructed hobstacle (some ticket)
    rw [hobstacle, hstored] at hperm
    obtain ⟨entry, hentry, hjob⟩ := List.map_eq_singleton_iff.1 (List.perm_singleton.1 hperm)
    obtain ⟨job, report⟩ := entry
    cases hjob
    have hmem : (⟨⟨cluster, some ticket⟩, report⟩ : Job × Report) ∈ received := by
      rw [hentry]
      exact List.mem_cons_self
    obtain ⟨hid, hname⟩ := report_of_outcomes (List.mem_filter.1 hmem).1
    have hkeyed := ((sound_start runtime settings now).following earlier).keyed id cluster hstored
    exact ⟨cluster, report, hstored, hentry, hid.trans hkeyed, hname⟩

/-! ## The balance -/

/-- A removal fails before it has changed anything; or it drops the record and submits one teardown, that
of the record as it was stored, even if it then fails because the index could not be told. -/
def RemovesExactly (state : State) (scope : Scope) (id : String) (ticket : Option Nat) : Prop :=
  let removal := (Operation.remove id ticket).run scope state
  match state.removalObstacle? scope id with
  | some failure => removal = .error failure state
  | none =>
    ∃ cluster after, state.clusters.get? id = some cluster ∧
      (removal = .ok .done after ∨ removal = .error Call.indexDelete.failure after) ∧
      after.clusters = state.clusters.erase id ∧
      after.queue = state.queue.submit state.settings.queueCapacity ⟨cluster, ticket⟩ ∧
      after.queue.jobs.Perm (state.queue.jobs ++ [⟨cluster, ticket⟩])

theorem removesExactly (state : State) (scope : Scope) (id : String) (ticket : Option Nat) :
    state.RemovesExactly scope id ticket := by
  unfold RemovesExactly
  dsimp only
  rcases state.remove_cases scope id ticket with
    ⟨failure, hobstacle, hrun⟩ | ⟨cluster, hobstacle, hstored, hrun⟩
  · rw [hobstacle]
    exact hrun
  · rw [hobstacle]
    refine ⟨cluster, state.withoutRecord id ⟨cluster, ticket⟩, hstored, ?_, rfl, rfl,
      TeardownQueue.jobs_submit _ _ _⟩
    split at hrun
    · exact .inr hrun
    · exact .inl hrun

/-- Settling does every pending teardown once: it runs one cascade after another, each on what the ones
before it have left, and counts each down once its report is there. -/
structure SettlesExactly (state : State) : Prop where
  all : Registry.settle state = Registry.settling state state.queue.pending
  once : ((Registry.settle state).1.map (·.1)).Perm state.queue.jobs
  rest : (Registry.settle state).2.queue = {}
  counted : ∀ n ≤ state.queue.pending, (Registry.settling state n).1.length = n ∧
    (Registry.settling state n).2.queue.pending + n = state.queue.pending
  cascades : ∀ n < state.queue.pending, ∃ job connection,
    let cascade :=
      Cascade.run state.conditions job.cluster connection (Registry.settling state n).2.holdings
    (Registry.settling state (n + 1)).1 =
        (Registry.settling state n).1 ++ [(job, cascade.report)] ∧
      (Registry.settling state (n + 1)).2.holdings = cascade.holdings

theorem settlesExactly {state : State} (h : state.Summoned) : state.SettlesExactly := by
  have hlength := h.length_finished
  have hall : Registry.settle state = Registry.settling state state.queue.pending := by
    rw [← hlength]
    exact Registry.settle_eq state
  refine ⟨hall, ?_, summoned_settle h, ?_, ?_⟩
  · rw [Registry.jobs_settle]
    exact h.finished_perm
  · intro n hn
    have hmet : ((Registry.timeline state).finished.take n).length = n := by
      rw [List.length_take]
      omega
    obtain ⟨-, hqueue⟩ := Registry.foldl_finish ((Registry.timeline state).finished.take n) []
      (Registry.rested state)
    constructor
    · have hreports := congrArg List.length (Registry.reports_settling state n)
      rwa [List.length_map, List.length_map, hmet] at hreports
    · unfold Registry.settling
      rw [hqueue, hmet]
      change state.queue.pending - n + n = state.queue.pending
      omega
  · intro n hn
    have hlt : n < (Registry.timeline state).finished.length := by omega
    exact ⟨_, _, Registry.settling_succ state (List.getElem?_eq_getElem hlt)⟩

end State

/-- Every dropped record is torn down once. A removal fails before anything is changed, or it submits the
teardown of the record; nothing else submits one; settling does each of them once. What was submitted is
reported or pending, and the registry answers how many are pending. Whoever holds the ticket of a removal
receives the report on that cluster once if the record was dropped, and nothing otherwise. -/
theorem dropped_records_torn_down_once (runtime : Runtime) (settings : Settings) (now : Instant)
    (events : List Event) :
    let start := State.start runtime settings now
    let state := start.following events
    (∀ scope id ticket, state.RemovesExactly scope id ticket) ∧
      (∀ event, state.submission? event = none → event ≠ .settle →
        (state.next event).queue = state.queue) ∧
      state.SettlesExactly ∧
      (start.submitted events).Perm ((start.outcomes events).map (·.1) ++ state.queue.jobs) ∧
      (∀ scope, ∃ pending, (Operation.pending.run scope).answer state = .ok (.number pending) ∧
        pending + (start.outcomes events).length = (start.submitted events).length) ∧
      (∀ scope id ticket later, (∀ event ∈ events ++ later, event.ticket? ≠ some ticket) →
        let received := start.received
          (events ++ .call scope (.remove id (some ticket)) :: later ++ [.settle]) ticket
        match state.removalObstacle? scope id with
        | some _ => received = []
        | none => ∃ cluster report, state.clusters.get? id = some cluster ∧
            received = [(⟨cluster, some ticket⟩, report)] ∧
            report.clusterId = id ∧ report.clusterName = cluster.name) := by
  intro start state
  have hsound : state.Sound := (State.sound_start runtime settings now).following events
  obtain ⟨hsummoned, -⟩ := State.summoned_following (State.sound_start runtime settings now)
    (State.summoned_start runtime settings now) events
  have hperm : (start.submitted events).Perm
      ((start.outcomes events).map (·.1) ++ state.queue.jobs) :=
    State.perm_start runtime settings now events
  refine ⟨state.removesExactly, ?_, State.settlesExactly hsummoned, hperm, ?_, ?_⟩
  · intro event hnone hsettle
    by_cases hremoval : ∃ scope id ticket, event = .call scope (.remove id ticket)
    · obtain ⟨scope, id, ticket, rfl⟩ := hremoval
      rw [State.submission?_remove] at hnone
      cases hobstacle : state.removalObstacle? scope id with
      | some failure => rw [State.next_remove_of_obstacle hobstacle]
      | none =>
        obtain ⟨cluster, hstored, -⟩ := State.next_remove_of_unobstructed hobstacle ticket
        simp [hobstacle, hstored] at hnone
    · refine (State.queue_next hsound ?_ hsettle).1
      exact fun scope id ticket heq => hremoval ⟨scope, id, ticket, heq⟩
  · intro scope
    refine ⟨state.queue.pending, rfl, ?_⟩
    have hlength := hperm.length_eq
    rw [List.length_append, List.length_map] at hlength
    have hcounted : state.queue.pending = state.queue.jobs.length := hsummoned.counted
    omega
  · intro scope id ticket later hunique
    exact State.received_of_removal runtime settings now events later scope id ticket hunique

/-- There is room for one teardown, and the index cannot be told of the second one: it goes on by itself,
its removal fails, and its report comes all the same. -/
theorem dropped_records_torn_down_once_beyond_capacity :
    let start := State.start {} { queueCapacity := 0 } ⟨0, false⟩
    let events : List Event := [
      .call .system (.create { name := "prod" }),
      .call .system (.create { name := "test" }),
      .call .system (.remove "$2" (some 1)),
      .setOutage ⟨"index.delete", none⟩ true]
    let later : List Event := [.call .system (.create { name := "prod" }), .settle]
    (∀ event ∈ events ++ later, event.ticket? ≠ some 7) ∧
      ∃ entry, start.received
        (events ++ .call .system (.remove "$1" (some 7)) :: later ++ [.settle]) 7 = [entry] ∧
        entry.1.cluster.name = "prod" ∧ entry.2.clusterId = "$1" := by
  intro start events later
  have hunique : ∀ event ∈ events ++ later, event.ticket? ≠ some 7 := by
    simp [events, later, Event.ticket?]
  obtain ⟨-, -, -, -, -, hreceived⟩ := dropped_records_torn_down_once {} { queueCapacity := 0 }
    ⟨0, false⟩ events
  have hobstacle : ((State.start {} { queueCapacity := 0 } ⟨0, false⟩).following
      events).removalObstacle? .system "$1" = none := by decide +kernel
  have hstored : (((start.following events).clusters.get? "$1").map (·.name)) = some "prod" := by
    decide +kernel
  have hreport := hreceived .system "$1" 7 later hunique
  rw [hobstacle] at hreport
  obtain ⟨cluster, report, hcluster, hentry, hid, -⟩ := hreport
  rw [hcluster] at hstored
  exact ⟨hunique, _, hentry, Option.some.inj hstored, hid⟩

end Fleet
