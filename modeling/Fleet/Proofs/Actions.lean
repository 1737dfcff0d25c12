import Fleet.Calls

/-!
# Calls under faults

How actions run one after another, and what every call to a collaborator comes to: it does its work, or
it fails for now and leaves the state alone. It cannot fail while nothing is out of order.
-/

namespace Fleet

namespace Action

variable {α β : Type}

theorem bind_apply (action : Action α) (next : α → Action β) (state : State) :
    (action >>= next) state = match action state with
      | .ok answer after => next answer after
      | .error failure after => .error failure after := by
  change EStateM.bind action next state = _
  unfold EStateM.bind
  cases action state <;> rfl

theorem get_apply (state : State) : (get : Action State) state = .ok state state := rfl

theorem bind_of_ok {action : Action α} {next : α → Action β} {state after : State} {answer : α}
    (h : action state = .ok answer after) : (action >>= next) state = next answer after := by
  rw [bind_apply, h]

theorem bind_of_error {action : Action α} {next : α → Action β} {state after : State}
    {failure : Failure} (h : action state = .error failure after) :
    (action >>= next) state = .error failure after := by
  rw [bind_apply, h]

/-- An answer comes from the next action, after the first has answered. -/
theorem ok_of_bind {action : Action α} {next : α → Action β} {state after : State} {value : β}
    (h : (action >>= next) state = .ok value after) :
    ∃ answer middle, action state = .ok answer middle ∧ next answer middle = .ok value after := by
  rw [bind_apply] at h
  cases hrun : action state with
  | ok answer middle =>
    rw [hrun] at h
    exact ⟨answer, middle, rfl, h⟩
  | error failure middle =>
    rw [hrun] at h
    cases h

/-- A failure comes from the first action, or from the next one after the first has answered. -/
theorem error_of_bind {action : Action α} {next : α → Action β} {state after : State}
    {failure : Failure} (h : (action >>= next) state = .error failure after) :
    action state = .error failure after ∨
      ∃ answer middle, action state = .ok answer middle ∧ next answer middle = .error failure after := by
  rw [bind_apply] at h
  cases hrun : action state with
  | ok answer middle =>
    rw [hrun] at h
    exact .inr ⟨answer, middle, rfl, h⟩
  | error earlier middle =>
    rw [hrun] at h
    cases h
    exact .inl rfl

theorem attempt_of_ok {action : Action α} {state after : State} {answer : α}
    (h : action state = .ok answer after) : action.attempt state = .ok (.ok answer) after := by
  rw [Action.attempt, h]

theorem attempt_of_error {action : Action α} {state after : State} {failure : Failure}
    (h : action state = .error failure after) :
    action.attempt state = .ok (.error failure) after := by
  rw [Action.attempt, h]

/-- The state that a call leaves, whether it answers or fails. -/
def after (action : Action α) (state : State) : State :=
  match action state with
  | .ok _ after => after
  | .error _ after => after

/-- What a call answers or fails with. -/
def answer (action : Action α) (state : State) : Except Failure α :=
  match action state with
  | .ok answer _ => .ok answer
  | .error failure _ => .error failure

theorem after_of_ok {action : Action α} {state after : State} {answer : α}
    (h : action state = .ok answer after) : action.after state = after := by
  rw [Action.after, h]

theorem after_of_error {action : Action α} {state after : State} {failure : Failure}
    (h : action state = .error failure after) : action.after state = after := by
  rw [Action.after, h]

theorem ok_of_answer {action : Action α} {state : State} {value : α}
    (h : action.answer state = .ok value) : ∃ after, action state = .ok value after := by
  unfold Action.answer at h
  cases hrun : action state with
  | ok answer after =>
    rw [hrun] at h
    cases h
    exact ⟨after, rfl⟩
  | error failure after =>
    rw [hrun] at h
    cases h

theorem error_of_answer {action : Action α} {state : State} {failure : Failure}
    (h : action.answer state = .error failure) : ∃ after, action state = .error failure after := by
  unfold Action.answer at h
  cases hrun : action state with
  | ok answer after =>
    rw [hrun] at h
    cases h
  | error other after =>
    rw [hrun] at h
    cases h
    exact ⟨after, rfl⟩

theorem answer_of_ok {action : Action α} {state after : State} {value : α}
    (h : action state = .ok value after) : action.answer state = .ok value := by
  rw [Action.answer, h]

theorem answer_of_error {action : Action α} {state after : State} {failure : Failure}
    (h : action state = .error failure after) : action.answer state = .error failure := by
  rw [Action.answer, h]

/-- What is known of the answer of a call is known of the run that gives it. -/
theorem exists_ok_of_answer {action : Action α} {state : State} {f : α → β} {value : β}
    (h : (action.answer state).toOption.map f = some value) :
    ∃ answer after, action state = .ok answer after ∧ f answer = value := by
  unfold Action.answer at h
  cases hrun : action state with
  | ok answer after =>
    rw [hrun] at h
    exact ⟨answer, after, rfl, Option.some.inj h⟩
  | error failure after =>
    rw [hrun] at h
    cases h

/-! ## Questions -/

/-- An action that changes nothing, whether it answers or fails. -/
def Quiet (action : Action α) : Prop := ∀ state, action.after state = state

theorem Quiet.cases {action : Action α} (h : Quiet action) (state : State) :
    (∃ answer, action state = .ok answer state) ∨ ∃ failure, action state = .error failure state := by
  have hafter := h state
  unfold Action.after at hafter
  cases hrun : action state with
  | ok answer after =>
    rw [hrun] at hafter
    exact .inl ⟨answer, congrArg _ hafter⟩
  | error failure after =>
    rw [hrun] at hafter
    exact .inr ⟨failure, congrArg _ hafter⟩

theorem quiet_pure (answer : α) : Quiet (pure answer) := fun _ => rfl

theorem quiet_throw (failure : Failure) : Quiet (throw failure : Action α) := fun _ => rfl

theorem quiet_get : Quiet (get : Action State) := fun _ => rfl

theorem Quiet.bind {action : Action α} {next : α → Action β} (h : Quiet action)
    (hnext : ∀ answer, Quiet (next answer)) : Quiet (action >>= next) := by
  intro state
  rcases h.cases state with ⟨answer, hrun⟩ | ⟨failure, hrun⟩
  · have hlater := hnext answer state
    rwa [Action.after, bind_of_ok hrun]
  · rw [Action.after, bind_of_error hrun]

theorem Quiet.attempt {action : Action α} (h : Quiet action) : Quiet action.attempt := by
  intro state
  rcases h.cases state with ⟨answer, hrun⟩ | ⟨failure, hrun⟩
  · exact after_of_ok (attempt_of_ok hrun)
  · exact after_of_ok (attempt_of_error hrun)

/-! ## Collaborators -/

/-- The failure of a collaborator that is out of order. -/
structure IsFault (state : State) (failure : Failure) : Prop where
  retryable : failure.isRetryable = true
  disorder : state.conditions ≠ {}

/-- The failure of the search index, which is out of order or offline as a whole. -/
abbrev IsIndexFailure (failure : Failure) : Prop :=
  failure ∈ [Call.indexAdd.failure, Call.indexAddMany.failure, Call.indexDelete.failure,
    Call.indexSearch.failure, Part.index.failure]

/-- The failure of the search index while something is out of order. -/
structure IsIndexFault (state : State) (failure : Failure) : Prop extends IsFault state failure where
  ofIndex : IsIndexFailure failure

/-- What a call to a collaborator comes to: it answers and leaves the given state, or it fails because
something is out of order and leaves the state alone. -/
def Serves (action : Action α) (state : State) (answer : α) (after : State) : Prop :=
  action state = .ok answer after ∨
    ∃ failure, IsFault state failure ∧ action state = .error failure state

theorem serves_of_ok {action : Action α} {state after : State} {answer : α}
    (h : action state = .ok answer after) : Serves action state answer after := .inl h

theorem Serves.calm {action : Action α} {state after : State} {answer : α}
    (h : Serves action state answer after) (hcalm : state.conditions = {}) :
    action state = .ok answer after := by
  rcases h with hrun | ⟨failure, hfault, -⟩
  · exact hrun
  · exact absurd hcalm hfault.disorder

/-- A call that asks first and acts then. -/
theorem Serves.bind {action : Action α} {next : α → Action β} {state after : State} {first : α}
    {second : β} (h : Serves action state first state)
    (hnext : Serves (next first) state second after) :
    Serves (action >>= next) state second after := by
  rcases h with hrun | ⟨failure, hfault, hrun⟩
  · unfold Serves
    rw [bind_of_ok hrun]
    exact hnext
  · exact .inr ⟨failure, hfault, bind_of_error hrun⟩

/-- A call that only asks is quiet. -/
theorem quiet_of_serves {action : Action α} {answer : State → α}
    (h : ∀ state, Serves action state (answer state) state) : Quiet action := by
  intro state
  rcases h state with hrun | ⟨failure, -, hrun⟩
  · exact after_of_ok hrun
  · exact after_of_error hrun

end Action

namespace Calls

open Fleet.Action

variable (state : State)

theorem expect_serves (call : Call) (id : String) : Serves (expect call id) state () state := by
  change conclude (state.conditions.check call id) state = _ ∨
    ∃ failure, IsFault state failure ∧ conclude (state.conditions.check call id) state = _
  unfold Conditions.check
  split
  · rename_i hout
    refine .inr ⟨call.failure, ⟨rfl, fun hcalm => ?_⟩, rfl⟩
    rw [hcalm] at hout
    cases hout
  · exact .inl rfl

theorem expectOnline_serves (part : Part) : Serves (expectOnline part) state () state := by
  change conclude (state.conditions.checkPart part) state = _ ∨
    ∃ failure, IsFault state failure ∧ conclude (state.conditions.checkPart part) state = _
  unfold Conditions.checkPart
  split
  · rename_i hoffline
    refine .inr ⟨part.failure, ⟨?_, fun hcalm => ?_⟩, rfl⟩
    · cases part <;> rfl
    · rw [hcalm] at hoffline
      cases hoffline
  · exact .inl rfl

theorem findCluster_serves (id : String) :
    Serves (findCluster id) state (state.clusters.get? id) state :=
  (expect_serves state .clusterGet id).bind (serves_of_ok rfl)

theorem putCluster_serves (cluster : Cluster) :
    Serves (putCluster cluster) state ()
      { state with clusters := state.clusters.insert cluster.id cluster.stored } :=
  (expect_serves state .clusterPut cluster.id).bind (serves_of_ok rfl)

theorem dropCluster_serves (id : String) :
    Serves (dropCluster id) state () { state with clusters := state.clusters.erase id } :=
  (expect_serves state .clusterDelete id).bind (serves_of_ok rfl)

theorem allClusters_serves :
    Serves allClusters state (state.clusters.values.mergeSort Cluster.before) state :=
  (expect_serves state .clusterWalk "").bind (serves_of_ok rfl)

theorem countClusters_serves : Serves countClusters state state.clusters.size state :=
  (expect_serves state .clusterCount "").bind (serves_of_ok rfl)

theorem lastContact_serves (id : String) :
    Serves (lastContact id) state (Snapshots.lastContact state.holdings.health id) state :=
  (expect_serves state .healthGet id).bind (serves_of_ok rfl)

theorem recordHealth_serves (id : String) (report : Health) :
    Serves (recordHealth id report) state (Snapshots.updated state.holdings.health id report)
      { state with holdings := state.holdings.recordHealth id report } :=
  (expect_serves state .healthGet id).bind
    ((serves_of_ok rfl : Serves get state state state).bind
      ((expect_serves state .healthPut id).bind (serves_of_ok rfl)))

theorem findHealth_serves (ids : List String) :
    Serves (findHealth ids) state (Snapshots.findMany state.holdings.health 0 ids) state :=
  (expect_serves state .healthGetMany "").bind (serves_of_ok rfl)

theorem allHealth_serves : Serves allHealth state state.holdings.health state :=
  (expect_serves state .healthWalk "").bind (serves_of_ok rfl)

theorem indexCluster_serves (cluster : Cluster) :
    Serves (indexCluster cluster) state ()
      { state with index := state.index.insert cluster.id cluster } :=
  (expect_serves state .indexAdd cluster.id).bind
    ((expectOnline_serves state .index).bind (serves_of_ok rfl))

theorem indexClusters_serves (clusters : List Cluster) :
    Serves (indexClusters clusters) state ()
      { state with index := state.index.insertMany (clusters.map fun c => (c.id, c)) } :=
  (expect_serves state .indexAddMany "").bind
    ((expectOnline_serves state .index).bind (serves_of_ok rfl))

theorem unindexCluster_serves (id : String) :
    Serves (unindexCluster id) state () { state with index := state.index.erase id } :=
  (expect_serves state .indexDelete id).bind (serves_of_ok rfl)

theorem failure_of_expect {state after : State} {call : Call} {id : String} {failure : Failure}
    (h : expect call id state = .error failure after) : failure = call.failure := by
  change conclude (state.conditions.check call id) state = _ at h
  unfold Conditions.check at h
  split at h
  · cases h
    rfl
  · cases h

theorem failure_of_expectOnline {state after : State} {part : Part} {failure : Failure}
    (h : expectOnline part state = .error failure after) : failure = part.failure := by
  change conclude (state.conditions.checkPart part) state = _ at h
  unfold Conditions.checkPart at h
  split at h
  · cases h
    rfl
  · cases h

/-- A change of the index that fails does so because of the index. -/
theorem isIndexFailure_of_indexCluster {state after : State} {cluster : Cluster} {failure : Failure}
    (h : indexCluster cluster state = .error failure after) : IsIndexFailure failure := by
  unfold indexCluster at h
  rcases error_of_bind h with hcall | ⟨_, _, -, h⟩
  · rw [failure_of_expect hcall]
    decide
  · rcases error_of_bind h with hpart | ⟨_, _, -, h⟩
    · rw [failure_of_expectOnline hpart]
      decide
    · cases h

theorem isIndexFailure_of_indexClusters {state after : State} {clusters : List Cluster}
    {failure : Failure} (h : indexClusters clusters state = .error failure after) :
    IsIndexFailure failure := by
  unfold indexClusters at h
  rcases error_of_bind h with hcall | ⟨_, _, -, h⟩
  · rw [failure_of_expect hcall]
    decide
  · rcases error_of_bind h with hpart | ⟨_, _, -, h⟩
    · rw [failure_of_expectOnline hpart]
      decide
    · cases h

theorem isIndexFailure_of_unindexCluster {state after : State} {id : String} {failure : Failure}
    (h : unindexCluster id state = .error failure after) : IsIndexFailure failure := by
  unfold unindexCluster at h
  rcases error_of_bind h with hcall | ⟨_, _, -, h⟩
  · rw [failure_of_expect hcall]
    decide
  · cases h

theorem mayRead_serves (scope : Scope) (cluster : Option String) :
    Serves (mayRead scope cluster) state (state.grants.mayRead scope cluster) state :=
  (expect_serves state .accessRead (cluster.getD "")).bind (serves_of_ok rfl)

theorem mayWrite_serves (scope : Scope) (cluster : Option String) :
    Serves (mayWrite scope cluster) state (state.grants.mayWrite scope cluster) state :=
  (expect_serves state .accessWrite (cluster.getD "")).bind (serves_of_ok rfl)

theorem createFlows_serves (id : String) :
    Serves (createFlows id) state () { state with flows := state.flows.insert id () } :=
  (expect_serves state .flowCreate id).bind
    ((expectOnline_serves state .flows).bind (serves_of_ok rfl))

end Calls

end Fleet
