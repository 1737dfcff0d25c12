import Fleet.Proofs.Adoption
import Fleet.Registry.Writes

/-!
# Counts are kept and never asked

What a registration comes to does not depend on what was counted before it: with other counts it gives the
same answer or failure and leaves the same state, but for the counts.
-/

namespace Fleet

namespace Action

variable {α β : Type}

/-- The same answer or the same failure, and states that differ in their counts at most. -/
inductive SameButCounts : EStateM.Result Failure State α → EStateM.Result Failure State α → Prop
  | ok (answer : α) (after : State) (tally : Tally) :
      SameButCounts (.ok answer after) (.ok answer { after with tally })
  | error (failure : Failure) (after : State) (tally : Tally) :
      SameButCounts (.error failure after) (.error failure { after with tally })

/-- What an action comes to is the same with other counts, but for the counts. -/
def IgnoresCounts (action : Action α) : Prop :=
  ∀ state tally, SameButCounts (action state) (action { state with tally })

theorem IgnoresCounts.answer {action : Action α} (h : IgnoresCounts action) (state : State)
    (tally : Tally) : action.answer { state with tally } = action.answer state := by
  have hrun := h state tally
  unfold Action.answer
  generalize action state = first, action { state with tally } = second at hrun
  cases hrun <;> rfl

theorem IgnoresCounts.after {action : Action α} (h : IgnoresCounts action) (state : State)
    (tally : Tally) :
    ∃ later, action.after { state with tally } = { action.after state with tally := later } := by
  have hrun := h state tally
  unfold Action.after
  generalize action state = first, action { state with tally } = second at hrun
  cases hrun <;> exact ⟨_, rfl⟩

theorem ignoresCounts_pure (answer : α) : IgnoresCounts (pure answer) :=
  fun state tally => .ok answer state tally

theorem ignoresCounts_throw (failure : Failure) : IgnoresCounts (throw failure : Action α) :=
  fun state tally => .error failure state tally

theorem ignoresCounts_conclude (found : Except Failure α) : IgnoresCounts (conclude found) := by
  cases found with
  | ok answer => exact ignoresCounts_pure answer
  | error failure => exact ignoresCounts_throw failure

theorem ignoresCounts_modify {f : State → State}
    (h : ∀ state tally, ∃ later, f { state with tally } = { f state with tally := later }) :
    IgnoresCounts (modify f : Action Unit) := by
  intro state tally
  obtain ⟨later, hlater⟩ := h state tally
  change SameButCounts (.ok () (f state)) (.ok () (f { state with tally }))
  rw [hlater]
  exact .ok () (f state) later

theorem IgnoresCounts.bind {action : Action α} {next : α → Action β} (h : IgnoresCounts action)
    (hnext : ∀ answer, IgnoresCounts (next answer)) : IgnoresCounts (action >>= next) := by
  intro state tally
  have hrun := h state tally
  rw [bind_apply, bind_apply]
  generalize action state = first, action { state with tally } = second at hrun
  cases hrun with
  | ok answer after later => exact hnext answer after later
  | error failure after later => exact .error failure after later

/-- Whoever looks at the state but not at its counts. -/
theorem IgnoresCounts.get_bind {next : State → Action α}
    (hlook : ∀ state tally, next { state with tally } = next state)
    (hnext : ∀ state, IgnoresCounts (next state)) : IgnoresCounts (get >>= next) := by
  intro state tally
  change SameButCounts (next state state) (next { state with tally } { state with tally })
  rw [hlook state tally]
  exact hnext state state tally

theorem IgnoresCounts.attempt {action : Action α} (h : IgnoresCounts action) :
    IgnoresCounts action.attempt := by
  intro state tally
  have hrun := h state tally
  unfold Action.attempt
  generalize action state = first, action { state with tally } = second at hrun
  cases hrun with
  | ok answer after later => exact .ok (Except.ok answer) after later
  | error failure after later => exact .ok (Except.error failure) after later

end Action

open Fleet.Action

/-! ## Calls to collaborators -/

namespace Calls

theorem ignoresCounts_expect (call : Call) (id : String) : IgnoresCounts (expect call id) :=
  .get_bind (fun _ _ => rfl) fun _ => ignoresCounts_conclude _

theorem ignoresCounts_expectOnline (part : Part) : IgnoresCounts (expectOnline part) :=
  .get_bind (fun _ _ => rfl) fun _ => ignoresCounts_conclude _

theorem ignoresCounts_findCluster (id : String) : IgnoresCounts (findCluster id) :=
  (ignoresCounts_expect _ _).bind fun _ => .get_bind (fun _ _ => rfl) fun _ => ignoresCounts_pure _

theorem ignoresCounts_putCluster (cluster : Cluster) : IgnoresCounts (putCluster cluster) :=
  (ignoresCounts_expect _ _).bind fun _ => ignoresCounts_modify fun _ tally => ⟨tally, rfl⟩

theorem ignoresCounts_lastContact (id : String) : IgnoresCounts (lastContact id) :=
  (ignoresCounts_expect _ _).bind fun _ => .get_bind (fun _ _ => rfl) fun _ => ignoresCounts_pure _

theorem ignoresCounts_indexCluster (cluster : Cluster) : IgnoresCounts (indexCluster cluster) :=
  (ignoresCounts_expect _ _).bind fun _ => (ignoresCounts_expectOnline _).bind fun _ =>
    ignoresCounts_modify fun _ tally => ⟨tally, rfl⟩

theorem ignoresCounts_mayWrite (scope : Scope) (cluster : Option String) :
    IgnoresCounts (mayWrite scope cluster) :=
  (ignoresCounts_expect _ _).bind fun _ => .get_bind (fun _ _ => rfl) fun _ => ignoresCounts_pure _

theorem ignoresCounts_createFlows (id : String) : IgnoresCounts (createFlows id) :=
  (ignoresCounts_expect _ _).bind fun _ => (ignoresCounts_expectOnline _).bind fun _ =>
    ignoresCounts_modify fun _ tally => ⟨tally, rfl⟩

end Calls

/-! ## Registrations -/

namespace Registry

open Calls

theorem ignoresCounts_ensureWrite (scope : Scope) (id : String) :
    IgnoresCounts (ensureWrite scope id) := by
  refine (ignoresCounts_mayWrite scope _).bind fun allowed => ?_
  cases allowed with
  | false => exact ignoresCounts_throw _
  | true => exact ignoresCounts_pure _

theorem ignoresCounts_load (id : String) : IgnoresCounts (load id) := by
  refine (ignoresCounts_findCluster id).bind fun found => ?_
  cases found with
  | none => exact ignoresCounts_throw _
  | some cluster => exact ignoresCounts_pure _

theorem ignoresCounts_prepare (cluster : Cluster) : IgnoresCounts (prepare cluster) :=
  .get_bind (fun _ _ => rfl) fun _ => ignoresCounts_conclude _

theorem ignoresCounts_publish (cluster : Cluster) : IgnoresCounts (publish cluster) :=
  (ignoresCounts_modify fun _ tally => ⟨tally, rfl⟩).bind fun _ => ignoresCounts_indexCluster _

theorem ignoresCounts_store (cluster : Cluster) : IgnoresCounts (store cluster) :=
  (ignoresCounts_prepare cluster).bind fun normal =>
    (ignoresCounts_putCluster normal).bind fun _ => (ignoresCounts_publish normal).bind fun _ =>
      ignoresCounts_pure _

theorem ignoresCounts_enrol (cluster : Cluster) : IgnoresCounts (enrol cluster) := by
  intro state tally
  cases hobjection : enrolmentObjection? state.directory cluster with
  | some failure =>
    have hcounted : enrolmentObjection? ({ state with tally } : State).directory cluster =
        some failure := hobjection
    rw [enrol_of_objection hobjection, enrol_of_objection hcounted]
    exact .error failure state tally
  | none =>
    have hcounted : enrolmentObjection? ({ state with tally } : State).directory cluster = none :=
      hobjection
    rw [enrol_of_unobjected hobjection, enrol_of_unobjected hcounted]
    refine ((ignoresCounts_prepare _).bind fun normal => ?_) state tally
    refine (ignoresCounts_putCluster normal).bind fun _ => ?_
    refine (ignoresCounts_modify fun _ tally => ⟨tally, rfl⟩).bind fun _ => ?_
    refine (ignoresCounts_publish normal).bind fun _ => ?_
    refine (ignoresCounts_createFlows normal.id).attempt.bind fun provided => ?_
    cases provided with
    | ok _ => exact ignoresCounts_pure normal
    | error cause => exact ignoresCounts_throw _

theorem ignoresCounts_guardTakeover (cluster : Cluster) (incoming : Option SensorIdentity)
    (now : Instant) : IgnoresCounts (guardTakeover cluster incoming now) := by
  refine (ignoresCounts_lastContact cluster.id).bind fun contact => ?_
  refine .get_bind (fun _ _ => rfl) fun state => ?_
  dsimp only
  split
  · exact ignoresCounts_throw _
  · exact ignoresCounts_pure _

theorem ignoresCounts_converge (cluster : Cluster) (managed : Option ManagedConfig) :
    IgnoresCounts (converge cluster managed) := by
  cases hconverged : cluster.converged? managed with
  | none =>
    rw [converge_of_kept hconverged]
    exact ignoresCounts_pure _
  | some revised =>
    rw [converge_of_revised hconverged]
    exact (ignoresCounts_store revised).bind fun _ => ignoresCounts_pure _

theorem ignoresCounts_adopt (id : String) (announcement : Announcement) (now : Instant) :
    IgnoresCounts (adopt id announcement now) := by
  refine (ignoresCounts_load id).bind fun cluster => ?_
  split
  · exact ignoresCounts_throw _
  · exact (ignoresCounts_guardTakeover cluster _ now).bind fun _ =>
      ignoresCounts_converge cluster _

theorem ignoresCounts_decide (announcement : Announcement) (now : Instant) :
    IgnoresCounts (decide announcement now) := by
  refine .get_bind (fun _ _ => rfl) fun state => ?_
  split
  · exact ignoresCounts_adopt _ announcement now
  · split
    · exact ignoresCounts_throw _
    · exact (ignoresCounts_enrol _).bind fun _ => ignoresCounts_pure _

theorem ignoresCounts_countOutcome (outcome : Outcome) : IgnoresCounts (countOutcome outcome) :=
  ignoresCounts_modify fun _ _ => ⟨_, rfl⟩

theorem ignoresCounts_noteRegistered : IgnoresCounts noteRegistered :=
  ignoresCounts_modify fun _ _ => ⟨_, rfl⟩

theorem ignoresCounts_reconcile (announcement : Announcement) (now : Instant) :
    IgnoresCounts (reconcile announcement now) := by
  refine (ignoresCounts_decide announcement now).attempt.bind fun decided => ?_
  cases decided with
  | ok reconciled => exact (ignoresCounts_countOutcome _).bind fun _ => ignoresCounts_pure _
  | error failure => exact (ignoresCounts_countOutcome _).bind fun _ => ignoresCounts_throw _

theorem ignoresCounts_create (scope : Scope) (cluster : Cluster) :
    IgnoresCounts (create scope cluster) :=
  (ignoresCounts_ensureWrite scope _).bind fun _ => (ignoresCounts_enrol cluster).attempt.bind
    fun enrolled => ignoresCounts_noteRegistered.bind fun _ =>
      (ignoresCounts_conclude enrolled).bind fun _ => ignoresCounts_pure _

theorem ignoresCounts_announce (scope : Scope) (announcement : Announcement) :
    IgnoresCounts (announce scope announcement) := by
  refine (ignoresCounts_ensureWrite scope _).bind fun _ => ?_
  refine .get_bind (fun _ _ => rfl) fun state => ?_
  refine (ignoresCounts_reconcile announcement state.now).bind fun reconciled => ?_
  split
  · exact ignoresCounts_noteRegistered.bind fun _ => ignoresCounts_pure _
  · exact ignoresCounts_pure _

end Registry

end Fleet
