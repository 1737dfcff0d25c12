import Fleet.Proofs.Mirror

/-!
# What calls leave alone

A call that its caller has to mend has changed nothing: whatever fails after the first write is a
collaborator. And no call reaches beyond what its scope may write: nothing that is kept about another
cluster differs afterwards, whichever way the call came to the cluster that it is about.
-/

namespace Fleet

open Fleet.Action

namespace State

/-- Nothing that is kept about a cluster differs. The directory gives the id the same name, and so the
same names lead to the id. -/
structure SameAbout (id : String) (before after : State) : Prop where
  record : after.clusters.get? id = before.clusters.get? id
  name : after.directory.nameOf? id = before.directory.nameOf? id
  entry : after.index.get? id = before.index.get? id
  snapshot : after.holdings.health.get? id = before.holdings.health.get? id
  rank : after.holdings.ranks.get? id = before.holdings.ranks.get? id
  flows : after.flows.get? id = before.flows.get? id

theorem SameAbout.of_same {id : String} {before after : State}
    (hregistry : SameRegistry before after)
    (hsnapshot : after.holdings.health.get? id = before.holdings.health.get? id)
    (hrank : after.holdings.ranks.get? id = before.holdings.ranks.get? id) :
    SameAbout id before after where
  record := by rw [hregistry.clusters]
  name := by rw [hregistry.directory]
  entry := by rw [hregistry.index]
  snapshot := hsnapshot
  rank := hrank
  flows := by rw [hregistry.flows]

theorem SameAbout.trans {id : String} {first second third : State} (h : SameAbout id first second)
    (h' : SameAbout id second third) : SameAbout id first third where
  record := h'.record.trans h.record
  name := h'.name.trans h.name
  entry := h'.entry.trans h.entry
  snapshot := h'.snapshot.trans h.snapshot
  rank := h'.rank.trans h.rank
  flows := h'.flows.trans h.flows

theorem get?_reindexed_of_ne (state : State) {id reported : String} (report : Health)
    (hne : id ≠ reported) : (state.reindexed reported report).get? id = state.index.get? id := by
  unfold reindexed
  cases state.clusters.get? reported with
  | none => rfl
  | some cluster =>
    dsimp only
    split
    · exact Table.get?_insert_of_ne _ _ hne
    · rfl

theorem answer_of_failureOf {state : State} {scope : Scope} {operation : Operation}
    {failure : Failure} (h : state.failureOf (.call scope operation) = some failure) :
    (operation.run scope).answer state = .error failure := by
  unfold failureOf at h
  dsimp only at h
  split at h
  · cases h
  · rename_i hanswer
    cases h
    exact hanswer

theorem error_of_failureOf {state : State} {scope : Scope} {operation : Operation}
    {failure : Failure} (h : state.failureOf (.call scope operation) = some failure) :
    operation.run scope state = .error failure (state.next (.call scope operation)) := by
  obtain ⟨after, hrun⟩ := error_of_answer (answer_of_failureOf h)
  rw [hrun]
  exact congrArg _ (after_of_error hrun).symm

theorem failureOf_of_error {state after : State} {scope : Scope} {operation : Operation}
    {failure : Failure} (h : operation.run scope state = .error failure after) :
    state.failureOf (.call scope operation) = some failure := by
  unfold failureOf
  dsimp only
  rw [answer_of_error h]

theorem failureOf_of_ok {state after : State} {scope : Scope} {operation : Operation} {value : Answer}
    (h : operation.run scope state = .ok value after) :
    state.failureOf (.call scope operation) = none := by
  unfold failureOf
  dsimp only
  rw [answer_of_ok h]

theorem ok_of_failureOf_none {state : State} {scope : Scope} {operation : Operation}
    (h : state.failureOf (.call scope operation) = none) :
    ∃ value after, operation.run scope state = .ok value after := by
  unfold failureOf at h
  dsimp only at h
  split at h
  · rename_i value hanswer
    exact ⟨value, ok_of_answer hanswer⟩
  · cases h

end State

namespace Effect

variable {scope : Scope} {before after : State} {operation : Operation} {answer : Except Failure Answer}
  {id : String}

/-- Whatever fails after a write is a collaborator. -/
theorem unwritten_of_error {failure : Failure} (hcaller : failure.isRetryable = false)
    (h : Effect scope before operation (.error failure) after) :
    ∃ tally, after = { before with tally } := by
  have huninterrupted : ¬ IsInterrupted before (.error failure) := by
    rintro ⟨fault, heq, hfault⟩
    cases heq
    rw [hfault.retryable] at hcaller
    cases hcaller
  have hindexed : ¬ IsUnindexed before (.error failure) := by
    rintro ⟨fault, heq, hfault⟩
    exact huninterrupted ⟨fault, heq, hfault.toIsFault⟩
  cases h with
  | idle tally _ => exact ⟨tally, rfl⟩
  | enrolled _ _ _ _ _ _ hend =>
    rcases hend with ⟨⟨_, hok⟩, -⟩ | ⟨-, ⟨hfault, -⟩ | ⟨hfault, -⟩⟩
    · cases hok
    · exact absurd hfault hindexed
    · exact absurd hfault huninterrupted
  | revised _ _ _ _ _ _ _ _ _ hend _ =>
    rcases hend with ⟨⟨_, hok⟩, -⟩ | ⟨hfault, -⟩
    · cases hok
    · exact absurd hfault hindexed
  | reported _ _ hend =>
    rcases hend with ⟨hok, -⟩ | ⟨hfault, -⟩
    · cases hok
    · exact absurd hfault huninterrupted
  | removed _ _ _ _ hend =>
    rcases hend with ⟨hok, -⟩ | ⟨hfault, -⟩
    · cases hok
    · exact absurd hfault hindexed
  | rebuilt _ _ hend =>
    rcases hend with ⟨hok, -⟩ | ⟨hfault, -⟩
    · cases hok
    · exact absurd hfault hindexed

/-- A cluster that the scope may not write is not the one that was written. -/
theorem sameAbout_of_denied (hsound : before.Sound) (hscoped : operation ≠ .rebuild)
    (hdenied : before.grants.mayWrite scope (some id) = false)
    (h : Effect scope before operation answer after) : State.SameAbout id before after := by
  have hother : ∀ {other}, before.grants.mayWrite scope (some other) = true → id ≠ other := by
    rintro other hallowed rfl
    rw [hdenied] at hallowed
    cases hallowed
  cases h with
  | idle => exact ⟨rfl, rfl, rfl, rfl, rfl, rfl⟩
  | enrolled _ _ _ _ hallowed _ _ => exact absurd rfl (hother (Grants.mayWrite_of_none hallowed id))
  | @revised _ _ other existing given normal _ index _ _ hstored hallowed hid hname hprepare hend _ =>
    have hne : id ≠ normal.id := by
      rw [(Cluster.sameSubject_of_prepare hprepare).id, hid]
      exact hother hallowed
    -- the name is entered anew for its owner, so that it drives out nobody else's
    have hdirectory := (hsound.revised hstored hid hname hprepare).2
    refine ⟨Table.get?_insert_of_ne _ _ hne, ?_, ?_, rfl, rfl, rfl⟩
    · exact congrArg (fun directory : Directory => directory.nameOf? id) hdirectory
    · rcases hend with ⟨-, rfl⟩ | ⟨-, rfl⟩
      · exact Table.get?_insert_of_ne _ _ hne
      · rfl
  | amended _ _ hallowed =>
    exact ⟨Table.get?_insert_of_ne _ _ (hother hallowed), rfl, rfl, rfl, rfl, rfl⟩
  | reported _ hallowed hend =>
    refine ⟨rfl, rfl, ?_, Table.get?_insert_of_ne _ _ (hother hallowed), rfl, rfl⟩
    rcases hend with ⟨-, rfl⟩ | ⟨-, rfl⟩
    · exact State.get?_reindexed_of_ne before _ (hother hallowed)
    · rfl
  | removed _ _ _ hallowed hend =>
    have hne := hother hallowed
    refine ⟨?_, ?_, ?_, rfl, rfl, rfl⟩
    · exact (Table.get?_erase _ _ _).trans (if_neg hne)
    · exact (Directory.nameOf?_erase _ _ _).trans (if_neg hne)
    · rcases hend with ⟨-, rfl⟩ | ⟨-, rfl⟩
      · exact (Table.get?_erase _ _ _).trans (if_neg hne)
      · rfl
  | rebuilt => exact absurd rfl hscoped

/-- Only who may write all clusters makes a record. -/
theorem mayWrite_all_of_gained (hfresh : before.clusters.get? id = none)
    (hgained : after.clusters.get? id ≠ none) (h : Effect scope before operation answer after) :
    before.grants.mayWrite scope none = true := by
  cases h with
  | idle | reported | rebuilt => exact absurd hfresh hgained
  | enrolled _ _ _ _ hallowed _ _ => exact hallowed
  | revised _ _ _ _ hstored _ hid _ hprepare _ _ =>
    refine absurd ?_ hgained
    refine (Table.get?_insert_of_ne _ _ ?_).trans hfresh
    rw [(Cluster.sameSubject_of_prepare hprepare).id, hid]
    rintro rfl
    rw [hfresh] at hstored
    cases hstored
  | amended _ hstored _ =>
    refine absurd ?_ hgained
    refine (Table.get?_insert_of_ne _ _ ?_).trans hfresh
    rintro rfl
    rw [hfresh] at hstored
    cases hstored
  | removed =>
    refine absurd ?_ hgained
    refine (Table.get?_erase _ _ _).trans ?_
    split
    · rfl
    · exact hfresh

end Effect

/-- A call that fails and that its caller has to mend leaves the whole state as it was, whatever is out of
order; at most it is counted. -/
theorem unretryable_failure_changes_nothing {state : State} (hreachable : state.Reachable)
    (conditions : Conditions) (scope : Scope) (operation : Operation) {failure : Failure}
    (hfailure : ({ state with conditions } : State).failureOf (.call scope operation) = some failure)
    (hcaller : failure.isRetryable = false) :
    ∃ tally, ({ state with conditions } : State).next (.call scope operation) =
      { state with conditions, tally } := by
  let before : State := { state with conditions }
  have hsound : before.Sound := hreachable.sound
  have heffect : Effect scope before operation ((operation.run scope).answer before)
      (before.next (.call scope operation)) := operation.run_effect scope hsound.keyed
  rw [State.answer_of_failureOf hfailure] at heffect
  exact heffect.unwritten_of_error hcaller

/-- While the index cannot be written, an announcement of a stored name under the id of another cluster
ends in a conflict. It is counted as rejected, and that is all. -/
theorem unretryable_failure_changes_nothing_of_misnamed :
    let state := (State.start {} {} ⟨0, false⟩).following [
      .call .system (.create { name := "prod" }), .call .system (.create { name := "test" })]
    let before : State := { state with conditions := { outages := [⟨"index.add", none⟩] } }
    let call : Event := .call .system (.announce {
      clusterId := some "$2", declaration := some { name := "prod", config := some default } })
    before.failureOf call = some (.nameMismatch "$2" "test" "prod") ∧
      ∃ tally, before.next call = { before with tally } := by
  intro state before call
  have hfailure : before.failureOf call = some (.nameMismatch "$2" "test" "prod") := by
    decide +kernel
  refine ⟨hfailure, ?_⟩
  exact unretryable_failure_changes_nothing ⟨_, _, _, _, rfl⟩ _ _ _ hfailure rfl

/-- Whatever is granted and whatever is out of order, a call leaves alone all that is kept about a cluster
which its scope may not write, and a record is made only for a scope that may write all clusters. Loading
everything anew is not done on behalf of a scope. -/
theorem writes_confined_to_scope {state : State} (hreachable : state.Reachable) (grants : Grants)
    (conditions : Conditions) (scope : Scope) (operation : Operation)
    (hscoped : operation ≠ .rebuild) :
    let before : State := { state with grants, conditions }
    let after := before.next (.call scope operation)
    (∀ id, grants.mayWrite scope (some id) = false → State.SameAbout id before after) ∧
      (∀ id, before.clusters.get? id = none → after.clusters.get? id ≠ none →
        grants.mayWrite scope none = true) := by
  intro before after
  have hsound : before.Sound := hreachable.sound
  have heffect : Effect scope before operation ((operation.run scope).answer before) after :=
    operation.run_effect scope hsound.keyed
  constructor
  · intro id hdenied
    exact heffect.sameAbout_of_denied hsound hscoped hdenied
  · intro id hfresh hgained
    exact heffect.mayWrite_all_of_gained hfresh hgained

/-- Alice may write the first cluster. Her announcement of a new configuration for it changes its record,
although the index cannot be written, and leaves the second one alone. -/
theorem writes_confined_to_scope_of_alice :
    let state := (State.start {} {} ⟨0, false⟩).following [
      .call .system (.create { name := "prod" }), .call .system (.create { name := "test" })]
    let before : State := { state with
      grants := Grants.grant .empty "alice" (.write "$1")
      conditions := { outages := [⟨"index.add", none⟩] } }
    let after := before.next (.call (.subject "alice") (.announce {
      clusterId := some "$1"
      declaration := some { name := "prod", config := some { fingerprint := "v2" } } }))
    after.clusters.get? "$1" ≠ before.clusters.get? "$1" ∧ State.SameAbout "$2" before after := by
  intro state before after
  have hreachable : state.Reachable := ⟨_, _, _, _, rfl⟩
  have hconfined := writes_confined_to_scope hreachable
    (Grants.grant .empty "alice" (.write "$1")) { outages := [⟨"index.add", none⟩] }
    (.subject "alice") (.announce {
      clusterId := some "$1"
      declaration := some { name := "prod", config := some { fingerprint := "v2" } } }) nofun
  refine ⟨?_, hconfined.1 "$2" (by decide +kernel)⟩
  decide +kernel

end Fleet
