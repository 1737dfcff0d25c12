import Fleet.Proofs.Edits
import Fleet.Proofs.Restraint
import Fleet.Proofs.Reading

/-!
# Trying again

An edit that fails has changed nothing, or it has written the record and not indexed it. As written once
more the record is the same, so an edit may be tried again for as often as it takes: once it succeeds, all
is as if it had succeeded at once. Agents hear of it only then.
-/

namespace Fleet

open Fleet.Action

/-- A call that changes one stored record. -/
inductive Edit where
  | update (given : Cluster)
  | amend (id : String) (amendment : Amendment)

namespace Edit

/-- The cluster that is edited. -/
def id : Edit → String
  | update given => given.id
  | amend id _ => id

def operation : Edit → Operation
  | update given => .update given
  | amend id amendment => amendment.operation id

end Edit

/-- What is left after attempts at an edit have failed, one after another, each of them while something
else may be out of order. -/
inductive Attempted (scope : Scope) (edit : Edit) (state : State) : State → Prop
  | never : Attempted scope edit state state
  | again {failed : State} {failure : Failure} (conditions : Conditions)
      (h : Attempted scope edit state failed)
      (hfailed : ({ failed with conditions } : State).failureOf (.call scope edit.operation) =
        some failure) :
      Attempted scope edit state
        (({ failed with conditions } : State).next (.call scope edit.operation))

/-! ## What agents hear -/

namespace Roster

/-- The commands that wait for the agent of a connection. -/
def inboxOf? (roster : Roster) (number : Nat) : Option (List DynamicConfig) :=
  (roster.connections[number]?).map (·.inbox)

/-- A configuration goes to one connection at most, the live one, and goes there once. -/
theorem inboxOf?_send (roster : Roster) (clusterId : String) (config : DynamicConfig) (number : Nat) :
    (roster.send clusterId config).2.inboxOf? number = roster.inboxOf? number ∨
      roster.live.get? clusterId = some number ∧
        (roster.send clusterId config).2.inboxOf? number =
          (roster.inboxOf? number).map (· ++ [config]) := by
  unfold send
  split
  · exact .inl rfl
  rename_i reached hlive
  split
  · exact .inl rfl
  split
  · unfold inboxOf? change
    dsimp only
    rw [List.getElem?_modify]
    by_cases hnumber : reached = number
    · subst hnumber
      refine .inr ⟨hlive, ?_⟩
      simp [Function.comp_def]
    · refine .inl ?_
      simp [hnumber]
  · exact .inl rfl

end Roster

/-! ## One attempt -/

namespace State

variable {state : State} {scope : Scope}

theorem refusal?_calmed {id : String} (h : state.refusal? scope id = none) :
    state.calmed.refusal? scope id = none := by
  unfold refusal? at h
  split at h
  · cases h
  · split at h
    · cases h
    · rename_i hallowed
      exact if_neg hallowed

/-- What can be written under faults can be written without them. -/
theorem updateObstacle?_calmed {given : Cluster} (h : state.updateObstacle? scope given = none) :
    state.calmed.updateObstacle? scope given = none := by
  obtain ⟨hid, hrefusal, -, hrecord⟩ := updateObstacle?_eq_none_iff.1 h
  exact updateObstacle?_eq_none_iff.2 ⟨hid, refusal?_calmed hrefusal, rfl, hrecord⟩

/-- Writing a record twice is the same as writing it once. -/
theorem withRecord_withRecord (written : Cluster) :
    (state.withRecord written).withRecord written = state.withRecord written := by
  have hnamed : (state.directory.insert written.id written.name).nameOf? written.id =
      some written.name := by
    rw [Directory.nameOf?_insert, if_pos rfl]
  unfold withRecord
  rw [Table.insert_insert_self, Directory.insert_of_nameOf? hnamed]

theorem replacing_withRecord (written : Cluster) :
    (state.withRecord written).replacing written = state.replacing written := by
  unfold replacing
  rw [withRecord_withRecord]
  rfl

end State

namespace Registry

variable {state after : State} {scope : Scope} {given : Cluster}

/-- An update that has failed leaves what the next one needs. -/
theorem update_again {failure : Failure} (hfailed : update scope given state = .error failure after) :
    update scope given after.calmed = update scope given state.calmed ∧ after.roster = state.roster := by
  cases hobstacle : state.updateObstacle? scope given with
  | some _ =>
    rw [update_of_obstacle hobstacle] at hfailed
    cases hfailed
    exact ⟨rfl, rfl⟩
  | none =>
    obtain ⟨-, -, -, existing, normal, hstored, hname, hprepare⟩ :=
      State.updateObstacle?_eq_none_iff.1 hobstacle
    let written := normal.keeping existing
    have hsubject := Cluster.sameSubject_of_prepare hprepare
    have hid : written.id = given.id := hsubject.id
    have hwritten : after = state.withRecord written := by
      rw [update_of_unobstructed hobstacle hstored hprepare] at hfailed
      cases hindex : state.conditions.indexFailure? written.id with
      | some _ =>
        rw [state.replacing_of_failure hindex] at hfailed
        cases hfailed
        rfl
      | none =>
        rw [state.replacing_of_indexed hindex] at hfailed
        cases hfailed
    rw [hwritten]
    refine ⟨?_, rfl⟩
    have hcalmed := State.updateObstacle?_calmed hobstacle
    have hagain : (state.withRecord written).calmed.clusters.get? given.id = some written.stored := by
      rw [← hid]
      exact Table.get?_insert_self _ _ _
    have hcalmed' : (state.withRecord written).calmed.updateObstacle? scope given = none := by
      rw [← hcalmed]
      apply State.updateObstacle?_congr
      · rfl
      · rfl
      · rfl
      · rw [hagain, show state.calmed.clusters.get? given.id = some existing from hstored]
        exact congrArg some (hsubject.name.trans hname.symm)
    -- The second time, status and audit logs are kept from the record that the first one has written.
    have hsecond : update scope given (state.withRecord written).calmed =
        (state.calmed.withRecord written).replacing (normal.keeping written.stored) :=
      update_of_unobstructed hcalmed' hagain hprepare
    calc update scope given (state.withRecord written).calmed
        = (state.calmed.withRecord written).replacing written := hsecond
      _ = state.calmed.replacing written := State.replacing_withRecord written
      _ = update scope given state.calmed := (update_of_unobstructed hcalmed hstored hprepare).symm

end Registry

namespace Edit

variable {edit : Edit} {scope : Scope} {state after : State}

/-- An attempt that has failed makes no difference to the next one, and no agent has heard of it. -/
theorem run_again {failure : Failure} (hsound : state.Sound)
    (hfailed : edit.operation.run scope state = .error failure after) :
    edit.operation.run scope after.calmed = edit.operation.run scope state.calmed ∧
      after.roster = state.roster := by
  cases edit with
  | update given =>
    change (Registry.update scope given >>= fun delivery => pure (Answer.delivery delivery)) state = _
      at hfailed
    rcases error_of_bind hfailed with hfailed | ⟨_, _, -, hpure⟩
    · obtain ⟨hagain, hroster⟩ := Registry.update_again hfailed
      refine ⟨?_, hroster⟩
      change (Registry.update scope given >>= _) after.calmed = (Registry.update scope given >>= _) _
      rw [bind_apply, bind_apply, hagain]
    · cases hpure
  | amend id amendment =>
    change (amendment.operation id).run scope state = _ at hfailed
    rw [amendment.run_operation id scope hsound.keyed] at hfailed
    cases hobstacle : (amendment.flaw? id).or (state.amendObstacle? scope id) with
    | some _ =>
      rw [hobstacle] at hfailed
      cases hfailed
      exact ⟨rfl, rfl⟩
    | none =>
      rw [hobstacle] at hfailed
      cases hfailed

/-- An edit tells no agent anything, unless it sends the stored configuration to the agent of its
cluster. -/
theorem inboxOf?_run (edit : Edit) (scope : Scope) (hsound : state.Sound) (number : Nat) :
    let after := state.next (.call scope edit.operation)
    after.roster.inboxOf? number = state.roster.inboxOf? number ∨
      ∃ record, after.clusters.get? edit.id = some record ∧
        state.roster.live.get? edit.id = some number ∧
        after.roster.inboxOf? number =
          (state.roster.inboxOf? number).map (· ++ [record.dynamic.getD default]) := by
  intro after
  have heffect : Effect scope state edit.operation _ after :=
    edit.operation.run_effect scope hsound.keyed
  generalize (edit.operation.run scope).answer state = answer at heffect
  clear_value after
  generalize hoperation : edit.operation = operation at heffect
  cases heffect with
  | @revised _ _ id existing given normal _ _ roster hrevision _ _ hid _ hprepare _ hroster =>
    have hedited : edit.id = normal.id := by
      rw [(Cluster.sameSubject_of_prepare hprepare).id]
      subst hoperation
      cases edit with
      | update given => cases hrevision; rfl
      | amend id amendment => cases amendment <;> cases hrevision
    rw [hedited]
    rcases hroster with rfl | rfl
    · exact .inl rfl
    · rcases state.roster.inboxOf?_send normal.id (normal.dynamic.getD default) number with
        hsame | ⟨hlive, hsent⟩
      · exact .inl hsame
      · exact .inr ⟨normal.stored, Table.get?_insert_self _ _ _, hlive, hsent⟩
  | _ => exact .inl rfl

end Edit

/-- However often an edit of a stored record was attempted and failed, and whatever was out of order each
time, an attempt with everything in order comes to the same as if none had been made before: to the same
answer, the same records, names and index entries. No failed attempt has sent anything to an agent, and the
last one sends at most the configuration that is stored then, once and to the live agent of the cluster. -/
theorem failed_edits_can_be_retried {state failed : State} {scope : Scope} {edit : Edit}
    (hreachable : state.Reachable) (hattempted : Attempted scope edit state failed) :
    edit.operation.run scope failed.calmed = edit.operation.run scope state.calmed ∧
    failed.roster = state.roster ∧
    let after := failed.calmed.next (.call scope edit.operation)
    ∀ number, after.roster.inboxOf? number = state.roster.inboxOf? number ∨
      ∃ record, after.clusters.get? edit.id = some record ∧
        state.roster.live.get? edit.id = some number ∧
        after.roster.inboxOf? number =
          (state.roster.inboxOf? number).map (· ++ [record.dynamic.getD default]) := by
  have hkept : failed.Sound ∧ edit.operation.run scope failed.calmed =
      edit.operation.run scope state.calmed ∧ failed.roster = state.roster := by
    induction hattempted with
    | never => exact ⟨hreachable.sound, rfl, rfl⟩
    | @again failed failure conditions _ hfailed ih =>
      obtain ⟨hsound, hrun, hroster⟩ := ih
      let disturbed : State := { failed with conditions }
      have hdisturbed : disturbed.Sound := hsound
      obtain ⟨after, herror⟩ := error_of_answer (State.answer_of_failureOf hfailed)
      obtain ⟨hagain, hsent⟩ := Edit.run_again hdisturbed herror
      have hafter : disturbed.next (.call scope edit.operation) = after := after_of_error herror
      refine ⟨hdisturbed.next _, ?_, ?_⟩
      · rw [hafter, hagain]
        exact hrun
      · rw [hafter, hsent]
        exact hroster
  obtain ⟨hsound, hrun, hroster⟩ := hkept
  refine ⟨hrun, hroster, fun number => ?_⟩
  have hcalmed : failed.calmed.Sound := hsound
  have hinbox := edit.inboxOf?_run scope hcalmed number
  rwa [show failed.calmed.roster = state.roster from hroster] at hinbox

/-- A configuration that is sent to the agent while other things fail. -/
def rollout : Edit :=
  .update { id := "$1", name := "prod", labels := .ofList [("team", "blue")],
            dynamic := some { disableAuditLogs := true } }

/-- The index is offline at first, so that the record is written and not sent, and then the store cannot
be read. In the end the agent has the configuration once, and the index has the new label. -/
theorem failed_edits_can_be_retried_of_rollout :
    let state := (State.start {} {} ⟨0, false⟩).following [
      .call .system (.create { name := "prod" }),
      .connect { clusterId := "$1", version := "4.1", capacity := 8 }]
    ∃ failed, Attempted .system rollout state failed ∧ failed.clusters ≠ state.clusters ∧
      let after := failed.calmed.next (.call .system rollout.operation)
      after = state.calmed.next (.call .system rollout.operation) ∧
      failed.roster.inboxOf? 0 = some [] ∧
      (after.roster.inboxOf? 0).map List.length = some 1 ∧
      (after.index.get? "$1").map (·.labels.entries) = some [("team", "blue")] := by
  intro state
  have hreachable : state.Reachable := ⟨_, _, _, _, rfl⟩
  let call : Event := .call .system rollout.operation
  let unindexed : State := { state with conditions := { offline := [.index] } }
  let unreadable : State := { unindexed.next call with
    conditions := { outages := [⟨"clusters.get", none⟩] } }
  have hunindexed : unindexed.failureOf call = some Part.index.failure := by decide +kernel
  have hunreadable : unreadable.failureOf call = some Call.clusterGet.failure := by decide +kernel
  have hattempted : Attempted .system rollout state (unreadable.next call) :=
    .again _ (.again _ .never hunindexed) hunreadable
  obtain ⟨hrun, hroster, -⟩ := failed_edits_can_be_retried hreachable hattempted
  have hafter : (unreadable.next call).calmed.next call = state.calmed.next call := by
    change (rollout.operation.run .system).after _ = (rollout.operation.run .system).after _
    unfold Action.after
    rw [hrun]
  refine ⟨_, hattempted, ?_, hafter, ?_, ?_, ?_⟩
  · decide +kernel
  · rw [hroster]
    decide +kernel
  · rw [hafter]
    decide +kernel
  · rw [hafter]
    decide +kernel

end Fleet
