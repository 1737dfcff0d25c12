import Fleet.Proofs.Absence

/-!
# Removals tried again

A removal drops the record first and tells the index afterwards. If the index cannot be told the removal
fails, and there is nothing left then for another one to remove: it is answered that there is no such
cluster. So what the index has for the cluster stays there for good, and searches go on finding it.
-/

namespace Fleet

open Fleet.Action

/-- An attempt at removing a cluster, and what is out of order then. -/
structure RemovalAttempt where
  conditions : Conditions
  scope : Scope
  ticket : Option Nat

namespace State

/-- The state in which an attempt is made. -/
def meeting (state : State) (attempt : RemovalAttempt) : State :=
  { state with conditions := attempt.conditions }

/-- The state after attempts at removing a cluster, the first one first. -/
def attempting (state : State) (id : String) : List RemovalAttempt → State
  | [] => state
  | attempt :: rest =>
    ((state.meeting attempt).next (.call attempt.scope (.remove id attempt.ticket))).attempting id rest

/-- Whether one of the attempts failed because the index could not be told. -/
def missesEntry (state : State) (id : String) : List RemovalAttempt → Bool
  | [] => false
  | attempt :: rest =>
    let removal : Event := .call attempt.scope (.remove id attempt.ticket)
    decide ((state.meeting attempt).failureOf removal = some Call.indexDelete.failure) ||
      ((state.meeting attempt).next removal).missesEntry id rest

variable {state : State} {id : String} {scope : Scope} {ticket : Option Nat}

theorem missesEntry_cons (state : State) (id : String) (attempt : RemovalAttempt)
    (rest : List RemovalAttempt) :
    state.missesEntry id (attempt :: rest) =
      (decide ((state.meeting attempt).failureOf (.call attempt.scope (.remove id attempt.ticket)) =
          some Call.indexDelete.failure) ||
        ((state.meeting attempt).next (.call attempt.scope (.remove id attempt.ticket))).missesEntry
          id rest) :=
  rfl

/-! ## One attempt -/

/-- The index does not keep a record from being dropped. -/
theorem removalObstacle?_ne_indexDelete :
    state.removalObstacle? scope id ≠ some Call.indexDelete.failure := by
  unfold removalObstacle?
  repeat' split
  all_goals simp [Call.failure, Call.collaborator, Call.method]

theorem absent_of_removalObstacle? (h : state.removalObstacle? scope id = some (.notFound id)) :
    state.clusters.get? id = none := by
  unfold removalObstacle? at h
  split at h
  · cases h
  split at h
  · cases h
  split at h
  · cases h
  split at h
  · rename_i hnone
    exact Option.isNone_iff_eq_none.1 hnone
  · split at h <;> cases h

/-- An attempt changes nothing, or the cluster is gone after it and the index keeps its entry if it could
not be told. -/
theorem remove_stored (hsound : state.Sound) {cluster : Cluster}
    (hstored : state.clusters.get? id = some cluster) (scope : Scope) (ticket : Option Nat) :
    let removal : Event := .call scope (.remove id ticket)
    (state.next removal = state ∧ ∃ failure, state.failureOf removal = some failure ∧
        failure ≠ .notFound id ∧ failure ≠ Call.indexDelete.failure) ∨
      (state.next removal).Gone id ∧
        ((state.failureOf removal = none ∧ (state.next removal).index.get? id = none) ∨
          state.failureOf removal = some Call.indexDelete.failure ∧
            (state.next removal).index.get? id = state.index.get? id) := by
  intro removal
  rcases state.remove_cases scope id ticket with ⟨failure, hobstacle, hrun⟩ | ⟨dropped, -, -, hrun⟩
  · refine .inl ⟨after_of_error hrun, failure, failureOf_of_error hrun, ?_, ?_⟩
    · rintro rfl
      rw [absent_of_removalObstacle? hobstacle] at hstored
      cases hstored
    · rintro rfl
      exact removalObstacle?_ne_indexDelete hobstacle
  · right
    have hgone : ∀ after, after = state.withoutRecord id ⟨dropped, ticket⟩ → after.Gone id := by
      rintro after rfl
      refine ⟨(hsound.kept id cluster hstored).issued, ?_⟩
      exact (Table.get?_erase _ _ _).trans (if_pos rfl)
    by_cases hout : state.conditions.isOut .indexDelete id
    · rw [if_pos hout] at hrun
      have hnext : state.next removal = state.withoutRecord id ⟨dropped, ticket⟩ := after_of_error hrun
      refine ⟨hgone _ hnext, .inr ⟨failureOf_of_error hrun, ?_⟩⟩
      rw [hnext, withoutRecord, if_pos hout]
    · rw [if_neg hout] at hrun
      have hnext : state.next removal = state.withoutRecord id ⟨dropped, ticket⟩ := after_of_ok hrun
      refine ⟨hgone _ hnext, .inl ⟨failureOf_of_ok hrun, ?_⟩⟩
      rw [hnext, withoutRecord, if_neg hout, Table.get?_erase, if_pos rfl]

/-- A cluster that is gone is not there to be removed. -/
theorem remove_gone (hgone : state.Gone id) (scope : Scope) (ticket : Option Nat) :
    state.failureOf (.call scope (.remove id ticket)) ≠ some Call.indexDelete.failure := by
  rcases state.remove_cases scope id ticket with ⟨failure, hobstacle, hrun⟩ | ⟨dropped, -, hstored, -⟩
  · rw [failureOf_of_error hrun, ← hobstacle]
    exact removalObstacle?_ne_indexDelete
  · rw [hgone.absent] at hstored
    cases hstored

/-! ## Many attempts -/

theorem Sound.attempting (hsound : state.Sound) (attempts : List RemovalAttempt) :
    (state.attempting id attempts).Sound := by
  induction attempts generalizing state with
  | nil => exact hsound
  | cons attempt rest ih =>
    have hmet : (state.meeting attempt).Sound := hsound
    exact ih (hmet.next _)

/-- Once the cluster is gone, further attempts do nothing to the index. -/
theorem Gone.attempting (hsound : state.Sound) (hgone : state.Gone id) (attempts : List RemovalAttempt) :
    (state.attempting id attempts).Gone id ∧
      (state.attempting id attempts).index.get? id = state.index.get? id ∧
      state.missesEntry id attempts = false := by
  induction attempts generalizing state with
  | nil => exact ⟨hgone, rfl, rfl⟩
  | cons attempt rest ih =>
    have hmet : (state.meeting attempt).Sound := hsound
    have hgone' : (state.meeting attempt).Gone id := ⟨hgone.issued, hgone.absent⟩
    let removal : Event := .call attempt.scope (.remove id attempt.ticket)
    obtain ⟨hgone'', hindex⟩ := hgone'.advance hmet (.event (.refl _) removal)
    obtain ⟨hreached, hrest, hmisses⟩ := ih (hmet.next removal) hgone''
    refine ⟨hreached, hrest.trans hindex, ?_⟩
    rw [missesEntry_cons, hmisses, Bool.or_false, decide_eq_false_iff_not]
    exact remove_gone hgone' attempt.scope attempt.ticket

/-- After attempts a stored cluster is as it was, or it is gone and the index has its entry still if one of
the attempts has missed it. -/
theorem attempting_stored (hsound : state.Sound) {cluster : Cluster}
    (hstored : state.clusters.get? id = some cluster) (attempts : List RemovalAttempt) :
    let reached := state.attempting id attempts
    (reached.clusters.get? id = some cluster ∧ state.missesEntry id attempts = false) ∨
      reached.Gone id ∧
        reached.index.get? id = if state.missesEntry id attempts then state.index.get? id else none := by
  induction attempts generalizing state with
  | nil => exact .inl ⟨hstored, rfl⟩
  | cons attempt rest ih =>
    have hmet : (state.meeting attempt).Sound := hsound
    rw [missesEntry_cons]
    unfold State.attempting
    rcases remove_stored hmet hstored attempt.scope attempt.ticket with
      ⟨hsame, failure, hfailed, -, hmissed⟩ | ⟨hgone, hend⟩
    · rw [hsame, hfailed, decide_eq_false fun heq => hmissed (Option.some.inj heq), Bool.false_or]
      exact ih hmet hstored
    · obtain ⟨hreached, hindex, hmisses⟩ := hgone.attempting (hmet.next _) rest
      refine .inr ⟨hreached, hindex.trans ?_⟩
      rw [hmisses, Bool.or_false]
      rcases hend with ⟨hok, htold⟩ | ⟨hfailed, hkept⟩
      · rw [hok, htold]
        rfl
      · rw [hfailed, hkept, decide_eq_true rfl]
        rfl

/-- The last attempt, with everything in order: the cluster is gone if it was answered or there was nothing
to remove. -/
theorem finished_gone (hsound : state.Sound) {cluster : Cluster}
    (hstored : state.clusters.get? id = some cluster) (attempts : List RemovalAttempt)
    (hend : let removal : Event := .call scope (.remove id ticket)
      (state.attempting id attempts).calmed.failureOf removal = none ∨
        (state.attempting id attempts).calmed.failureOf removal = some (.notFound id)) :
    let done := (state.attempting id attempts).calmed.next (.call scope (.remove id ticket))
    done.Gone id ∧
      done.index.get? id = if state.missesEntry id attempts then state.index.get? id else none := by
  intro done
  have hreached : (state.attempting id attempts).calmed.Sound :=
    (hsound.attempting attempts : (state.attempting id attempts).Sound)
  rcases attempting_stored hsound hstored attempts with ⟨hkept, hmisses⟩ | ⟨hgone, hindex⟩
  · rcases remove_stored hreached hkept scope ticket with
      ⟨-, failure, hfailed, hfound, -⟩ | ⟨hgone, ⟨-, htold⟩ | ⟨hfailed, -⟩⟩
    · rcases hend with hok | hmissing
      · rw [hfailed] at hok
        cases hok
      · rw [hfailed] at hmissing
        exact absurd (Option.some.inj hmissing) hfound
    · rw [hmisses]
      exact ⟨hgone, htold⟩
    · rcases hend with hok | hmissing
      · rw [hfailed] at hok
        cases hok
      · rw [hfailed] at hmissing
        cases hmissing
  · have hgone' : (state.attempting id attempts).calmed.Gone id := ⟨hgone.issued, hgone.absent⟩
    obtain ⟨hdone, hkept⟩ :=
      hgone'.advance hreached (.event (.refl _) (.call scope (.remove id ticket)))
    exact ⟨hdone, hkept.trans hindex⟩

end State

/-- However often the removal of a stored cluster was attempted, by whomever and whatever was out of order
each time: once a removal is answered with everything in order, or told that there is no such cluster,
nothing leads to the cluster any more. If an attempt has failed because the index could not be told, the
index has the entry of the cluster for good, and searches by whoever may read the cluster find it. Else the
index has nothing of it. -/
theorem finished_removal_leaves_missed_entry {state : State} (hreachable : state.Reachable) {id : String}
    {cluster : Cluster} (hstored : state.clusters.get? id = some cluster)
    (attempts : List RemovalAttempt) {scope : Scope} {ticket : Option Nat}
    (hend : let removal : Event := .call scope (.remove id ticket)
      (state.attempting id attempts).calmed.failureOf removal = none ∨
        (state.attempting id attempts).calmed.failureOf removal = some (.notFound id)) :
    let done := (state.attempting id attempts).calmed.next (.call scope (.remove id ticket))
    let leftover := if state.missesEntry id attempts then state.index.get? id else none
    (∀ later, (done.following later).Forgets id ∧ (done.following later).index.get? id = leftover) ∧
      ∀ reader query, ∃ hits, Registry.search reader query done = .ok hits done ∧
        ((∃ hit ∈ hits, hit.id = id) ↔ ∃ entry, leftover = some entry ∧ query.accepts entry = true ∧
          done.grants.mayRead reader (some id) = true) ∧
        Registry.count reader query done =
          .ok (if query.isUnrestricted && done.grants.mayRead reader none then done.clusters.size
            else hits.length) done := by
  intro done leftover
  have hsound : state.Sound := hreachable.sound
  have hreached : (state.attempting id attempts).calmed.Sound :=
    (hsound.attempting attempts : (state.attempting id attempts).Sound)
  obtain ⟨hgone, hindex⟩ := State.finished_gone hsound hstored attempts hend
  have hdone : done.Sound := hreached.next _
  constructor
  · intro later
    obtain ⟨hlater, hkept⟩ := hgone.advance hdone (State.advances_following done later)
    exact ⟨hlater.forgets (hdone.following later), hkept.trans hindex⟩
  · intro reader query
    have hcalm : done.conditions = {} := State.conditions_next hreached.keyed rfl rfl
    have hsearch := Registry.search_of_calm hcalm reader query
    refine ⟨_, hsearch, ?_, Registry.count_of_calm hcalm hsearch⟩
    rw [State.exists_hit_iff, hindex]

/-- A cluster is created. -/
def creation : List Event := [.call .system (.create { name := "prod" })]

/-- The store does not drop the record at first. The next removal leaves nothing, and no search finds the
cluster after it. -/
theorem finished_removal_leaves_missed_entry_of_undropped :
    let state := (State.start {} {} ⟨0, false⟩).following creation
    let attempts : List RemovalAttempt := [⟨{ outages := [⟨"clusters.delete", none⟩] }, .system, none⟩]
    let reached := (state.attempting "$1" attempts).calmed
    let removal : Event := .call .system (.remove "$1" none)
    state.missesEntry "$1" attempts = false ∧ reached.failureOf removal = none ∧
      (reached.next removal).Forgets "$1" ∧
      ∃ hits, Registry.search .system {} (reached.next removal) = .ok hits (reached.next removal) ∧
        ∀ hit ∈ hits, hit.id ≠ "$1" := by
  intro state attempts reached removal
  have hreachable : state.Reachable := ⟨_, _, _, _, rfl⟩
  obtain ⟨cluster, hstored⟩ : ∃ cluster, state.clusters.get? "$1" = some cluster :=
    Option.isSome_iff_exists.1 (by decide +kernel)
  have hmisses : state.missesEntry "$1" attempts = false := by decide +kernel
  have hend : reached.failureOf removal = none := by decide +kernel
  obtain ⟨hforgets, hsearches⟩ :=
    finished_removal_leaves_missed_entry hreachable hstored attempts (.inl hend)
  obtain ⟨hits, hsearch, hfound, -⟩ := hsearches .system {}
  refine ⟨hmisses, hend, (hforgets []).1, hits, hsearch, ?_⟩
  intro hit hmem hid
  obtain ⟨entry, hleft, -⟩ := hfound.1 ⟨hit, hmem, hid⟩
  rw [hmisses] at hleft
  cases hleft

/-- The index is not told at first. The next removal is told that there is no such cluster, and searches
find it still. -/
theorem removed_cluster_stays_searchable :
    let state := (State.start {} {} ⟨0, false⟩).following creation
    let attempts : List RemovalAttempt := [⟨{ outages := [⟨"index.delete", none⟩] }, .system, none⟩]
    let reached := (state.attempting "$1" attempts).calmed
    let removal : Event := .call .system (.remove "$1" none)
    let done := reached.next removal
    (state.clusters.get? "$1").isSome = true ∧
      reached.failureOf removal = some (.notFound "$1") ∧
      done.clusters.get? "$1" = none ∧ (done.index.get? "$1").isSome = true ∧
      (Registry.search .system {}).answer done = .ok [⟨"$1", "prod"⟩] ∧
      (Registry.count .system { name := some "prod" }).answer done = .ok 1 := by
  intro state attempts reached removal done
  have hcalm : done.conditions = {} := by decide +kernel
  have hsearch := fun query => Registry.search_of_calm hcalm .system query
  refine ⟨by decide +kernel, by decide +kernel, by decide +kernel, by decide +kernel, ?_, ?_⟩
  · rw [answer_of_ok (hsearch {})]
    decide +kernel
  · rw [answer_of_ok (Registry.count_of_calm hcalm (hsearch { name := some "prod" }))]
    decide +kernel

end Fleet
