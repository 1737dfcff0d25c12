import Fleet.Proofs.Levels
import Fleet.Proofs.Restraint

/-!
# What a registered cluster may lack

A record is stored before it is indexed and before its cluster gets a flow store, and nothing is taken
back when one of these fails. So a stored cluster may lack an entry in the index, or have an old one, until
some call enters its record; and it lacks a flow store for good if the call that made its record failed.
-/

namespace Fleet

open Fleet.Action

/-- What a stored cluster lacks beside its record and its name. -/
structure Shortfall where
  /-- The index has not been told of its name and labels. -/
  unindexed : Bool := false
  /-- It has no flow store. -/
  flowless : Bool := false
deriving DecidableEq

namespace Operation

/-- Whether a call that is answered has entered the record of a cluster in the index. -/
def enters (before after : State) (id : String) : Operation → Bool
  | rebuild => true
  | create _ | announce _ => after.clusters.get? id ≠ before.clusters.get? id
  | update given => given.id = id
  | updateHealth reported report =>
    reported = id && (Snapshots.updated before.holdings.health id report).livenessChanged
  | _ => false

/-- What a cluster lacks after a call, if it lacked so much before. The index falls behind if it fails after
what it looks at has changed; a flow store is made by the call that makes the record or by none. -/
def shortfall (operation : Operation) (before : State) (answer : Except Failure Answer) (after : State)
    (id : String) (earlier : Shortfall) : Shortfall :=
  let sameFace :=
    (after.clusters.get? id).map Cluster.face = (before.clusters.get? id).map Cluster.face
  let isNew := (before.clusters.get? id).isNone && (after.clusters.get? id).isSome
  match answer with
  | .ok _ =>
    { unindexed := earlier.unindexed && !operation.enters before after id
      flowless := earlier.flowless && !isNew }
  | .error failure =>
    { unindexed := if sameFace then earlier.unindexed else decide (IsIndexFailure failure)
      flowless := earlier.flowless || isNew }

section

variable {operation : Operation} {before after : State} {answer : Except Failure Answer} {id : String}
  {earlier : Shortfall}

/-- A call that neither changes nor enters the record of a cluster has no part in what it lacks. -/
theorem shortfall_of_same (hsame : after.clusters.get? id = before.clusters.get? id)
    (henters : (∃ value, answer = .ok value) → operation.enters before after id = false) :
    operation.shortfall before answer after id earlier = earlier := by
  unfold shortfall
  rw [hsame]
  cases answer with
  | ok value =>
    rw [henters ⟨value, rfl⟩]
    cases before.clusters.get? id <;> simp
  | error failure => cases before.clusters.get? id <;> simp

/-- Only the call that makes the record makes or misses the flow store. -/
theorem flowless_shortfall_of_stored {existing : Cluster}
    (hstored : before.clusters.get? id = some existing) :
    (operation.shortfall before answer after id earlier).flowless = earlier.flowless := by
  unfold shortfall
  rw [hstored]
  cases answer <;> simp

/-- An index that is up to date after a failure is so because of no change that it missed. -/
theorem unindexed_shortfall_of_error {failure : Failure} (hindex : IsIndexFailure failure)
    (h : (operation.shortfall before (.error failure) after id earlier).unindexed = false) :
    (after.clusters.get? id).map Cluster.face = (before.clusters.get? id).map Cluster.face ∧
      earlier.unindexed = false := by
  unfold shortfall at h
  dsimp only at h
  split at h
  · rename_i hface
    exact ⟨hface, h⟩
  · rw [decide_eq_true hindex] at h
    cases h

theorem enters_of_newcomer {given : Cluster} (h : operation.newcomer? = some given)
    (hsame : after.clusters.get? id = before.clusters.get? id) :
    operation.enters before after id = false := by
  cases operation <;> cases h <;> simp [enters, hsame]

theorem enters_of_revision {existing given : Cluster} (h : operation.revision? existing = some given)
    (hne : id ≠ given.id) (hsame : after.clusters.get? id = before.clusters.get? id) :
    operation.enters before after id = false := by
  cases operation with
  | update other =>
    cases h
    simpa [enters] using hne.symm
  | announce announcement => simp [enters, hsame]
  | _ => cases h

theorem enters_of_amendment {change : Cluster → Cluster} {other : String}
    (h : operation.amendment? = some (other, change)) : operation.enters before after id = false := by
  cases operation <;> cases h <;> rfl

theorem enters_of_asks (h : operation.asks = true)
    (hsame : after.clusters.get? id = before.clusters.get? id) :
    operation.enters before after id = false := by
  cases operation with
  | announce announcement => simp [enters, hsame]
  | _ => first | rfl | cases h

end

end Operation

namespace State

/-- What a cluster lacks after an event. -/
def shortfallAfter (state : State) (id : String) (earlier : Shortfall) : Event → Shortfall
  | .call scope operation =>
    let action := operation.run scope
    operation.shortfall state (action.answer state) (action.after state) id earlier
  | _ => earlier

/-- What a cluster lacks after a run. -/
def shortfall (state : State) (id : String) (earlier : Shortfall) : List Event → Shortfall
  | [] => earlier
  | event :: rest => (state.next event).shortfall id (state.shortfallAfter id earlier event) rest

/-- A cluster lacks nothing else: its record is in the index unless the index has not been told, it has a
flow store or has not, and nobody has one whose id was not given out. -/
structure Provides (state : State) (id : String) (shortfall : Shortfall) : Prop where
  indexed : ∀ cluster, state.clusters.get? id = some cluster → shortfall.unindexed = false →
    ∃ entry, state.index.get? id = some entry ∧ entry.face = cluster.face
  flows : ∀ cluster, state.clusters.get? id = some cluster →
    state.flows.contains id = !shortfall.flowless
  fresh : ¬ state.HasIssued id → state.flows.contains id = false

namespace Provides

variable {before after : State} {id : String} {earlier : Shortfall}

theorem sameRegistry (h : before.Provides id earlier) (hsame : SameRegistry before after) :
    after.Provides id earlier where
  indexed := hsame.clusters ▸ hsame.index ▸ h.indexed
  flows := hsame.clusters ▸ hsame.flows ▸ h.flows
  fresh := hsame.hasIssued ▸ hsame.flows ▸ h.fresh

variable {operation : Operation} {answer : Except Failure Answer}

/-- A call that leaves the record, the entry and the flow store of a cluster alone. -/
theorem untouched (h : before.Provides id earlier) (hissued : before.HasIssued id → after.HasIssued id)
    (hclusters : after.clusters.get? id = before.clusters.get? id)
    (hindex : after.index.get? id = before.index.get? id)
    (hflows : after.flows.contains id = before.flows.contains id)
    (henters : (∃ value, answer = .ok value) → operation.enters before after id = false) :
    after.Provides id (operation.shortfall before answer after id earlier) := by
  rw [Operation.shortfall_of_same hclusters henters]
  refine ⟨?_, ?_, ?_⟩
  · rw [hclusters, hindex]
    exact h.indexed
  · rw [hclusters, hflows]
    exact h.flows
  · rw [hflows]
    exact fun hnew => h.fresh fun hearlier => hnew (hissued hearlier)

/-- A call on a cluster that is stored before and after it. -/
theorem kept (h : before.Provides id earlier) {existing cluster : Cluster}
    (hstored : before.clusters.get? id = some existing)
    (hafter : after.clusters.get? id = some cluster)
    (hissued : after.HasIssued id ↔ before.HasIssued id) (hflows : after.flows = before.flows)
    (hindexed : (operation.shortfall before answer after id earlier).unindexed = false →
      ∃ entry, after.index.get? id = some entry ∧ entry.face = cluster.face) :
    after.Provides id (operation.shortfall before answer after id earlier) := by
  refine ⟨?_, ?_, ?_⟩
  · intro found hfound
    rw [hafter] at hfound
    cases hfound
    exact hindexed
  · intro _ _
    rw [Operation.flowless_shortfall_of_stored hstored, hflows]
    exact h.flows existing hstored
  · rw [hissued, hflows]
    exact h.fresh

/-- Whatever is said of a cluster that is not stored. -/
theorem absent (h : before.Provides id earlier) (hafter : after.clusters.get? id = none)
    (hissued : after.HasIssued id ↔ before.HasIssued id) (hflows : after.flows = before.flows)
    (shortfall : Shortfall) : after.Provides id shortfall := by
  have hnone : ∀ cluster, after.clusters.get? id ≠ some cluster := by simp [hafter]
  refine ⟨fun _ hstored => absurd hstored (hnone _), fun _ hstored => absurd hstored (hnone _), ?_⟩
  rw [hissued, hflows]
  exact h.fresh

/-- The record of a new cluster, whichever of index and flow store has failed. -/
theorem enrolled {before : State} {tally : Tally} {index : Table Cluster} {flows : Table Unit}
    {given normal : Cluster} (hsound : before.Sound) (h : before.Provides normal.id earlier)
    (henrol : Registry.Enrollable given before normal)
    (hend : (∃ value, answer = .ok value) ∧ index = before.index.insert normal.id normal ∧
        flows = before.flows.insert normal.id () ∨
      flows = before.flows ∧ (IsUnindexed before answer ∧ index = before.index ∨
        IsInterrupted before answer ∧ index = before.index.insert normal.id normal)) :
    let after : State := { before.withNewcomer normal with index, flows, tally }
    after.Provides normal.id (operation.shortfall before answer after normal.id earlier) := by
  intro after
  have habsent : before.clusters.get? normal.id = none := henrol.id ▸ hsound.absent_of_next
  have hstored : after.clusters.get? normal.id = some normal.stored := Table.get?_insert_self _ _ _
  have hnew : ¬ before.HasIssued normal.id := henrol.id ▸ before.not_hasIssued_nextId
  have hentered : index = before.index.insert normal.id normal →
      ∃ entry, after.index.get? normal.id = some entry ∧ entry.face = normal.stored.face := by
    rintro rfl
    exact ⟨normal, Table.get?_insert_self _ _ _, rfl⟩
  have hgiven : after.HasIssued normal.id := ⟨before.issued + 1, Nat.le_refl _, henrol.id⟩
  refine ⟨?_, ?_, fun hfresh => absurd hgiven hfresh⟩
  · intro found hfound hindexed
    rw [hstored] at hfound
    cases hfound
    rcases hend with ⟨-, hindex, -⟩ | ⟨-, ⟨⟨failure, rfl, hfault⟩, -⟩ | ⟨-, hindex⟩⟩
    · exact hentered hindex
    · obtain ⟨hface, -⟩ := Operation.unindexed_shortfall_of_error hfault.ofIndex hindexed
      rw [hstored, habsent] at hface
      cases hface
    · exact hentered hindex
  · intro found _
    unfold Operation.shortfall
    rw [hstored, habsent]
    rcases hend with ⟨⟨value, rfl⟩, -, rfl⟩ | ⟨rfl, hfailed⟩
    · simp [after, Table.contains]
    · have hnone : after.flows.contains normal.id = false := h.fresh hnew
      rcases hfailed with ⟨⟨failure, rfl, -⟩, -⟩ | ⟨⟨failure, rfl, -⟩, -⟩ <;> simp [hnone]

/-- A new cluster makes no difference to any other one. -/
theorem beside_enrolled (h : before.Provides id earlier) {tally : Tally} {index : Table Cluster}
    {flows : Table Unit} {given normal : Cluster} (hid : id ≠ normal.id)
    (hoperation : operation.newcomer? = some given)
    (hindex : index = before.index.insert normal.id normal ∨ index = before.index)
    (hflows : flows = before.flows.insert normal.id () ∨ flows = before.flows) :
    let after : State := { before.withNewcomer normal with index, flows, tally }
    after.Provides id (operation.shortfall before answer after id earlier) := by
  have hclusters := Table.get?_insert_of_ne before.clusters normal.stored hid
  refine h.untouched (fun hissued => hissued.mono rfl (Nat.le_succ _)) hclusters ?_ ?_ ?_
  · rcases hindex with rfl | rfl
    · exact Table.get?_insert_of_ne _ _ hid
    · rfl
  · rcases hflows with rfl | rfl
    · exact congrArg Option.isSome (Table.get?_insert_of_ne _ _ hid)
    · rfl
  · exact fun _ => Operation.enters_of_newcomer hoperation hclusters

/-- The record that is written in place of a known one, whether or not the index has failed. -/
theorem revised {tally : Tally} {index : Table Cluster} {roster : Roster} {existing normal : Cluster}
    (h : before.Provides normal.id earlier)
    (hstored : before.clusters.get? normal.id = some existing)
    (hend : (∃ value, answer = .ok value) ∧ index = before.index.insert normal.id normal ∨
      IsUnindexed before answer ∧ index = before.index) :
    let after : State := { before.withRecord normal with index, roster, tally }
    after.Provides normal.id (operation.shortfall before answer after normal.id earlier) := by
  refine h.kept hstored (Table.get?_insert_self _ _ _) .rfl rfl ?_
  intro hindexed
  rcases hend with ⟨-, rfl⟩ | ⟨⟨failure, rfl, hfault⟩, rfl⟩
  · exact ⟨normal, Table.get?_insert_self _ _ _, rfl⟩
  · obtain ⟨hface, hearlier⟩ := Operation.unindexed_shortfall_of_error hfault.ofIndex hindexed
    obtain ⟨entry, hentry, hmatch⟩ := h.indexed existing hstored hearlier
    change ((before.clusters.insert normal.id normal.stored).get? normal.id).map _ = _ at hface
    rw [Table.get?_insert_self, hstored] at hface
    exact ⟨entry, hentry, hmatch.trans (Option.some.inj hface).symm⟩

theorem beside_revised (h : before.Provides id earlier) {tally : Tally} {index : Table Cluster}
    {roster : Roster} {existing given normal : Cluster} (hid : id ≠ normal.id)
    (hgiven : given.id = normal.id) (hoperation : operation.revision? existing = some given)
    (hindex : index = before.index.insert normal.id normal ∨ index = before.index) :
    let after : State := { before.withRecord normal with index, roster, tally }
    after.Provides id (operation.shortfall before answer after id earlier) := by
  have hclusters := Table.get?_insert_of_ne before.clusters normal.stored hid
  refine h.untouched (fun hissued => hissued) hclusters ?_ rfl ?_
  · rcases hindex with rfl | rfl
    · exact Table.get?_insert_of_ne _ _ hid
    · rfl
  · exact fun _ => Operation.enters_of_revision hoperation (hgiven ▸ hid) hclusters

/-- A change that searches cannot see leaves the entry as good as it was. -/
theorem amended (h : before.Provides id earlier) {other : String} {change : Cluster → Cluster}
    {existing : Cluster} (hoperation : operation.amendment? = some (other, change))
    (hstored : before.clusters.get? other = some existing) :
    let after : State :=
      { before with clusters := before.clusters.insert other (change existing).stored }
    after.Provides id (operation.shortfall before (.ok .done) after id earlier) := by
  by_cases hid : id = other
  · subst hid
    refine h.kept hstored (Table.get?_insert_self _ _ _) .rfl rfl ?_
    intro hindexed
    have hearlier : earlier.unindexed = false := by
      simpa [Operation.shortfall, Operation.enters_of_amendment hoperation] using hindexed
    obtain ⟨entry, hentry, hmatch⟩ := h.indexed existing hstored hearlier
    exact ⟨entry, hentry, hmatch.trans (Operation.face_of_amendment? hoperation existing).symm⟩
  · exact h.untouched (fun hissued => hissued) (Table.get?_insert_of_ne _ _ hid) rfl rfl
      fun _ => Operation.enters_of_amendment hoperation

/-- A report enters the record of its cluster anew, or finds it entered as well as it was. -/
theorem reported (h : before.Provides id earlier) {other : String} {report : Health}
    {index : Table Cluster}
    (hend : answer = .ok .done ∧ index = before.reindexed other report ∨
      IsInterrupted before answer ∧ index = before.index) :
    let after : State :=
      { before with holdings := before.holdings.recordHealth other report, index }
    after.Provides id
      ((Operation.updateHealth other report).shortfall before answer after id earlier) := by
  rcases hend with ⟨rfl, rfl⟩ | ⟨⟨failure, rfl, -⟩, rfl⟩
  · by_cases hid : id = other
    · subst hid
      cases hstored : before.clusters.get? id with
      | none =>
        refine h.absent ?_ ?_ ?_ _
        · exact hstored
        · exact .rfl
        · rfl
      | some cluster =>
        refine h.kept hstored hstored .rfl rfl ?_
        intro hindexed
        change ∃ entry, (before.reindexed id report).get? id = some entry ∧ _
        unfold reindexed
        rw [hstored]
        dsimp only
        split
        · exact ⟨_, Table.get?_insert_self _ _ _, rfl⟩
        · rename_i hsame
          refine h.indexed cluster hstored ?_
          simpa [Operation.shortfall, Operation.enters, hsame] using hindexed
    · refine h.untouched (fun hissued => hissued) rfl (get?_reindexed_of_ne before report hid) rfl ?_
      exact fun _ => by simp [Operation.enters, Ne.symm hid]
  · exact h.untouched (fun hissued => hissued) rfl rfl rfl fun ⟨_, hok⟩ => nomatch hok

/-- Of the removed cluster nothing is said any more, and the others are left alone. -/
theorem removed (h : before.Provides id earlier) {other : String} {ticket : Option Nat}
    {index : Table Cluster} {queue : TeardownQueue} {agenda : Agenda} {tally : Tally}
    (hindex : index = before.index.erase other ∨ index = before.index) :
    let after : State := { before with
      clusters := before.clusters.erase other
      directory := before.directory.erase other
      index
      queue
      agenda
      tally }
    after.Provides id
      ((Operation.remove other ticket).shortfall before answer after id earlier) := by
  have herased := Table.get?_erase before.clusters other id
  by_cases hid : id = other
  · refine h.absent ?_ ?_ ?_ _
    · exact herased.trans (if_pos hid)
    · exact .rfl
    · rfl
  · refine h.untouched (fun hissued => hissued) (herased.trans (if_neg hid)) ?_ rfl fun _ => rfl
    rcases hindex with rfl | rfl
    · exact (Table.get?_erase _ _ _).trans (if_neg hid)
    · rfl

theorem rebuilt (hsound : before.Sound) (h : before.Provides id earlier) {tally : Tally}
    {index : Table Cluster}
    (hend : answer = .ok .done ∧ index = before.rereadIndex ∨
      IsUnindexed before answer ∧ index = before.index) :
    let after : State := { before with directory := before.rereadDirectory, index, tally }
    after.Provides id (Operation.rebuild.shortfall before answer after id earlier) := by
  rcases hend with ⟨rfl, rfl⟩ | ⟨⟨failure, rfl, -⟩, rfl⟩
  · cases hstored : before.clusters.get? id with
    | none =>
      refine h.absent ?_ ?_ ?_ _
      · exact hstored
      · exact .rfl
      · rfl
    | some cluster =>
      refine h.kept hstored hstored .rfl rfl fun _ => ?_
      exact ⟨_, get?_rereadIndex hsound.keyed hstored, rfl⟩
  · exact h.untouched (fun hissued => hissued) rfl rfl rfl fun ⟨_, hok⟩ => nomatch hok

theorem effect (hsound : before.Sound) (h : before.Provides id earlier) {scope : Scope}
    (heffect : Effect scope before operation answer after) :
    after.Provides id (operation.shortfall before answer after id earlier) := by
  cases heffect with
  | idle tally hanswer =>
    refine h.untouched (fun hissued => hissued) rfl rfl rfl ?_
    rintro ⟨value, rfl⟩
    rcases hanswer with hasks | ⟨failure, herror⟩
    · exact Operation.enters_of_asks hasks rfl
    · cases herror
  | @enrolled _ _ given normal tally index flows hoperation _ henrol hend =>
    by_cases hid : id = normal.id
    · subst hid
      exact enrolled hsound h henrol hend
    · refine h.beside_enrolled hid hoperation ?_ ?_
      · rcases hend with ⟨-, hindex, -⟩ | ⟨-, ⟨-, hindex⟩ | ⟨-, hindex⟩⟩ <;> simp [hindex]
      · exact hend.imp (·.2.2) And.left
  | @revised _ _ other existing given normal tally index roster hoperation hstored _ hgiven hname
      hprepare hend _ =>
    have hnormal : normal.id = other := (Cluster.sameSubject_of_prepare hprepare).id.trans hgiven
    subst hnormal
    by_cases hid : id = normal.id
    · subst hid
      exact h.revised hstored hend
    · exact h.beside_revised hid hgiven hoperation (hend.imp And.right And.right)
  | amended hoperation hstored _ => exact h.amended hoperation hstored
  | reported index _ hend => exact h.reported hend
  | removed tally index hstored _ hend => exact h.removed (hend.imp And.right And.right)
  | rebuilt tally index hend => exact rebuilt hsound h hend

theorem next (hsound : before.Sound) (h : before.Provides id earlier) (event : Event) :
    (before.next event).Provides id (before.shortfallAfter id earlier event) := by
  rcases next_cases hsound.keyed event with ⟨hevent, hsame⟩ | ⟨scope, operation, rfl, heffect⟩
  · have hearlier : before.shortfallAfter id earlier event = earlier := by
      cases event with
      | call scope operation => exact absurd rfl (hevent scope operation)
      | _ => rfl
    rw [hearlier]
    exact h.sameRegistry hsame
  · exact h.effect hsound heffect

theorem following (hsound : before.Sound) (h : before.Provides id earlier) (events : List Event) :
    (before.following events).Provides id (before.shortfall id earlier events) := by
  induction events generalizing before earlier with
  | nil => exact h
  | cons event rest ih => exact ih (hsound.next event) (h.next hsound event)

theorem start (runtime : Runtime) (settings : Settings) (now : Instant) (id : String)
    (earlier : Shortfall) : (start runtime settings now).Provides id earlier := by
  refine ⟨?_, ?_, fun _ => rfl⟩
  · intro cluster hstored
    cases hstored
  · intro cluster hstored
    cases hstored

end Provides

end State

end Fleet
