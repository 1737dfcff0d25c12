import Fleet.Proofs.Cleanup
import Fleet.Proofs.Connections
import Fleet.Proofs.Levels
import Fleet.Proofs.Naming
import Fleet.Proofs.Restraint

/-!
# What is removed stays away

Ids are never given out twice and nothing is written for a cluster without its record. So a cluster whose
record was dropped is found nowhere again, however late its teardown runs and whatever is still reported,
announced or asked about it; and its teardown does not touch what is kept about clusters that are stored,
not even about the one that has taken its name.
-/

namespace Fleet

open Fleet.Action

/-! ## Questions about a cluster that is not stored -/

namespace Operation

/-- The cluster of a call that comes to nothing unless the record of that cluster is stored. -/
def subject? : Operation → Option String
  | read id | remove id _ | updateUpgradeStatus id _ | updateCertExpiry id _ | updateStatus id _
  | updateSensor id _ => some id
  | update given => some given.id
  | updateAuditLogs id positions => if positions.isEmpty then none else some id
  | announce announcement => announcement.clusterId
  | _ => none

/-- Whether the access checker answers for the cluster and lets the scope make the call. -/
def isAdmitted (operation : Operation) (state : State) (scope : Scope) (id : String) : Bool :=
  match operation with
  | read _ => !state.conditions.isOut .accessRead id && state.grants.mayRead scope (some id)
  | _ => !state.conditions.isOut .accessWrite id && state.grants.mayWrite scope (some id)

end Operation

theorem named?_of_ne {id : String} (hid : id ≠ "") : named? id = some id :=
  if_neg hid

namespace Registry

section

variable {state : State} {scope : Scope} {id : String}

theorem ensureWrite_of_allowed (hid : id ≠ "")
    (hout : state.conditions.isOut .accessWrite id = false)
    (hallowed : state.grants.mayWrite scope (some id) = true) :
    ensureWrite scope id state = .ok () state := by
  rw [ensureWrite_apply, named?_of_ne hid]
  simp [hout, hallowed]

/-- If the store answers, it says that there is no record. -/
theorem load_of_missing (hout : state.conditions.isOut .clusterGet id = false)
    (habsent : state.clusters.get? id = none) : load id state = .error (.notFound id) state := by
  rw [load_apply, hout, habsent]
  rfl

theorem amend_of_missing (hid : id ≠ "") (hwrite : ensureWrite scope id state = .ok () state)
    (hload : load id state = .error (.notFound id) state) (change : Cluster → Cluster) :
    amend scope id change state = .error (.notFound id) state := by
  unfold amend
  have hnamed : requireId id "cluster" state = .ok () state := by
    rw [requireId, if_neg hid]
    rfl
  rw [bind_of_ok hnamed, bind_of_ok hwrite, bind_of_error hload]

theorem announce_of_missing {announcement : Announcement} (hid : id ≠ "")
    (hannounced : announcement.clusterId = some id)
    (hwrite : ensureWrite scope id state = .ok () state)
    (hload : load id state = .error (.notFound id) state) :
    ∃ after, announce scope announcement state = .error (.notFound id) after := by
  have hadopt : adopt id announcement state.now state = .error (.notFound id) state := by
    unfold adopt
    rw [bind_of_error hload]
  have hreconcile := reconcile_apply announcement state.now state
  rw [decide_of_target (target?_of_id hannounced hid), hadopt] at hreconcile
  unfold announce
  rw [hannounced, Option.getD_some, bind_of_ok hwrite, bind_of_ok (get_apply state)]
  exact ⟨_, bind_of_error hreconcile⟩

end

end Registry

/-- Whoever has to find a record that is not there is told so. -/
theorem Operation.answer_of_missing {operation : Operation} {state : State} {scope : Scope}
    {id : String} (hid : id ≠ "") (hsubject : operation.subject? = some id)
    (hadmitted : operation.isAdmitted state scope id = true)
    (hout : state.conditions.isOut .clusterGet id = false)
    (habsent : state.clusters.get? id = none) :
    (operation.run scope).answer state = .error (.notFound id) := by
  have hload := Registry.load_of_missing hout habsent
  have hwrite : (¬ ∃ other, operation = .read other) →
      Registry.ensureWrite scope id state = .ok () state := by
    intro hwrites
    have hboth : state.conditions.isOut .accessWrite id = false ∧
        state.grants.mayWrite scope (some id) = true := by
      cases operation with
      | read other => exact absurd ⟨other, rfl⟩ hwrites
      | _ => simpa [isAdmitted] using hadmitted
    exact Registry.ensureWrite_of_allowed hid hboth.1 hboth.2
  have hamend := fun hwrites => Registry.amend_of_missing hid (hwrite hwrites) hload
  cases operation with
  | read other =>
    cases hsubject
    have hboth : state.conditions.isOut .accessRead id = false ∧
        state.grants.mayRead scope (some id) = true := by
      simpa [isAdmitted] using hadmitted
    have hread : Registry.ensureRead scope id state = .ok () state := by
      refine Registry.ensureRead_of_allowed hboth.1 ?_
      rw [named?_of_ne hid]
      exact hboth.2
    have hmissing : Registry.read scope id state = .error (.notFound id) state := by
      unfold Registry.read
      rw [bind_of_ok hread, bind_of_error hload]
    exact answer_of_error (bind_of_error hmissing)
  | update given =>
    cases hsubject
    have hmissing : Registry.update scope given state = .error (.notFound given.id) state := by
      unfold Registry.update
      rw [if_neg hid]
      change (Registry.ensureWrite scope given.id >>= fun _ => Registry.load given.id >>= _) state = _
      rw [bind_of_ok (hwrite nofun), bind_of_error hload]
    exact answer_of_error (bind_of_error hmissing)
  | updateUpgradeStatus other upgrade =>
    cases hsubject
    exact answer_of_error (bind_of_error (hamend nofun _))
  | updateCertExpiry other expiry =>
    cases hsubject
    exact answer_of_error (bind_of_error (hamend nofun _))
  | updateStatus other status =>
    cases hsubject
    exact answer_of_error (bind_of_error (hamend nofun _))
  | updateSensor other sensor =>
    cases hsubject
    exact answer_of_error (bind_of_error (hamend nofun _))
  | updateAuditLogs other positions =>
    have hsome : positions.isEmpty = false ∧ other = id := by
      simpa [subject?] using hsubject
    obtain ⟨hsome, rfl⟩ := hsome
    have hmissing : Registry.updateAuditLogs scope other positions state =
        .error (.notFound other) state := by
      unfold Registry.updateAuditLogs Registry.requireId
      simp only [if_neg hid, hsome, Bool.false_eq_true, if_false]
      exact hamend nofun _
    exact answer_of_error (bind_of_error hmissing)
  | remove other ticket =>
    cases hsubject
    have hmissing : Registry.remove scope id ticket state = .error (.notFound id) state := by
      unfold Registry.remove
      rw [bind_of_ok (hwrite nofun), bind_of_error hload]
    exact answer_of_error (bind_of_error hmissing)
  | announce announcement =>
    obtain ⟨after, hrun⟩ := Registry.announce_of_missing hid hsubject (hwrite nofun) hload
    exact answer_of_error (bind_of_error hrun)
  | _ => cases hsubject

/-! ## Lists of records -/

namespace Cluster

theorem ids_attachHealth (found : List Health) (missing : List Nat) (position : Nat)
    (clusters : List Cluster) :
    (attachHealth found missing position clusters).map (·.id) = clusters.map (·.id) := by
  fun_induction attachHealth found missing position clusters with
  | case1 => rfl
  | case2 found missing position cluster rest hmissing ih => exact congrArg (cluster.id :: ·) ih
  | case3 found missing position cluster rest hfound ih => exact congrArg (cluster.id :: ·) ih

theorem mem_orderNamesakes {cluster : Cluster} {clusters : List Cluster} :
    cluster ∈ orderNamesakes clusters ↔ cluster ∈ clusters := by
  unfold orderNamesakes
  have hflat : (clusters.splitBy fun a b => a.name = b.name).flatten = clusters :=
    List.flatten_splitBy _ _
  conv => rhs; rw [← hflat]
  simp only [List.mem_flatMap, List.mem_mergeSort, List.mem_flatten]

end Cluster

namespace Registry

variable {state after : State}

/-- Attaching health and priority, as far as they are found, changes no id. -/
theorem ids_decorate {clusters shown : List Cluster}
    (h : decorate clusters state = .ok shown after) : shown.map (·.id) = clusters.map (·.id) := by
  unfold decorate at h
  obtain ⟨found, middle, -, h⟩ := ok_of_bind h
  cases h
  rw [List.map_map]
  cases found with
  | ok answer => exact Cluster.ids_attachHealth answer.1 answer.2 0 clusters
  | error failure => rfl

theorem mem_recordsOf {hits : List Hit} {clusters : List Cluster}
    (h : recordsOf hits state = .ok clusters after) :
    ∀ cluster ∈ clusters, ∃ id, state.clusters.get? id = some cluster := by
  induction hits generalizing clusters after with
  | nil =>
    cases h
    exact List.forall_mem_nil _
  | cons hit rest ih =>
    unfold recordsOf at h
    obtain ⟨found, middle, hfind, h⟩ := ok_of_bind h
    obtain ⟨others, last, hothers, h⟩ := ok_of_bind h
    cases h
    rcases Calls.findCluster_serves state hit.id with hserved | ⟨failure, -, hfailed⟩
    · rw [hserved] at hfind
      cases hfind
      intro cluster hcluster
      rcases List.mem_append.1 hcluster with hfound | hother
      · exact ⟨hit.id, Option.mem_toList.1 hfound⟩
      · exact ih hothers cluster hother
    · rw [hfailed] at hfind
      cases hfind

/-- Records that are shown are those of stored clusters. -/
theorem stored_of_decorate {clusters shown : List Cluster}
    (hdecorate : decorate clusters state = .ok shown after) (hkeyed : state.Keyed)
    (hstored : ∀ cluster ∈ clusters, ∃ id, state.clusters.get? id = some cluster) :
    ∀ cluster ∈ shown, state.clusters.get? cluster.id ≠ none := by
  intro cluster hcluster
  have hid : cluster.id ∈ clusters.map (·.id) :=
    ids_decorate hdecorate ▸ List.mem_map_of_mem hcluster
  obtain ⟨record, hrecord, hid⟩ := List.mem_map.1 hid
  obtain ⟨id, hget⟩ := hstored record hrecord
  rw [← hid, hkeyed id record hget, hget]
  exact Option.some_ne_none record

theorem stored_of_searchRecords {scope : Scope} {query : Query} {shown : List Cluster}
    (h : searchRecords scope query state = .ok shown after) (hkeyed : state.Keyed) :
    ∀ cluster ∈ shown, state.clusters.get? cluster.id ≠ none := by
  unfold searchRecords at h
  obtain ⟨hits, middle, hsearch, h⟩ := ok_of_bind h
  rw [← after_of_ok hsearch, quiet_search scope query state] at h
  obtain ⟨clusters, middle, hrecords, h⟩ := ok_of_bind h
  rw [← after_of_ok hrecords, quiet_recordsOf hits state] at h
  refine stored_of_decorate h hkeyed ?_
  intro cluster hcluster
  exact mem_recordsOf hrecords cluster (Cluster.mem_orderNamesakes.1 hcluster)

theorem stored_of_readAll {scope : Scope} {shown : List Cluster}
    (h : readAll scope state = .ok shown after) (hkeyed : state.Keyed) :
    ∀ cluster ∈ shown, state.clusters.get? cluster.id ≠ none := by
  unfold readAll at h
  obtain ⟨allowed, middle, hask, h⟩ := ok_of_bind h
  rw [← after_of_ok hask,
    quiet_of_serves (fun state => Calls.mayRead_serves state scope none) state] at h
  cases allowed with
  | false => exact stored_of_searchRecords h hkeyed
  | true =>
    obtain ⟨clusters, middle, hall, h⟩ := ok_of_bind h
    rcases Calls.allClusters_serves state with hserved | ⟨failure, -, hfailed⟩
    · rw [hserved] at hall
      cases hall
      refine stored_of_decorate h hkeyed ?_
      intro cluster hcluster
      exact ⟨cluster.id, (State.mem_records hkeyed).1 hcluster⟩
    · rw [hfailed] at hall
      cases hall

end Registry

/-- Every record in an answer is that of a stored cluster. -/
theorem Operation.stored_of_answer {operation : Operation} {state : State} {scope : Scope}
    {records : List Cluster} (hkeyed : state.Keyed)
    (h : (operation.run scope).answer state = .ok (.records records)) :
    ∀ cluster ∈ records, state.clusters.get? cluster.id ≠ none := by
  obtain ⟨after, hrun⟩ := ok_of_answer h
  cases operation with
  | readAll =>
    obtain ⟨shown, middle, hread, hend⟩ := ok_of_bind hrun
    cases hend
    exact Registry.stored_of_readAll hread hkeyed
  | searchRecords query =>
    obtain ⟨shown, middle, hsearch, hend⟩ := ok_of_bind hrun
    cases hend
    exact Registry.stored_of_searchRecords hsearch hkeyed
  | _ =>
    obtain ⟨_, _, -, hend⟩ := ok_of_bind hrun
    cases hend

/-! ## Runs in which teardowns go on between the calls -/

namespace State

theorem HasIssued.ne_of_new {state : State} {id new : String} (h : state.HasIssued id)
    (hnew : new = state.nextId) : id ≠ new := by
  rintro rfl
  exact state.not_hasIssued_nextId (hnew ▸ h)

/-- How a state comes from another one: something happens, or some teardown that has met its connection
runs its cascade meanwhile. -/
inductive Advances : State → State → Prop
  | refl (state : State) : Advances state state
  | event {before after : State} (h : Advances before after) (event : Event) :
      Advances before (after.next event)
  | cascade {before after : State} (h : Advances before after) (met : Job × ConnectionEnd) :
      Advances before (Registry.finish ([], after) met).2

theorem advances_following (state : State) (events : List Event) :
    Advances state (state.following events) := by
  induction events using List.reverseRecOn with
  | nil => exact .refl state
  | append_singleton events event ih =>
    rw [following_append]
    exact ih.event event

/-- Which clusters are gone for good: the id was given out and there is no record. -/
structure Gone (state : State) (id : String) : Prop where
  issued : state.HasIssued id
  absent : state.clusters.get? id = none

theorem SameRegistry.cascade (state : State) (met : Job × ConnectionEnd) :
    SameRegistry state (Registry.finish ([], state) met).2 :=
  .foldl_finish [met] [] state

/-- Loading everything anew enters no cluster that is not stored. -/
theorem get?_rereadIndex_of_absent {state : State} (hkeyed : state.Keyed) {id : String}
    (habsent : state.clusters.get? id = none) : state.rereadIndex.get? id = state.index.get? id := by
  unfold rereadIndex
  dsimp only
  refine Table.get?_insertMany_of_not_mem _ ?_
  intro entry hentry
  simp only [List.map_map, List.mem_map] at hentry
  obtain ⟨cluster, hcluster, hpair⟩ := hentry
  have hstored := (mem_records hkeyed).1 hcluster
  have hid : cluster.id = id := congrArg Prod.fst hpair
  rw [hid, habsent] at hstored
  cases hstored

/-- What the index has for a cluster that is gone, if anything, it keeps. -/
theorem get?_index_next_of_gone {state : State} (hsound : state.Sound) {id : String}
    (hgone : state.Gone id) (event : Event) :
    (state.next event).index.get? id = state.index.get? id := by
  have hstored : ∀ {other cluster}, state.clusters.get? other = some cluster → id ≠ other := by
    rintro other cluster hstored rfl
    rw [hgone.absent] at hstored
    cases hstored
  rcases next_cases hsound.keyed event with ⟨-, hsame⟩ | ⟨scope, operation, -, heffect⟩
  · rw [hsame.index]
  · generalize state.next event = after, (operation.run scope).answer state = answer at heffect ⊢
    cases heffect with
    | idle | amended => rfl
    | enrolled _ _ _ _ _ henrol hend =>
      have hne := hgone.issued.ne_of_new henrol.id
      rcases hend with ⟨-, rfl, -⟩ | ⟨-, ⟨-, rfl⟩ | ⟨-, rfl⟩⟩
      · exact Table.get?_insert_of_ne _ _ hne
      · rfl
      · exact Table.get?_insert_of_ne _ _ hne
    | revised _ _ _ _ hexisting _ hid _ hprepare hend _ =>
      rcases hend with ⟨-, rfl⟩ | ⟨-, rfl⟩
      · refine Table.get?_insert_of_ne _ _ ?_
        rw [(Cluster.sameSubject_of_prepare hprepare).id, hid]
        exact hstored hexisting
      · rfl
    | @reported reported report _ _ _ hend =>
      rcases hend with ⟨-, rfl⟩ | ⟨-, rfl⟩
      · by_cases heq : id = reported
        · subst heq
          unfold reindexed
          rw [hgone.absent]
        · exact get?_reindexed_of_ne state report heq
      · rfl
    | removed _ _ hexisting _ hend =>
      rcases hend with ⟨-, rfl⟩ | ⟨-, rfl⟩
      · exact (Table.get?_erase _ _ _).trans (if_neg (hstored hexisting))
      · rfl
    | rebuilt _ _ hend =>
      rcases hend with ⟨-, rfl⟩ | ⟨-, rfl⟩
      · exact get?_rereadIndex_of_absent hsound.keyed hgone.absent
      · rfl

theorem Sound.advance {before after : State} (hsound : before.Sound) (h : Advances before after) :
    after.Sound := by
  induction h with
  | refl => exact hsound
  | event _ event ih => exact ih.next event
  | cascade _ met ih => exact ih.sameRegistry (.cascade _ met)

/-- What is gone stays gone, and the index keeps what it has for it. -/
theorem Gone.advance {before after : State} (hsound : before.Sound) {id : String}
    (hgone : before.Gone id) (h : Advances before after) :
    after.Gone id ∧ after.index.get? id = before.index.get? id := by
  induction h with
  | refl => exact ⟨hgone, rfl⟩
  | event hearlier event ih =>
    have hsound := hsound.advance hearlier
    obtain ⟨hgone, hindex⟩ := ih
    obtain ⟨hissued, habsent⟩ := absent_next hsound event hgone.issued hgone.absent
    exact ⟨⟨hissued, habsent⟩, (get?_index_next_of_gone hsound hgone event).trans hindex⟩
  | @cascade middle _ met ih =>
    obtain ⟨hgone, hindex⟩ := ih
    have hsame := SameRegistry.cascade middle met
    refine ⟨⟨hsame.hasIssued ▸ hgone.issued, hsame.clusters ▸ hgone.absent⟩, ?_⟩
    rw [hsame.index]
    exact hindex

/-- Nothing leads to a cluster: it has no record and no name, whoever needs its record and is let through
is told that there is none, and it is in no list of records. -/
structure Forgets (state : State) (id : String) : Prop where
  record : state.clusters.get? id = none
  name : state.directory.nameOf? id = none
  unnamed : ∀ name, state.directory.idOf? name ≠ some id
  refused : ∀ scope (operation : Operation), operation.subject? = some id →
    operation.isAdmitted state scope id = true → state.conditions.isOut .clusterGet id = false →
    (operation.run scope).answer state = .error (.notFound id)
  unlisted : ∀ scope (operation : Operation) records,
    (operation.run scope).answer state = .ok (.records records) →
    ∀ cluster ∈ records, cluster.id ≠ id

theorem Gone.forgets {state : State} (hsound : state.Sound) {id : String} (hgone : state.Gone id) :
    state.Forgets id := by
  have hname : state.directory.nameOf? id = none := by
    rw [hsound.named, hgone.absent]
    rfl
  refine ⟨hgone.absent, hname, ?_, ?_, ?_⟩
  · intro name hfound
    rw [Directory.idOf?_eq_some_iff, hname] at hfound
    cases hfound
  · intro scope operation hsubject hadmitted hout
    exact operation.answer_of_missing hgone.issued.ne_empty hsubject hadmitted hout hgone.absent
  · rintro scope operation records hanswer cluster hcluster rfl
    exact operation.stored_of_answer hsound.keyed hanswer cluster hcluster hgone.absent

/-! ## Teardowns among stored clusters -/

/-- A cascade leaves alone all that is kept about clusters other than its own. -/
theorem sameAbout_cascade (state : State) {met : Job × ConnectionEnd} {id : String}
    (hne : id ≠ met.1.cluster.id) : SameAbout id state (Registry.finish ([], state) met).2 := by
  refine .of_same (.cascade state met) ?_ ?_
  · exact Cascade.get?_health_run _ _ _ _ hne
  · refine (congrArg (·.get? id) (Cascade.ranks_run _ _ _ _)).trans ?_
    rw [Table.get?_erase, if_neg hne]

theorem sameAbout_foldl_finish (met : List (Job × ConnectionEnd)) (reports : List (Job × Report))
    (state : State) {id : String} (h : ∀ entry ∈ met, id ≠ entry.1.cluster.id) :
    SameAbout id state (met.foldl Registry.finish (reports, state)).2 := by
  induction met generalizing reports state with
  | nil => exact ⟨rfl, rfl, rfl, rfl, rfl, rfl⟩
  | cons first rest ih =>
    obtain ⟨hfirst, hrest⟩ := List.forall_mem_cons.1 h
    rw [List.foldl_cons]
    exact (sameAbout_cascade state hfirst).trans (ih _ _ hrest)

/-- While teardowns settle, what is kept about a cluster for which none is pending stays as it is. -/
theorem sameAbout_settling {state : State} (hsummoned : state.Summoned) {id : String}
    (hpending : ∀ job ∈ state.queue.jobs, id ≠ job.cluster.id) (n : Nat) :
    SameAbout id state (Registry.settling state n).2 := by
  have hrested : SameAbout id state (Registry.rested state) := ⟨rfl, rfl, rfl, rfl, rfl, rfl⟩
  refine hrested.trans (sameAbout_foldl_finish _ _ _ ?_)
  intro entry hentry
  refine hpending entry.1 (hsummoned.finished_perm.mem_iff.1 ?_)
  exact List.mem_map_of_mem (List.mem_of_mem_take hentry)

theorem departed_following {state : State} (hsound : state.Sound) (hsummoned : state.Summoned)
    (h : state.Departed) (events : List Event) : (state.following events).Departed := by
  induction events generalizing state with
  | nil => exact h
  | cons event rest ih =>
    exact ih (hsound.next event) (summoned_next hsound hsummoned event).1
      (departed_next hsound hsummoned h event)

end State

/-- A cluster that a removal has dropped is gone for good: whatever happens from then on, and whichever
teardowns run meanwhile, nothing leads to it again; the index does not hold it either if it was told of the
removal; and its teardown leaves alone all that is kept about the clusters that are stored by then. Settling
as a whole, at any point on its way, does nothing to a stored cluster, and to its connections nothing but what
their agents were asked for before. -/
theorem removed_cluster_never_returns (runtime : Runtime) (settings : Settings) (now : Instant) :
    (∀ before later scope id ticket,
      (State.start runtime settings now).Advances before →
      let removal : Event := .call scope (.remove id ticket)
      before.clusters.get? id ≠ none →
      (before.next removal).clusters.get? id = none →
      (before.next removal).Advances later →
      later.Forgets id ∧
      (before.conditions.isOut .indexDelete id = false → later.index.get? id = none) ∧
      ∀ job connectionEnd other, job.cluster.id = id → later.clusters.get? other ≠ none →
        State.SameAbout other later (Registry.finish ([], later) (job, connectionEnd)).2) ∧
    (∀ events n id,
      let state := (State.start runtime settings now).following events
      state.clusters.get? id ≠ none →
      State.SameAbout id state (Registry.settling state n).2 ∧
      ((∀ event ∈ events, event.IsOrderly) →
        state.roster.Outlasts id (Registry.settling state n).2.roster)) := by
  have hstart := State.sound_start runtime settings now
  constructor
  · intro before later scope id ticket hrun removal hstored hdropped hlater
    have hsound := hstart.advance hrun
    obtain ⟨cluster, hcluster⟩ := Option.ne_none_iff_exists'.1 hstored
    have hissued := (hsound.kept id cluster hcluster).issued
    have hgone : (before.next removal).Gone id :=
      ⟨(State.Continues.next hsound removal).hasIssued hissued, hdropped⟩
    obtain ⟨hlaterGone, hindex⟩ := hgone.advance (hsound.next removal) hlater
    refine ⟨hlaterGone.forgets ((hsound.next removal).advance hlater), ?_, ?_⟩
    · intro htold
      refine hindex.trans ?_
      cases hobstacle : before.removalObstacle? scope id with
      | some failure =>
        rw [State.next_remove_of_obstacle hobstacle ticket, hcluster] at hdropped
        cases hdropped
      | none =>
        obtain ⟨_, -, hnext⟩ := State.next_remove_of_unobstructed hobstacle ticket
        rw [hnext, State.withoutRecord, htold, if_neg Bool.false_ne_true, Table.get?_erase,
          if_pos rfl]
    · rintro job connectionEnd other rfl hother
      refine State.sameAbout_cascade later ?_
      rintro rfl
      exact hother hlaterGone.absent
  · intro events n id state hstored
    obtain ⟨cluster, hcluster⟩ := Option.ne_none_iff_exists'.1 hstored
    have hsummoned := State.summoned_start runtime settings now
    have hdeparted := State.departed_following hstart hsummoned
      (State.departed_start runtime settings now) events
    have hpending := hdeparted.ne_of_stored hcluster
    refine ⟨?_, ?_⟩
    · exact State.sameAbout_settling (State.summoned_following hstart hsummoned events).1 hpending n
    · intro horderly
      exact ((State.Connected.start runtime settings now).following hstart horderly).outlasts n hpending

/-- A cluster has an agent and a rank. -/
def takenOver : List Event := [
  .call .system (.create { name := "prod" }),
  .connect { clusterId := "$1", version := "1", capacity := 1, stopDelay := some ⟨0⟩ },
  .setRank "$1" 7]

/-- What may still be heard of the removed cluster: its name goes to a new one, its agent reports and
announces it, and everything is loaded anew. -/
def aftermath : List Event := [
  .call .system (.create { name := "prod" }),
  .connect { clusterId := "$2", version := "1", capacity := 1, stopDelay := some ⟨0⟩ },
  .call .system (.updateHealth "$1" { sensor := some .healthy }),
  .call .system (.announce { clusterId := some "$1" }),
  .call .system .rebuild]

/-- The first cluster was removed and its name taken over. Nothing leads to it afterwards but the name
to the second one, whose agent stays connected while that of the first is made to end. -/
theorem removed_cluster_never_returns_of_takenOver :
    let before := (State.start {} {} ⟨0, false⟩).following takenOver
    let later := (before.next (.call .system (.remove "$1" none))).following aftermath
    later.Forgets "$1" ∧ later.index.get? "$1" = none ∧
      later.directory.idOf? "prod" = some "$2" ∧
      State.SameAbout "$2" later (Registry.settle later).2 ∧
      later.roster.Outlasts "$2" (Registry.settle later).2.roster := by
  intro before later
  have hnever := removed_cluster_never_returns {} {} ⟨0, false⟩
  have hlater : (State.start {} {} ⟨0, false⟩).following
      (takenOver ++ .call .system (.remove "$1" none) :: aftermath) = later := by
    rw [State.following_append, State.following_cons]
  have hbefore : (State.start {} {} ⟨0, false⟩).Advances before := State.advances_following _ _
  have hafter : (before.next (.call .system (.remove "$1" none))).Advances later :=
    State.advances_following _ _
  have hstored : before.clusters.get? "$1" ≠ none := by decide +kernel
  have hdropped : (before.next (.call .system (.remove "$1" none))).clusters.get? "$1" = none := by
    decide +kernel
  have hfirst := hnever.1 before later .system "$1" none hbefore hstored hdropped hafter
  have hsecond := hnever.2 (takenOver ++ .call .system (.remove "$1" none) :: aftermath)
    (Registry.timeline later).finished.length "$2" (by decide +kernel)
  rw [hlater, ← Registry.settle_eq] at hsecond
  refine ⟨hfirst.1, hfirst.2.1 (by decide +kernel), by decide +kernel, hsecond.1, hsecond.2 ?_⟩
  simp [takenOver, aftermath, Event.IsOrderly]

end Fleet
