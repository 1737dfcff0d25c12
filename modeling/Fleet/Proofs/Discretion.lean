import Fleet.Proofs.Absence

/-!
# What questions give away

Two states that differ only in clusters which a scope may not read are the same to it: every question
comes to the same answer or the same failure in both. Lists are put together from more than the scope
may read, and leave the rest out one cluster at a time; there is one thing that this can give away. The
access checker is asked about every hit, so if it cannot tell about a certain cluster, then a search
fails for a scope that may not read that cluster whenever the index has it.
-/

namespace Fleet

open Fleet.Action

/-! ## The same question in two states -/

namespace Action

variable {α β γ δ : Type} {left right : State}

theorem answer_map (action : Action α) (f : α → β) (state : State) :
    (action >>= fun answer => pure (f answer)).answer state = (action.answer state).map f := by
  unfold Action.answer
  rw [bind_apply]
  cases action state <;> rfl

/-- Two questions, each put to its own state, come to answers that are related or to the same failure. -/
inductive Concur (left right : State) (related : α → β → Prop) :
    EStateM.Result Failure State α → EStateM.Result Failure State β → Prop
  | ok {answer : α} {other : β} (h : related answer other) :
      Concur left right related (.ok answer left) (.ok other right)
  | error (failure : Failure) : Concur left right related (.error failure left) (.error failure right)

/-- One answer, of which something is known. -/
abbrev Agree (known : α → Prop) (answer other : α) : Prop :=
  known answer ∧ other = answer

namespace Concur

variable {related : α → β → Prop} {later : γ → δ → Prop}

theorem bind {first : Action α} {second : Action β} {next : α → Action γ} {next' : β → Action δ}
    (h : Concur left right related (first left) (second right))
    (hnext : ∀ answer other, related answer other →
      Concur left right later (next answer left) (next' other right)) :
    Concur left right later ((first >>= next) left) ((second >>= next') right) := by
  rw [bind_apply, bind_apply]
  generalize first left = one, second right = two at h
  cases h with
  | ok hrelated => exact hnext _ _ hrelated
  | error failure => exact .error failure

theorem attempt {action : Action α} (h : Concur left right Eq (action left) (action right)) :
    Concur left right Eq (action.attempt left) (action.attempt right) := by
  unfold Action.attempt
  generalize action left = one, action right = two at h
  cases h with
  | ok heq => exact .ok (congrArg Except.ok heq)
  | error failure => exact .ok (rfl : Except.error failure = Except.error failure)

theorem answer_eq {action : Action α} (h : Concur left right Eq (action left) (action right)) :
    action.answer left = action.answer right := by
  unfold Action.answer
  generalize action left = one, action right = two at h
  cases h with
  | ok heq => exact congrArg Except.ok heq
  | error failure => rfl

end Concur

end Action

/-! ## What a scope sees -/

/-- Whoever may read what an id names may read the cluster of that id. -/
theorem Grants.mayRead_of_named {grants : Grants} {scope : Scope} {id : String}
    (h : grants.mayRead scope (named? id) = true) : grants.mayRead scope (some id) = true := by
  unfold named? at h
  split at h
  · exact mayRead_of_none h id
  · exact h

namespace Conditions

/-- A call that is out of order for one id and not for all is so by an outage of its own. -/
theorem mem_outages_of_isOut {conditions : Conditions} {call : Call} {id : String}
    (hout : conditions.isOut call id = true) (hall : conditions.isOut call "" = false) :
    ⟨call.name, some id⟩ ∈ conditions.outages := by
  unfold isOut at hout hall
  rw [List.any_eq_true] at hout
  obtain ⟨⟨target, only⟩, hmem, hcovers⟩ := hout
  simp only [Bool.and_eq_true, decide_eq_true_eq] at hcovers
  obtain ⟨rfl, honly⟩ := hcovers
  cases only with
  | none =>
    have hnone := List.any_eq_false.1 hall _ hmem
    simp at hnone
  | some other =>
    simp only [Option.all_some, decide_eq_true_eq] at honly
    exact honly ▸ hmem

end Conditions

namespace State

/-- What questions about a cluster can come upon is the same in both states. -/
structure ShowsSame (id : String) (left right : State) : Prop where
  record : left.clusters.get? id = right.clusters.get? id
  name : left.directory.nameOf? id = right.directory.nameOf? id
  entry : left.index.get? id = right.index.get? id
  snapshot : left.holdings.health.get? id = right.holdings.health.get? id
  rank : left.holdings.rankOf id = right.holdings.rankOf id

/-- The states differ in clusters that the scope may not read, if at all. -/
structure LooksAlike (scope : Scope) (left right : State) : Prop where
  grants : left.grants = right.grants
  conditions : left.conditions = right.conditions
  shown : ∀ id, left.grants.mayRead scope (some id) = true → ShowsSame id left right

/-- The access checker lets the scope read the cluster or cannot tell whether it may. -/
def isUnconcealed (state : State) (scope : Scope) (id : String) : Bool :=
  state.grants.mayRead scope (some id) || state.conditions.isOut .accessRead id

/-- What the index has among certain clusters depends on its entries for them only. -/
theorem filter_found_congr {left right : State} {keep : String → Bool} (query : Query)
    (h : ∀ id, keep id = true → left.index.get? id = right.index.get? id) :
    (left.found query).filter (fun hit => keep hit.id) =
      (right.found query).filter fun hit => keep hit.id := by
  refine Hit.eq_of_mem_iff ((pairwise_found query).filter _) ((pairwise_found query).filter _)
    ((nodup_found query).filter _) ((nodup_found query).filter _) ?_
  intro hit
  rw [List.mem_filter, List.mem_filter, mem_found, mem_found]
  refine and_congr_left fun hkept => ?_
  rw [h hit.id hkept]

end State

theorem Snapshots.findMany_congr {left right : Snapshots} (position : Nat) {ids : List String}
    (h : ∀ id ∈ ids, left.get? id = right.get? id) :
    left.findMany position ids = right.findMany position ids := by
  induction ids generalizing position with
  | nil => rfl
  | cons id rest ih =>
    unfold findMany
    rw [h id List.mem_cons_self, ih _ fun other hother => h other (List.mem_cons_of_mem _ hother)]

/-! ## Calls to collaborators -/

namespace Calls

theorem mayRead_apply (state : State) (scope : Scope) (cluster : Option String) :
    mayRead scope cluster state =
      if state.conditions.isOut .accessRead (cluster.getD "") then
        .error Call.accessRead.failure state
      else .ok (state.grants.mayRead scope cluster) state :=
  expect_bind state _ _ _

end Calls

namespace State.LooksAlike

open Calls Registry

variable {scope : Scope} {left right : State} (h : LooksAlike scope left right)
include h

theorem clusters_eq (hall : left.grants.mayRead scope none = true) :
    left.clusters = right.clusters :=
  Table.ext_get? fun id => (h.shown id (Grants.mayRead_of_none hall id)).record

theorem index_eq (hall : left.grants.mayRead scope none = true) : left.index = right.index :=
  Table.ext_get? fun id => (h.shown id (Grants.mayRead_of_none hall id)).entry

section

variable {α β : Type} {related : α → β → Prop}

theorem expect {next : Unit → Action α} {next' : Unit → Action β} (call : Call) (id : String)
    (hnext : Concur left right related (next () left) (next' () right)) :
    Concur left right related ((Calls.expect call id >>= next) left)
      ((Calls.expect call id >>= next') right) := by
  rw [expect_bind, expect_bind, h.conditions]
  split
  · exact .error _
  · exact hnext

theorem mayRead (cluster : Option String) :
    Concur left right
      (Agree fun allowed => allowed = left.grants.mayRead scope cluster ∧
        left.conditions.isOut .accessRead (cluster.getD "") = false)
      (Calls.mayRead scope cluster left) (Calls.mayRead scope cluster right) := by
  rw [mayRead_apply, mayRead_apply, ← h.conditions, ← h.grants]
  split
  · exact .error _
  · rename_i hout
    exact .ok ⟨⟨rfl, Bool.eq_false_iff.2 hout⟩, rfl⟩

end

/-- Only a scope that may read the cluster gets past this. -/
theorem ensureRead (id : String) :
    Concur left right (fun _ _ => left.grants.mayRead scope (some id) = true)
      (Registry.ensureRead scope id left) (Registry.ensureRead scope id right) := by
  refine (h.mayRead (named? id)).bind ?_
  rintro _ allowed ⟨⟨hallowed, -⟩, rfl⟩
  cases allowed with
  | false => exact .error _
  | true => exact .ok (Grants.mayRead_of_named hallowed.symm)

theorem findCluster {id : String} (hallowed : left.grants.mayRead scope (some id) = true) :
    Concur left right (Agree (· = left.clusters.get? id))
      (Calls.findCluster id left) (Calls.findCluster id right) :=
  h.expect .clusterGet id (.ok ⟨rfl, (h.shown id hallowed).record.symm⟩)

theorem load {id : String} (hallowed : left.grants.mayRead scope (some id) = true) :
    Concur left right (Agree (left.clusters.get? id = some ·))
      (Registry.load id left) (Registry.load id right) := by
  refine (h.findCluster hallowed).bind ?_
  rintro _ found ⟨hfound, rfl⟩
  cases found with
  | none => exact .error _
  | some cluster => exact .ok ⟨hfound.symm, rfl⟩

/-- Health and priority are attached by position, to clusters that the scope may read. -/
theorem decorate {clusters : List Cluster}
    (hallowed : ∀ cluster ∈ clusters, left.grants.mayRead scope (some cluster.id) = true) :
    Concur left right Eq (Registry.decorate clusters left) (Registry.decorate clusters right) := by
  have hids : ∀ id ∈ clusters.map (·.id), ShowsSame id left right := by
    intro id hid
    obtain ⟨cluster, hcluster, rfl⟩ := List.mem_map.1 hid
    exact h.shown _ (hallowed cluster hcluster)
  have hhealth : Concur left right Eq (findHealth (clusters.map (·.id)) left)
      (findHealth (clusters.map (·.id)) right) :=
    h.expect .healthGetMany "" (.ok (Snapshots.findMany_congr 0 fun id hid => (hids id hid).snapshot))
  refine hhealth.attempt.bind ?_
  rintro found _ rfl
  refine .ok (List.map_congr_left fun cluster hcluster => ?_)
  have hid : cluster.id ∈ clusters.map (·.id) := by
    cases found with
    | error failure => exact List.mem_map_of_mem hcluster
    | ok answer =>
      rw [← Cluster.ids_attachHealth answer.1 answer.2 0 clusters]
      exact List.mem_map_of_mem hcluster
  rw [(hids cluster.id hid).rank]

end State.LooksAlike

/-! ## Lists -/

namespace Registry

open Calls

variable {state : State} {scope : Scope}

theorem keepReadable_of_denied {hit : Hit} {rest : List Hit}
    (hconcealed : state.isUnconcealed scope hit.id = false) :
    keepReadable scope (hit :: rest) state = keepReadable scope rest state := by
  obtain ⟨hdenied, hin⟩ := Bool.or_eq_false_iff.1 hconcealed
  have hask := mayRead_apply state scope (some hit.id)
  rw [Option.getD_some, hin, hdenied] at hask
  change (mayRead scope (some hit.id) >>= fun allowed => keepReadable scope rest >>= fun others =>
    pure (if allowed = true then hit :: others else others)) state = _
  rw [bind_of_ok hask, bind_apply]
  cases keepReadable scope rest state <;> rfl

/-- Hits are left out without a trace if the access checker can tell that the scope may not read them. -/
theorem keepReadable_filter (hits : List Hit) :
    keepReadable scope (hits.filter fun hit => state.isUnconcealed scope hit.id) state =
      keepReadable scope hits state := by
  induction hits with
  | nil => rfl
  | cons hit rest ih =>
    cases hopen : state.isUnconcealed scope hit.id with
    | false => simp only [List.filter_cons, hopen, Bool.false_eq_true, if_false, ih,
        keepReadable_of_denied hopen]
    | true =>
      have hask := mayRead_apply state scope (some hit.id)
      simp only [List.filter_cons, hopen, if_true]
      unfold keepReadable
      by_cases hout : state.conditions.isOut .accessRead hit.id = true
      · rw [Option.getD_some, if_pos hout] at hask
        rw [bind_of_error hask, bind_of_error hask]
      · rw [Option.getD_some, if_neg hout] at hask
        rw [bind_of_ok hask, bind_of_ok hask, bind_apply, bind_apply, ih]

end Registry

namespace State.LooksAlike

open Calls Registry

variable {scope : Scope} {left right : State} (h : LooksAlike scope left right)
include h

/-- The same hits are kept in both states, and only such as the scope may read. -/
theorem keepReadable (hits : List Hit) :
    Concur left right
      (Agree fun kept => ∀ hit ∈ kept, left.grants.mayRead scope (some hit.id) = true)
      (Registry.keepReadable scope hits left) (Registry.keepReadable scope hits right) := by
  induction hits with
  | nil => exact .ok ⟨List.forall_mem_nil _, rfl⟩
  | cons hit rest ih =>
    refine (h.mayRead (some hit.id)).bind ?_
    rintro _ allowed ⟨⟨hallowed, -⟩, rfl⟩
    refine ih.bind ?_
    rintro _ others ⟨hothers, rfl⟩
    refine .ok ⟨?_, rfl⟩
    cases allowed with
    | false => exact hothers
    | true => exact List.forall_mem_cons.2 ⟨hallowed.symm, hothers⟩

section

variable (hunchecked : ∀ id, ⟨Call.accessRead.name, some id⟩ ∈ left.conditions.outages →
  left.index.get? id = right.index.get? id)
include hunchecked

/-- Of what the index has, a scope is shown the same in both states. -/
theorem readable (query : Query) :
    Concur left right
      (Agree fun kept => ∀ hit ∈ kept, left.grants.mayRead scope (some hit.id) = true)
      (Registry.readable scope (left.found query) left)
      (Registry.readable scope (right.found query) right) := by
  refine (h.mayRead none).bind ?_
  rintro _ allowed ⟨⟨hallowed, hin⟩, rfl⟩
  cases allowed with
  | true =>
    have hfound : left.found query = right.found query := by
      unfold found
      rw [h.index_eq hallowed.symm]
    exact .ok ⟨fun hit _ => Grants.mayRead_of_none hallowed.symm hit.id, hfound.symm⟩
  | false =>
    -- Neither run sees more of its hits than those that are the same in both.
    have hsame : ∀ id, left.isUnconcealed scope id = true →
        left.index.get? id = right.index.get? id := by
      intro id hopen
      rcases Bool.or_eq_true_iff.1 hopen with hmay | hout
      · exact (h.shown id hmay).entry
      · exact hunchecked id (Conditions.mem_outages_of_isOut hout hin)
    have hopen : right.isUnconcealed = left.isUnconcealed := by
      funext scope id
      unfold isUnconcealed
      rw [h.grants, h.conditions]
    have hkept := h.keepReadable
      ((left.found query).filter fun hit => left.isUnconcealed scope hit.id)
    rw [keepReadable_filter, filter_found_congr query hsame, ← hopen, keepReadable_filter] at hkept
    exact hkept

theorem search (query : Query) :
    Concur left right
      (Agree fun hits => ∀ hit ∈ hits, left.grants.mayRead scope (some hit.id) = true)
      (Registry.search scope query left) (Registry.search scope query right) := by
  have hfound : Concur left right (fun hits others => hits = left.found query ∧
      others = right.found query) (searchIndex query left) (searchIndex query right) :=
    h.expect .indexSearch "" (.ok ⟨rfl, rfl⟩)
  refine hfound.bind ?_
  rintro _ _ ⟨rfl, rfl⟩
  exact h.readable hunchecked query

end

variable (hkeyed : left.Keyed)
include hkeyed

theorem recordsOf {hits : List Hit}
    (hallowed : ∀ hit ∈ hits, left.grants.mayRead scope (some hit.id) = true) :
    Concur left right
      (Agree fun clusters => ∀ cluster ∈ clusters,
        left.grants.mayRead scope (some cluster.id) = true)
      (Registry.recordsOf hits left) (Registry.recordsOf hits right) := by
  induction hits with
  | nil => exact .ok ⟨List.forall_mem_nil _, rfl⟩
  | cons hit rest ih =>
    obtain ⟨hhit, hrest⟩ := List.forall_mem_cons.1 hallowed
    refine (h.findCluster hhit).bind ?_
    rintro _ found ⟨hfound, rfl⟩
    refine (ih hrest).bind ?_
    rintro _ clusters ⟨hclusters, rfl⟩
    refine .ok ⟨?_, rfl⟩
    intro cluster hcluster
    rcases List.mem_append.1 hcluster with hmem | hmem
    · have hstored : left.clusters.get? hit.id = some cluster := by
        rw [← hfound]
        exact Option.mem_toList.1 hmem
      rw [hkeyed _ _ hstored]
      exact hhit
    · exact hclusters cluster hmem

theorem read (id : String) :
    Concur left right Eq (Registry.read scope id left) (Registry.read scope id right) := by
  refine (h.ensureRead id).bind ?_
  intro _ _ hallowed
  refine (h.load hallowed).bind ?_
  rintro _ cluster ⟨hstored, rfl⟩
  have hshown : Concur left right Eq (Registry.decorate [cluster] left)
      (Registry.decorate [cluster] right) := by
    apply h.decorate
    rw [List.forall_mem_singleton, hkeyed id cluster hstored]
    exact hallowed
  refine hshown.bind ?_
  rintro shown _ rfl
  exact .ok rfl

variable (hunchecked : ∀ id, ⟨Call.accessRead.name, some id⟩ ∈ left.conditions.outages →
  left.index.get? id = right.index.get? id)
include hunchecked

theorem searchRecords (query : Query) :
    Concur left right Eq (Registry.searchRecords scope query left)
      (Registry.searchRecords scope query right) := by
  refine (h.search hunchecked query).bind ?_
  rintro _ hits ⟨hhits, rfl⟩
  refine (h.recordsOf hkeyed hhits).bind ?_
  rintro _ clusters ⟨hclusters, rfl⟩
  exact h.decorate fun cluster hcluster => hclusters cluster (Cluster.mem_orderNamesakes.1 hcluster)

theorem readAll :
    Concur left right Eq (Registry.readAll scope left) (Registry.readAll scope right) := by
  refine (h.mayRead none).bind ?_
  rintro _ allowed ⟨⟨hallowed, -⟩, rfl⟩
  cases allowed with
  | false => exact h.searchRecords hkeyed hunchecked {}
  | true =>
    have hall : Concur left right Eq (allClusters left) (allClusters right) := by
      refine h.expect .clusterWalk "" (.ok ?_)
      rw [h.clusters_eq hallowed.symm]
    refine hall.bind ?_
    rintro clusters _ rfl
    exact h.decorate fun cluster _ => Grants.mayRead_of_none hallowed.symm cluster.id

omit hkeyed in
theorem count (query : Query) :
    Concur left right Eq (Registry.count scope query left) (Registry.count scope query right) := by
  have hindexed : Concur left right Eq
      ((do return (← Registry.search scope query).length : Action Nat) left)
      ((do return (← Registry.search scope query).length : Action Nat) right) := by
    refine (h.search hunchecked query).bind ?_
    rintro _ hits ⟨-, rfl⟩
    exact .ok rfl
  unfold Registry.count
  split
  · refine (h.mayRead none).bind ?_
    rintro _ allowed ⟨⟨hallowed, -⟩, rfl⟩
    cases allowed with
    | false => exact hindexed
    | true =>
      refine h.expect .clusterCount "" (.ok ?_)
      rw [h.clusters_eq hallowed.symm]
  · exact hindexed

end State.LooksAlike

namespace Operation

/-- A question that comes upon clusters by way of the index, unless its scope may read all of them. -/
def searches : Operation → Bool
  | readAll | search _ | searchRecords _ | count _ => true
  | _ => false

/-- A question about clusters. -/
def inquires : Operation → Bool
  | read _ | isRegistered _ | nameOf _ => true
  | operation => operation.searches

end Operation

/-- States that differ only in clusters which a scope may not read give it the same answer or the same
failure to every question. Only for a search, and if the access checker is out of order for certain
clusters but not for all, the index has to agree on those as well. -/
theorem questions_give_nothing_away {scope : Scope} {left right : State} (hkeyed : left.Keyed)
    (halike : State.LooksAlike scope left right) {operation : Operation}
    (hinquires : operation.inquires = true)
    (hunchecked : operation.searches = true →
      ∀ id, ⟨Call.accessRead.name, some id⟩ ∈ left.conditions.outages →
        left.index.get? id = right.index.get? id) :
    (operation.run scope).answer left = (operation.run scope).answer right := by
  apply Concur.answer_eq
  cases operation with
  | read id => exact (halike.read hkeyed id).bind fun _ _ heq => .ok (congrArg Answer.record heq)
  | readAll =>
    exact (halike.readAll hkeyed (hunchecked rfl)).bind fun _ _ heq => .ok (congrArg Answer.records heq)
  | isRegistered id =>
    have hregistered : Concur left right Eq (Registry.isRegistered scope id left)
        (Registry.isRegistered scope id right) := by
      refine (halike.ensureRead id).bind fun _ _ hallowed => .ok ?_
      exact congrArg Option.isSome (halike.shown id hallowed).name
    exact hregistered.bind fun _ _ heq => .ok (congrArg Answer.flag heq)
  | nameOf id =>
    have hname : Concur left right Eq (Registry.nameOf scope id left)
        (Registry.nameOf scope id right) :=
      (halike.ensureRead id).bind fun _ _ hallowed => .ok (halike.shown id hallowed).name
    exact hname.bind fun _ _ heq => .ok (congrArg Answer.name heq)
  | search query =>
    exact (halike.search (hunchecked rfl) query).bind fun _ _ heq => .ok (congrArg Answer.hits heq.2.symm)
  | searchRecords query =>
    exact (halike.searchRecords hkeyed (hunchecked rfl) query).bind fun _ _ heq =>
      .ok (congrArg Answer.records heq)
  | count query =>
    exact (halike.count (hunchecked rfl) query).bind fun _ _ heq => .ok (congrArg Answer.number heq)
  | _ => cases hinquires

/-- A subject may read the one cluster that was granted to it. -/
theorem Grants.mayRead_grant_read_iff {name cluster id : String} :
    (grant .empty name (.read cluster)).mayRead (.subject name) (some id) = true ↔ id = cluster := by
  have hheld : (grant .empty name (.read cluster)).get? name = some { readable := [cluster] } :=
    Table.get?_insert_self _ _ _
  simp [mayRead, hheld, Grant.coversRead]

theorem State.LooksAlike.of_granted {name : String} (cluster : String) {left right : State}
    (hgranted : left.grants = .grant .empty name (.read cluster))
    (hgrants : left.grants = right.grants) (hconditions : left.conditions = right.conditions)
    (hshown : ShowsSame cluster left right) : LooksAlike (.subject name) left right := by
  refine ⟨hgrants, hconditions, fun id hmay => ?_⟩
  rw [hgranted, Grants.mayRead_grant_read_iff] at hmay
  exact hmay ▸ hshown

/-- Alice may read the first of two clusters. The access checker cannot tell about the second one. -/
def aliceAdmitted : List Event := [
  .call .system (.create { name := "prod" }),
  .call .system (.create { name := "lab" }),
  .grant "alice" (.read "$1"),
  .setOutage ⟨"access.read", some "$2"⟩ true]

/-- What searches do not look at changes for the second cluster. -/
def changedUnseen : List Event := [
  .setRank "$2" 7,
  .call .system (.updateHealth "$2" { lastContact := some ⟨60, false⟩ }),
  .call .system (.updateCertExpiry "$2" { expiry := some ⟨60, false⟩ })]

/-- Alice searches for the first cluster before and after the second one has changed. -/
theorem questions_give_nothing_away_of_changedUnseen :
    let left := (State.start {} {} ⟨0, false⟩).following aliceAdmitted
    let right := left.following changedUnseen
    let search := (Operation.search { name := some "prod" }).run (.subject "alice")
    (left.Keyed ∧ State.LooksAlike (.subject "alice") left right ∧
      (∀ id, ⟨Call.accessRead.name, some id⟩ ∈ left.conditions.outages →
        left.index.get? id = right.index.get? id)) ∧
    left.clusters.get? "$2" ≠ right.clusters.get? "$2" ∧
    search.answer left = .ok (.hits [⟨"$1", "prod"⟩]) ∧
    search.answer right = .ok (.hits [⟨"$1", "prod"⟩]) := by
  intro left right search
  have hkeyed : left.Keyed := (State.Reachable.sound ⟨_, _, _, _, rfl⟩).keyed
  have halike : State.LooksAlike (.subject "alice") left right := by
    refine .of_granted "$1" ?_ ?_ ?_ ?_
    · decide +kernel
    · decide +kernel
    · decide +kernel
    · constructor <;> decide +kernel
  have hunchecked : ∀ id, ⟨Call.accessRead.name, some id⟩ ∈ left.conditions.outages →
      left.index.get? id = right.index.get? id := by
    intro id hout
    have houtages : left.conditions.outages = [⟨"access.read", some "$2"⟩] := by decide +kernel
    rw [houtages, List.mem_singleton] at hout
    have hid : id = "$2" := Option.some.inj (Outage.mk.inj hout).2
    subst hid
    decide +kernel
  have hfound : (Registry.search (.subject "alice") { name := some "prod" }).answer left =
      .ok [⟨"$1", "prod"⟩] := by decide +kernel
  have hanswer : search.answer left = .ok (.hits [⟨"$1", "prod"⟩]) := by
    have hsearch : search.answer left =
        ((Registry.search (.subject "alice") { name := some "prod" }).answer left).map Answer.hits :=
      answer_map _ _ left
    rw [hsearch, hfound]
    rfl
  refine ⟨⟨hkeyed, halike, hunchecked⟩, ?_, hanswer, ?_⟩
  · decide +kernel
  · rw [← hanswer]
    exact (questions_give_nothing_away hkeyed halike rfl fun _ => hunchecked).symm

/-- As long as the index has the second cluster, a search for its name fails, and that tells Alice that it
is there: once the cluster is removed she finds nothing. -/
theorem search_tells_of_unchecked_cluster :
    let left := (State.start {} {} ⟨0, false⟩).following aliceAdmitted
    let right := left.next (.call .system (.remove "$2" none))
    let search := (Operation.search { name := some "lab" }).run (.subject "alice")
    State.LooksAlike (.subject "alice") left right ∧
    search.answer left = .error Call.accessRead.failure ∧ search.answer right = .ok (.hits []) := by
  intro left right search
  have hsearch : ∀ state, search.answer state =
      ((Registry.search (.subject "alice") { name := some "lab" }).answer state).map Answer.hits :=
    fun state => answer_map _ _ state
  have hfailed : (Registry.search (.subject "alice") { name := some "lab" }).answer left =
      .error Call.accessRead.failure := by decide +kernel
  have hnothing : (Registry.search (.subject "alice") { name := some "lab" }).answer right =
      .ok [] := by decide +kernel
  refine ⟨?_, ?_, ?_⟩
  · refine .of_granted "$1" ?_ ?_ ?_ ?_
    · decide +kernel
    · decide +kernel
    · decide +kernel
    · constructor <;> decide +kernel
  · rw [hsearch, hfailed]
    rfl
  · rw [hsearch, hnothing]
    rfl

end Fleet
