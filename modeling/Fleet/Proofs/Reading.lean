import Fleet.Proofs.Alignment
import Fleet.Proofs.Mirror
import Mathlib.Data.List.SplitBy

/-!
# What reads find

Lists of clusters come from the index or from the store, and are counted in a third way. As long as the
index has kept up and nothing is out of order while they are read, all of them are one list: the stored
clusters that match and that the scope may read, ordered by name and then by id.
-/

namespace Fleet

open Fleet.Action

/-! ## The order of lists -/

namespace Hit

variable {a b c : Hit}

theorem before_iff : a.before b = true ↔ a.name < b.name ∨ a.name = b.name ∧ a.id ≤ b.id := by
  simp [before]

theorem before_trans (h : a.before b = true) (h' : b.before c = true) : a.before c = true := by
  rw [before_iff] at h h' ⊢
  rcases h with hlt | ⟨heq, hle⟩
  · rcases h' with hlt' | ⟨heq', -⟩
    · exact .inl (String.lt_trans hlt hlt')
    · exact .inl (heq' ▸ hlt)
  · rcases h' with hlt' | ⟨heq', hle'⟩
    · exact .inl (heq ▸ hlt')
    · exact .inr ⟨heq.trans heq', String.le_trans hle hle'⟩

theorem before_total (a b : Hit) : (a.before b || b.before a) = true := by
  rw [Bool.or_eq_true, before_iff, before_iff]
  by_cases hlt : a.name < b.name
  · exact .inl (.inl hlt)
  · by_cases hgt : b.name < a.name
    · exact .inr (.inl hgt)
    · have hname := String.le_antisymm (String.not_lt.1 hgt) (String.not_lt.1 hlt)
      rcases String.le_total a.id b.id with hle | hle
      · exact .inl (.inr ⟨hname, hle⟩)
      · exact .inr (.inr ⟨hname.symm, hle⟩)

theorem before_antisymm (h : a.before b = true) (h' : b.before a = true) : a = b := by
  rw [before_iff] at h h'
  rcases h with hlt | ⟨heq, hle⟩
  · rcases h' with hlt' | ⟨heq', -⟩
    · exact absurd hlt' (String.lt_asymm hlt)
    · exact absurd (heq' ▸ hlt) (String.lt_irrefl _)
  · rcases h' with hlt' | ⟨-, hle'⟩
    · exact absurd (heq ▸ hlt') (String.lt_irrefl _)
    · cases a
      cases b
      exact congrArg₂ Hit.mk (String.le_antisymm hle hle') heq

/-- Hits in order, each of them once, are determined by which hits they are. -/
theorem eq_of_mem_iff {hits others : List Hit}
    (hordered : hits.Pairwise fun a b => a.before b = true)
    (hordered' : others.Pairwise fun a b => a.before b = true) (hnodup : hits.Nodup)
    (hnodup' : others.Nodup) (h : ∀ hit, hit ∈ hits ↔ hit ∈ others) : hits = others := by
  have hperm : hits.Perm others := (List.perm_ext_iff_of_nodup hnodup hnodup').2 h
  exact hperm.eq_of_pairwise (fun _ _ _ _ => before_antisymm) hordered hordered'

/-- Hits in order are strictly in order if no id occurs twice. -/
theorem lt_of_before (h : a.before b = true) (hne : a.id ≠ b.id) :
    a.name < b.name ∨ a.name = b.name ∧ a.id < b.id := by
  rcases before_iff.1 h with hlt | ⟨heq, hle⟩
  · exact .inl hlt
  · refine .inr ⟨heq, ?_⟩
    by_cases hlt : a.id < b.id
    · exact hlt
    · exact absurd (String.le_antisymm hle (String.not_lt.1 hlt)) hne

end Hit

namespace Cluster

/-- Records are ordered as their hits are. -/
theorem before_eq (a b : Cluster) : a.before b = (Hit.ofCluster a).before (Hit.ofCluster b) := rfl

theorem pairwise_sorted (clusters : List Cluster) :
    (clusters.mergeSort before).Pairwise (fun a b => a.before b = true) := by
  apply List.pairwise_mergeSort
  · intro a b c hab hbc
    rw [before_eq] at hab hbc ⊢
    exact Hit.before_trans hab hbc
  · intro a b
    rw [before_eq, before_eq]
    exact Hit.before_total _ _

/-- Records in order stay as they are. -/
theorem orderNamesakes_of_pairwise {clusters : List Cluster}
    (h : clusters.Pairwise fun a b => a.before b = true) : orderNamesakes clusters = clusters := by
  unfold orderNamesakes
  generalize hsplit : (clusters.splitBy fun a b => decide (a.name = b.name)) = groups
  have hflat : groups.flatten = clusters := by rw [← hsplit, List.flatten_splitBy]
  have hsorted : ∀ namesakes ∈ groups, namesakes.mergeSort before = namesakes := by
    intro namesakes hmem
    apply List.mergeSort_of_pairwise
    apply List.Pairwise.sublist _ h
    rw [← hflat]
    exact List.sublist_flatten_of_mem hmem
  rw [List.flatMap_def, List.map_congr_left hsorted, List.map_id', hflat]

end Cluster

/-! ## Reads while nothing is out of order -/

namespace State

/-- The state with everything in order. -/
def calmed (state : State) : State :=
  { state with conditions := {} }

/-- A stored record with what is looked up on reading. -/
def decorated (state : State) (cluster : Cluster) : Cluster :=
  { cluster with
    health := state.holdings.health.get? cluster.id
    priority := state.holdings.rankOf cluster.id }

/-- The stored clusters that are to be kept and that the scope may read. -/
def matching (state : State) (scope : Scope) (keep : Cluster → Bool) : List Cluster :=
  state.clusters.values.filter fun cluster =>
    keep cluster && state.grants.mayRead scope (some cluster.id)

/-- The same clusters by name and then by id. -/
def listing (state : State) (scope : Scope) (keep : Cluster → Bool) : List Cluster :=
  (state.matching scope keep).mergeSort Cluster.before

/-- What the index has for a query. -/
def found (state : State) (query : Query) : List Hit :=
  ((state.index.filter fun _ indexed => query.accepts indexed).entries.map fun entry =>
    Hit.mk entry.1 entry.2.name).mergeSort Hit.before

end State

/-- Whoever may read all clusters may read each one. -/
theorem Grants.mayRead_of_none {grants : Grants} {scope : Scope}
    (h : grants.mayRead scope none = true) (id : String) : grants.mayRead scope (some id) = true := by
  cases scope with
  | system => rfl
  | subject name =>
    simp only [Grants.mayRead, Option.any_eq_true] at h ⊢
    obtain ⟨grant, hgrant, hcovers⟩ := h
    refine ⟨grant, hgrant, ?_⟩
    simp only [Grant.coversRead, Option.any_none, Bool.or_false] at hcovers ⊢
    rw [hcovers, Bool.true_or]

namespace Registry

open Calls

variable {state : State} (hcalm : state.conditions = {})
include hcalm

theorem searchIndex_of_calm (query : Query) :
    searchIndex query state = .ok (state.found query) state := by
  unfold searchIndex
  rw [bind_of_ok ((expect_serves state .indexSearch "").calm hcalm)]
  rfl

theorem keepReadable_of_calm (scope : Scope) (hits : List Hit) :
    keepReadable scope hits state =
      .ok (hits.filter fun hit => state.grants.mayRead scope (some hit.id)) state := by
  induction hits with
  | nil => rfl
  | cons hit rest ih =>
    unfold keepReadable
    rw [bind_of_ok ((mayRead_serves state scope (some hit.id)).calm hcalm), bind_of_ok ih]
    cases hallowed : state.grants.mayRead scope (some hit.id) with
    | false => simp [hallowed]; rfl
    | true => simp [hallowed]; rfl

theorem readable_of_calm (scope : Scope) (hits : List Hit) :
    readable scope hits state =
      .ok (hits.filter fun hit => state.grants.mayRead scope (some hit.id)) state := by
  unfold readable
  rw [bind_of_ok ((mayRead_serves state scope none).calm hcalm)]
  cases hall : state.grants.mayRead scope none with
  | false =>
    exact keepReadable_of_calm hcalm scope hits
  | true =>
    have hkept : hits.filter (fun hit => state.grants.mayRead scope (some hit.id)) = hits :=
      List.filter_eq_self.2 fun hit _ => Grants.mayRead_of_none hall hit.id
    rw [hkept]
    rfl

theorem search_of_calm (scope : Scope) (query : Query) :
    search scope query state =
      .ok ((state.found query).filter fun hit => state.grants.mayRead scope (some hit.id)) state := by
  unfold search
  rw [bind_of_ok (searchIndex_of_calm hcalm query)]
  exact readable_of_calm hcalm scope _

theorem recordsOf_of_calm (hits : List Hit) :
    recordsOf hits state = .ok (hits.filterMap fun hit => state.clusters.get? hit.id) state := by
  induction hits with
  | nil => rfl
  | cons hit rest ih =>
    unfold recordsOf
    rw [bind_of_ok ((findCluster_serves state hit.id).calm hcalm), bind_of_ok ih]
    cases hstored : state.clusters.get? hit.id with
    | none => simp [hstored]; rfl
    | some cluster => simp [hstored]; rfl

theorem decorate_of_calm (clusters : List Cluster) :
    decorate clusters state = .ok (clusters.map state.decorated) state := by
  unfold decorate
  rw [bind_of_ok (attempt_of_ok ((findHealth_serves state _).calm hcalm)),
    bind_of_ok (get_apply state)]
  simp only [Snapshots.populate_findMany, List.map_map]
  rfl

theorem searchRecords_of_calm {scope : Scope} {query : Query} {hits : List Hit}
    (hsearch : search scope query state = .ok hits state) :
    searchRecords scope query state =
      .ok ((Cluster.orderNamesakes (hits.filterMap fun hit => state.clusters.get? hit.id)).map
        state.decorated) state := by
  unfold searchRecords
  rw [bind_of_ok hsearch, bind_of_ok (recordsOf_of_calm hcalm hits)]
  exact decorate_of_calm hcalm _

/-- Clusters are counted in the store if all of them are asked for and may be read, else by a search. -/
theorem count_of_calm {scope : Scope} {query : Query} {hits : List Hit}
    (hsearch : search scope query state = .ok hits state) :
    count scope query state =
      .ok (if query.isUnrestricted && state.grants.mayRead scope none then state.clusters.size
        else hits.length) state := by
  have hsearched : (do return (← search scope query).length : Action Nat) state =
      .ok hits.length state := by
    rw [bind_of_ok hsearch]
    rfl
  unfold count
  cases hquery : query.isUnrestricted with
  | false => exact hsearched
  | true =>
    rw [if_pos rfl, bind_of_ok ((mayRead_serves state scope none).calm hcalm), Bool.true_and]
    cases state.grants.mayRead scope none with
    | false => exact hsearched
    | true => exact (countClusters_serves state).calm hcalm

end Registry

/-! ## One list -/

theorem Query.accepts_congr {query : Query} (hsensor : query.sensor = none) {a b : Cluster}
    (hface : a.face = b.face) : query.accepts a = query.accepts b := by
  obtain ⟨hid, hname, hlabels⟩ : a.id = b.id ∧ a.name = b.name ∧ a.labels = b.labels := by
    simpa [Cluster.face] using hface
  unfold Query.accepts
  rw [hsensor, hid, hname, hlabels]
  rfl

theorem Query.accepts_of_isUnrestricted {query : Query} (h : query.isUnrestricted = true)
    (cluster : Cluster) : query.accepts cluster = true := by
  simp only [isUnrestricted, Bool.and_eq_true, Option.isNone_iff_eq_none] at h
  obtain ⟨⟨⟨hids, hname⟩, hlabels⟩, hsensor⟩ := h
  have hentries : query.labels.entries = [] := List.isEmpty_iff.1 hlabels
  simp [accepts, hids, hname, hentries, hsensor]

namespace State

variable {state : State}

theorem mem_listing (hkeyed : state.Keyed) {scope : Scope} {keep : Cluster → Bool}
    {cluster : Cluster} :
    cluster ∈ state.listing scope keep ↔
      state.clusters.get? cluster.id = some cluster ∧ keep cluster = true ∧
        state.grants.mayRead scope (some cluster.id) = true := by
  rw [listing, List.mem_mergeSort, matching, List.mem_filter, mem_values hkeyed, Bool.and_eq_true]

theorem length_listing (scope : Scope) (keep : Cluster → Bool) :
    (state.listing scope keep).length = (state.matching scope keep).length :=
  List.length_mergeSort _

/-- Ordering the hits comes to the same as ordering the records. -/
theorem map_ofCluster_listing (scope : Scope) (keep : Cluster → Bool) :
    (state.listing scope keep).map Hit.ofCluster =
      ((state.matching scope keep).map Hit.ofCluster).mergeSort Hit.before :=
  List.map_mergeSort fun _ _ _ _ => rfl

theorem pairwise_id_ne_values (hkeyed : state.Keyed) :
    state.clusters.values.Pairwise fun a b => a.id ≠ b.id := by
  unfold Table.values
  rw [List.pairwise_map]
  refine state.clusters.ascending.imp_of_mem ?_
  intro first second hfirst hsecond hlt heq
  have hfirst := hkeyed _ _ ((Table.get?_eq_some_iff _ _ _).2 hfirst)
  have hsecond := hkeyed _ _ ((Table.get?_eq_some_iff _ _ _).2 hsecond)
  rw [← hfirst, heq, hsecond] at hlt
  exact String.lt_irrefl _ hlt

theorem pairwise_listing (scope : Scope) (keep : Cluster → Bool) :
    (state.listing scope keep).Pairwise fun a b => a.before b = true :=
  Cluster.pairwise_sorted _

/-- A list of clusters is strictly ordered, so that no cluster is in it twice. -/
theorem pairwise_lt_listing (hkeyed : state.Keyed) (scope : Scope) (keep : Cluster → Bool) :
    (state.listing scope keep).Pairwise fun a b =>
      a.name < b.name ∨ a.name = b.name ∧ a.id < b.id := by
  have hids : (state.listing scope keep).Pairwise fun a b => a.id ≠ b.id := by
    refine ((List.mergeSort_perm _ _).pairwise_iff fun hne => hne.symm).2 ?_
    exact (pairwise_id_ne_values hkeyed).filter _
  refine ((pairwise_listing scope keep).and hids).imp ?_
  rintro a b ⟨hbefore, hne⟩
  rw [Cluster.before_eq] at hbefore
  exact Hit.lt_of_before hbefore hne

/-- Whoever may read all clusters is listed all of them if nothing in particular is searched for. -/
theorem matching_of_mayRead {scope : Scope} (hall : state.grants.mayRead scope none = true)
    {keep : Cluster → Bool} (hkeep : ∀ cluster, keep cluster = true) :
    state.matching scope keep = state.clusters.values := by
  apply List.filter_eq_self.2
  intro cluster _
  rw [hkeep, Grants.mayRead_of_none hall, Bool.and_true]

theorem listing_congr {scope other : Scope} (keep : Cluster → Bool)
    (h : ∀ cluster ∈ state.clusters.values, state.grants.mayRead scope (some cluster.id) =
      state.grants.mayRead other (some cluster.id)) :
    state.listing scope keep = state.listing other keep := by
  unfold listing matching
  rw [List.filter_congr fun cluster hmem => by rw [h cluster hmem]]

theorem mem_found {query : Query} {hit : Hit} :
    hit ∈ state.found query ↔
      ∃ entry, state.index.get? hit.id = some entry ∧ query.accepts entry = true ∧
        entry.name = hit.name := by
  unfold found Table.filter
  simp only [List.mem_mergeSort, List.mem_map, List.mem_filter]
  constructor
  · rintro ⟨⟨id, entry⟩, ⟨hentry, haccepts⟩, rfl⟩
    exact ⟨entry, (Table.get?_eq_some_iff _ _ _).2 hentry, haccepts, rfl⟩
  · rintro ⟨entry, hindexed, haccepts, hname⟩
    refine ⟨(hit.id, entry), ⟨(Table.get?_eq_some_iff _ _ _).1 hindexed, haccepts⟩, ?_⟩
    rw [hname]

/-- A search has a cluster if the index has an accepted entry for it and the scope may read it. -/
theorem exists_hit_iff (scope : Scope) (query : Query) (id : String) :
    (∃ hit ∈ (state.found query).filter fun hit => state.grants.mayRead scope (some hit.id), hit.id = id) ↔
      ∃ entry, state.index.get? id = some entry ∧ query.accepts entry = true ∧
        state.grants.mayRead scope (some id) = true := by
  constructor
  · rintro ⟨hit, hmem, rfl⟩
    obtain ⟨hfound, hallowed⟩ := List.mem_filter.1 hmem
    obtain ⟨entry, hindexed, haccepts, -⟩ := mem_found.1 hfound
    exact ⟨entry, hindexed, haccepts, hallowed⟩
  · rintro ⟨entry, hindexed, haccepts, hallowed⟩
    refine ⟨⟨id, entry.name⟩, List.mem_filter.2 ⟨?_, hallowed⟩, rfl⟩
    exact mem_found.2 ⟨entry, hindexed, haccepts, rfl⟩

theorem pairwise_found (query : Query) :
    (state.found query).Pairwise fun a b => a.before b = true := by
  unfold found
  apply List.pairwise_mergeSort
  · exact fun a b c => Hit.before_trans
  · exact Hit.before_total

theorem nodup_found (query : Query) : (state.found query).Nodup := by
  unfold found
  rw [(List.mergeSort_perm _ _).nodup_iff]
  unfold List.Nodup
  rw [List.pairwise_map]
  refine (state.index.filter _).ascending.imp ?_
  intro first second hlt heq
  have hid : first.1 = second.1 := congrArg Hit.id heq
  rw [hid] at hlt
  exact String.lt_irrefl _ hlt

theorem nodup_map_ofCluster_listing (hkeyed : state.Keyed) (scope : Scope) (keep : Cluster → Bool) :
    ((state.listing scope keep).map Hit.ofCluster).Nodup := by
  unfold List.Nodup
  rw [List.pairwise_map]
  refine (pairwise_lt_listing hkeyed scope keep).imp ?_
  intro a b hlt heq
  have hid : a.id = b.id := congrArg Hit.id heq
  have hname : a.name = b.name := congrArg Hit.name heq
  rw [hid, hname] at hlt
  rcases hlt with hlt | ⟨-, hlt⟩ <;> exact String.lt_irrefl _ hlt

/-- A hit stands for a listed cluster if the entries are accepted whose clusters are to be kept. -/
theorem mem_found_iff_listed (hkeyed : state.Keyed) (hmirrors : Mirrors state.index state.clusters)
    {scope : Scope} {query : Query} {keep : Cluster → Bool}
    (hkeep : ∀ id cluster entry, state.clusters.get? id = some cluster →
      state.index.get? id = some entry → query.accepts entry = keep cluster) (hit : Hit) :
    hit ∈ state.found query ∧ state.grants.mayRead scope (some hit.id) = true ↔
      hit ∈ (state.listing scope keep).map Hit.ofCluster := by
  rw [mem_found, List.mem_map]
  constructor
  · rintro ⟨⟨entry, hindexed, haccepts, hname⟩, hallowed⟩
    obtain ⟨cluster, hstored, hface⟩ := hmirrors.stored_of_indexed hindexed
    have hid := hkeyed _ _ hstored
    have hhit : Hit.ofCluster cluster = hit := by
      rw [Hit.ofCluster, hid, show cluster.name = entry.name from congrArg (·.2.1) hface, hname]
    refine ⟨cluster, (mem_listing hkeyed).2 ⟨?_, ?_, ?_⟩, hhit⟩
    · rw [hid]
      exact hstored
    · rw [← hkeep _ _ _ hstored hindexed]
      exact haccepts
    · rw [hid]
      exact hallowed
  · rintro ⟨cluster, hlisted, rfl⟩
    obtain ⟨hstored, hkept, hallowed⟩ := (mem_listing hkeyed).1 hlisted
    obtain ⟨entry, hindexed, hface⟩ := hmirrors.indexed_of_stored hstored
    refine ⟨⟨entry, hindexed, ?_, congrArg (·.2.1) hface⟩, hallowed⟩
    rw [hkeep _ _ _ hstored hindexed]
    exact hkept

/-- What the index has, as far as the scope may read it, is the list of the stored clusters in order. -/
theorem found_eq_listing (hkeyed : state.Keyed) (hmirrors : Mirrors state.index state.clusters)
    (scope : Scope) {query : Query} {keep : Cluster → Bool}
    (hkeep : ∀ id cluster entry, state.clusters.get? id = some cluster →
      state.index.get? id = some entry → query.accepts entry = keep cluster) :
    (state.found query).filter (fun hit => state.grants.mayRead scope (some hit.id)) =
      (state.listing scope keep).map Hit.ofCluster := by
  have hsorted : ((state.listing scope keep).map Hit.ofCluster).Pairwise
      fun a b => a.before b = true := by
    rw [List.pairwise_map]
    exact pairwise_listing scope keep
  refine Hit.eq_of_mem_iff ((pairwise_found query).filter _) hsorted ((nodup_found query).filter _)
    (nodup_map_ofCluster_listing hkeyed scope keep) ?_
  intro hit
  rw [List.mem_filter]
  exact mem_found_iff_listed hkeyed hmirrors hkeep hit

/-- The hits of listed clusters lead back to them. -/
theorem filterMap_listing (hkeyed : state.Keyed) (scope : Scope) (keep : Cluster → Bool) :
    ((state.listing scope keep).map Hit.ofCluster).filterMap
      (fun hit => state.clusters.get? hit.id) = state.listing scope keep := by
  have hback : ∀ cluster ∈ state.listing scope keep,
      ((fun hit => state.clusters.get? hit.id) ∘ Hit.ofCluster) cluster = some cluster :=
    fun cluster hlisted => ((mem_listing hkeyed).1 hlisted).1
  rw [List.filterMap_map, List.filterMap_congr hback, List.filterMap_some]

end State

namespace Registry

variable {state : State}

/-- Searches answer from the store as long as the index mirrors it. -/
theorem search_of_mirrors (hcalm : state.conditions = {}) (hkeyed : state.Keyed)
    (hmirrors : Mirrors state.index state.clusters) (scope : Scope) {query : Query}
    (keep : Cluster → Bool) (hkeep : ∀ entry cluster : Cluster, entry.face = cluster.face →
      query.accepts entry = keep cluster) :
    search scope query state = .ok ((state.listing scope keep).map Hit.ofCluster) state := by
  rw [search_of_calm hcalm, State.found_eq_listing hkeyed hmirrors scope]
  intro id cluster entry hstored hindexed
  have hface := hmirrors id
  rw [hstored, hindexed, Option.map_some, Option.map_some, Option.some.injEq] at hface
  exact hkeep entry cluster hface

theorem searchRecords_of_search (hcalm : state.conditions = {}) (hkeyed : state.Keyed) {scope : Scope}
    {query : Query} {keep : Cluster → Bool}
    (hsearch : search scope query state = .ok ((state.listing scope keep).map Hit.ofCluster) state) :
    searchRecords scope query state =
      .ok ((state.listing scope keep).map state.decorated) state := by
  rw [searchRecords_of_calm hcalm hsearch, State.filterMap_listing hkeyed,
    Cluster.orderNamesakes_of_pairwise (State.pairwise_listing scope keep)]

theorem count_of_search (hcalm : state.conditions = {}) {scope : Scope} {query : Query}
    (hsearch : search scope query state =
      .ok ((state.listing scope query.accepts).map Hit.ofCluster) state) :
    count scope query state = .ok (state.listing scope query.accepts).length state := by
  rw [count_of_calm hcalm hsearch, List.length_map]
  split
  · rename_i hshort
    obtain ⟨hquery, hall⟩ := Bool.and_eq_true_iff.1 hshort
    rw [State.length_listing, State.matching_of_mayRead hall (Query.accepts_of_isUnrestricted hquery),
      Table.values, List.length_map, Table.size]
  · rfl

theorem readAll_of_search (hcalm : state.conditions = {}) (hkeyed : state.Keyed) {scope : Scope}
    (hsearch : search scope {} state =
      .ok ((state.listing scope fun _ => true).map Hit.ofCluster) state) :
    readAll scope state = .ok ((state.listing scope fun _ => true).map state.decorated) state := by
  unfold readAll
  rw [bind_of_ok ((Calls.mayRead_serves state scope none).calm hcalm)]
  cases hall : state.grants.mayRead scope none with
  | false => exact searchRecords_of_search hcalm hkeyed hsearch
  | true =>
    rw [State.listing, State.matching_of_mayRead hall fun _ => rfl]
    change (Calls.allClusters >>= decorate) state = _
    rw [bind_of_ok ((Calls.allClusters_serves state).calm hcalm)]
    exact decorate_of_calm hcalm _

end Registry

/-- In a state that a run leads to in which the index has not failed, whatever else has, every read tells
of the same clusters as soon as nothing is out of order. What is searched for, as hits or as records, is
what is stored, matches and may be read, each cluster once and by name and then id; as many are counted,
also by the store itself; and the list of all clusters, which is a walk of the store for those who may
read all clusters and a search for everyone else, is the same for a subject that may read each of them. -/
theorem reads_agree_on_clusters (runtime : Runtime) (settings : Settings) (now : Instant)
    (events : List Event) (hindex : (State.start runtime settings now).indexKeepsUp events = true)
    (scope : Scope) (query : Query) (hsensor : query.sensor = none) :
    let state := ((State.start runtime settings now).following events).calmed
    let matching := state.listing scope query.accepts
    let readable := state.listing scope fun _ => true
    (∀ cluster, cluster ∈ matching ↔ (∃ id, state.clusters.get? id = some cluster) ∧
      query.accepts cluster = true ∧ state.grants.mayRead scope (some cluster.id) = true) ∧
    (matching.Pairwise fun a b => a.name < b.name ∨ a.name = b.name ∧ a.id < b.id) ∧
    Registry.search scope query state = .ok (matching.map Hit.ofCluster) state ∧
    Registry.searchRecords scope query state = .ok (matching.map state.decorated) state ∧
    Registry.count scope query state = .ok matching.length state ∧
    (∀ cluster, cluster ∈ readable ↔ (∃ id, state.clusters.get? id = some cluster) ∧
      state.grants.mayRead scope (some cluster.id) = true) ∧
    (readable.Pairwise fun a b => a.name < b.name ∨ a.name = b.name ∧ a.id < b.id) ∧
    Registry.readAll scope state = .ok (readable.map state.decorated) state ∧
    (∀ everything granted, state.grants.mayRead everything none = true →
      (∀ id cluster, state.clusters.get? id = some cluster →
        state.grants.mayRead granted (some id) = true) →
      Registry.readAll granted state = Registry.readAll everything state) := by
  intro state matching readable
  have hkeyed : state.Keyed := ((State.sound_start runtime settings now).following events).keyed
  have hmirrors : Mirrors state.index state.clusters :=
    State.mirrors_following (State.mirrors_start runtime settings now)
      (State.sound_start runtime settings now) events hindex
  have hsearch := @Registry.search_of_mirrors state rfl hkeyed hmirrors
  have hindexed := hsearch scope query.accepts fun _ _ => Query.accepts_congr hsensor
  have hreadAll : ∀ scope, Registry.readAll scope state =
      .ok ((state.listing scope fun _ => true).map state.decorated) state := by
    intro scope
    apply Registry.readAll_of_search rfl hkeyed
    exact hsearch scope _ fun entry _ _ => Query.accepts_of_isUnrestricted rfl entry
  refine ⟨?_, State.pairwise_lt_listing hkeyed scope query.accepts, hindexed,
    Registry.searchRecords_of_search rfl hkeyed hindexed, Registry.count_of_search rfl hindexed,
    ?_, State.pairwise_lt_listing hkeyed scope _, hreadAll scope, ?_⟩
  · intro cluster
    rw [State.mem_listing hkeyed, State.stored_iff hkeyed]
  · intro cluster
    rw [State.mem_listing hkeyed, State.stored_iff hkeyed, eq_self, true_and]
  · intro everything granted hall heach
    have hsame : state.listing granted (fun _ => true) = state.listing everything fun _ => true := by
      apply State.listing_congr
      intro cluster hmem
      rw [Grants.mayRead_of_none hall]
      exact heach cluster.id cluster ((State.mem_values hkeyed).1 hmem)
    rw [hreadAll granted, hreadAll everything, hsame]

/-- A cluster is enrolled, another one without the flows it needs, which fails, and the first one is
reported unhealthy while its record cannot be found. An auditor may read the first one only. -/
def troubledEnrolment : List Event := [
  .call .system (.create { name := "prod", labels := .ofList [("tier", "gold")] }),
  .setOffline .flows true,
  .call .system (.create { name := "lab", labels := .ofList [("tier", "gold")] }),
  .setOutage ⟨"clusters.get", none⟩ true,
  .call .system (.updateHealth "$1" { sensor := some .unhealthy }),
  .grant "auditor" (.read "$1")]

/-- The failures leave both clusters to be found, and the auditor finds the one it may read. -/
theorem reads_agree_on_clusters_of_troubledEnrolment :
    let state := ((State.start {} {} ⟨0, false⟩).following troubledEnrolment).calmed
    let query : Query := { labels := .ofList [("tier", "gold")] }
    ((State.start {} {} ⟨0, false⟩).indexKeepsUp troubledEnrolment = true ∧ query.sensor = none) ∧
    Registry.search .system query state = .ok [⟨"$2", "lab"⟩, ⟨"$1", "prod"⟩] state ∧
    Registry.count .system {} state = .ok 2 state ∧
    Registry.search (.subject "auditor") query state = .ok [⟨"$1", "prod"⟩] state := by
  intro state query
  have hindex : (State.start {} {} ⟨0, false⟩).indexKeepsUp troubledEnrolment = true := by
    decide +kernel
  refine ⟨⟨hindex, rfl⟩, ?_, ?_, ?_⟩
  · have hmatching : (state.matching .system query.accepts).map Hit.ofCluster =
        [⟨"$1", "prod"⟩, ⟨"$2", "lab"⟩] := by decide +kernel
    have hlisting : (state.listing .system query.accepts).map Hit.ofCluster =
        [⟨"$2", "lab"⟩, ⟨"$1", "prod"⟩] := by
      have hbefore : Hit.before ⟨"$1", "prod"⟩ ⟨"$2", "lab"⟩ = false := by decide
      rw [State.map_ofCluster_listing, hmatching]
      simp [List.mergeSort, List.MergeSort.Internal.splitInTwo, hbefore]
    rw [← hlisting]
    exact (reads_agree_on_clusters {} {} ⟨0, false⟩ troubledEnrolment hindex .system query rfl).2.2.1
  · have hlength : (state.listing .system (Query.accepts {})).length = 2 := by
      rw [State.length_listing]
      decide +kernel
    rw [← hlength]
    exact (reads_agree_on_clusters {} {} ⟨0, false⟩ troubledEnrolment hindex .system {} rfl).2.2.2.2.1
  · have hlisting : (state.listing (.subject "auditor") query.accepts).map Hit.ofCluster =
        [⟨"$1", "prod"⟩] := by decide +kernel
    rw [← hlisting]
    exact (reads_agree_on_clusters {} {} ⟨0, false⟩ troubledEnrolment hindex (.subject "auditor") query
      rfl).2.2.1

end Fleet
