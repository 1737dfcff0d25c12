import Fleet.Proofs.Absence
import Fleet.Proofs.Levels
import Fleet.Surroundings

/-!
# Starting from what is stored

A registry that starts knows nothing of the records in its store until it loads them. Then the directory
has the names of all of them and the index has each with its own snapshot, whatever snapshots there are of
clusters that are not stored.
-/

namespace Fleet

open Fleet.Action

namespace Directory

/-- Entering a pair adds it to a directory in which nothing speaks against it. -/
theorem nameOf?_insert_of_agreeing {directory : Directory} {id name : String}
    (h : ∀ other held, directory.nameOf? other = some held → (other = id ↔ held = name))
    (other held : String) :
    (directory.insert id name).nameOf? other = some held ↔
      (other = id ∧ held = name) ∨ directory.nameOf? other = some held := by
  rw [nameOf?_insert]
  by_cases hid : other = id
  · rw [if_pos hid]
    constructor
    · intro hheld
      exact .inl ⟨hid, (Option.some.inj hheld).symm⟩
    · rintro (⟨-, rfl⟩ | hold)
      · rfl
      · rw [(h other held hold).1 hid]
  · rw [if_neg hid, Option.filter_eq_some_iff]
    constructor
    · exact fun hold => .inr hold.1
    · rintro (⟨heq, -⟩ | hold)
      · exact absurd heq hid
      · refine ⟨hold, ?_⟩
        have hname : held ≠ name := fun heq => hid ((h other held hold).2 heq)
        simpa using hname

/-- Entering the names of records adds them all, if no two of the pairs that meet share an id or a name
without being one pair. -/
theorem nameOf?_foldl_insert {clusters : List Cluster} {directory : Directory}
    (hagree : ∀ a ∈ clusters, ∀ b ∈ clusters, a.id = b.id ↔ a.name = b.name)
    (hentered : ∀ id name, directory.nameOf? id = some name →
      ∀ cluster ∈ clusters, id = cluster.id ↔ name = cluster.name) (id name : String) :
    (clusters.foldl (fun names cluster => names.insert cluster.id cluster.name) directory).nameOf? id =
        some name ↔
      (∃ cluster ∈ clusters, cluster.id = id ∧ cluster.name = name) ∨
        directory.nameOf? id = some name := by
  induction clusters generalizing directory with
  | nil => simp
  | cons first rest ih =>
    have hfirst := nameOf?_insert_of_agreeing fun other held hheld =>
      hentered other held hheld first List.mem_cons_self
    rw [List.foldl_cons, ih, hfirst]
    · simp only [List.mem_cons, exists_eq_or_imp]
      constructor
      · rintro (hrest | ⟨rfl, rfl⟩ | hold)
        · exact .inl (.inr hrest)
        · exact .inl (.inl ⟨rfl, rfl⟩)
        · exact .inr hold
      · rintro ((⟨rfl, rfl⟩ | hrest) | hold)
        · exact .inr (.inl ⟨rfl, rfl⟩)
        · exact .inl hrest
        · exact .inr (.inr hold)
    · intro a ha b hb
      exact hagree a (List.mem_cons_of_mem _ ha) b (List.mem_cons_of_mem _ hb)
    · intro other held hheld cluster hcluster
      have hcluster := List.mem_cons_of_mem first hcluster
      rcases (hfirst other held).1 hheld with ⟨rfl, rfl⟩ | hold
      · exact hagree first List.mem_cons_self cluster hcluster
      · exact hentered other held hold cluster hcluster

end Directory

namespace State

/-- No two stored records share a name. -/
def NamesDiffer (state : State) : Prop :=
  ∀ id other cluster another, state.clusters.get? id = some cluster →
    state.clusters.get? other = some another → cluster.name = another.name → id = other

variable {state : State}

/-- The state after the stored records were loaded. -/
def reloaded (state : State) : State :=
  { state with
    directory := state.rereadDirectory
    index := state.rereadIndex
    tally := state.tally.noteRegistered state.records.length }

theorem nameOf?_reloaded (hkeyed : state.Keyed) (hdiffer : state.NamesDiffer)
    (hempty : state.directory = .empty) (id : String) :
    state.reloaded.directory.nameOf? id = (state.clusters.get? id).map (·.name) := by
  have hpairs : ∀ name, state.reloaded.directory.nameOf? id = some name ↔
      ∃ cluster, state.clusters.get? id = some cluster ∧ cluster.name = name := by
    intro name
    have hagree : ∀ a ∈ state.records, ∀ b ∈ state.records, a.id = b.id ↔ a.name = b.name := by
      intro a ha b hb
      rw [mem_records hkeyed] at ha hb
      constructor
      · intro hid
        rw [hid, hb] at ha
        rw [Option.some.inj ha]
      · exact hdiffer a.id b.id a b ha hb
    have hnone : ∀ id name, state.directory.nameOf? id ≠ some name := by
      rw [hempty]
      exact fun _ _ => nofun
    change state.rereadDirectory.nameOf? id = some name ↔ _
    rw [rereadDirectory, Directory.nameOf?_foldl_insert hagree
      fun id name hname => absurd hname (hnone id name)]
    constructor
    · rintro (⟨cluster, hcluster, rfl, hname⟩ | hname)
      · exact ⟨cluster, (mem_records hkeyed).1 hcluster, hname⟩
      · exact absurd hname (hnone id name)
    · rintro ⟨cluster, hstored, hname⟩
      have hid := hkeyed id cluster hstored
      refine .inl ⟨cluster, (mem_records hkeyed).2 ?_, hid, hname⟩
      rw [hid]
      exact hstored
  ext name
  rw [hpairs, Option.map_eq_some_iff]

theorem get?_index_reloaded (hkeyed : state.Keyed) (hempty : state.index = .empty) (id : String) :
    state.reloaded.index.get? id = (state.clusters.get? id).map fun cluster =>
      { cluster with health := state.holdings.health.get? cluster.id } := by
  cases hstored : state.clusters.get? id with
  | some cluster => exact get?_rereadIndex hkeyed hstored
  | none =>
    change state.rereadIndex.get? id = none
    rw [get?_rereadIndex_of_absent hkeyed hstored, hempty, Table.get?_empty]

theorem mirrors_reloaded (hkeyed : state.Keyed) (hempty : state.index = .empty) :
    Mirrors state.reloaded.index state.reloaded.clusters := by
  intro id
  rw [get?_index_reloaded hkeyed hempty, Option.map_map]
  rfl

/-- Loading the records once more finds everything as it is. -/
theorem reloaded_reloaded (hkeyed : state.Keyed) (hdiffer : state.NamesDiffer)
    (hdirectory : state.directory = .empty) (hindex : state.index = .empty) :
    state.reloaded.reloaded = state.reloaded := by
  have hkeyed' : state.reloaded.Keyed := hkeyed
  have hnames : state.reloaded.rereadDirectory = state.reloaded.directory := by
    refine Registered.foldl_insert _ fun cluster hcluster => ?_
    rw [nameOf?_reloaded hkeyed hdiffer hdirectory, (mem_records hkeyed).1 hcluster]
    rfl
  have hentries : state.reloaded.rereadIndex = state.reloaded.index := by
    apply Table.ext_get?
    intro id
    cases hstored : state.clusters.get? id with
    | some cluster =>
      rw [get?_rereadIndex hkeyed' hstored, get?_index_reloaded hkeyed hindex, hstored]
      rfl
    | none => exact get?_rereadIndex_of_absent hkeyed' hstored
  unfold reloaded at hnames hentries ⊢
  rw [hnames, hentries]
  rfl

end State

namespace Registry

variable {state : State}

theorem rebuild_of_calm (hcalm : state.conditions = {}) :
    rebuild state = .ok () state.reloaded := by
  let named : State := { state with directory := state.rereadDirectory }
  unfold rebuild
  rw [bind_of_ok ((Calls.allClusters_serves state).calm hcalm),
    bind_of_ok ((Calls.allHealth_serves state).calm hcalm)]
  change (Calls.indexClusters _ >>= fun _ => _) named = _
  rw [bind_of_ok ((Calls.indexClusters_serves named _).calm hcalm)]
  rfl

/-- Whoever may ask is told the name that the directory has for the cluster. -/
theorem nameOf_of_allowed {scope : Scope} {id : String}
    (hout : state.conditions.isOut .accessRead id = false)
    (hallowed : state.grants.mayRead scope (named? id) = true) :
    nameOf scope id state = .ok (state.directory.nameOf? id) state := by
  unfold nameOf
  rw [bind_of_ok (ensureRead_of_allowed hout hallowed)]
  rfl

end Registry

/-- A registry that starts with nothing but what is stored loads it without fail and knows it from then on.
It answers for the stored clusters and their names and for no other, each name leads to the one record that
has it, and a search finds the stored clusters that match with their own snapshots, by name and then id.
Loading everything once more changes nothing. -/
theorem rebuild_restores_derived_state (state : State) (hcalm : state.conditions = {})
    (hkeyed : state.Keyed) (hdiffer : state.NamesDiffer) (hdirectory : state.directory = .empty)
    (hindex : state.index = .empty) :
    ∃ directory index tally, let after : State := { state with directory, index, tally }
      Registry.rebuild state = .ok () after ∧
      (∀ scope id, state.grants.mayRead scope (named? id) = true →
        Registry.isRegistered scope id after = .ok (state.clusters.contains id) after ∧
        Registry.nameOf scope id after = .ok ((state.clusters.get? id).map (·.name)) after) ∧
      (∀ id name, after.directory.idOf? name = some id ↔
        ∃ cluster, state.clusters.get? id = some cluster ∧ cluster.name = name) ∧
      (∀ scope query,
        let found := state.listing scope fun cluster => query.accepts (state.decorated cluster)
        Registry.search scope query after = .ok (found.map Hit.ofCluster) after ∧
        Registry.searchRecords scope query after = .ok (found.map state.decorated) after ∧
        (∀ cluster, cluster ∈ found ↔ (∃ id, state.clusters.get? id = some cluster) ∧
          query.accepts (state.decorated cluster) = true ∧
          state.grants.mayRead scope (some cluster.id) = true) ∧
        (found.Pairwise fun a b => a.name < b.name ∨ a.name = b.name ∧ a.id < b.id)) ∧
      Registry.rebuild after = .ok () after := by
  let after := state.reloaded
  have hcalm' : after.conditions = {} := hcalm
  have hout : ∀ id, after.conditions.isOut .accessRead id = false := by
    intro id
    rw [hcalm']
    rfl
  have hnames := State.nameOf?_reloaded hkeyed hdiffer hdirectory
  refine ⟨_, _, _, Registry.rebuild_of_calm hcalm, ?_, ?_, ?_, ?_⟩
  · intro scope id hallowed
    have hallowed' : after.grants.mayRead scope (named? id) = true := hallowed
    have hregistered := Registry.isRegistered_of_allowed (hout id) hallowed'
    have hnamed := Registry.nameOf_of_allowed (hout id) hallowed'
    rw [hnames] at hnamed
    refine ⟨?_, hnamed⟩
    have hcontains : after.directory.contains id = state.clusters.contains id := by
      change (after.directory.nameOf? id).isSome = _
      rw [hnames, Option.isSome_map]
      rfl
    rwa [hcontains] at hregistered
  · intro id name
    rw [Directory.idOf?_eq_some_iff]
    change after.directory.nameOf? id = some name ↔ _
    rw [hnames, Option.map_eq_some_iff]
  · intro scope query found
    have hkeyed' : after.Keyed := hkeyed
    have hsearch : Registry.search scope query after = .ok (found.map Hit.ofCluster) after := by
      rw [Registry.search_of_calm hcalm',
        State.found_eq_listing hkeyed' (State.mirrors_reloaded hkeyed hindex) scope]
      · rfl
      · intro id cluster entry hstored hindexed
        rw [State.get?_index_reloaded hkeyed hindex,
          show state.clusters.get? id = some cluster from hstored] at hindexed
        cases hindexed
        rfl
    refine ⟨hsearch, Registry.searchRecords_of_search hcalm' hkeyed' hsearch, ?_,
      State.pairwise_lt_listing hkeyed scope _⟩
    intro cluster
    rw [State.mem_listing hkeyed, State.stored_iff hkeyed]
  · have hagain := Registry.rebuild_of_calm hcalm'
    rwa [show after.reloaded = after from
      State.reloaded_reloaded hkeyed hdiffer hdirectory hindex] at hagain

/-- A store with two records, and snapshots of one of them and of a cluster that is gone. -/
def legacy : State :=
  let kept := ((State.start {} {} ⟨0, false⟩).putRecord { id := "b", name := "prod" }).putRecord
    { id := "a", name := "lab" }
  (kept.putSnapshot "b" { sensor := some .unhealthy }).putSnapshot "gone" { sensor := some .unhealthy }

/-- Only the stored cluster is found by the level that both snapshots have. -/
theorem rebuild_restores_derived_state_of_legacy :
    (legacy.conditions = {} ∧ legacy.Keyed ∧ legacy.NamesDiffer ∧ legacy.directory = .empty ∧
      legacy.index = .empty) ∧
    ∃ after, Registry.rebuild legacy = .ok () after ∧
      Registry.isRegistered .system "gone" after = .ok false after ∧
      after.directory.idOf? "lab" = some "a" ∧
      Registry.search .system { sensor := some .unhealthy } after = .ok [⟨"b", "prod"⟩] after ∧
      Registry.rebuild after = .ok () after := by
  have hkeyed : legacy.Keyed := by
    intro id cluster hstored
    have hentries : ∀ entry ∈ legacy.clusters.entries, entry.2.id = entry.1 := by decide +kernel
    exact hentries _ ((Table.get?_eq_some_iff _ _ _).1 hstored)
  have hdiffer : legacy.NamesDiffer := by
    intro id other cluster another hstored hother hname
    have hentries : ∀ a ∈ legacy.clusters.entries, ∀ b ∈ legacy.clusters.entries,
        a.2.name = b.2.name → a.1 = b.1 := by decide +kernel
    rw [Table.get?_eq_some_iff] at hstored hother
    exact hentries _ hstored _ hother hname
  obtain ⟨_, _, _, hrebuild, hasked, howners, hsearched, hagain⟩ :=
    rebuild_restores_derived_state legacy rfl hkeyed hdiffer rfl rfl
  refine ⟨⟨rfl, hkeyed, hdiffer, rfl, rfl⟩, _, hrebuild, (hasked .system "gone" rfl).1, ?_, ?_, hagain⟩
  · have hlab : (legacy.clusters.get? "a").map (·.name) = some "lab" := by decide +kernel
    exact (howners "a" "lab").2 (Option.map_eq_some_iff.1 hlab)
  · refine (hsearched .system { sensor := some .unhealthy }).1.trans ?_
    congr 1
    decide +kernel

end Fleet
