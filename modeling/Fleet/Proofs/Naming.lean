import Fleet.Proofs.Soundness

/-!
# Names

In every state that a run leads to the directory holds the pair of id and name of each stored record and
no other pair. So names are unique, the question whether a cluster is registered is answered by the
stored records, and a cluster has its name for good.
-/

namespace Fleet

open Fleet.Action

namespace Registry

theorem ensureRead_of_allowed {scope : Scope} {id : String} {state : State}
    (hout : state.conditions.isOut .accessRead id = false)
    (hallowed : state.grants.mayRead scope (named? id) = true) :
    ensureRead scope id state = .ok () state := by
  have hid : (named? id).getD "" = id := by
    unfold named?
    split
    · rename_i hempty
      exact hempty.symm
    · rfl
  have hexpect : Calls.expect .accessRead id state = .ok () state := by
    change conclude (state.conditions.check .accessRead id) state = _
    unfold Conditions.check
    rw [hout]
    rfl
  unfold ensureRead Calls.mayRead
  rw [hid, bind_apply, bind_of_ok hexpect, bind_of_ok (get_apply state)]
  change (if state.grants.mayRead scope (named? id) = true then pure ()
    else throw (.denied id) : Action Unit) state = _
  rw [if_pos hallowed]
  rfl

/-- Whoever may ask is told whether the directory has a name for the cluster. -/
theorem isRegistered_of_allowed {scope : Scope} {id : String} {state : State}
    (hout : state.conditions.isOut .accessRead id = false)
    (hallowed : state.grants.mayRead scope (named? id) = true) :
    isRegistered scope id state = .ok (state.directory.contains id) state := by
  unfold isRegistered
  rw [bind_of_ok (ensureRead_of_allowed hout hallowed)]
  rfl

theorem contains_of_isRegistered {scope : Scope} {id : String} {state after : State} {flag : Bool}
    (h : isRegistered scope id state = .ok flag after) : flag = state.directory.contains id := by
  unfold isRegistered at h
  rcases (quiet_ensureRead scope id).cases state with ⟨answer, hask⟩ | ⟨failure, hask⟩
  · rw [bind_of_ok hask] at h
    cases h
    rfl
  · rw [bind_of_error hask] at h
    cases h

end Registry

/-- In every reachable state the directory mirrors the stored records: both its directions answer for
exactly their pairs of id and name, no two of them share a name, a cluster is registered if and only if
its record is stored, and no run from there on changes the name of a cluster that is stored. -/
theorem directory_mirrors_records (state : State) (h : state.Reachable) :
    (∀ id name, state.directory.nameOf? id = some name ↔
      ∃ cluster, state.clusters.get? id = some cluster ∧ cluster.id = id ∧ cluster.name = name) ∧
    (∀ id name, state.directory.idOf? name = some id ↔
      ∃ cluster, state.clusters.get? id = some cluster ∧ cluster.id = id ∧ cluster.name = name) ∧
    (∀ id other cluster another, state.clusters.get? id = some cluster →
      state.clusters.get? other = some another → cluster.name = another.name → id = other) ∧
    (∀ scope id, state.conditions.isOut .accessRead id = false →
      state.grants.mayRead scope (named? id) = true →
      ∃ flag, Registry.isRegistered scope id state = .ok flag state) ∧
    (∀ scope id flag after, Registry.isRegistered scope id state = .ok flag after →
      (flag = true ↔ ∃ cluster, state.clusters.get? id = some cluster)) ∧
    (∀ events id cluster later, state.clusters.get? id = some cluster →
      (state.following events).clusters.get? id = some later → later.name = cluster.name) := by
  have hsound := h.sound
  have hnames : ∀ id name, state.directory.nameOf? id = some name ↔
      ∃ cluster, state.clusters.get? id = some cluster ∧ cluster.id = id ∧ cluster.name = name := by
    intro id name
    constructor
    · intro hname
      obtain ⟨cluster, hstored, hname⟩ := hsound.stored_of_nameOf? hname
      exact ⟨cluster, hstored, hsound.keyed id cluster hstored, hname⟩
    · rintro ⟨cluster, hstored, -, rfl⟩
      exact hsound.nameOf?_of_stored hstored
  refine ⟨hnames, ?_, ?_, ?_, ?_, ?_⟩
  · intro id name
    rw [Directory.idOf?_eq_some_iff]
    exact hnames id name
  · intro id other cluster another hstored hother hname
    exact hsound.eq_of_name hstored hother hname
  · intro scope id hout hallowed
    exact ⟨_, Registry.isRegistered_of_allowed hout hallowed⟩
  · intro scope id flag after hanswer
    rw [Registry.contains_of_isRegistered hanswer, NameMaps.contains_iff, ← Option.isSome_iff_exists,
      hsound.named id, Option.isSome_map, Option.isSome_iff_exists]
  · intro events id cluster later hstored hlater
    exact (State.Continues.following hsound events).name_eq hsound hstored hlater

/-- A cluster is created, removed, and created again under its old name. -/
def recreation : List Event := [
  .call .system (.create { name := "prod" }),
  .call .system (.remove "$1" none),
  .call .system (.create { name := "prod" })]

/-- After a cluster was removed and created again, its name leads to the second record alone. -/
theorem directory_mirrors_records_of_recreation :
    let state := (State.start {} {} ⟨0, false⟩).following recreation
    state.Reachable ∧ state.directory.idOf? "prod" = some "$2" ∧
      ∀ name, state.directory.nameOf? "$1" ≠ some name := by
  intro state
  have hreachable : state.Reachable := ⟨_, _, _, _, rfl⟩
  have hmirror := directory_mirrors_records state hreachable
  refine ⟨hreachable, (hmirror.2.1 "$2" "prod").2 ?_, ?_⟩
  · have hsecond : (state.clusters.get? "$2").map (fun cluster => (cluster.id, cluster.name)) =
        some ("$2", "prod") := by decide +kernel
    obtain ⟨cluster, hstored, hpair⟩ := Option.map_eq_some_iff.1 hsecond
    exact ⟨cluster, hstored, congrArg Prod.fst hpair, congrArg Prod.snd hpair⟩
  · intro name hname
    obtain ⟨cluster, hstored, -, -⟩ := (hmirror.1 "$1" name).1 hname
    have hfirst : state.clusters.get? "$1" = none := by decide +kernel
    rw [hfirst] at hstored
    cases hstored

end Fleet
