import Fleet.Proofs.Actions
import Fleet.Registry.Reads

/-!
# Questions

A question to the registry changes nothing, whether it is answered, refused or cannot be dealt with.
-/

namespace Fleet

open Fleet.Action

namespace Registry

open Calls

theorem quiet_ensureRead (scope : Scope) (id : String) : Quiet (ensureRead scope id) := by
  unfold ensureRead
  refine (quiet_of_serves fun state => mayRead_serves state scope (named? id)).bind fun allowed => ?_
  cases allowed with
  | false => exact quiet_throw _
  | true => exact quiet_pure _

theorem quiet_load (id : String) : Quiet (load id) := by
  unfold load
  refine (quiet_of_serves fun state => findCluster_serves state id).bind fun found => ?_
  cases found with
  | none => exact quiet_throw _
  | some cluster => exact quiet_pure _

theorem quiet_decorate (clusters : List Cluster) : Quiet (decorate clusters) := by
  unfold decorate
  refine (quiet_of_serves fun state => findHealth_serves state _).attempt.bind fun found => ?_
  exact quiet_get.bind fun state => quiet_pure _

theorem quiet_searchIndex (query : Query) : Quiet (searchIndex query) := by
  unfold searchIndex
  refine Quiet.bind (quiet_of_serves fun state => expect_serves state .indexSearch "") fun _ => ?_
  exact quiet_get.bind fun state => quiet_pure _

theorem quiet_keepReadable (scope : Scope) (hits : List Hit) : Quiet (keepReadable scope hits) := by
  induction hits with
  | nil => exact quiet_pure _
  | cons hit rest ih =>
    unfold keepReadable
    refine (quiet_of_serves fun state => mayRead_serves state scope _).bind fun allowed => ?_
    exact ih.bind fun others => quiet_pure _

theorem quiet_search (scope : Scope) (query : Query) : Quiet (search scope query) := by
  unfold search
  refine (quiet_searchIndex query).bind fun hits => ?_
  unfold readable
  refine (quiet_of_serves fun state => mayRead_serves state scope none).bind fun allowed => ?_
  cases allowed with
  | false => exact quiet_keepReadable scope hits
  | true => exact quiet_pure _

theorem quiet_recordsOf (hits : List Hit) : Quiet (recordsOf hits) := by
  induction hits with
  | nil => exact quiet_pure _
  | cons hit rest ih =>
    unfold recordsOf
    refine (quiet_of_serves fun state => findCluster_serves state hit.id).bind fun found => ?_
    exact ih.bind fun others => quiet_pure _

theorem quiet_searchRecords (scope : Scope) (query : Query) : Quiet (searchRecords scope query) := by
  unfold searchRecords
  refine (quiet_search scope query).bind fun hits => ?_
  exact (quiet_recordsOf hits).bind fun clusters => quiet_decorate _

theorem quiet_read (scope : Scope) (id : String) : Quiet (read scope id) := by
  unfold read
  refine (quiet_ensureRead scope id).bind fun _ => (quiet_load id).bind fun cluster => ?_
  exact (quiet_decorate _).bind fun clusters => quiet_pure _

theorem quiet_readAll (scope : Scope) : Quiet (readAll scope) := by
  unfold readAll
  refine (quiet_of_serves fun state => mayRead_serves state scope none).bind fun allowed => ?_
  cases allowed with
  | false => exact quiet_searchRecords scope {}
  | true =>
    exact (quiet_of_serves fun state => allClusters_serves state).bind fun _ => quiet_decorate _

theorem quiet_isRegistered (scope : Scope) (id : String) : Quiet (isRegistered scope id) := by
  unfold isRegistered
  exact (quiet_ensureRead scope id).bind fun _ => quiet_get.bind fun _ => quiet_pure _

theorem quiet_nameOf (scope : Scope) (id : String) : Quiet (nameOf scope id) := by
  unfold nameOf
  exact (quiet_ensureRead scope id).bind fun _ => quiet_get.bind fun _ => quiet_pure _

theorem quiet_count (scope : Scope) (query : Query) : Quiet (count scope query) := by
  have hsearch : Quiet (do return (← search scope query).length) :=
    (quiet_search scope query).bind fun hits => quiet_pure _
  unfold count
  split
  · refine (quiet_of_serves fun state => mayRead_serves state scope none).bind fun allowed => ?_
    cases allowed with
    | false => exact hsearch
    | true => exact quiet_of_serves fun state => countClusters_serves state
  · exact hsearch

end Registry

end Fleet
