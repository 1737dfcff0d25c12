import Fleet.Proofs.Locality
import Mathlib.Data.List.Nodup

/-!
# The alerts of a teardown

What a teardown does with the alerts of the deployments it finds. Each deployment is asked for its open
alerts, and each of them is resolved and handed on, unless the question or the resolution fails; then the
report says so, and everything else goes on as if nothing had happened. Since deployments have ids of
their own, and alerts as well, no step has to do with the alerts of another, and what a whole teardown
does with alerts can be told from what there was before.
-/

namespace Fleet

/-! ## Resolved alerts -/

namespace Alert

/-- The alert after it was resolved. -/
def resolve (alert : Alert) : Alert :=
  { alert with state := .resolved }

/-- The alert after these were resolved. -/
def after (resolved : List Alert) (alert : Alert) : Alert :=
  if alert ∈ resolved then alert.resolve else alert

theorem resolve_resolve (alert : Alert) : alert.resolve.resolve = alert.resolve := rfl

theorem after_nil (alert : Alert) : alert.after [] = alert := if_neg List.not_mem_nil

/-- It makes no difference whether alerts are resolved at once or one after another. -/
theorem after_append (first second : List Alert) (alert : Alert) :
    (alert.after first).after second = alert.after (first ++ second) := by
  unfold after
  by_cases hfirst : alert ∈ first
  · rw [if_pos hfirst, if_pos (List.mem_append_left _ hfirst), resolve_resolve, ite_self]
  · rw [if_neg hfirst]
    simp only [List.mem_append, hfirst, false_or]

theorem deploymentId_after (resolved : List Alert) (alert : Alert) :
    (alert.after resolved).deploymentId = alert.deploymentId := by
  unfold after
  split <;> rfl

theorem id_after (resolved : List Alert) (alert : Alert) : (alert.after resolved).id = alert.id := by
  unfold after
  split <;> rfl

end Alert

namespace Conditions

variable (conditions : Conditions)

/-- How a report lists an alert that cannot be resolved. -/
def unresolved? (alert : Alert) : Option StepFailure :=
  (conditions.resolutionFailure? alert.id).map fun failure =>
    ⟨.alerts, some alert.id, failure.message⟩

/-- Of these alerts, those that can be resolved. -/
def resolvable (alerts : List Alert) : List Alert :=
  alerts.filter fun alert => (conditions.resolutionFailure? alert.id).isNone

end Conditions

namespace Holdings

variable (holdings : Holdings) (conditions : Conditions)

/-- The alerts of a deployment that a teardown resolves. -/
def settled (deployment : Resource) : List Alert :=
  match holdings.activeAlerts conditions deployment.id with
  | .error _ => []
  | .ok alerts => conditions.resolvable alerts

/-- What a teardown reports about the alerts of a deployment: one failure if it cannot ask for them, or
else one for each that it cannot resolve. -/
def unsettled (deployment : Resource) : List StepFailure :=
  match holdings.activeAlerts conditions deployment.id with
  | .error failure => [⟨.alerts, some deployment.id, failure.message⟩]
  | .ok alerts => alerts.filterMap conditions.unresolved?

variable {holdings conditions}

/-- An alert that is there is resolved unless the call for it fails. -/
theorem exists_resolveAlert_iff {alertId : String} {stored : Alert}
    (h : holdings.alerts.get? alertId = some stored) :
    (∃ left, holdings.resolveAlert conditions alertId = .ok left) ↔
      conditions.resolutionFailure? alertId = none := by
  rw [resolveAlert_of_stored h]
  cases conditions.resolutionFailure? alertId <;> simp

theorem mem_settled_iff (hkeyed : holdings.AlertsKeyed) (deployment : Resource) (alert : Alert) :
    alert ∈ holdings.settled conditions deployment ↔
      holdings.alerts.get? alert.id = some alert ∧ alert.deploymentId = deployment.id ∧
        alert.state = .active ∧
        (∃ alerts, holdings.activeAlerts conditions deployment.id = .ok alerts) ∧
        conditions.resolutionFailure? alert.id = none := by
  unfold settled
  cases hlisted : holdings.activeAlerts conditions deployment.id with
  | error failure => simp
  | ok alerts =>
    unfold Conditions.resolvable
    dsimp only
    rw [eq_of_activeAlerts hlisted, List.mem_filter, mem_openAlerts_iff hkeyed,
      Option.isNone_iff_eq_none]
    simp only [Except.ok.injEq, exists_eq', true_and, and_assoc]

/-- Alerts are listed in the order of their ids, each once. -/
theorem nodup_values (hkeyed : holdings.AlertsKeyed) :
    (holdings.alerts.values.map (·.id)).Nodup := by
  have hkeys : holdings.alerts.values.map (·.id) = holdings.alerts.keys := by
    unfold Table.values Table.keys
    rw [List.map_map]
    apply List.map_congr_left
    rintro ⟨key, found⟩ hentry
    exact hkeyed key found ((Table.get?_eq_some_iff _ _ _).2 hentry)
  rw [hkeys]
  exact holdings.alerts.nodup_keys

theorem nodup_openAlerts (hkeyed : holdings.AlertsKeyed) (deploymentId : String) :
    ((holdings.openAlerts deploymentId).map (·.id)).Nodup :=
  (nodup_values hkeyed).sublist (List.filter_sublist.map _)

end Holdings

/-! ## Steps and what they settle -/

namespace Cascade

/-- These alerts are resolved and handed on, and these failures reported about alerts; nothing else
happens to them. -/
structure Settles (resolved : List Alert) (failures : List StepFailure) (before after : Cascade) :
    Prop where
  alerts : after.holdings.alerts = before.holdings.alerts.map fun _ alert => alert.after resolved
  notified : after.holdings.notified = before.holdings.notified ++ resolved.map Alert.resolve
  removals : after.report.removedFrom .alerts =
    before.report.removedFrom .alerts + resolved.length
  failures : after.report.failuresIn .alerts = before.report.failuresIn .alerts ++ failures

namespace Settles

variable {before middle after : Cascade} {resolved later : List Alert}
  {failures laterFailures : List StepFailure}

theorem trans (h : Settles resolved failures before middle)
    (h' : Settles later laterFailures middle after) :
    Settles (resolved ++ later) (failures ++ laterFailures) before after where
  alerts := by
    rw [h'.alerts, h.alerts]
    apply Table.ext_get?
    intro id
    simp only [Table.get?_map, Option.map_map]
    congr 1
    funext alert
    exact Alert.after_append resolved later alert
  notified := by rw [h'.notified, h.notified, List.append_assoc, List.map_append]
  removals := by rw [h'.removals, h.removals, List.length_append, Nat.add_assoc]
  failures := by rw [h'.failures, h.failures, List.append_assoc]

/-- A step that has nothing to do with alerts settles none. -/
theorem of_spares {touched : List Subsystem} (hspares : Spares touched before after)
    (halerts : .alerts ∉ touched) (hnotified : after.holdings.notified = before.holdings.notified) :
    Settles [] [] before after where
  alerts := by
    rw [hspares.alerts halerts]
    apply Table.ext_get?
    intro id
    simp only [Table.get?_map, Alert.after_nil, Option.map_id']
  notified := by rw [hnotified, List.map_nil, List.append_nil]
  removals := hspares.removals _ halerts
  failures := by rw [hspares.failures _ halerts, List.append_nil]

theorem refl (cascade : Cascade) : Settles [] [] cascade cascade :=
  of_spares (Spares.refl [] cascade) List.not_mem_nil rfl

/-- Steps that settle nothing settle nothing together. -/
theorem foldl_idle {α : Type} {step : Cascade → α → Cascade} {elements : List α}
    (h : ∀ cascade, ∀ element ∈ elements, Settles [] [] cascade (step cascade element))
    (cascade : Cascade) : Settles [] [] cascade (elements.foldl step cascade) := by
  induction elements generalizing cascade with
  | nil => exact refl cascade
  | cons first rest ih =>
    rw [List.foldl_cons]
    have hfirst := h cascade first List.mem_cons_self
    exact hfirst.trans (ih (fun c element hmem => h c element (List.mem_cons_of_mem _ hmem)) _)

theorem keyed (h : Settles resolved failures before after)
    (hkeyed : before.holdings.AlertsKeyed) : after.holdings.AlertsKeyed := by
  intro id alert hget
  rw [h.alerts, Table.get?_map, Option.map_eq_some_iff] at hget
  obtain ⟨earlier, hearlier, rfl⟩ := hget
  rw [Alert.id_after]
  exact hkeyed id earlier hearlier

/-- Alerts of other deployments stay listed for them. -/
theorem openAlerts_eq (h : Settles resolved failures before after) {deploymentId : String}
    (hother : ∀ alert ∈ resolved, alert.deploymentId ≠ deploymentId) :
    after.holdings.openAlerts deploymentId = before.holdings.openAlerts deploymentId := by
  unfold Holdings.openAlerts
  rw [h.alerts, Table.values_map, List.filter_map]
  have hsame : ∀ alert : Alert, alert.deploymentId = deploymentId → alert.after resolved = alert :=
    fun alert hdeployment => if_neg fun hmem => hother alert hmem hdeployment
  have htest : ∀ alert : Alert,
      (decide ((alert.after resolved).deploymentId = deploymentId) &&
          decide ((alert.after resolved).state = .active)) =
        (decide (alert.deploymentId = deploymentId) && decide (alert.state = .active)) := by
    intro alert
    by_cases hdeployment : alert.deploymentId = deploymentId
    · rw [hsame alert hdeployment]
    · simp [Alert.deploymentId_after, hdeployment]
  simp only [Function.comp_def, htest]
  refine (List.map_congr_left fun alert hmem => hsame alert ?_).trans (List.map_id _)
  exact of_decide_eq_true (Bool.and_eq_true_iff.1 (List.mem_filter.1 hmem).2).1

end Settles

section

variable (conditions : Conditions)

theorem notified_removeResource (kind : ResourceKind) (cascade : Cascade) (resource : Resource) :
    (cascade.removeResource conditions kind resource).holdings.notified =
      cascade.holdings.notified := by
  rw [removeResource_apply]
  cases conditions.refusal? kind resource.id <;> rfl

theorem settles_removeResource (kind : ResourceKind) (cascade : Cascade) (resource : Resource) :
    Settles [] [] cascade (cascade.removeResource conditions kind resource) :=
  .of_spares (spares_removeResource cascade resource) (by simp)
    (notified_removeResource conditions kind cascade resource)

theorem settles_forgetHealth (cascade : Cascade) :
    Settles [] [] cascade (cascade.forgetHealth conditions) := by
  refine .of_spares (spares_forgetHealth conditions cascade) (by simp) ?_
  rw [forgetHealth_apply]
  split <;> rfl

theorem settles_fail (cascade : Cascade) (resourceId : Option String) (failure : Failure) :
    Settles [] [⟨.alerts, resourceId, failure.message⟩] cascade
      (cascade.fail .alerts resourceId failure) where
  alerts := (Settles.refl cascade).alerts
  notified := (Settles.refl cascade).notified
  removals := rfl
  failures := by rw [failuresIn_fail, if_pos rfl]

/-- An alert that is stored as it was listed is settled by itself. -/
theorem settles_resolveAlert {cascade : Cascade} {listed : Alert}
    (hkeyed : cascade.holdings.AlertsKeyed)
    (hstored : cascade.holdings.alerts.get? listed.id = some listed) :
    Settles (conditions.resolvable [listed]) ([listed].filterMap conditions.unresolved?) cascade
      (cascade.resolveAlert conditions listed) := by
  rw [resolveAlert_of_stored conditions hstored]
  cases hfailure : conditions.resolutionFailure? listed.id with
  | some failure =>
    simpa [Conditions.resolvable, Conditions.unresolved?, hfailure] using
      settles_fail cascade (some listed.id) failure
  | none =>
    have hresolvable : conditions.resolvable [listed] = [listed] := by
      simp [Conditions.resolvable, hfailure]
    have hunresolved : [listed].filterMap conditions.unresolved? = [] := by
      simp [Conditions.unresolved?, hfailure]
    rw [hresolvable, hunresolved]
    refine ⟨?_, rfl, ?_, (List.append_nil _).symm⟩
    · apply Table.ext_get?
      intro id
      change (cascade.holdings.alerts.insert listed.id listed.resolve).get? id = _
      rw [Table.get?_insert, Table.get?_map]
      by_cases hid : id = listed.id
      · rw [if_pos hid, hid, hstored]
        exact congrArg some (if_pos List.mem_cons_self).symm
      · rw [if_neg hid]
        cases hget : cascade.holdings.alerts.get? id with
        | none => rfl
        | some other =>
          refine congrArg some (if_neg fun hmem => hid ?_).symm
          rw [← hkeyed id other hget, List.mem_singleton.1 hmem]
    · rw [removedFrom_removed, if_pos rfl]
      rfl

/-- Alerts that are stored as they were listed are settled one after another. -/
theorem settles_foldl_resolveAlert {alerts : List Alert} {cascade : Cascade}
    (hkeyed : cascade.holdings.AlertsKeyed) (hdistinct : (alerts.map (·.id)).Nodup)
    (hstored : ∀ alert ∈ alerts, cascade.holdings.alerts.get? alert.id = some alert) :
    Settles (conditions.resolvable alerts) (alerts.filterMap conditions.unresolved?) cascade
      (alerts.foldl (resolveAlert conditions) cascade) := by
  induction alerts generalizing cascade with
  | nil => exact .refl cascade
  | cons first rest ih =>
    rw [List.map_cons, List.nodup_cons] at hdistinct
    have hfirst := settles_resolveAlert conditions hkeyed (hstored first List.mem_cons_self)
    -- Alerts have ids of their own, so the others are still stored as they were listed.
    have hrest : ∀ alert ∈ rest,
        (cascade.resolveAlert conditions first).holdings.alerts.get? alert.id = some alert := by
      intro alert hmem
      rw [hfirst.alerts, Table.get?_map, hstored alert (List.mem_cons_of_mem _ hmem)]
      refine congrArg some (if_neg fun hresolved => hdistinct.1 ?_)
      have heq := List.mem_singleton.1 (List.mem_filter.1 hresolved).1
      exact heq ▸ List.mem_map_of_mem hmem
    have hlater := hfirst.trans (ih (hfirst.keyed hkeyed) hdistinct.2 hrest)
    unfold Conditions.resolvable at hlater ⊢
    rwa [← List.filter_append, ← List.filterMap_append, List.singleton_append] at hlater

/-- The alerts of a deployment are settled, those of all others left alone. -/
theorem settles_resolveAlerts {cascade : Cascade} (hkeyed : cascade.holdings.AlertsKeyed)
    (deployment : Resource) :
    Settles (cascade.holdings.settled conditions deployment)
      (cascade.holdings.unsettled conditions deployment) cascade
      (cascade.resolveAlerts conditions deployment) := by
  unfold resolveAlerts Holdings.settled Holdings.unsettled
  cases hlisted : cascade.holdings.activeAlerts conditions deployment.id with
  | error failure => exact settles_fail cascade (some deployment.id) failure
  | ok alerts =>
    rw [Holdings.eq_of_activeAlerts hlisted]
    refine settles_foldl_resolveAlert conditions hkeyed (Holdings.nodup_openAlerts hkeyed _) ?_
    exact fun alert hmem => ((Holdings.mem_openAlerts_iff hkeyed _ alert).1 hmem).1

theorem settles_removeDeployment {cascade : Cascade} (hkeyed : cascade.holdings.AlertsKeyed)
    (deployment : Resource) :
    Settles (cascade.holdings.settled conditions deployment)
      (cascade.holdings.unsettled conditions deployment) cascade
      (cascade.removeDeployment conditions deployment) := by
  have hboth := (settles_resolveAlerts conditions hkeyed deployment).trans
    (settles_removeResource conditions .deployments _ deployment)
  rwa [List.append_nil, List.append_nil] at hboth

/-- What is settled for a deployment can be told from its open alerts. -/
theorem settled_congr {left right : Holdings} {deployment : Resource}
    (h : left.openAlerts deployment.id = right.openAlerts deployment.id) :
    left.settled conditions deployment = right.settled conditions deployment ∧
      left.unsettled conditions deployment = right.unsettled conditions deployment := by
  unfold Holdings.settled Holdings.unsettled
  rw [Holdings.activeAlerts_congr conditions h]
  exact ⟨rfl, rfl⟩

/-- Deployments with ids of their own are settled one after another. -/
theorem settles_foldl_removeDeployment {found : List Resource} {cascade : Cascade}
    (hkeyed : cascade.holdings.AlertsKeyed) (hdistinct : (found.map (·.id)).Nodup) :
    Settles (found.flatMap (cascade.holdings.settled conditions))
      (found.flatMap (cascade.holdings.unsettled conditions)) cascade
      (found.foldl (removeDeployment conditions) cascade) := by
  induction found generalizing cascade with
  | nil => exact .refl cascade
  | cons first rest ih =>
    rw [List.map_cons, List.nodup_cons] at hdistinct
    have hfirst := settles_removeDeployment conditions hkeyed first
    have hlater := ih (hfirst.keyed hkeyed) hdistinct.2
    -- An alert belongs to one deployment, so what the others settle can be told from before.
    have hsame : ∀ deployment ∈ rest,
        (cascade.removeDeployment conditions first).holdings.openAlerts deployment.id =
          cascade.holdings.openAlerts deployment.id := by
      intro deployment hmem
      refine hfirst.openAlerts_eq fun alert hresolved heq => hdistinct.1 ?_
      have hown := ((Holdings.mem_settled_iff hkeyed first alert).1 hresolved).2.1
      rw [← hown, heq]
      exact List.mem_map_of_mem hmem
    have hsettled := List.flatMap_congr fun deployment hmem =>
      (settled_congr conditions (hsame deployment hmem)).1
    have hunsettled := List.flatMap_congr fun deployment hmem =>
      (settled_congr conditions (hsame deployment hmem)).2
    rw [hsettled, hunsettled] at hlater
    exact hfirst.trans hlater

/-! ## The whole teardown -/

theorem settles_removeKind_of_ne {kind : ResourceKind} (hkind : kind ≠ .deployments)
    (cascade : Cascade) : Settles [] [] cascade (cascade.removeKind conditions kind) := by
  cases hfound : cascade.holdings.search conditions kind cascade.report.clusterId with
  | error failure =>
    rw [removeKind_of_unsearchable conditions hfound]
    exact .of_spares (spares_fail cascade (.resources kind) none failure) (by simp) rfl
  | ok found =>
    rw [removeKind_of_resources conditions hkind hfound]
    exact .foldl_idle (fun c resource _ => settles_removeResource conditions kind c resource) cascade

theorem settles_run (cluster : Cluster) (connection : ConnectionEnd) {holdings : Holdings}
    {found : List Resource} (hkeyed : holdings.AlertsKeyed)
    (hfound : holdings.search conditions .deployments cluster.id = .ok found)
    (hdistinct : (found.map (·.id)).Nodup) :
    Settles (found.flatMap (holdings.settled conditions))
      (found.flatMap (holdings.unsettled conditions)) (opening cluster connection holdings)
      (run conditions cluster connection holdings) := by
  obtain ⟨earlier, later, hearlier, hlater, hrun⟩ :=
    exists_run_eq conditions cluster connection holdings .deployments
  let healthless := (opening cluster connection holdings).forgetHealth conditions
  let before := earlier.foldl (removeKind conditions) healthless
  have hsooner : Settles [] [] (opening cluster connection holdings) before :=
    (settles_forgetHealth conditions _).trans (.foldl_idle (fun c kind hmem =>
      settles_removeKind_of_ne conditions (ne_of_mem_of_not_mem hmem hearlier) c) healthless)
  have hspares := spares_earlier conditions cluster connection holdings earlier
  have hsearch : before.holdings.search conditions .deployments before.report.clusterId =
      .ok found := by
    rw [show before.report.clusterId = cluster.id from hspares.clusterId,
      search_congr conditions _ (hspares.resources _ (by simpa using hearlier))]
    exact hfound
  have hvisit := settles_foldl_removeDeployment conditions (hsooner.keyed hkeyed) hdistinct
  have hsame : ∀ deployment : Resource,
      before.holdings.settled conditions deployment = holdings.settled conditions deployment ∧
        before.holdings.unsettled conditions deployment =
          holdings.unsettled conditions deployment :=
    fun deployment => settled_congr conditions (hsooner.openAlerts_eq nofun)
  have hrest := Settles.foldl_idle (fun c kind hmem =>
      settles_removeKind_of_ne conditions (ne_of_mem_of_not_mem hmem hlater) c)
    (found.foldl (removeDeployment conditions) before)
  have hall := (hsooner.trans hvisit).trans hrest
  rw [List.nil_append, List.nil_append, List.append_nil, List.append_nil,
    funext fun deployment => (hsame deployment).1,
    funext fun deployment => (hsame deployment).2] at hall
  rw [hrun, removeKind_of_deployments conditions rfl hsearch]
  exact hall

theorem nodup_settled {holdings : Holdings} (hkeyed : holdings.AlertsKeyed) (deployment : Resource) :
    (holdings.settled conditions deployment).Nodup := by
  unfold Holdings.settled
  cases hlisted : holdings.activeAlerts conditions deployment.id with
  | error failure => exact List.nodup_nil
  | ok alerts =>
    rw [Holdings.eq_of_activeAlerts hlisted]
    exact (List.Nodup.of_map _ (Holdings.nodup_openAlerts hkeyed _)).filter _

/-- No alert is settled twice. -/
theorem nodup_flatMap_settled {holdings : Holdings} (hkeyed : holdings.AlertsKeyed)
    {found : List Resource} (hdistinct : (found.map (·.id)).Nodup) :
    (found.flatMap (holdings.settled conditions)).Nodup := by
  rw [List.nodup_flatMap]
  refine ⟨fun deployment _ => nodup_settled conditions hkeyed deployment, ?_⟩
  refine (List.pairwise_map.1 hdistinct).imp fun {first second} hne alert hfirst hsecond => hne ?_
  rw [Holdings.mem_settled_iff hkeyed] at hfirst hsecond
  exact hfirst.2.1.symm.trans hsecond.2.1

/-- What becomes of the resources does not depend on anything else that is held. -/
theorem run_congr {left right : Holdings} (cluster : Cluster) (connection : ConnectionEnd)
    {kind : ResourceKind} (h : left.resources kind = right.resources kind) :
    (run conditions cluster connection left).report.failuresIn (.resources kind) =
        (run conditions cluster connection right).report.failuresIn (.resources kind) ∧
      (run conditions cluster connection left).report.removedFrom (.resources kind) =
        (run conditions cluster connection right).report.removedFrom (.resources kind) ∧
      ∀ id, (run conditions cluster connection left).holdings.resourcesOf kind id =
        (run conditions cluster connection right).holdings.resourcesOf kind id := by
  have hsearch := search_congr conditions right h cluster.id
  cases hfound : right.search conditions kind cluster.id with
  | error failure =>
    rw [hfound] at hsearch
    obtain ⟨hfailures, hremovals, hleft⟩ :=
      run_of_unsearchable conditions cluster connection left hsearch
    obtain ⟨hfailures', hremovals', hright⟩ :=
      run_of_unsearchable conditions cluster connection right hfound
    refine ⟨hfailures.trans hfailures'.symm, hremovals.trans hremovals'.symm, fun id => ?_⟩
    unfold Holdings.resourcesOf
    rw [hleft, hright, h]
  | ok found =>
    rw [hfound] at hsearch
    have hleft := clears_run conditions cluster connection left hsearch
    have hright := clears_run conditions cluster connection right hfound
    refine ⟨hleft.failures.trans hright.failures.symm, hleft.removals.trans hright.removals.symm, ?_⟩
    intro id
    by_cases hid : id = cluster.id
    · rw [hid]
      refine hleft.own.trans (Eq.trans ?_ hright.own.symm)
      change List.filter _ (((left.resources kind).get? cluster.id).getD []) = _
      rw [h]
      rfl
    · unfold Holdings.resourcesOf
      rw [hleft.others id hid, hright.others id hid]
      change ((left.resources kind).get? id).getD [] = _
      rw [h]
      rfl

end

end Cascade

open Cascade in
/-- A teardown that finds deployments resolves their active alerts, those and no others, but for the ones
that it cannot list or cannot resolve. It hands each of these on once, resolved and otherwise as it was,
counts it, and reports a failure for each deployment that it cannot ask for alerts and for each alert that
it cannot resolve. The resources go, or stay, as if there had been no alerts. -/
theorem alerts_of_found_deployments_are_settled (conditions : Conditions) (cluster : Cluster)
    (connection : ConnectionEnd) {holdings : Holdings} {found : List Resource}
    (hkeyed : holdings.AlertsKeyed)
    (hfound : holdings.search conditions .deployments cluster.id = .ok found)
    (hdistinct : (found.map (·.id)).Nodup) :
    let after := run conditions cluster connection holdings
    let alertless := run conditions cluster connection { holdings with alerts := .empty }
    ∃ resolved : List Alert, resolved.Nodup ∧
      (∀ alert, alert ∈ resolved ↔
        holdings.alerts.get? alert.id = some alert ∧ alert.state = .active ∧
          (∃ deployment ∈ found, deployment.id = alert.deploymentId) ∧
          (∃ alerts, holdings.activeAlerts conditions alert.deploymentId = .ok alerts) ∧
          ∃ left, holdings.resolveAlert conditions alert.id = .ok left) ∧
      (∀ id, after.holdings.alerts.get? id = (holdings.alerts.get? id).map fun alert =>
        if alert ∈ resolved then { alert with state := .resolved } else alert) ∧
      after.holdings.notified =
        holdings.notified ++ resolved.map (fun alert => { alert with state := .resolved }) ∧
      after.report.removedFrom .alerts = resolved.length ∧
      after.report.failuresIn .alerts = found.flatMap (holdings.unsettled conditions) ∧
      ∀ kind,
        after.report.failuresIn (.resources kind) =
            alertless.report.failuresIn (.resources kind) ∧
          after.report.removedFrom (.resources kind) =
            alertless.report.removedFrom (.resources kind) ∧
          ∀ id, after.holdings.resourcesOf kind id = alertless.holdings.resourcesOf kind id := by
  intro after alertless
  have hsettles := settles_run conditions cluster connection hkeyed hfound hdistinct
  refine ⟨found.flatMap (holdings.settled conditions),
    nodup_flatMap_settled conditions hkeyed hdistinct, ?_, ?_, hsettles.notified, ?_, ?_, ?_⟩
  · intro alert
    rw [List.mem_flatMap]
    constructor
    · rintro ⟨deployment, hdeployment, halert⟩
      obtain ⟨hstored, hown, hactive, hlisted, hunfailed⟩ :=
        (Holdings.mem_settled_iff hkeyed deployment alert).1 halert
      exact ⟨hstored, hactive, ⟨deployment, hdeployment, hown.symm⟩, hown ▸ hlisted,
        (Holdings.exists_resolveAlert_iff hstored).2 hunfailed⟩
    · rintro ⟨hstored, hactive, ⟨deployment, hdeployment, hown⟩, hlisted, hresolves⟩
      refine ⟨deployment, hdeployment, (Holdings.mem_settled_iff hkeyed deployment alert).2 ?_⟩
      exact ⟨hstored, hown.symm, hactive, hown ▸ hlisted,
        (Holdings.exists_resolveAlert_iff hstored).1 hresolves⟩
  · intro id
    rw [hsettles.alerts, Table.get?_map]
    rfl
  · exact hsettles.removals.trans (Nat.zero_add _)
  · exact hsettles.failures.trans (List.nil_append _)
  · exact fun kind => run_congr conditions cluster connection rfl

/-- Of two deployments the second cannot be asked for its alerts; of the alerts of the first, one cannot be
resolved and one is snoozed. -/
def guarded : Holdings :=
  let alerts : List Alert := [⟨"a-1", "d-1", "$1", "root-user", .active⟩,
    ⟨"a-2", "d-1", "$1", "privileged", .active⟩, ⟨"a-3", "d-1", "$1", "latest-tag", .snoozed⟩,
    ⟨"a-4", "d-2", "$1", "root-user", .active⟩]
  let kept := alerts.foldl Holdings.addAlert {}
  (kept.addResource .deployments "$1" ⟨"d-1", "web"⟩).addResource .deployments "$1" ⟨"d-2", "db"⟩

/-- One alert is resolved and handed on, two failures are reported, and both deployments go. -/
theorem alerts_of_found_deployments_are_settled_of_guarded :
    let conditions : Conditions :=
      ⟨[⟨"alerts.search", some "d-2"⟩, ⟨"alerts.mark_stale", some "a-2"⟩], []⟩
    let after := Cascade.run conditions { id := "$1", name := "prod" } .stopped guarded
    guarded.AlertsKeyed ∧
      after.holdings.notified = [⟨"a-1", "d-1", "$1", "root-user", .resolved⟩] ∧
      (after.report.failuresIn .alerts).map (·.resourceId) = [some "a-2", some "d-2"] ∧
      after.holdings.resourcesOf .deployments "$1" = [] := by
  intro conditions after
  have hkeyed : guarded.AlertsKeyed := by
    have hempty : ({} : Holdings).AlertsKeyed := nofun
    exact ((((hempty.addAlert _).addAlert _).addAlert _).addAlert _)
  have hfound : guarded.search conditions .deployments "$1" =
      .ok [⟨"d-1", "web"⟩, ⟨"d-2", "db"⟩] := rfl
  obtain ⟨resolved, -, hmem, -, hnotified, hcount, hfailures, hresources⟩ :=
    alerts_of_found_deployments_are_settled conditions { id := "$1", name := "prod" } .stopped hkeyed
      hfound (by decide)
  have hresolved : (⟨"a-1", "d-1", "$1", "root-user", .active⟩ : Alert) ∈ resolved :=
    (hmem _).2 ⟨rfl, rfl, ⟨_, List.mem_cons_self, rfl⟩, ⟨_, rfl⟩, ⟨_, rfl⟩⟩
  have hone : after.report.removedFrom .alerts = 1 := by decide +kernel
  obtain ⟨alert, rfl⟩ := List.length_eq_one_iff.1 (hcount.symm.trans hone)
  refine ⟨hkeyed, ?_, ?_, ?_⟩
  · rw [hnotified, ← List.mem_singleton.1 hresolved]
    rfl
  · rw [hfailures]
    decide +kernel
  · rw [(hresources .deployments).2.2]
    decide +kernel

end Fleet
