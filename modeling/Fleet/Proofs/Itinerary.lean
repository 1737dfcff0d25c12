import Fleet.Proofs.Scheduling

/-!
# A cascade call by call

A cascade is run as one step, but it is a row of calls to collaborators, and what a call is answered
decides which calls have to be made because of it. Run to its end, the row of calls is the cascade, and
each call keeps to the share of the cascade.
-/

namespace Fleet

namespace Cascade

/-! ## Call by call -/

/-- A call of a cascade, with what happens until the next one. -/
inductive Task where
  | forgetRank
  | forgetHealth
  | search (kind : ResourceKind)
  | remove (kind : ResourceKind) (resource : Resource)
  | searchAlerts (deployment : Resource)
  | markStale (alert : Alert)
  | handOn (alert : Alert)

/-- The calls that a cascade sets out to make, in order. -/
def itinerary : List Task :=
  .forgetRank :: .forgetHealth :: ResourceKind.all.map .search

/-- The calls for a resource that was found. -/
def Task.removal : ResourceKind → Resource → List Task
  | .deployments, deployment => [.searchAlerts deployment, .remove .deployments deployment]
  | kind, resource => [.remove kind resource]

/-- Make a call. -/
def perform (conditions : Conditions) (cascade : Cascade) : Task → Cascade
  | .forgetRank => { cascade with holdings := cascade.holdings.forgetRank cascade.report.clusterId }
  | .forgetHealth => cascade.forgetHealth conditions
  | .search kind =>
    match cascade.holdings.search conditions kind cascade.report.clusterId with
    | .ok _ => cascade
    | .error failure => cascade.fail (.resources kind) none failure
  | .remove kind resource => cascade.removeResource conditions kind resource
  | .searchAlerts deployment =>
    match cascade.holdings.activeAlerts conditions deployment.id with
    | .ok _ => cascade
    | .error failure => cascade.fail .alerts (some deployment.id) failure
  | .markStale alert => cascade.markStale conditions alert
  | .handOn alert => cascade.handOn alert

/-- The calls that have to be made because of what a call was answered. -/
def followUp (conditions : Conditions) (cascade : Cascade) : Task → List Task
  | .search kind =>
    match cascade.holdings.search conditions kind cascade.report.clusterId with
    | .ok found => found.flatMap (Task.removal kind)
    | .error _ => []
  | .searchAlerts deployment =>
    match cascade.holdings.activeAlerts conditions deployment.id with
    | .ok alerts => alerts.map .markStale
    | .error _ => []
  | .markStale alert =>
    match cascade.holdings.resolveAlert conditions alert.id with
    | .ok _ => [.handOn alert]
    | .error _ => []
  | _ => []

/-- Make a call and all those that have to be made because of it. -/
def complete (conditions : Conditions) (cascade : Cascade) : Task → Cascade
  | .search kind => cascade.removeKind conditions kind
  | .searchAlerts deployment => cascade.resolveAlerts conditions deployment
  | .markStale alert => cascade.resolveAlert conditions alert
  | task => cascade.perform conditions task

section

variable (conditions : Conditions)

theorem foldl_complete_removal (cascade : Cascade) (kind : ResourceKind) (resource : Resource) :
    (Task.removal kind resource).foldl (complete conditions) cascade =
      match kind with
      | .deployments => cascade.removeDeployment conditions resource
      | kind => cascade.removeResource conditions kind resource := by
  cases kind <;> rfl

/-- A call is completed by making it and then completing what has to be done because of it. -/
theorem complete_eq (cascade : Cascade) (task : Task) :
    cascade.complete conditions task =
      (cascade.followUp conditions task).foldl (complete conditions)
        (cascade.perform conditions task) := by
  cases task with
  | search kind =>
    cases hsearch : cascade.holdings.search conditions kind cascade.report.clusterId with
    | error failure =>
      simp only [complete, followUp, perform, hsearch, List.foldl_nil]
      exact removeKind_of_unsearchable conditions hsearch
    | ok found =>
      simp only [complete, followUp, perform, removeKind, hsearch, List.foldl_flatMap,
        foldl_complete_removal]
      cases kind <;> rfl
  | searchAlerts deployment =>
    cases hsearch : cascade.holdings.activeAlerts conditions deployment.id with
    | error failure => simp only [complete, followUp, perform, resolveAlerts, hsearch, List.foldl_nil]
    | ok alerts =>
      simp only [complete, followUp, perform, resolveAlerts, hsearch, List.foldl_map]
  | markStale alert =>
    cases hresolve : cascade.holdings.resolveAlert conditions alert.id with
    | error failure => simp only [complete, followUp, perform, resolveAlert_eq, hresolve, List.foldl_nil]
    | ok left =>
      simp only [complete, followUp, perform, resolveAlert_eq, hresolve, List.foldl_cons, List.foldl_nil]
  | _ => rfl

/-- A cascade is what its calls come to. -/
theorem foldl_complete_itinerary (cluster : Cluster) (connection : ConnectionEnd) (holdings : Holdings) :
    itinerary.foldl (complete conditions)
        ⟨holdings, { clusterId := cluster.id, clusterName := cluster.name, connection }⟩ =
      run conditions cluster connection holdings :=
  rfl

/-- What led from a call to one that has to be made because of it. -/
inductive LeadsTo (cascade : Cascade) : Task → Task → Prop
  | removal (kind : ResourceKind) (resource : Resource) :
    LeadsTo cascade (.search kind) (.remove kind resource)
  | found {deployments : List Resource} {deployment : Resource} (hmem : deployment ∈ deployments)
    (hsearch : cascade.holdings.search conditions .deployments cascade.report.clusterId =
      .ok deployments) : LeadsTo cascade (.search .deployments) (.searchAlerts deployment)
  | listed {deployment : Resource} {alerts : List Alert} {alert : Alert} (hmem : alert ∈ alerts)
    (hsearch : cascade.holdings.activeAlerts conditions deployment.id = .ok alerts) :
    LeadsTo cascade (.searchAlerts deployment) (.markStale alert)
  | marked (alert : Alert) : LeadsTo cascade (.markStale alert) (.handOn alert)

/-- How many calls can follow each other because of a call. -/
def Task.depth : Task → Nat
  | .search _ => 3
  | .searchAlerts _ => 2
  | .markStale _ => 1
  | _ => 0

theorem LeadsTo.depth_lt {cascade : Cascade} {task next : Task}
    (h : LeadsTo conditions cascade task next) : next.depth < task.depth := by
  cases h <;> simp [Task.depth]

theorem Task.depth_lt (task : Task) : task.depth < 4 := by
  cases task <;> simp [depth]

theorem leadsTo_of_mem_followUp {cascade : Cascade} {task next : Task}
    (h : next ∈ cascade.followUp conditions task) : LeadsTo conditions cascade task next := by
  cases task with
  | search kind =>
    cases hsearch : cascade.holdings.search conditions kind cascade.report.clusterId with
    | error failure => simp [followUp, hsearch] at h
    | ok found =>
      simp only [followUp, hsearch, List.mem_flatMap] at h
      obtain ⟨resource, hresource, hremoval⟩ := h
      cases kind with
      | deployments =>
        simp only [Task.removal, List.mem_cons, List.not_mem_nil, or_false] at hremoval
        rcases hremoval with rfl | rfl
        · exact .found hresource hsearch
        · exact .removal _ _
      | _ =>
        cases List.mem_singleton.1 hremoval
        exact .removal _ _
  | searchAlerts deployment =>
    cases hsearch : cascade.holdings.activeAlerts conditions deployment.id with
    | error failure => simp [followUp, hsearch] at h
    | ok alerts =>
      simp only [followUp, hsearch, List.mem_map] at h
      obtain ⟨alert, halert, rfl⟩ := h
      exact .listed halert hsearch
  | markStale alert =>
    cases hresolve : cascade.holdings.resolveAlert conditions alert.id with
    | error failure => simp [followUp, hresolve] at h
    | ok left =>
      simp only [followUp, hresolve, List.mem_singleton] at h
      rw [h]
      exact .marked alert
  | _ => cases h

end

/-! ## Calls keep to a share -/

section

variable {share : Share} {clusterId : String} {todo rest : List Task} {task : Task} {cascade : Cascade}

/-- An alert that is still to be marked or handed on. -/
def Pending (todo : List Task) (alert : Alert) : Prop :=
  .markStale alert ∈ todo ∨ .handOn alert ∈ todo

/-- A cascade that is ready for calls that it has to make yet. -/
structure Fits (share : Share) (clusterId : String) (todo : List Task) (cascade : Cascade) : Prop where
  ready : Ready share clusterId cascade
  inside : ∀ deployment, .searchAlerts deployment ∈ todo → share.deployments deployment.id = true
  kept : ∀ alert, Pending todo alert → Kept share cascade alert

/-- It does not matter for this what is held beside the share. -/
theorem Fits.moved {holdings left : Holdings} {report : Report}
    (h : Fits share clusterId todo ⟨holdings, report⟩) (hid : share.clusters clusterId = true)
    (hagree : holdings.Agree share left) (hkeyed : left.AlertsKeyed) :
    Fits share clusterId todo ⟨left, report⟩ := by
  refine ⟨⟨h.ready.subject, hkeyed, ?_⟩, h.inside, fun alert hmem => ?_⟩
  · intro deployment hdeployment
    apply h.ready.owned deployment
    unfold Holdings.resourcesOf at hdeployment ⊢
    rwa [hagree.resources .deployments clusterId hid]
  · obtain ⟨hinside, stored, hstored, hshare⟩ := h.kept alert hmem
    exact ⟨hinside, stored, hagree.get?_alerts hstored hshare, hshare⟩

theorem Fits.fail (h : Fits share clusterId todo cascade) (subsystem : Subsystem)
    (resourceId : Option String) (failure : Failure) :
    Fits share clusterId todo (cascade.fail subsystem resourceId failure) :=
  ⟨h.ready.fail _ _ _, h.inside, fun alert hmem =>
    ⟨(h.kept alert hmem).inside, (h.kept alert hmem).stored⟩⟩

theorem Local.fits {step : Cascade → Cascade}
    (h : Local share (fun cascade => Ready share clusterId cascade ∧
      ∀ alert, Pending todo alert → Kept share cascade alert) step) :
    Local share (Fits share clusterId todo) step where
  keeps cascade hfits :=
    have hkeeps := h.keeps cascade ⟨hfits.ready, hfits.kept⟩
    ⟨hkeeps.1, hfits.inside, hkeeps.2⟩
  apart cascade hfits := h.apart cascade ⟨hfits.ready, hfits.kept⟩
  alike first second hfirst hsecond halike :=
    h.alike first second ⟨hfirst.ready, hfirst.kept⟩ ⟨hsecond.ready, hsecond.kept⟩ halike

/-- A step that does not touch the alerts keeps those that are listed. -/
theorem Local.keeping {step : Cascade → Cascade} (h : Local share (Ready share clusterId) step)
    (halerts : ∀ cascade, (step cascade).holdings.alerts = cascade.holdings.alerts)
    (listed : Alert → Prop) :
    Local share (fun cascade => Ready share clusterId cascade ∧
      ∀ alert, listed alert → Kept share cascade alert) step where
  keeps cascade hgood := by
    refine ⟨h.keeps cascade hgood.1, fun alert hlisted => ?_⟩
    obtain ⟨hinside, hstored⟩ := hgood.2 alert hlisted
    rw [← halerts] at hstored
    exact ⟨hinside, hstored⟩
  apart cascade hgood := h.apart cascade hgood.1
  alike first second hfirst hsecond halike := h.alike first second hfirst.1 hsecond.1 halike

theorem local_forgetRank (hid : share.clusters clusterId = true) :
    Local share (Ready share clusterId) fun cascade =>
      { cascade with holdings := cascade.holdings.forgetRank cascade.report.clusterId } := by
  refine ⟨?_, ?_, ?_⟩
  · exact fun cascade hready => ⟨hready.subject, hready.keyed, hready.owned⟩
  · intro cascade hready
    apply Holdings.agree_forgetRank
    rw [hready.subject]
    simp [Share.rest, hid]
  · intro first second hfirst hsecond halike
    refine ⟨?_, halike.removals, halike.failures⟩
    rw [hfirst.subject, hsecond.subject]
    exact halike.agree.forgetRank clusterId

variable (conditions : Conditions)

theorem alerts_removeResource (kind : ResourceKind) (cascade : Cascade) (resource : Resource) :
    (cascade.removeResource conditions kind resource).holdings.alerts = cascade.holdings.alerts := by
  rw [removeResource_apply]
  cases conditions.refusal? kind resource.id <;> rfl

theorem alerts_forgetHealth (cascade : Cascade) :
    (cascade.forgetHealth conditions).holdings.alerts = cascade.holdings.alerts := by
  rw [forgetHealth_apply]
  split <;> rfl

/-- Every call keeps to the share of its cascade. -/
theorem local_perform (hid : share.clusters clusterId = true) (hmem : task ∈ todo) :
    Local share (Fits share clusterId todo) fun cascade => cascade.perform conditions task := by
  cases task with
  | forgetRank => exact ((local_forgetRank hid).keeping (fun _ => rfl) _).fits
  | forgetHealth =>
    exact ((local_forgetHealth conditions hid).keeping (alerts_forgetHealth conditions) _).fits
  | search kind =>
    refine Local.ask (fun cascade => cascade.holdings.search conditions kind cascade.report.clusterId)
      (fun _ => Fits share clusterId todo) (fun _ hfits => hfits) (fun _ _ hfits => hfits) ?_ ?_
    · exact fun first second hfirst hsecond halike =>
        halike.search conditions hid hfirst.ready hsecond.ready kind
    · rintro (failure | found) _ _
      · exact ⟨_, local_fail fun _ hfits => hfits.fail (.resources kind) none failure,
          fun cascade hanswer => by simp only [perform, hanswer]⟩
      · exact ⟨_, .idle, fun cascade hanswer => by simp only [perform, hanswer]⟩
  | remove kind resource =>
    exact ((local_removeResource conditions hid kind resource).keeping
      (fun cascade => alerts_removeResource conditions kind cascade resource) _).fits
  | searchAlerts deployment =>
    refine Local.ask (fun cascade => cascade.holdings.activeAlerts conditions deployment.id)
      (fun _ => Fits share clusterId todo) (fun _ hfits => hfits) (fun _ _ hfits => hfits) ?_ ?_
    · exact fun first second hfirst _ halike =>
        activeAlerts_congr conditions halike.agree (hfirst.inside deployment hmem)
    · rintro (failure | alerts) _ _
      · exact ⟨_, local_fail fun _ hfits => hfits.fail .alerts (some deployment.id) failure,
          fun cascade hanswer => by simp only [perform, hanswer]⟩
      · exact ⟨_, .idle, fun cascade hanswer => by simp only [perform, hanswer]⟩
  | markStale alert => exact (local_markStale conditions (.inl hmem)).fits
  | handOn alert => exact (local_handOn (.inr hmem)).fits

/-- What has to be done because of an answer can be told from the share. -/
theorem followUp_congr {first second : Cascade} (hid : share.clusters clusterId = true)
    (hmem : task ∈ todo) (hfirst : Fits share clusterId todo first)
    (hsecond : Fits share clusterId todo second) (halike : Alike share first second) :
    first.followUp conditions task = second.followUp conditions task := by
  cases task with
  | search kind =>
    simp only [followUp, halike.search conditions hid hfirst.ready hsecond.ready kind]
  | searchAlerts deployment =>
    simp only [followUp, activeAlerts_congr conditions halike.agree (hfirst.inside deployment hmem)]
  | markStale alert =>
    obtain ⟨stored, hstored, -⟩ := (hfirst.kept alert (.inl hmem)).stored
    obtain ⟨stored', hstored', -⟩ := (hsecond.kept alert (.inl hmem)).stored
    simp only [followUp, Holdings.resolveAlert_of_stored hstored,
      Holdings.resolveAlert_of_stored hstored']
    cases conditions.resolutionFailure? alert.id <;> rfl
  | _ => rfl

/-- After a call the cascade is ready for those that have to be made because of it. -/
theorem Fits.perform (h : Fits share clusterId (task :: rest) cascade)
    (hid : share.clusters clusterId = true) :
    Fits share clusterId (cascade.followUp conditions task ++ rest)
      (cascade.perform conditions task) := by
  have hnext := (local_perform conditions hid List.mem_cons_self).keeps cascade h
  have hinside : ∀ deployment, .searchAlerts deployment ∈ cascade.followUp conditions task →
      share.deployments deployment.id = true := by
    intro deployment hmem
    cases leadsTo_of_mem_followUp conditions hmem with
    | found hfound hsearch =>
      rw [Holdings.eq_of_search hsearch, h.ready.subject] at hfound
      exact h.ready.owned deployment hfound
  have hmarked : ∀ alert, .markStale alert ∈ cascade.followUp conditions task →
      Kept share (cascade.perform conditions task) alert := by
    intro alert hmem
    cases leadsTo_of_mem_followUp conditions hmem with
    | listed hlisted hsearch =>
      simp only [Cascade.perform, hsearch]
      exact kept_of_activeAlerts conditions h.ready (h.inside _ List.mem_cons_self) hsearch alert hlisted
  have hhanded : ∀ alert, .handOn alert ∈ cascade.followUp conditions task →
      Kept share (cascade.perform conditions task) alert := by
    intro alert hmem
    cases leadsTo_of_mem_followUp conditions hmem with
    | marked => exact hnext.kept alert (.inl List.mem_cons_self)
  refine ⟨hnext.ready, fun deployment hmem => ?_, fun alert hmem => ?_⟩
  · exact (List.mem_append.1 hmem).elim (hinside deployment)
      fun hrest => hnext.inside deployment (List.mem_cons_of_mem _ hrest)
  · rcases hmem with hmem | hmem
    · exact (List.mem_append.1 hmem).elim (hmarked alert)
        fun hrest => hnext.kept alert (.inl (List.mem_cons_of_mem _ hrest))
    · exact (List.mem_append.1 hmem).elim (hhanded alert)
        fun hrest => hnext.kept alert (.inr (List.mem_cons_of_mem _ hrest))

/-- A call notes what was removed and what has failed, and nothing else. -/
theorem report_perform (cascade : Cascade) (task : Task) : ∃ removals failures,
    (cascade.perform conditions task).report = { cascade.report with removals, failures } := by
  cases task with
  | forgetRank => exact ⟨_, _, rfl⟩
  | forgetHealth =>
    simp only [perform, forgetHealth_apply]
    split <;> exact ⟨_, _, rfl⟩
  | search kind =>
    simp only [perform]
    cases cascade.holdings.search conditions kind cascade.report.clusterId <;> exact ⟨_, _, rfl⟩
  | remove kind resource =>
    simp only [perform, removeResource_apply]
    cases conditions.refusal? kind resource.id <;> exact ⟨_, _, rfl⟩
  | searchAlerts deployment =>
    simp only [perform]
    cases cascade.holdings.activeAlerts conditions deployment.id <;> exact ⟨_, _, rfl⟩
  | markStale alert =>
    simp only [perform, markStale]
    cases cascade.holdings.resolveAlert conditions alert.id <;> exact ⟨_, _, rfl⟩
  | handOn alert => exact ⟨_, _, rfl⟩

theorem report_perform_congr {first second : Cascade} (hreport : first.report = second.report)
    (halike : Alike share (first.perform conditions task) (second.perform conditions task)) :
    (first.perform conditions task).report = (second.perform conditions task).report := by
  have hremovals := halike.removals
  have hfailures := halike.failures
  obtain ⟨removals, failures, hfirst⟩ := report_perform conditions first task
  obtain ⟨removals', failures', hsecond⟩ := report_perform conditions second task
  rw [hfirst, hsecond] at hremovals hfailures
  rw [hfirst, hsecond, hreport, show removals = removals' from hremovals,
    show failures = failures' from hfailures]

end

end Cascade

end Fleet
