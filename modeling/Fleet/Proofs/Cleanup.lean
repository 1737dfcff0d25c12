import Fleet.Proofs.Tables
import Fleet.Teardown.Cascade

/-!
# Teardown reports are exact

What a teardown says about a subsystem is what it did there: every resource that was found is either
counted as removed and gone, or listed with the reason and still there. No failure elsewhere changes
that, so a report without failures means that nothing is left of the cluster.
-/

namespace Fleet

/-- Why the removal of a resource fails, if it does. -/
def Conditions.refusal? (conditions : Conditions) (kind : ResourceKind) (resourceId : String) :
    Option Failure :=
  if conditions.isOut (.resourceRemove kind) resourceId then
    some (Call.resourceRemove kind).failure
  else if conditions.offline.contains (.resources kind) then some (Part.resources kind).failure
  else none

/-- How a report lists a resource of which the removal fails. -/
def Conditions.refused? (conditions : Conditions) (kind : ResourceKind) (resource : Resource) :
    Option StepFailure :=
  (conditions.refusal? kind resource.id).map fun failure =>
    ⟨.resources kind, some resource.id, failure.message⟩

namespace Holdings

variable {holdings left : Holdings} {conditions : Conditions} {kind : ResourceKind}

/-- Every alert is kept under its own id. -/
def AlertsKeyed (holdings : Holdings) : Prop :=
  ∀ id alert, holdings.alerts.get? id = some alert → alert.id = id

/-- No alert of a deployment is active. -/
def NoActiveAlert (holdings : Holdings) (deploymentId : String) : Prop :=
  ∀ id alert, holdings.alerts.get? id = some alert → alert.deploymentId = deploymentId →
    alert.state ≠ .active

theorem remove_of_refused {clusterId resourceId : String} {failure : Failure}
    (h : conditions.refusal? kind resourceId = some failure) :
    holdings.remove conditions kind clusterId resourceId = .error failure := by
  unfold Conditions.refusal? at h
  unfold remove Conditions.check Conditions.checkPart
  split at h
  · rename_i hout
    cases h
    rw [if_pos hout]
    rfl
  · rename_i hin
    split at h
    · rename_i hoffline
      cases h
      rw [if_neg hin, if_pos hoffline]
      rfl
    · cases h

/-- A removal that goes through takes out what has the id and leaves everything else. -/
theorem remove_of_unrefused (holdings : Holdings) (clusterId : String) {resourceId : String}
    (h : conditions.refusal? kind resourceId = none) :
    ∃ table, holdings.remove conditions kind clusterId resourceId =
        .ok (holdings.changeKind kind fun _ => table) ∧
      (table.get? clusterId).getD [] =
        (holdings.resourcesOf kind clusterId).filter (·.id ≠ resourceId) ∧
      ∀ other, other ≠ clusterId → table.get? other = (holdings.resources kind).get? other := by
  have hpassed : conditions.isOut (.resourceRemove kind) resourceId = false ∧
      conditions.offline.contains (.resources kind) = false := by
    unfold Conditions.refusal? at h
    split at h
    · cases h
    · rename_i hin
      split at h
      · cases h
      · rename_i hon
        exact ⟨Bool.eq_false_iff.2 hin, Bool.eq_false_iff.2 hon⟩
  unfold remove Conditions.check Conditions.checkPart resourcesOf
  rw [if_neg (Bool.eq_false_iff.1 hpassed.1), if_neg (Bool.eq_false_iff.1 hpassed.2)]
  cases hheld : (holdings.resources kind).get? clusterId with
  | none =>
    refine ⟨holdings.resources kind, ?_, by simp [hheld], fun _ _ => rfl⟩
    have hsame : holdings.tables.set kind (holdings.tables.get kind) = holdings.tables := by
      cases kind <;> rfl
    simp only [changeKind, resources, hsame]
    rfl
  | some held =>
    refine ⟨_, rfl, ?_, ?_⟩
    · rw [Table.get?_insert_self]
      rfl
    · intro other hother
      exact Table.get?_insert_of_ne _ _ hother

/-- Whether a removal fails has to do with the conditions only, not with what is held. -/
theorem remove_eq_error_iff {clusterId resourceId : String} {failure : Failure} :
    holdings.remove conditions kind clusterId resourceId = .error failure ↔
      conditions.refusal? kind resourceId = some failure := by
  cases h : conditions.refusal? kind resourceId with
  | some refusal =>
    rw [remove_of_refused h]
    simp
  | none =>
    obtain ⟨table, hremove, -⟩ := remove_of_unrefused holdings clusterId h
    rw [hremove]
    simp

theorem eq_of_search {clusterId : String} {found : List Resource}
    (h : holdings.search conditions kind clusterId = .ok found) :
    found = holdings.resourcesOf kind clusterId := by
  unfold search Conditions.check Conditions.checkPart at h
  split at h
  · cases h
  · split at h
    · cases h
    · cases h
      rfl

/-- The active alerts of a deployment, by id. -/
def openAlerts (holdings : Holdings) (deploymentId : String) : List Alert :=
  holdings.alerts.values.filter fun alert =>
    alert.deploymentId = deploymentId && alert.state = .active

theorem eq_of_activeAlerts {deploymentId : String} {alerts : List Alert}
    (h : holdings.activeAlerts conditions deploymentId = .ok alerts) :
    alerts = holdings.openAlerts deploymentId := by
  unfold activeAlerts Conditions.check Conditions.checkPart at h
  split at h
  · cases h
  split at h
  · cases h
  · cases h
    rfl

/-- The answer can be told from the open alerts. -/
theorem activeAlerts_congr {left right : Holdings} (conditions : Conditions) {deploymentId : String}
    (h : left.openAlerts deploymentId = right.openAlerts deploymentId) :
    left.activeAlerts conditions deploymentId = right.activeAlerts conditions deploymentId := by
  unfold openAlerts at h
  unfold activeAlerts
  rw [h]

theorem mem_values_iff (hkeyed : holdings.AlertsKeyed) (alert : Alert) :
    alert ∈ holdings.alerts.values ↔ holdings.alerts.get? alert.id = some alert := by
  unfold Table.values
  rw [Table.get?_eq_some_iff, List.mem_map]
  constructor
  · rintro ⟨⟨key, found⟩, hentry, rfl⟩
    rwa [hkeyed key found ((Table.get?_eq_some_iff _ _ _).2 hentry)]
  · exact fun hentry => ⟨_, hentry, rfl⟩

theorem mem_openAlerts_iff (hkeyed : holdings.AlertsKeyed) (deploymentId : String) (alert : Alert) :
    alert ∈ holdings.openAlerts deploymentId ↔
      holdings.alerts.get? alert.id = some alert ∧ alert.deploymentId = deploymentId ∧
        alert.state = .active := by
  unfold openAlerts
  rw [List.mem_filter, mem_values_iff hkeyed]
  simp

theorem forgetHealth_eq (holdings : Holdings) (conditions : Conditions) (clusterId : String) :
    holdings.forgetHealth conditions clusterId =
      if conditions.isOut .healthDelete clusterId then .error Call.healthDelete.failure
      else .ok { holdings with health := holdings.health.erase clusterId } := by
  unfold forgetHealth Conditions.check
  split <;> rfl

end Holdings

namespace Cascade

/-! ## What a step leaves alone -/

/-- A step that touches some subsystems leaves all others as they were, and what the report says about
them. -/
structure Spares (touched : List Subsystem) (before after : Cascade) : Prop where
  clusterId : after.report.clusterId = before.report.clusterId
  clusterName : after.report.clusterName = before.report.clusterName
  ranks : after.holdings.ranks = before.holdings.ranks
  removals : ∀ subsystem, subsystem ∉ touched →
    after.report.removedFrom subsystem = before.report.removedFrom subsystem
  failures : ∀ subsystem, subsystem ∉ touched →
    after.report.failuresIn subsystem = before.report.failuresIn subsystem
  health : .health ∉ touched → after.holdings.health = before.holdings.health
  alerts : .alerts ∉ touched → after.holdings.alerts = before.holdings.alerts
  resources : ∀ kind, .resources kind ∉ touched →
    after.holdings.resources kind = before.holdings.resources kind

theorem failuresIn_fail (cascade : Cascade) (subsystem other : Subsystem)
    (resourceId : Option String) (failure : Failure) :
    (cascade.fail subsystem resourceId failure).report.failuresIn other =
      cascade.report.failuresIn other ++
        if subsystem = other then [⟨subsystem, resourceId, failure.message⟩] else [] := by
  simp only [fail, Report.failuresIn, List.filter_append]
  by_cases h : subsystem = other <;> simp [h]

theorem removedFrom_removed (cascade : Cascade) (subsystem other : Subsystem) (left : Holdings) :
    (cascade.removed subsystem left).report.removedFrom other =
      cascade.report.removedFrom other + if subsystem = other then 1 else 0 := by
  simp only [removed, Report.removedFrom, List.count_append]
  by_cases h : subsystem = other <;> simp [h]

namespace Spares

variable {touched : List Subsystem} {before middle after : Cascade}

theorem refl (touched : List Subsystem) (cascade : Cascade) : Spares touched cascade cascade :=
  ⟨rfl, rfl, rfl, fun _ _ => rfl, fun _ _ => rfl, fun _ => rfl, fun _ => rfl, fun _ _ => rfl⟩

theorem trans (h : Spares touched before middle) (h' : Spares touched middle after) :
    Spares touched before after where
  clusterId := h'.clusterId.trans h.clusterId
  clusterName := h'.clusterName.trans h.clusterName
  ranks := h'.ranks.trans h.ranks
  removals s hs := (h'.removals s hs).trans (h.removals s hs)
  failures s hs := (h'.failures s hs).trans (h.failures s hs)
  health hs := (h'.health hs).trans (h.health hs)
  alerts hs := (h'.alerts hs).trans (h.alerts hs)
  resources kind hs := (h'.resources kind hs).trans (h.resources kind hs)

theorem mono (h : Spares touched before after) (more : List Subsystem) (hsub : touched ⊆ more) :
    Spares more before after where
  clusterId := h.clusterId
  clusterName := h.clusterName
  ranks := h.ranks
  removals s hs := h.removals s fun hmem => hs (hsub hmem)
  failures s hs := h.failures s fun hmem => hs (hsub hmem)
  health hs := h.health fun hmem => hs (hsub hmem)
  alerts hs := h.alerts fun hmem => hs (hsub hmem)
  resources kind hs := h.resources kind fun hmem => hs (hsub hmem)

/-- Steps that each touch no more than these touch no more together. -/
theorem foldl {α : Type} {step : Cascade → α → Cascade} {elements : List α}
    (h : ∀ cascade, ∀ element ∈ elements, Spares touched cascade (step cascade element))
    (cascade : Cascade) : Spares touched cascade (elements.foldl step cascade) := by
  induction elements generalizing cascade with
  | nil => exact refl touched cascade
  | cons first rest ih =>
    rw [List.foldl_cons]
    have hfirst := h cascade first List.mem_cons_self
    exact hfirst.trans (ih (fun c element hmem => h c element (List.mem_cons_of_mem _ hmem)) _)

end Spares

theorem spares_fail (cascade : Cascade) (subsystem : Subsystem) (resourceId : Option String)
    (failure : Failure) :
    Spares [subsystem] cascade (cascade.fail subsystem resourceId failure) := by
  refine ⟨rfl, rfl, rfl, fun _ _ => rfl, ?_, fun _ => rfl, fun _ => rfl, fun _ _ => rfl⟩
  intro other hother
  rw [failuresIn_fail, if_neg, List.append_nil]
  rintro rfl
  exact hother List.mem_cons_self

theorem spares_removed (cascade : Cascade) (subsystem : Subsystem) {left : Holdings}
    (hranks : left.ranks = cascade.holdings.ranks) (hhealth : left.health = cascade.holdings.health)
    (halerts : .alerts ≠ subsystem → left.alerts = cascade.holdings.alerts)
    (hresources : ∀ kind, .resources kind ≠ subsystem →
      left.resources kind = cascade.holdings.resources kind) :
    Spares [subsystem] cascade (cascade.removed subsystem left) := by
  refine ⟨rfl, rfl, hranks, ?_, fun _ _ => rfl, fun _ => hhealth, ?_, ?_⟩
  · intro other hother
    rw [removedFrom_removed, if_neg, Nat.add_zero]
    rintro rfl
    exact hother List.mem_cons_self
  · intro hother
    exact halerts fun heq => hother (heq ▸ List.mem_cons_self)
  · intro kind hother
    exact hresources kind fun heq => hother (heq ▸ List.mem_cons_self)

/-! ## Removing the resources of a kind -/

section

variable {conditions : Conditions} {kind : ResourceKind} {before middle after : Cascade}

/-- The resources of a kind that were found are removed one after another, save those of which the
removal fails. -/
structure Clears (conditions : Conditions) (kind : ResourceKind) (found : List Resource)
    (before after : Cascade) : Prop where
  clusterId : after.report.clusterId = before.report.clusterId
  failures : after.report.failuresIn (.resources kind) =
    before.report.failuresIn (.resources kind) ++ found.filterMap (conditions.refused? kind)
  removals : after.report.removedFrom (.resources kind) =
    before.report.removedFrom (.resources kind) +
      found.countP fun resource => (conditions.refusal? kind resource.id).isNone
  own : after.holdings.resourcesOf kind before.report.clusterId =
    (before.holdings.resourcesOf kind before.report.clusterId).filter fun held =>
      (conditions.refusal? kind held.id).isSome || found.all (·.id ≠ held.id)
  others : ∀ other, other ≠ before.report.clusterId →
    (after.holdings.resources kind).get? other = (before.holdings.resources kind).get? other

namespace Clears

theorem nil (cascade : Cascade) : Clears conditions kind [] cascade cascade := by
  refine ⟨rfl, by simp, rfl, ?_, fun _ _ => rfl⟩
  symm
  exact List.filter_eq_self.2 fun held _ => by simp

theorem cons {first : Resource} {rest : List Resource}
    (h : Clears conditions kind [first] before middle) (h' : Clears conditions kind rest middle after) :
    Clears conditions kind (first :: rest) before after := by
  have hclusterId := h.clusterId
  refine ⟨h'.clusterId.trans hclusterId, ?_, ?_, ?_, ?_⟩
  · rw [h'.failures, h.failures, List.append_assoc, ← List.filterMap_append]
    rfl
  · have hlater := h'.removals
    have hsooner := h.removals
    rw [← List.singleton_append, List.countP_append]
    omega
  · have hlater := h'.own
    rw [hclusterId, h.own, List.filter_filter] at hlater
    rw [hlater]
    apply List.filter_congr
    intro held _
    simp only [List.all_cons, List.all_nil, Bool.and_true]
    cases (conditions.refusal? kind held.id).isSome <;> simp [Bool.and_comm]
  · intro other hother
    rw [h'.others other (by rwa [hclusterId]), h.others other hother]

/-- What touches other subsystems only may come in between. -/
theorem of_spares {touched : List Subsystem} {found : List Resource}
    (hspares : Spares touched before middle) (hkind : .resources kind ∉ touched)
    (h : Clears conditions kind found middle after) : Clears conditions kind found before after := by
  have hclusterId := hspares.clusterId
  have hresources := hspares.resources kind hkind
  refine ⟨h.clusterId.trans hclusterId, ?_, ?_, ?_, ?_⟩
  · rw [h.failures, hspares.failures _ hkind]
  · rw [h.removals, hspares.removals _ hkind]
  · have hown := h.own
    unfold Holdings.resourcesOf at hown ⊢
    rwa [hclusterId, hresources] at hown
  · intro other hother
    rw [h.others other (by rwa [hclusterId]), hresources]

theorem then_spares {touched : List Subsystem} {found : List Resource}
    (h : Clears conditions kind found before middle) (hspares : Spares touched middle after)
    (hkind : .resources kind ∉ touched) : Clears conditions kind found before after := by
  have hresources := hspares.resources kind hkind
  refine ⟨hspares.clusterId.trans h.clusterId, ?_, ?_, ?_, ?_⟩
  · rw [hspares.failures _ hkind, h.failures]
  · rw [hspares.removals _ hkind, h.removals]
  · rw [← h.own]
    unfold Holdings.resourcesOf
    rw [hresources]
  · intro other hother
    rw [hresources, h.others other hother]

theorem foldl {step : Cascade → Resource → Cascade}
    (h : ∀ cascade resource, Clears conditions kind [resource] cascade (step cascade resource))
    (found : List Resource) (cascade : Cascade) :
    Clears conditions kind found cascade (found.foldl step cascade) := by
  induction found generalizing cascade with
  | nil => exact nil cascade
  | cons first rest ih => exact (h cascade first).cons (ih _)

end Clears

theorem clears_removeResource (cascade : Cascade) (resource : Resource) :
    Clears conditions kind [resource] cascade
      (cascade.removeResource conditions kind resource) := by
  unfold removeResource
  cases hrefusal : conditions.refusal? kind resource.id with
  | some failure =>
    rw [Holdings.remove_of_refused hrefusal]
    refine ⟨rfl, ?_, ?_, ?_, fun _ _ => rfl⟩
    · rw [failuresIn_fail, if_pos rfl]
      simp [Conditions.refused?, hrefusal]
    · simp [hrefusal, fail, Report.removedFrom]
    · symm
      apply List.filter_eq_self.2
      intro held _
      by_cases heq : resource.id = held.id
      · simp [← heq, hrefusal]
      · simp [heq]
  | none =>
    obtain ⟨table, hremove, hown, hothers⟩ := Holdings.remove_of_unrefused
      cascade.holdings cascade.report.clusterId hrefusal
    rw [hremove]
    refine ⟨rfl, ?_, ?_, ?_, ?_⟩
    · simp [Conditions.refused?, hrefusal, removed, Report.failuresIn]
    · rw [removedFrom_removed, if_pos rfl]
      simp [hrefusal]
    · have htable : (cascade.holdings.changeKind kind fun _ => table).resources kind = table := by
        simp
      change (((cascade.holdings.changeKind kind fun _ => table).resources kind).get? _).getD [] = _
      rw [htable, hown]
      apply List.filter_congr
      intro held _
      by_cases heq : held.id = resource.id
      · simp [heq, hrefusal]
      · simp [heq, Ne.symm heq]
    · intro other hother
      change ((cascade.holdings.changeKind kind fun _ => table).resources kind).get? other = _
      simp [hothers other hother]

theorem spares_removeResource (cascade : Cascade) (resource : Resource) :
    Spares [.resources kind] cascade (cascade.removeResource conditions kind resource) := by
  unfold removeResource
  cases hrefusal : conditions.refusal? kind resource.id with
  | some failure =>
    rw [Holdings.remove_of_refused hrefusal]
    exact spares_fail _ _ _ _
  | none =>
    obtain ⟨table, hremove, -⟩ := Holdings.remove_of_unrefused
      cascade.holdings cascade.report.clusterId hrefusal
    rw [hremove]
    refine spares_removed _ _ rfl rfl (fun _ => rfl) ?_
    intro other hother
    have hne : other ≠ kind := fun heq => hother (congrArg _ heq)
    simp [hne]

end

/-! ## Resolving alerts -/

section

variable (conditions : Conditions) {before middle after : Cascade}

/-- Alerts are only ever resolved, and failures to do so stay in the report. -/
structure Calms (before after : Cascade) : Prop where
  keyed : before.holdings.AlertsKeyed → after.holdings.AlertsKeyed
  active : before.holdings.AlertsKeyed → ∀ id alert, after.holdings.alerts.get? id = some alert →
    alert.state = .active → before.holdings.alerts.get? id = some alert
  failures : before.report.failuresIn .alerts <+: after.report.failuresIn .alerts

namespace Calms

theorem refl (cascade : Cascade) : Calms cascade cascade :=
  ⟨fun h => h, fun _ _ _ h _ => h, List.prefix_rfl⟩

theorem trans (h : Calms before middle) (h' : Calms middle after) : Calms before after where
  keyed hkeyed := h'.keyed (h.keyed hkeyed)
  active hkeyed id alert hget hactive :=
    h.active hkeyed id alert (h'.active (h.keyed hkeyed) id alert hget hactive) hactive
  failures := h.failures.trans h'.failures

theorem of_spares {touched : List Subsystem} (h : Spares touched before after)
    (halerts : .alerts ∉ touched) : Calms before after := by
  have hsame := h.alerts halerts
  refine ⟨?_, ?_, ?_⟩
  · intro hkeyed
    unfold Holdings.AlertsKeyed
    rwa [hsame]
  · intro _ id alert hget _
    rwa [hsame] at hget
  · exact ⟨[], by rw [List.append_nil, h.failures _ halerts]⟩

theorem foldl {α : Type} {step : Cascade → α → Cascade}
    (h : ∀ cascade element, Calms cascade (step cascade element)) (elements : List α)
    (cascade : Cascade) : Calms cascade (elements.foldl step cascade) := by
  induction elements generalizing cascade with
  | nil => exact refl cascade
  | cons first rest ih =>
    rw [List.foldl_cons]
    exact (h cascade first).trans (ih _)

/-- A report without failures in the end had none before. -/
theorem unfailed (h : Calms before after) (hnone : after.report.failuresIn .alerts = []) :
    before.report.failuresIn .alerts = [] := by
  have hprefix := h.failures
  rw [hnone] at hprefix
  exact List.prefix_nil.1 hprefix

theorem noActiveAlert (h : Calms before after) (hkeyed : before.holdings.AlertsKeyed)
    {deploymentId : String} (hnone : before.holdings.NoActiveAlert deploymentId) :
    after.holdings.NoActiveAlert deploymentId := by
  intro id alert hget hdeployment hactive
  exact hnone id alert (h.active hkeyed id alert hget hactive) hdeployment hactive

end Calms

theorem failuresIn_alerts_fail_ne_nil (cascade : Cascade) (resourceId : Option String)
    (failure : Failure) :
    (cascade.fail .alerts resourceId failure).report.failuresIn .alerts ≠ [] := by
  rw [failuresIn_fail, if_pos rfl]
  simp

theorem calms_fail (cascade : Cascade) (resourceId : Option String) (failure : Failure) :
    Calms cascade (cascade.fail .alerts resourceId failure) := by
  refine ⟨fun h => h, fun _ _ _ h _ => h, ?_⟩
  rw [failuresIn_fail]
  exact List.prefix_append _ _

/-- An alert that could be resolved is not active any more. -/
theorem resolveAlert_cases (conditions : Conditions) (cascade : Cascade) (alert : Alert) :
    (∃ failure, cascade.resolveAlert conditions alert = cascade.fail .alerts (some alert.id) failure) ∨
      ∃ stored left, cascade.holdings.alerts.get? alert.id = some stored ∧
        left.alerts = cascade.holdings.alerts.insert stored.id { stored with state := .resolved } ∧
        left.ranks = cascade.holdings.ranks ∧ left.health = cascade.holdings.health ∧
        left.tables = cascade.holdings.tables ∧
        cascade.resolveAlert conditions alert = cascade.removed .alerts left := by
  unfold resolveAlert
  cases hresolve : cascade.holdings.resolveAlert conditions alert.id with
  | error failure => exact .inl ⟨failure, rfl⟩
  | ok left =>
    unfold Holdings.resolveAlert Conditions.check Conditions.checkPart at hresolve
    split at hresolve
    · cases hresolve
    · split at hresolve
      · cases hresolve
      · cases hstored : cascade.holdings.alerts.get? alert.id with
        | none =>
          rw [hstored] at hresolve
          cases hresolve
        | some stored =>
          rw [hstored] at hresolve
          cases hresolve
          exact .inr ⟨stored, (cascade.holdings.addAlert { stored with state := .resolved }).notify
            { alert with state := .resolved }, rfl, rfl, rfl, rfl, rfl, rfl⟩

theorem spares_resolveAlert (cascade : Cascade) (alert : Alert) :
    Spares [.alerts] cascade (cascade.resolveAlert conditions alert) := by
  rcases resolveAlert_cases conditions cascade alert with
    ⟨failure, hfail⟩ | ⟨stored, left, -, -, hranks, hhealth, htables, hresolve⟩
  · rw [hfail]
    exact spares_fail _ _ _ _
  · rw [hresolve]
    refine spares_removed _ _ hranks hhealth (fun h => absurd rfl h) ?_
    intro kind _
    simp only [Holdings.resources, htables]

theorem calms_resolveAlert (cascade : Cascade) (alert : Alert) :
    Calms cascade (cascade.resolveAlert conditions alert) := by
  rcases resolveAlert_cases conditions cascade alert with
    ⟨failure, hfail⟩ | ⟨stored, left, hstored, halerts, -, -, -, hresolve⟩
  · rw [hfail]
    exact calms_fail _ _ _
  · rw [hresolve]
    refine ⟨?_, ?_, List.prefix_rfl⟩
    · intro hkeyed id found hget
      change left.alerts.get? id = some found at hget
      rw [halerts, Table.get?_insert] at hget
      split at hget
      · rename_i heq
        cases hget
        exact heq.symm
      · exact hkeyed id found hget
    · intro _ id found hget hactive
      change left.alerts.get? id = some found at hget
      rw [halerts, Table.get?_insert] at hget
      split at hget
      · cases hget
        cases hactive
      · exact hget

theorem not_active_of_resolveAlert (cascade : Cascade) (alert : Alert)
    (hkeyed : cascade.holdings.AlertsKeyed)
    (hnone : (cascade.resolveAlert conditions alert).report.failuresIn .alerts = []) (found : Alert)
    (hget : (cascade.resolveAlert conditions alert).holdings.alerts.get? alert.id = some found) :
    found.state ≠ .active := by
  rcases resolveAlert_cases conditions cascade alert with
    ⟨failure, hfail⟩ | ⟨stored, left, hstored, halerts, -, -, -, hresolve⟩
  · rw [hfail] at hnone
    exact absurd hnone (failuresIn_alerts_fail_ne_nil _ _ _)
  · rw [hresolve] at hget
    change left.alerts.get? alert.id = some found at hget
    rw [halerts, hkeyed _ _ hstored, Table.get?_insert_self] at hget
    cases hget
    nofun

theorem not_active_of_foldl_resolveAlert (alerts : List Alert) (cascade : Cascade)
    (hkeyed : cascade.holdings.AlertsKeyed)
    (hnone : (alerts.foldl (resolveAlert conditions) cascade).report.failuresIn .alerts = []) :
    ∀ alert ∈ alerts, ∀ found,
      (alerts.foldl (resolveAlert conditions) cascade).holdings.alerts.get? alert.id = some found →
      found.state ≠ .active := by
  induction alerts generalizing cascade with
  | nil => nofun
  | cons first rest ih =>
    rw [List.foldl_cons] at hnone ⊢
    have hfirst := calms_resolveAlert conditions cascade first
    have hrest := Calms.foldl (calms_resolveAlert conditions) rest
      (cascade.resolveAlert conditions first)
    intro alert halert found hget
    rcases List.mem_cons.1 halert with rfl | hlater
    · intro hactive
      have hearlier := hrest.active (hfirst.keyed hkeyed) _ _ hget hactive
      exact not_active_of_resolveAlert conditions cascade alert hkeyed (hrest.unfailed hnone) found
        hearlier hactive
    · exact ih _ (hfirst.keyed hkeyed) hnone alert hlater found hget

theorem spares_resolveAlerts (cascade : Cascade) (deployment : Resource) :
    Spares [.alerts] cascade (cascade.resolveAlerts conditions deployment) := by
  unfold resolveAlerts
  split
  · exact Spares.foldl (fun c alert _ => spares_resolveAlert conditions c alert) cascade
  · exact spares_fail _ _ _ _

theorem calms_resolveAlerts (cascade : Cascade) (deployment : Resource) :
    Calms cascade (cascade.resolveAlerts conditions deployment) := by
  unfold resolveAlerts
  split
  · exact Calms.foldl (calms_resolveAlert conditions) _ _
  · exact calms_fail _ _ _

theorem noActiveAlert_of_resolveAlerts (cascade : Cascade) (deployment : Resource)
    (hkeyed : cascade.holdings.AlertsKeyed)
    (hnone : (cascade.resolveAlerts conditions deployment).report.failuresIn .alerts = []) :
    (cascade.resolveAlerts conditions deployment).holdings.NoActiveAlert deployment.id := by
  have hcalms := calms_resolveAlerts conditions cascade deployment
  intro id alert hget hdeployment hactive
  have hearlier := hcalms.active hkeyed id alert hget hactive
  unfold resolveAlerts at hnone hget
  split at hnone
  · rename_i alerts halerts
    rw [halerts] at hget
    have hmem : alert ∈ alerts := by
      rw [Holdings.eq_of_activeAlerts halerts, Holdings.mem_openAlerts_iff hkeyed]
      exact ⟨hkeyed _ _ hearlier ▸ hearlier, hdeployment, hactive⟩
    rw [← hkeyed _ _ hearlier] at hget
    exact not_active_of_foldl_resolveAlert conditions alerts cascade hkeyed hnone alert hmem alert
      hget hactive
  · exact failuresIn_alerts_fail_ne_nil _ _ _ hnone

end

/-! ## Kind by kind -/

section

variable (conditions : Conditions)

theorem spares_removeDeployment (cascade : Cascade) (deployment : Resource) :
    Spares [.alerts, .resources .deployments] cascade
      (cascade.removeDeployment conditions deployment) := by
  unfold removeDeployment
  refine ((spares_resolveAlerts conditions cascade deployment).mono _ ?_).trans
    ((spares_removeResource _ deployment).mono _ ?_)
  · simp
  · simp

theorem clears_removeDeployment (cascade : Cascade) (deployment : Resource) :
    Clears conditions .deployments [deployment] cascade
      (cascade.removeDeployment conditions deployment) := by
  unfold removeDeployment
  exact (clears_removeResource _ deployment).of_spares
    (spares_resolveAlerts conditions cascade deployment) (by simp)

theorem calms_removeDeployment (cascade : Cascade) (deployment : Resource) :
    Calms cascade (cascade.removeDeployment conditions deployment) := by
  unfold removeDeployment
  exact (calms_resolveAlerts conditions cascade deployment).trans
    (.of_spares (spares_removeResource _ deployment) (by simp))

theorem noActiveAlert_of_foldl_removeDeployment (found : List Resource) (cascade : Cascade)
    (hkeyed : cascade.holdings.AlertsKeyed)
    (hnone : (found.foldl (removeDeployment conditions) cascade).report.failuresIn .alerts = []) :
    ∀ deployment ∈ found,
      (found.foldl (removeDeployment conditions) cascade).holdings.NoActiveAlert deployment.id := by
  induction found generalizing cascade with
  | nil => nofun
  | cons first rest ih =>
    rw [List.foldl_cons] at hnone ⊢
    have hfirst := calms_removeDeployment conditions cascade first
    have hrest := Calms.foldl (calms_removeDeployment conditions) rest
      (cascade.removeDeployment conditions first)
    intro deployment hdeployment
    rcases List.mem_cons.1 hdeployment with rfl | hlater
    · refine hrest.noActiveAlert (hfirst.keyed hkeyed) ?_
      have halerts := calms_resolveAlerts conditions cascade deployment
      have hremoval : Calms (cascade.resolveAlerts conditions deployment)
          (cascade.removeDeployment conditions deployment) :=
        .of_spares (spares_removeResource _ deployment) (by simp)
      refine hremoval.noActiveAlert (halerts.keyed hkeyed) ?_
      exact noActiveAlert_of_resolveAlerts conditions cascade deployment hkeyed
        (hremoval.unfailed (hrest.unfailed hnone))
    · exact ih _ (hfirst.keyed hkeyed) hnone deployment hlater

/-- What the removal of a kind comes to, if what there is of it can be found. -/
theorem removeKind_of_found {cascade : Cascade} {kind : ResourceKind} {found : List Resource}
    (h : cascade.holdings.search conditions kind cascade.report.clusterId = .ok found) :
    Clears conditions kind found cascade (cascade.removeKind conditions kind) := by
  unfold removeKind
  rw [h]
  cases kind with
  | deployments => exact Clears.foldl (clears_removeDeployment conditions) found cascade
  | _ => exact Clears.foldl clears_removeResource found cascade

theorem removeKind_of_unsearchable {cascade : Cascade} {kind : ResourceKind} {failure : Failure}
    (h : cascade.holdings.search conditions kind cascade.report.clusterId = .error failure) :
    cascade.removeKind conditions kind = cascade.fail (.resources kind) none failure := by
  unfold removeKind
  rw [h]

theorem spares_removeKind (cascade : Cascade) (kind : ResourceKind) :
    Spares [.alerts, .resources kind] cascade (cascade.removeKind conditions kind) := by
  unfold removeKind
  split
  · exact (spares_fail _ _ _ _).mono _ (by simp)
  · cases kind with
    | deployments => exact Spares.foldl (fun c d _ => spares_removeDeployment conditions c d) cascade
    | _ => exact Spares.foldl (fun c r _ => (spares_removeResource c r).mono _ (by simp)) cascade

theorem calms_removeKind (cascade : Cascade) (kind : ResourceKind) :
    Calms cascade (cascade.removeKind conditions kind) := by
  unfold removeKind
  split
  · exact .of_spares (spares_fail _ _ _ _) (by simp)
  · cases kind with
    | deployments => exact Calms.foldl (calms_removeDeployment conditions) _ _
    | _ => exact Calms.foldl (fun c r => .of_spares (spares_removeResource c r) (by simp)) _ _

theorem spares_foldl_removeKind (kinds : List ResourceKind) (cascade : Cascade) :
    Spares (.alerts :: kinds.map .resources) cascade
      (kinds.foldl (removeKind conditions) cascade) := by
  refine Spares.foldl (fun c kind hkind => ?_) cascade
  refine (spares_removeKind conditions c kind).mono _ ?_
  intro subsystem hsubsystem
  rcases List.mem_cons.1 hsubsystem with rfl | hkindly
  · exact List.mem_cons_self
  · rw [List.mem_singleton.1 hkindly]
    exact List.mem_cons_of_mem _ (List.mem_map_of_mem hkind)

/-! ## The whole teardown -/

theorem spares_forgetHealth (cascade : Cascade) :
    Spares [.health] cascade (cascade.forgetHealth conditions) := by
  unfold forgetHealth
  rw [Holdings.forgetHealth_eq]
  by_cases hout : conditions.isOut .healthDelete cascade.report.clusterId
  · rw [if_pos hout]
    exact spares_fail _ _ _ _
  · rw [if_neg hout]
    refine ⟨rfl, rfl, rfl, fun _ _ => rfl, fun _ _ => rfl, ?_, fun _ => rfl, fun _ _ => rfl⟩
    intro hhealth
    exact absurd List.mem_cons_self hhealth

end

/-- A teardown before its first step, but for the rank, which goes in any case. -/
def opening (cluster : Cluster) (connection : ConnectionEnd) (holdings : Holdings) : Cascade :=
  ⟨holdings.forgetRank cluster.id,
    { clusterId := cluster.id, clusterName := cluster.name, connection }⟩

/-- Every kind is visited once, somewhere between the others. -/
theorem exists_all_eq (kind : ResourceKind) :
    ∃ earlier later, ResourceKind.all = earlier ++ kind :: later ∧
      kind ∉ earlier ∧ kind ∉ later := by
  have hmem : kind ∈ ResourceKind.all := by
    cases kind <;> decide
  have hnodup : ResourceKind.all.Nodup := by decide
  obtain ⟨earlier, later, hall⟩ := List.append_of_mem hmem
  rw [hall, List.nodup_append, List.nodup_cons] at hnodup
  obtain ⟨-, ⟨hlater, -⟩, hapart⟩ := hnodup
  exact ⟨earlier, later, hall, fun hkind => hapart kind hkind kind List.mem_cons_self rfl, hlater⟩

section

variable (conditions : Conditions) (cluster : Cluster) (connection : ConnectionEnd)
  (holdings : Holdings)

theorem calms_forgetHealth (cascade : Cascade) : Calms cascade (cascade.forgetHealth conditions) :=
  .of_spares (spares_forgetHealth conditions cascade) (by simp)

/-- A teardown visits a kind once, with others before it and after it. -/
theorem exists_run_eq (kind : ResourceKind) :
    ∃ earlier later : List ResourceKind, kind ∉ earlier ∧ kind ∉ later ∧
      run conditions cluster connection holdings =
        later.foldl (removeKind conditions) ((earlier.foldl (removeKind conditions)
          ((opening cluster connection holdings).forgetHealth conditions)).removeKind conditions
            kind) := by
  obtain ⟨earlier, later, hall, hearlier, hlater⟩ := exists_all_eq kind
  let healthless := (opening cluster connection holdings).forgetHealth conditions
  refine ⟨earlier, later, hearlier, hlater, ?_⟩
  change ResourceKind.all.foldl (removeKind conditions) healthless = later.foldl (removeKind conditions)
    ((earlier.foldl (removeKind conditions) healthless).removeKind conditions kind)
  rw [hall, List.foldl_append, List.foldl_cons]

/-- Until a kind is visited, what there is of it stays. -/
theorem spares_earlier (earlier : List ResourceKind) :
    Spares (.health :: .alerts :: earlier.map .resources) (opening cluster connection holdings)
      (earlier.foldl (removeKind conditions)
        ((opening cluster connection holdings).forgetHealth conditions)) :=
  ((spares_forgetHealth conditions _).mono _ (by simp)).trans
    ((spares_foldl_removeKind conditions earlier _).mono _ (List.subset_cons_self _ _))

/-- What happens to the resources of a kind happens when it is visited. -/
theorem exists_removeKind_run (kind : ResourceKind) :
    ∃ before, (Calms (opening cluster connection holdings) before ∧
        ∃ touched, .resources kind ∉ touched ∧
          Spares touched (opening cluster connection holdings) before) ∧
      Calms (before.removeKind conditions kind) (run conditions cluster connection holdings) ∧
        ∃ touched, .resources kind ∉ touched ∧
          Spares touched (before.removeKind conditions kind)
            (run conditions cluster connection holdings) := by
  obtain ⟨earlier, later, hearlier, hlater, hrun⟩ :=
    exists_run_eq conditions cluster connection holdings kind
  rw [hrun]
  refine ⟨_, ⟨?_, _, ?_, spares_earlier conditions cluster connection holdings earlier⟩, ?_, _, ?_,
    spares_foldl_removeKind conditions later _⟩
  · exact (calms_forgetHealth conditions _).trans
      (Calms.foldl (calms_removeKind conditions) earlier _)
  · simpa using hearlier
  · exact Calms.foldl (calms_removeKind conditions) later _
  · simpa using hlater

theorem search_congr {left : Holdings} {kind : ResourceKind}
    (h : left.resources kind = holdings.resources kind) (clusterId : String) :
    left.search conditions kind clusterId = holdings.search conditions kind clusterId := by
  unfold Holdings.search Holdings.resourcesOf
  rw [h]

theorem clears_run {kind : ResourceKind} {found : List Resource}
    (h : holdings.search conditions kind cluster.id = .ok found) :
    Clears conditions kind found (opening cluster connection holdings)
      (run conditions cluster connection holdings) := by
  obtain ⟨before, ⟨-, _, hkind, hsooner⟩, -, _, hkind', hlater⟩ :=
    exists_removeKind_run conditions cluster connection holdings kind
  have hsearch := search_congr conditions _ (hsooner.resources kind hkind) cluster.id
  have hid : before.report.clusterId = cluster.id := hsooner.clusterId
  have hvisit : Clears conditions kind found before (before.removeKind conditions kind) := by
    refine removeKind_of_found conditions ?_
    rw [hid, hsearch]
    exact h
  exact (hvisit.of_spares hsooner hkind).then_spares hlater hkind'

theorem run_of_unsearchable {kind : ResourceKind} {failure : Failure}
    (h : holdings.search conditions kind cluster.id = .error failure) :
    (run conditions cluster connection holdings).report.failuresIn (.resources kind) =
        [⟨.resources kind, none, failure.message⟩] ∧
      (run conditions cluster connection holdings).report.removedFrom (.resources kind) = 0 ∧
      (run conditions cluster connection holdings).holdings.resources kind =
        holdings.resources kind := by
  obtain ⟨before, ⟨-, _, hkind, hsooner⟩, -, _, hkind', hlater⟩ :=
    exists_removeKind_run conditions cluster connection holdings kind
  have hsearch := search_congr conditions _ (hsooner.resources kind hkind) cluster.id
  have hid : before.report.clusterId = cluster.id := hsooner.clusterId
  have hvisit : before.removeKind conditions kind = before.fail (.resources kind) none failure := by
    refine removeKind_of_unsearchable conditions ?_
    rw [hid, hsearch]
    exact h
  rw [hvisit] at hlater
  refine ⟨?_, ?_, ?_⟩
  · rw [hlater.failures _ hkind', failuresIn_fail, if_pos rfl, hsooner.failures _ hkind]
    rfl
  · rw [hlater.removals _ hkind']
    exact hsooner.removals _ hkind
  · rw [hlater.resources _ hkind']
    exact hsooner.resources _ hkind

/-- After the snapshot, no step has to do with health. -/
theorem spares_run :
    Spares (.alerts :: ResourceKind.all.map .resources)
      ((opening cluster connection holdings).forgetHealth conditions)
      (run conditions cluster connection holdings) :=
  spares_foldl_removeKind conditions _ _

theorem report_run :
    (run conditions cluster connection holdings).report.clusterId = cluster.id ∧
      (run conditions cluster connection holdings).report.clusterName = cluster.name := by
  have hhealth := spares_forgetHealth conditions (opening cluster connection holdings)
  have hrun := hhealth.mono (.health :: .alerts :: ResourceKind.all.map .resources) (by simp)
    |>.trans ((spares_run conditions cluster connection holdings).mono _ (List.subset_cons_self _ _))
  exact ⟨hrun.clusterId, hrun.clusterName⟩

/-- A teardown that found all deployments and reports no failure about alerts has left none active. -/
theorem noActiveAlert_run (hkeyed : holdings.AlertsKeyed) {found : List Resource}
    (hfound : holdings.search conditions .deployments cluster.id = .ok found)
    (hnone : (run conditions cluster connection holdings).report.failuresIn .alerts = []) :
    ∀ deployment ∈ found,
      (run conditions cluster connection holdings).holdings.NoActiveAlert deployment.id := by
  obtain ⟨before, ⟨hcalms, _, hkind, hsooner⟩, hcalms', -⟩ :=
    exists_removeKind_run conditions cluster connection holdings .deployments
  have hsearch : before.holdings.search conditions .deployments before.report.clusterId =
      .ok found := by
    rw [show before.report.clusterId = cluster.id from hsooner.clusterId,
      search_congr conditions _ (hsooner.resources _ hkind)]
    exact hfound
  have hvisit : before.removeKind conditions .deployments =
      found.foldl (removeDeployment conditions) before := by
    unfold removeKind
    rw [hsearch]
  have hkeyed : before.holdings.AlertsKeyed := hcalms.keyed hkeyed
  have hafter := (calms_removeKind conditions before .deployments).keyed hkeyed
  intro deployment hdeployment
  refine hcalms'.noActiveAlert hafter ?_
  have hunfailed := hcalms'.unfailed hnone
  rw [hvisit] at hunfailed ⊢
  exact noActiveAlert_of_foldl_removeDeployment conditions found before hkeyed hunfailed deployment
    hdeployment

theorem health_run :
    match holdings.forgetHealth conditions cluster.id with
    | .error failure =>
      (run conditions cluster connection holdings).report.failuresIn .health =
          [⟨.health, none, failure.message⟩] ∧
        (run conditions cluster connection holdings).holdings.health = holdings.health
    | .ok _ =>
      (run conditions cluster connection holdings).report.failuresIn .health = [] ∧
        (run conditions cluster connection holdings).holdings.health =
          holdings.health.erase cluster.id := by
  have hspares := spares_run conditions cluster connection holdings
  have hhealth := hspares.health (by simp)
  have hfailures := hspares.failures .health (by simp)
  have hforget := (holdings.forgetRank cluster.id).forgetHealth_eq conditions cluster.id
  change (opening cluster connection holdings).holdings.forgetHealth conditions
    (opening cluster connection holdings).report.clusterId = _ at hforget
  unfold forgetHealth at hhealth hfailures
  rw [Holdings.forgetHealth_eq]
  by_cases hout : conditions.isOut .healthDelete cluster.id
  · rw [if_pos hout] at hforget ⊢
    rw [hforget] at hhealth hfailures
    exact ⟨hfailures, hhealth⟩
  · rw [if_neg hout] at hforget ⊢
    rw [hforget] at hhealth hfailures
    exact ⟨hfailures, hhealth⟩

/-- The resources that were found are reported and left exactly as far as their removal fails. -/
theorem run_of_found {kind : ResourceKind} {found : List Resource}
    (h : holdings.search conditions kind cluster.id = .ok found) :
    (run conditions cluster connection holdings).report.failuresIn (.resources kind) =
        found.filterMap (conditions.refused? kind) ∧
      (run conditions cluster connection holdings).holdings.resourcesOf kind cluster.id =
        found.filter fun resource => (conditions.refusal? kind resource.id).isSome := by
  have hclears := clears_run conditions cluster connection holdings h
  refine ⟨hclears.failures, hclears.own.trans ?_⟩
  rw [Holdings.eq_of_search h]
  apply List.filter_congr
  intro held hheld
  -- What is held is what was found, so nothing that could be removed is left.
  cases (conditions.refusal? kind held.id).isSome with
  | true => rfl
  | false =>
    rw [Bool.false_or, List.all_eq_false]
    exact ⟨held, hheld, by simp⟩

theorem ranks_run :
    (run conditions cluster connection holdings).holdings.ranks =
      holdings.ranks.erase cluster.id := by
  have hhealth := spares_forgetHealth conditions (opening cluster connection holdings)
  exact (spares_run conditions cluster connection holdings).ranks.trans hhealth.ranks

/-! ## Clean reports -/

variable {conditions cluster connection holdings}

theorem failuresIn_of_clean
    (h : (run conditions cluster connection holdings).report.isClean = true) (subsystem : Subsystem) :
    (run conditions cluster connection holdings).report.failuresIn subsystem = [] := by
  unfold Report.failuresIn
  rw [List.isEmpty_iff.1 h]
  rfl

theorem exists_found_of_clean
    (h : (run conditions cluster connection holdings).report.isClean = true) (kind : ResourceKind) :
    ∃ found, holdings.search conditions kind cluster.id = .ok found := by
  cases hfound : holdings.search conditions kind cluster.id with
  | ok found => exact ⟨found, rfl⟩
  | error failure =>
    have hfailed := (run_of_unsearchable conditions cluster connection holdings hfound).1
    rw [failuresIn_of_clean h] at hfailed
    cases hfailed

theorem resourcesOf_of_clean
    (h : (run conditions cluster connection holdings).report.isClean = true) (kind : ResourceKind) :
    (run conditions cluster connection holdings).holdings.resourcesOf kind cluster.id = [] := by
  obtain ⟨found, hfound⟩ := exists_found_of_clean h kind
  obtain ⟨hfailures, hleft⟩ := run_of_found conditions cluster connection holdings hfound
  rw [failuresIn_of_clean h] at hfailures
  rw [hleft, List.filter_eq_nil_iff]
  intro resource hresource
  have hunrefused := List.filterMap_eq_nil_iff.1 hfailures.symm resource hresource
  unfold Conditions.refused? at hunrefused
  rw [Option.map_eq_none_iff] at hunrefused
  simp [hunrefused]

theorem health_of_clean
    (h : (run conditions cluster connection holdings).report.isClean = true) :
    (run conditions cluster connection holdings).holdings.health.get? cluster.id = none := by
  have hhealth := health_run conditions cluster connection holdings
  cases hforget : holdings.forgetHealth conditions cluster.id with
  | error failure =>
    rw [hforget, failuresIn_of_clean h] at hhealth
    cases hhealth.1
  | ok forgotten =>
    rw [hforget] at hhealth
    rw [hhealth.2, Table.get?_erase, if_pos rfl]

theorem noActiveAlert_of_clean
    (h : (run conditions cluster connection holdings).report.isClean = true)
    (hkeyed : holdings.AlertsKeyed) :
    ∀ deployment ∈ holdings.resourcesOf .deployments cluster.id,
      (run conditions cluster connection holdings).holdings.NoActiveAlert deployment.id := by
  obtain ⟨found, hfound⟩ := exists_found_of_clean h .deployments
  rw [← Holdings.eq_of_search hfound]
  exact noActiveAlert_run conditions cluster connection holdings hkeyed hfound
    (failuresIn_of_clean h _)

end

theorem countP_add_length_refused (conditions : Conditions) (kind : ResourceKind)
    (found : List Resource) :
    (found.countP fun resource => (conditions.refusal? kind resource.id).isNone) +
      (found.filterMap (conditions.refused? kind)).length = found.length := by
  induction found with
  | nil => rfl
  | cons first rest ih =>
    rw [List.countP_cons, List.filterMap_cons, List.length_cons]
    cases hrefusal : conditions.refusal? kind first.id with
    | none =>
      simp only [Conditions.refused?, hrefusal, Option.map_none, Option.isNone_none, if_true] at ih ⊢
      omega
    | some failure =>
      simp only [Conditions.refused?, hrefusal, Option.map_some, Option.isNone_some,
        Bool.false_eq_true, if_false, List.length_cons] at ih ⊢
      omega

end Cascade

open Cascade in
/-- A teardown does with each subsystem what its report says, whatever happens in the others: either
the search failed, which is all that is reported, and nothing was touched; or each resource found is
counted as removed and gone, or listed with the reason and left. A report without failures means that
nothing is left of the cluster. -/
theorem report_accounts_for_teardown (conditions : Conditions) (cluster : Cluster)
    (connection : ConnectionEnd) (holdings : Holdings) :
    let report := (run conditions cluster connection holdings).report
    let left := (run conditions cluster connection holdings).holdings
    (∀ kind, match holdings.search conditions kind cluster.id with
      | .error failure =>
        report.failuresIn (.resources kind) = [⟨.resources kind, none, failure.message⟩] ∧
          report.removedFrom (.resources kind) = 0 ∧
          left.resources kind = holdings.resources kind
      | .ok found =>
        found = holdings.resourcesOf kind cluster.id ∧
          (∀ resource, ∀ held : Holdings, ∀ failure,
            held.remove conditions kind cluster.id resource = .error failure ↔
              conditions.refusal? kind resource = some failure) ∧
          report.failuresIn (.resources kind) = found.filterMap (conditions.refused? kind) ∧
          report.removedFrom (.resources kind) +
            (report.failuresIn (.resources kind)).length = found.length ∧
          left.resourcesOf kind cluster.id =
            found.filter (fun resource => (conditions.refusal? kind resource.id).isSome) ∧
          ∀ other, other ≠ cluster.id →
            (left.resources kind).get? other = (holdings.resources kind).get? other) ∧
      left.ranks = holdings.ranks.erase cluster.id ∧
      (match holdings.forgetHealth conditions cluster.id with
      | .error failure =>
        report.failuresIn .health = [⟨.health, none, failure.message⟩] ∧
          left.health = holdings.health
      | .ok _ =>
        report.failuresIn .health = [] ∧ left.health = holdings.health.erase cluster.id) ∧
      (report.isClean = true →
        (∀ kind, left.resourcesOf kind cluster.id = []) ∧
          left.ranks.get? cluster.id = none ∧
          left.health.get? cluster.id = none ∧
          (holdings.AlertsKeyed → ∀ deployment ∈ holdings.resourcesOf .deployments cluster.id,
            left.NoActiveAlert deployment.id)) := by
  intro report left
  refine ⟨?_, ranks_run _ _ _ _, health_run _ _ _ _, ?_⟩
  · intro kind
    cases hfound : holdings.search conditions kind cluster.id with
    | error failure => exact run_of_unsearchable conditions cluster connection holdings hfound
    | ok found =>
      have hclears := clears_run conditions cluster connection holdings hfound
      obtain ⟨hfailures, hleft⟩ := run_of_found conditions cluster connection holdings hfound
      refine ⟨Holdings.eq_of_search hfound, fun _ _ _ => Holdings.remove_eq_error_iff, hfailures, ?_,
        hleft, hclears.others⟩
      have hremovals := hclears.removals
      change report.removedFrom (.resources kind) = 0 + _ at hremovals
      rw [hremovals, hfailures, Nat.zero_add]
      exact countP_add_length_refused conditions kind found
  · intro hclean
    refine ⟨resourcesOf_of_clean hclean, ?_, health_of_clean hclean, noActiveAlert_of_clean hclean⟩
    rw [ranks_run, Table.get?_erase, if_pos rfl]

/-- Two deployments with one id go with their alerts, and the report is clean. -/
theorem report_accounts_for_teardown_of_namesakes :
    let cluster : Cluster := { id := "$1", name := "prod" }
    let alert : Alert := ⟨"a-1", "d-1", "$1", "root-user", .active⟩
    let holdings := (((({} : Holdings).addAlert alert).addResource .deployments "$1"
      ⟨"d-1", "web"⟩).addResource .deployments "$1" ⟨"d-1", "web-old"⟩).addResource .pods "$2"
      ⟨"p-1", "other"⟩
    let after := Cascade.run {} cluster .stopped holdings
    after.report.isClean = true ∧ holdings.AlertsKeyed ∧
      after.holdings.resourcesOf .deployments "$1" = [] ∧ after.holdings.NoActiveAlert "d-1" := by
  intro cluster alert holdings after
  have hclean : after.report.isClean = true := by decide +kernel
  have hkeyed : holdings.AlertsKeyed := by
    intro id found hget
    change (Table.empty.insert "a-1" alert).get? id = some found at hget
    rw [Table.get?_insert] at hget
    split at hget
    · rename_i heq
      cases hget
      exact heq.symm
    · cases hget
  obtain ⟨-, -, -, hnothing⟩ := report_accounts_for_teardown {} cluster .stopped holdings
  obtain ⟨hresources, -, -, halerts⟩ := hnothing hclean
  exact ⟨hclean, hkeyed, hresources .deployments,
    halerts hkeyed ⟨"d-1", "web"⟩ (by decide +kernel)⟩

end Fleet
