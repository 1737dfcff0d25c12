import Fleet.Proofs.Cleanup

/-!
# A cascade keeps to its share

Of everything that is held, a cascade looks only at what its cluster has and at the alerts of its
deployments, and it changes nothing else. So what it does and what it reports can be told from that share,
and cascades whose shares have nothing in common do not notice each other.
-/

namespace Fleet

/-! ## Shares -/

/-- A share of what is held: what there is of some clusters, and the alerts of some deployments. -/
structure Share where
  clusters : String → Bool
  deployments : String → Bool

namespace Share

/-- Everything that is not in a share. -/
def rest (share : Share) : Share :=
  ⟨fun id => !share.clusters id, fun id => !share.deployments id⟩

/-- Everything in the first share is in the second. -/
structure Within (share other : Share) : Prop where
  clusters : ∀ id, share.clusters id = true → other.clusters id = true
  deployments : ∀ id, share.deployments id = true → other.deployments id = true

/-- The alerts in a share. -/
def alerts (share : Share) (holdings : Holdings) : Table Alert :=
  holdings.alerts.filter fun _ alert => share.deployments alert.deploymentId

theorem get?_alerts (share : Share) {holdings : Holdings} {id : String} {alert : Alert}
    (hget : holdings.alerts.get? id = some alert) (h : share.deployments alert.deploymentId = true) :
    (share.alerts holdings).get? id = some alert := by
  unfold alerts
  rw [Table.get?_filter, hget]
  exact Option.filter_some_pos h

/-- The notifications in a share. -/
def notified (share : Share) (holdings : Holdings) : List Alert :=
  holdings.notified.filter fun alert => share.deployments alert.deploymentId

end Share

namespace Holdings

/-- The same is held as far as a share goes. -/
structure Agree (share : Share) (left right : Holdings) : Prop where
  ranks : ∀ id, share.clusters id = true → left.ranks.get? id = right.ranks.get? id
  health : ∀ id, share.clusters id = true → left.health.get? id = right.health.get? id
  resources : ∀ kind id, share.clusters id = true →
    (left.resources kind).get? id = (right.resources kind).get? id
  alerts : share.alerts left = share.alerts right
  notified : share.notified left = share.notified right

namespace Agree

variable {share other : Share} {first second third : Holdings}

theorem refl (share : Share) (holdings : Holdings) : Agree share holdings holdings :=
  ⟨fun _ _ => rfl, fun _ _ => rfl, fun _ _ _ => rfl, rfl, rfl⟩

theorem symm (h : Agree share first second) : Agree share second first where
  ranks id hid := (h.ranks id hid).symm
  health id hid := (h.health id hid).symm
  resources kind id hid := (h.resources kind id hid).symm
  alerts := h.alerts.symm
  notified := h.notified.symm

theorem trans (h : Agree share first second) (h' : Agree share second third) :
    Agree share first third where
  ranks id hid := (h.ranks id hid).trans (h'.ranks id hid)
  health id hid := (h.health id hid).trans (h'.health id hid)
  resources kind id hid := (h.resources kind id hid).trans (h'.resources kind id hid)
  alerts := h.alerts.trans h'.alerts
  notified := h.notified.trans h'.notified

theorem mono (h : Agree other first second) (hwithin : share.Within other) :
    Agree share first second := by
  have halerts : ∀ holdings, share.alerts holdings =
      (other.alerts holdings).filter fun _ alert => share.deployments alert.deploymentId := by
    intro holdings
    exact (holdings.alerts.filter_filter_of_imp fun _ alert => hwithin.deployments _).symm
  have hnotified : ∀ holdings, share.notified holdings =
      (other.notified holdings).filter fun alert => share.deployments alert.deploymentId := by
    intro holdings
    unfold Share.notified
    rw [List.filter_filter]
    apply List.filter_congr
    intro alert _
    cases hkeep : share.deployments alert.deploymentId with
    | false => rfl
    | true => rw [hwithin.deployments _ hkeep, Bool.and_true]
  refine ⟨?_, ?_, ?_, ?_, ?_⟩
  · exact fun id hid => h.ranks id (hwithin.clusters id hid)
  · exact fun id hid => h.health id (hwithin.clusters id hid)
  · exact fun kind id hid => h.resources kind id (hwithin.clusters id hid)
  · rw [halerts, halerts, h.alerts]
  · rw [hnotified, hnotified, h.notified]

end Agree

/-! ## Changes to what is held -/

section

variable {share : Share} {left right : Holdings} {clusterId : String}

theorem Agree.forgetRank (h : Agree share left right) (clusterId : String) :
    Agree share (left.forgetRank clusterId) (right.forgetRank clusterId) := by
  refine ⟨fun id hid => ?_, h.health, h.resources, h.alerts, h.notified⟩
  unfold Holdings.forgetRank
  rw [Table.get?_erase, Table.get?_erase, h.ranks id hid]

theorem agree_forgetRank (holdings : Holdings) (hclear : share.clusters clusterId = false) :
    Agree share holdings (holdings.forgetRank clusterId) := by
  refine ⟨fun id hid => ?_, fun _ _ => rfl, fun _ _ _ => rfl, rfl, rfl⟩
  unfold Holdings.forgetRank
  rw [Table.get?_erase, if_neg]
  rintro rfl
  rw [hid] at hclear
  cases hclear

/-- The same without the snapshot of a cluster. -/
def withoutSnapshot (holdings : Holdings) (clusterId : String) : Holdings :=
  { holdings with health := holdings.health.erase clusterId }

theorem Agree.withoutSnapshot (h : Agree share left right) (clusterId : String) :
    Agree share (left.withoutSnapshot clusterId) (right.withoutSnapshot clusterId) := by
  refine ⟨h.ranks, fun id hid => ?_, h.resources, h.alerts, h.notified⟩
  unfold Holdings.withoutSnapshot
  rw [Table.get?_erase, Table.get?_erase, h.health id hid]

theorem agree_withoutSnapshot (holdings : Holdings) (hclear : share.clusters clusterId = false) :
    Agree share holdings (holdings.withoutSnapshot clusterId) := by
  refine ⟨fun _ _ => rfl, fun id hid => ?_, fun _ _ _ => rfl, rfl, rfl⟩
  unfold Holdings.withoutSnapshot
  rw [Table.get?_erase, if_neg]
  rintro rfl
  rw [hid] at hclear
  cases hclear

/-- The same without the resources of a cluster that have an id. -/
def withoutResource (holdings : Holdings) (kind : ResourceKind) (clusterId resourceId : String) :
    Holdings :=
  holdings.changeKind kind (·.change clusterId fun held => held.filter (·.id ≠ resourceId))

theorem get?_resources_withoutResource (holdings : Holdings) (kind other : ResourceKind)
    (clusterId resourceId id : String) :
    ((holdings.withoutResource kind clusterId resourceId).resources other).get? id =
      if other = kind ∧ id = clusterId then
        ((holdings.resources kind).get? clusterId).map fun held => held.filter (·.id ≠ resourceId)
      else (holdings.resources other).get? id := by
  unfold withoutResource
  rw [resources_changeKind]
  by_cases hkind : other = kind
  · subst hkind
    rw [if_pos rfl, Table.get?_change]
    simp
  · rw [if_neg hkind, if_neg fun h => hkind h.1]

theorem withoutResource_of_absent {holdings : Holdings} {kind : ResourceKind}
    (h : (holdings.resources kind).get? clusterId = none) (resourceId : String) :
    holdings.withoutResource kind clusterId resourceId = holdings := by
  have hsame : holdings.tables.set kind (holdings.tables.get kind) = holdings.tables := by
    cases kind <;> rfl
  unfold withoutResource changeKind
  dsimp only
  rw [Table.change_of_absent h]
  exact congrArg (fun tables => { holdings with tables }) hsame

theorem withoutResource_of_held {holdings : Holdings} {kind : ResourceKind} {held : List Resource}
    (h : (holdings.resources kind).get? clusterId = some held) (resourceId : String) :
    holdings.withoutResource kind clusterId resourceId =
      holdings.changeKind kind (·.insert clusterId (held.filter (·.id ≠ resourceId))) := by
  unfold withoutResource changeKind
  dsimp only
  rw [Table.change_of_get? h]

theorem remove_apply (holdings : Holdings) (conditions : Conditions) (kind : ResourceKind)
    (clusterId resourceId : String) :
    holdings.remove conditions kind clusterId resourceId =
      match conditions.refusal? kind resourceId with
      | some failure => .error failure
      | none => .ok (holdings.withoutResource kind clusterId resourceId) := by
  unfold remove Conditions.check Conditions.checkPart Conditions.refusal?
  split
  · rfl
  split
  · rfl
  cases hheld : (holdings.resources kind).get? clusterId with
  | none =>
    rw [withoutResource_of_absent hheld]
    rfl
  | some held =>
    rw [withoutResource_of_held hheld]
    rfl

theorem Agree.withoutResource (h : Agree share left right) (kind : ResourceKind)
    (hid : share.clusters clusterId = true) (resourceId : String) :
    Agree share (left.withoutResource kind clusterId resourceId)
      (right.withoutResource kind clusterId resourceId) := by
  refine ⟨h.ranks, h.health, fun other id hother => ?_, h.alerts, h.notified⟩
  rw [get?_resources_withoutResource, get?_resources_withoutResource, h.resources other id hother,
    h.resources kind clusterId hid]

theorem agree_withoutResource (holdings : Holdings) (kind : ResourceKind)
    (hclear : share.clusters clusterId = false) (resourceId : String) :
    Agree share holdings (holdings.withoutResource kind clusterId resourceId) := by
  refine ⟨fun _ _ => rfl, fun _ _ => rfl, fun other id hother => ?_, rfl, rfl⟩
  rw [get?_resources_withoutResource, if_neg]
  rintro ⟨-, rfl⟩
  rw [hother] at hclear
  cases hclear

theorem AlertsKeyed.addAlert {holdings : Holdings} (h : holdings.AlertsKeyed) (alert : Alert) :
    (holdings.addAlert alert).AlertsKeyed := by
  intro id found hfound
  change (holdings.alerts.insert alert.id alert).get? id = some found at hfound
  rw [Table.get?_insert] at hfound
  split at hfound
  · rename_i hsame
    cases hfound
    exact hsame.symm
  · exact h id found hfound

/-- The same with an alert resolved and handed on as it was listed. -/
def withResolved (holdings : Holdings) (stored listed : Alert) : Holdings :=
  (holdings.addAlert { stored with state := .resolved }).notify { listed with state := .resolved }

theorem Agree.addAlert (h : Agree share left right) {alert : Alert}
    (hshare : share.deployments alert.deploymentId = true) :
    Agree share (left.addAlert alert) (right.addAlert alert) := by
  refine ⟨h.ranks, h.health, h.resources, ?_, h.notified⟩
  have hinsert : ∀ holdings : Holdings,
      share.alerts (holdings.addAlert alert) = (share.alerts holdings).insert alert.id alert :=
    fun holdings => holdings.alerts.filter_insert_of_kept hshare
  rw [hinsert, hinsert, h.alerts]

/-- An alert may take the place of one that was not in the share either. -/
theorem agree_addAlert {holdings : Holdings} {alert : Alert}
    (hshare : share.deployments alert.deploymentId = false)
    (hheld : ∀ held, holdings.alerts.get? alert.id = some held →
      share.deployments held.deploymentId = false) :
    Agree share holdings (holdings.addAlert alert) :=
  ⟨fun _ _ => rfl, fun _ _ => rfl, fun _ _ _ => rfl,
    (holdings.alerts.filter_insert_of_dropped hshare hheld).symm, rfl⟩

theorem Agree.notify (h : Agree share left right) {alert : Alert}
    (hshare : share.deployments alert.deploymentId = true) :
    Agree share (left.notify alert) (right.notify alert) := by
  refine ⟨h.ranks, h.health, h.resources, h.alerts, ?_⟩
  have happend : ∀ holdings : Holdings,
      share.notified (holdings.notify alert) = share.notified holdings ++ [alert] := by
    intro holdings
    change (holdings.notified ++ [alert]).filter _ = _
    rw [List.filter_append]
    congr 1
    exact List.filter_cons_of_pos hshare
  rw [happend, happend, h.notified]

theorem agree_notify (holdings : Holdings) {alert : Alert}
    (hshare : share.deployments alert.deploymentId = false) :
    Agree share holdings (holdings.notify alert) := by
  refine ⟨fun _ _ => rfl, fun _ _ => rfl, fun _ _ _ => rfl, rfl, ?_⟩
  change _ = (holdings.notified ++ [alert]).filter _
  rw [List.filter_append, List.filter_cons_of_neg (by simp [hshare]), List.filter_nil, List.append_nil]
  rfl

end

end Holdings

/-- Why an alert that is there cannot be resolved, if it cannot. -/
def Conditions.resolutionFailure? (conditions : Conditions) (alertId : String) : Option Failure :=
  if conditions.isOut .alertMarkStale alertId then some Call.alertMarkStale.failure
  else if conditions.offline.contains .alerts then some Part.alerts.failure
  else none

theorem Holdings.resolveAlert_of_stored {holdings : Holdings} {conditions : Conditions}
    {alertId : String} {stored : Alert} (h : holdings.alerts.get? alertId = some stored) :
    holdings.resolveAlert conditions alertId =
      match conditions.resolutionFailure? alertId with
      | some failure => .error failure
      | none => .ok (holdings.addAlert { stored with state := .resolved }) := by
  unfold resolveAlert Conditions.check Conditions.checkPart Conditions.resolutionFailure?
  rw [h]
  split
  · rfl
  split
  · rfl
  · rfl

/-! ## Steps that keep to a share -/

namespace Cascade

variable {share : Share} {good : Cascade → Prop}

/-- Two cascades that have found the same as far as a share goes, and have reported the same. -/
structure Alike (share : Share) (first second : Cascade) : Prop where
  agree : first.holdings.Agree share second.holdings
  removals : first.report.removals = second.report.removals
  failures : first.report.failures = second.report.failures

/-- A step that keeps to a share, as long as something holds that it does not break: it leaves the rest
alone, and what it does can be told from the share. -/
structure Local (share : Share) (good : Cascade → Prop) (step : Cascade → Cascade) : Prop where
  keeps : ∀ cascade, good cascade → good (step cascade)
  apart : ∀ cascade, good cascade → cascade.holdings.Agree share.rest (step cascade).holdings
  alike : ∀ first second, good first → good second → Alike share first second →
    Alike share (step first) (step second)

namespace Local

theorem idle : Local share good fun cascade => cascade :=
  ⟨fun _ hgood => hgood, fun _ _ => .refl _ _, fun _ _ _ _ halike => halike⟩

theorem comp {step next : Cascade → Cascade} (h : Local share good step)
    (h' : Local share good next) : Local share good fun cascade => next (step cascade) where
  keeps _ hgood := h'.keeps _ (h.keeps _ hgood)
  apart _ hgood := (h.apart _ hgood).trans (h'.apart _ (h.keeps _ hgood))
  alike _ _ hfirst hsecond halike :=
    h'.alike _ _ (h.keeps _ hfirst) (h.keeps _ hsecond) (h.alike _ _ hfirst hsecond halike)

theorem foldl {α : Type} {step : Cascade → α → Cascade} {elements : List α}
    (h : ∀ element ∈ elements, Local share good fun cascade => step cascade element) :
    Local share good fun cascade => elements.foldl step cascade := by
  induction elements with
  | nil => exact idle
  | cons first rest ih =>
    exact (h first List.mem_cons_self).comp (ih fun element hmem => h element (List.mem_cons_of_mem _ hmem))

theorem congr {step other : Cascade → Cascade} (h : Local share good step)
    (hsame : ∀ cascade, good cascade → other cascade = step cascade) : Local share good other := by
  refine ⟨?_, ?_, ?_⟩
  · intro cascade hgood
    rw [hsame cascade hgood]
    exact h.keeps cascade hgood
  · intro cascade hgood
    rw [hsame cascade hgood]
    exact h.apart cascade hgood
  · intro first second hfirst hsecond halike
    rw [hsame first hfirst, hsame second hsecond]
    exact h.alike first second hfirst hsecond halike

/-- What has nothing to do with the cascade may be known beside. -/
theorem and {step : Cascade → Cascade} (h : Local share good step) (known : Prop) :
    Local share (fun cascade => good cascade ∧ known) step where
  keeps _ hgood := ⟨h.keeps _ hgood.1, hgood.2⟩
  apart _ hgood := h.apart _ hgood.1
  alike _ _ hfirst hsecond halike := h.alike _ _ hfirst.1 hsecond.1 halike

/-- A step that asks first and goes on with the answer keeps to the share if the answer can be told from
it, and if what it does with an answer keeps to the share as long as the answer stands. -/
theorem ask {β : Type} {step : Cascade → Cascade} (question : Cascade → β)
    (stands : β → Cascade → Prop) (hstands : ∀ cascade, good cascade → stands (question cascade) cascade)
    (hgood : ∀ answer cascade, stands answer cascade → good cascade)
    (hsame : ∀ first second, good first → good second → Alike share first second →
      question first = question second)
    (hnext : ∀ answer cascade, stands answer cascade → ∃ next, Local share (stands answer) next ∧
      ∀ cascade, question cascade = answer → step cascade = next cascade) :
    Local share good step := by
  refine ⟨?_, ?_, ?_⟩
  · intro cascade h
    obtain ⟨next, hlocal, hstep⟩ := hnext _ cascade (hstands cascade h)
    rw [hstep cascade rfl]
    exact hgood _ _ (hlocal.keeps _ (hstands cascade h))
  · intro cascade h
    obtain ⟨next, hlocal, hstep⟩ := hnext _ cascade (hstands cascade h)
    rw [hstep cascade rfl]
    exact hlocal.apart _ (hstands cascade h)
  · intro first second hfirst hsecond halike
    obtain ⟨next, hlocal, hstep⟩ := hnext _ first (hstands first hfirst)
    have hanswer := hsame first second hfirst hsecond halike
    have hstands' := hstands second hsecond
    rw [← hanswer] at hstands'
    rw [hstep first rfl, hstep second hanswer.symm]
    exact hlocal.alike _ _ (hstands first hfirst) hstands' halike

end Local

theorem Alike.fail {first second : Cascade} (h : Alike share first second) (subsystem : Subsystem)
    (resourceId : Option String) (failure : Failure) :
    Alike share (first.fail subsystem resourceId failure) (second.fail subsystem resourceId failure) :=
  ⟨h.agree, h.removals, congrArg (· ++ _) h.failures⟩

theorem Alike.removed {first second : Cascade} (h : Alike share first second) (subsystem : Subsystem)
    {left right : Holdings} (hagree : left.Agree share right) :
    Alike share (first.removed subsystem left) (second.removed subsystem right) :=
  ⟨hagree, congrArg (· ++ _) h.removals, h.failures⟩

theorem local_fail {subsystem : Subsystem} {resourceId : Option String} {failure : Failure}
    (hkeeps : ∀ cascade, good cascade → good (cascade.fail subsystem resourceId failure)) :
    Local share good fun cascade => cascade.fail subsystem resourceId failure :=
  ⟨hkeeps, fun _ _ => .refl _ _, fun _ _ _ _ halike => halike.fail _ _ _⟩

/-- A cascade of a cluster in whose share its deployments are, with every alert kept under its own id. -/
structure Ready (share : Share) (clusterId : String) (cascade : Cascade) : Prop where
  subject : cascade.report.clusterId = clusterId
  keyed : cascade.holdings.AlertsKeyed
  owned : ∀ deployment ∈ cascade.holdings.resourcesOf .deployments clusterId,
    share.deployments deployment.id = true

theorem Ready.fail {clusterId : String} {cascade : Cascade} (h : Ready share clusterId cascade)
    (subsystem : Subsystem) (resourceId : Option String) (failure : Failure) :
    Ready share clusterId (cascade.fail subsystem resourceId failure) :=
  ⟨h.subject, h.keyed, h.owned⟩

section

variable {clusterId : String} (conditions : Conditions)

/-! ## Resources -/

theorem Alike.search {first second : Cascade} (h : Alike share first second)
    (hid : share.clusters clusterId = true) (hfirst : Ready share clusterId first)
    (hsecond : Ready share clusterId second) (kind : ResourceKind) :
    first.holdings.search conditions kind first.report.clusterId =
      second.holdings.search conditions kind second.report.clusterId := by
  unfold Holdings.search Holdings.resourcesOf
  rw [hfirst.subject, hsecond.subject, h.agree.resources kind clusterId hid]

theorem removeResource_apply (kind : ResourceKind) (cascade : Cascade) (resource : Resource) :
    cascade.removeResource conditions kind resource =
      match conditions.refusal? kind resource.id with
      | some failure => cascade.fail (.resources kind) (some resource.id) failure
      | none => cascade.removed (.resources kind)
          (cascade.holdings.withoutResource kind cascade.report.clusterId resource.id) := by
  unfold removeResource
  rw [Holdings.remove_apply]
  cases conditions.refusal? kind resource.id <;> rfl

theorem local_removeResource (hid : share.clusters clusterId = true) (kind : ResourceKind)
    (resource : Resource) :
    Local share (Ready share clusterId) fun cascade =>
      cascade.removeResource conditions kind resource := by
  simp only [removeResource_apply]
  cases conditions.refusal? kind resource.id with
  | some failure => exact local_fail fun _ hready => hready.fail _ _ _
  | none =>
    refine ⟨?_, ?_, ?_⟩
    · intro cascade hready
      refine ⟨hready.subject, hready.keyed, ?_⟩
      intro deployment hdeployment
      apply hready.owned deployment
      change deployment ∈ (((cascade.holdings.withoutResource kind _ _).resources .deployments).get?
        clusterId).getD [] at hdeployment
      rw [Holdings.get?_resources_withoutResource, hready.subject] at hdeployment
      split at hdeployment
      · rename_i hkind
        unfold Holdings.resourcesOf
        rw [hkind.1]
        cases hheld : (cascade.holdings.resources kind).get? clusterId with
        | none =>
          rw [hheld] at hdeployment
          exact hdeployment
        | some held =>
          rw [hheld] at hdeployment
          exact (List.mem_filter.1 hdeployment).1
      · exact hdeployment
    · intro cascade hready
      apply Holdings.agree_withoutResource
      rw [hready.subject]
      simp [Share.rest, hid]
    · intro first second hfirst hsecond halike
      refine halike.removed _ ?_
      rw [hfirst.subject, hsecond.subject]
      exact halike.agree.withoutResource kind hid resource.id

/-! ## Alerts -/

/-- An alert that was listed for a deployment of the share, and is kept for one of them. -/
structure Kept (share : Share) (cascade : Cascade) (listed : Alert) : Prop where
  inside : share.deployments listed.deploymentId = true
  stored : ∃ stored, cascade.holdings.alerts.get? listed.id = some stored ∧
    share.deployments stored.deploymentId = true

theorem resolveAlert_of_stored {cascade : Cascade} {listed stored : Alert}
    (h : cascade.holdings.alerts.get? listed.id = some stored) :
    cascade.resolveAlert conditions listed =
      match conditions.resolutionFailure? listed.id with
      | some failure => cascade.fail .alerts (some listed.id) failure
      | none => cascade.removed .alerts (cascade.holdings.withResolved stored listed) := by
  unfold resolveAlert
  rw [Holdings.resolveAlert_of_stored h]
  cases conditions.resolutionFailure? listed.id <;> rfl

/-- Mark an alert as resolved where it is kept. -/
def markStale (conditions : Conditions) (cascade : Cascade) (alert : Alert) : Cascade :=
  match cascade.holdings.resolveAlert conditions alert.id with
  | .ok left => { cascade with holdings := left }
  | .error failure => cascade.fail .alerts (some alert.id) failure

/-- Hand on an alert that was marked. -/
def handOn (cascade : Cascade) (alert : Alert) : Cascade :=
  cascade.removed .alerts (cascade.holdings.notify { alert with state := .resolved })

/-- An alert is handed on after it was marked, and not unless. -/
theorem resolveAlert_eq (cascade : Cascade) (alert : Alert) :
    cascade.resolveAlert conditions alert =
      match cascade.holdings.resolveAlert conditions alert.id with
      | .ok _ => (cascade.markStale conditions alert).handOn alert
      | .error _ => cascade.markStale conditions alert := by
  unfold resolveAlert markStale
  cases cascade.holdings.resolveAlert conditions alert.id <;> rfl

theorem markStale_of_stored {cascade : Cascade} {alert stored : Alert}
    (h : cascade.holdings.alerts.get? alert.id = some stored) :
    cascade.markStale conditions alert =
      match conditions.resolutionFailure? alert.id with
      | some failure => cascade.fail .alerts (some alert.id) failure
      | none => { cascade with
          holdings := cascade.holdings.addAlert { stored with state := .resolved } } := by
  unfold markStale
  rw [Holdings.resolveAlert_of_stored h]
  cases conditions.resolutionFailure? alert.id <;> rfl

/-- Marking an alert that is kept leaves every alert in its place. -/
theorem Kept.addAlert {cascade : Cascade} {other : Alert} (h : Kept share cascade other) {alert : Alert}
    (hshare : share.deployments alert.deploymentId = true) :
    Kept share { cascade with holdings := cascade.holdings.addAlert alert } other := by
  obtain ⟨hinside, kept, hkept, hkeptShare⟩ := h
  refine ⟨hinside, ?_⟩
  have hget : (cascade.holdings.addAlert alert).alerts.get? other.id =
      if other.id = alert.id then some alert else cascade.holdings.alerts.get? other.id :=
    Table.get?_insert _ _ _ _
  dsimp only
  rw [hget]
  split
  · exact ⟨alert, rfl, hshare⟩
  · exact ⟨kept, hkept, hkeptShare⟩

section

variable {listed : Alert → Prop} {alert : Alert}

/-- Alerts that were listed are kept from one step to the next. -/
theorem local_markStale (hlisted : listed alert) :
    Local share (fun cascade => Ready share clusterId cascade ∧
        ∀ other, listed other → Kept share cascade other)
      fun cascade => cascade.markStale conditions alert := by
  refine ⟨?_, ?_, ?_⟩
  · rintro cascade ⟨hready, hkept⟩
    obtain ⟨stored, hstored, hshare⟩ := (hkept alert hlisted).stored
    rw [markStale_of_stored conditions hstored]
    cases conditions.resolutionFailure? alert.id with
    | some failure =>
      exact ⟨hready.fail _ _ _, fun other hother => ⟨(hkept other hother).inside,
        (hkept other hother).stored⟩⟩
    | none =>
      exact ⟨⟨hready.subject, hready.keyed.addAlert _, hready.owned⟩,
        fun other hother => (hkept other hother).addAlert hshare⟩
  · rintro cascade ⟨hready, hkept⟩
    obtain ⟨stored, hstored, hshare⟩ := (hkept alert hlisted).stored
    have hrest : share.rest.deployments stored.deploymentId = false := by simp [Share.rest, hshare]
    rw [markStale_of_stored conditions hstored]
    cases conditions.resolutionFailure? alert.id with
    | some failure => exact .refl _ _
    | none =>
      refine Holdings.agree_addAlert hrest fun held hheld => ?_
      have hsame : held = stored := by
        rw [← hready.keyed _ _ hstored, hheld] at hstored
        exact Option.some.inj hstored
      rw [hsame]
      exact hrest
  · rintro first second ⟨hready, hkept⟩ ⟨-, hkept'⟩ halike
    obtain ⟨stored, hstored, hshare⟩ := (hkept alert hlisted).stored
    obtain ⟨stored', hstored', hshare'⟩ := (hkept' alert hlisted).stored
    have hsame : stored' = stored := by
      have hfound := share.get?_alerts hstored hshare
      rw [halike.agree.alerts, share.get?_alerts hstored' hshare'] at hfound
      exact Option.some.inj hfound
    rw [markStale_of_stored conditions hstored, markStale_of_stored conditions hstored', hsame]
    cases conditions.resolutionFailure? alert.id with
    | some failure => exact halike.fail _ _ _
    | none => exact ⟨halike.agree.addAlert hshare, halike.removals, halike.failures⟩

theorem local_handOn (hlisted : listed alert) :
    Local share (fun cascade => Ready share clusterId cascade ∧
        ∀ other, listed other → Kept share cascade other)
      fun cascade => cascade.handOn alert := by
  refine ⟨?_, ?_, ?_⟩
  · rintro cascade ⟨hready, hkept⟩
    exact ⟨⟨hready.subject, hready.keyed, hready.owned⟩, fun other hother =>
      ⟨(hkept other hother).inside, (hkept other hother).stored⟩⟩
  · rintro cascade ⟨-, hkept⟩
    apply Holdings.agree_notify
    simp [Share.rest, (hkept alert hlisted).inside]
  · rintro first second ⟨-, hkept⟩ - halike
    exact halike.removed _ (halike.agree.notify (hkept alert hlisted).inside)

theorem local_resolveAlert (hlisted : listed alert) :
    Local share (fun cascade => Ready share clusterId cascade ∧
        ∀ other, listed other → Kept share cascade other)
      fun cascade => cascade.resolveAlert conditions alert := by
  cases hfailure : conditions.resolutionFailure? alert.id with
  | some failure =>
    refine (local_markStale conditions hlisted).congr fun cascade hgood => ?_
    obtain ⟨stored, hstored, -⟩ := (hgood.2 alert hlisted).stored
    rw [resolveAlert_eq, Holdings.resolveAlert_of_stored hstored, hfailure]
  | none =>
    refine ((local_markStale conditions hlisted).comp (local_handOn hlisted)).congr fun cascade hgood => ?_
    obtain ⟨stored, hstored, -⟩ := (hgood.2 alert hlisted).stored
    rw [resolveAlert_eq, Holdings.resolveAlert_of_stored hstored, hfailure]

end

/-- The active alerts of a deployment can be told from any share that has the deployment. -/
theorem activeAlerts_congr {left right : Holdings} (h : left.Agree share right) {deploymentId : String}
    (hdeployment : share.deployments deploymentId = true) :
    left.activeAlerts conditions deploymentId = right.activeAlerts conditions deploymentId := by
  have hlisted : ∀ holdings : Holdings, holdings.openAlerts deploymentId =
      (share.alerts holdings).values.filter fun alert =>
        alert.deploymentId = deploymentId && alert.state = .active := by
    intro holdings
    unfold Holdings.openAlerts Share.alerts
    rw [Table.values_filter, List.filter_filter]
    apply List.filter_congr
    intro alert _
    by_cases hsame : alert.deploymentId = deploymentId
    · simp [hsame, hdeployment]
    · simp [hsame]
  apply Holdings.activeAlerts_congr
  rw [hlisted, hlisted, h.alerts]

theorem kept_of_activeAlerts {cascade : Cascade} (hready : Ready share clusterId cascade)
    {deploymentId : String} (hdeployment : share.deployments deploymentId = true) {alerts : List Alert}
    (h : cascade.holdings.activeAlerts conditions deploymentId = .ok alerts) :
    ∀ alert ∈ alerts, Kept share cascade alert := by
  intro alert hmem
  rw [Holdings.eq_of_activeAlerts h, Holdings.mem_openAlerts_iff hready.keyed] at hmem
  obtain ⟨hstored, hown, -⟩ := hmem
  have hshare : share.deployments alert.deploymentId = true := by
    rw [hown]
    exact hdeployment
  exact ⟨hshare, alert, hstored, hshare⟩

theorem local_resolveAlerts {deployment : Resource}
    (hdeployment : share.deployments deployment.id = true) :
    Local share (Ready share clusterId) fun cascade =>
      cascade.resolveAlerts conditions deployment := by
  refine Local.ask (fun cascade => cascade.holdings.activeAlerts conditions deployment.id)
    (fun answer cascade => Ready share clusterId cascade ∧
      ∀ alert ∈ answer.toOption.getD [], Kept share cascade alert) ?_ ?_ ?_ ?_
  · intro cascade hready
    refine ⟨hready, ?_⟩
    cases hanswer : cascade.holdings.activeAlerts conditions deployment.id with
    | error failure => nofun
    | ok alerts => exact kept_of_activeAlerts conditions hready hdeployment hanswer
  · exact fun _ _ hstands => hstands.1
  · intro first second _ _ halike
    exact activeAlerts_congr conditions halike.agree hdeployment
  · intro answer _ _
    cases answer with
    | error failure =>
      refine ⟨fun cascade => cascade.fail .alerts (some deployment.id) failure,
        local_fail fun _ hstands => ⟨hstands.1.fail _ _ _, nofun⟩, fun cascade hanswer => ?_⟩
      unfold resolveAlerts
      rw [hanswer]
    | ok alerts =>
      refine ⟨fun cascade => alerts.foldl (resolveAlert conditions) cascade,
        Local.foldl fun listed hmem => local_resolveAlert conditions hmem, fun cascade hanswer => ?_⟩
      unfold resolveAlerts
      rw [hanswer]

/-! ## Kind by kind -/

theorem local_removeDeployment (hid : share.clusters clusterId = true) {deployment : Resource}
    (hdeployment : share.deployments deployment.id = true) :
    Local share (Ready share clusterId) fun cascade =>
      cascade.removeDeployment conditions deployment :=
  (local_resolveAlerts conditions hdeployment).comp
    (local_removeResource conditions hid .deployments deployment)

theorem removeKind_of_deployments {cascade : Cascade} {kind : ResourceKind} {found : List Resource}
    (hkind : kind = .deployments)
    (h : cascade.holdings.search conditions kind cascade.report.clusterId = .ok found) :
    cascade.removeKind conditions kind = found.foldl (removeDeployment conditions) cascade := by
  subst hkind
  unfold removeKind
  rw [h]

theorem removeKind_of_resources {cascade : Cascade} {kind : ResourceKind} {found : List Resource}
    (hkind : kind ≠ .deployments)
    (h : cascade.holdings.search conditions kind cascade.report.clusterId = .ok found) :
    cascade.removeKind conditions kind = found.foldl (removeResource conditions kind) cascade := by
  unfold removeKind
  rw [h]
  cases kind with
  | deployments => exact absurd rfl hkind
  | _ => rfl

theorem local_removeKind (hid : share.clusters clusterId = true) (kind : ResourceKind) :
    Local share (Ready share clusterId) fun cascade => cascade.removeKind conditions kind := by
  refine Local.ask (fun cascade => cascade.holdings.search conditions kind cascade.report.clusterId)
    (fun answer cascade => Ready share clusterId cascade ∧ (kind = .deployments →
      ∀ deployment ∈ answer.toOption.getD [], share.deployments deployment.id = true)) ?_ ?_ ?_ ?_
  · intro cascade hready
    refine ⟨hready, ?_⟩
    rintro rfl
    cases hanswer : cascade.holdings.search conditions .deployments cascade.report.clusterId with
    | error failure => nofun
    | ok found =>
      rw [Holdings.eq_of_search hanswer, hready.subject]
      exact hready.owned
  · exact fun _ _ hstands => hstands.1
  · exact fun first second hfirst hsecond halike => halike.search conditions hid hfirst hsecond kind
  · rintro answer _ ⟨-, howned⟩
    cases answer with
    | error failure =>
      refine ⟨fun cascade => cascade.fail (.resources kind) none failure,
        local_fail fun _ hstands => ⟨hstands.1.fail _ _ _, hstands.2⟩,
        fun cascade hanswer => removeKind_of_unsearchable conditions hanswer⟩
    | ok found =>
      by_cases hkind : kind = .deployments
      · exact ⟨fun cascade => found.foldl (removeDeployment conditions) cascade,
          Local.and (Local.foldl fun deployment hmem =>
            local_removeDeployment conditions hid (howned hkind deployment hmem)) _,
          fun cascade hanswer => removeKind_of_deployments conditions hkind hanswer⟩
      · exact ⟨fun cascade => found.foldl (removeResource conditions kind) cascade,
          Local.and (Local.foldl fun resource _ => local_removeResource conditions hid kind resource) _,
          fun cascade hanswer => removeKind_of_resources conditions hkind hanswer⟩

/-! ## The whole cascade -/

theorem forgetHealth_apply (cascade : Cascade) :
    cascade.forgetHealth conditions =
      if conditions.isOut .healthDelete cascade.report.clusterId then
        cascade.fail .health none Call.healthDelete.failure
      else { cascade with
        holdings := cascade.holdings.withoutSnapshot cascade.report.clusterId } := by
  unfold forgetHealth
  rw [Holdings.forgetHealth_eq]
  by_cases hout : conditions.isOut .healthDelete cascade.report.clusterId
  · rw [if_pos hout, if_pos hout]
  · rw [if_neg hout, if_neg hout]
    rfl

theorem local_forgetHealth (hid : share.clusters clusterId = true) :
    Local share (Ready share clusterId) fun cascade => cascade.forgetHealth conditions := by
  simp only [forgetHealth_apply]
  by_cases hout : conditions.isOut .healthDelete clusterId
  · refine ⟨?_, ?_, ?_⟩
    · intro cascade hready
      rw [hready.subject, if_pos hout]
      exact hready.fail _ _ _
    · intro cascade hready
      rw [hready.subject, if_pos hout]
      exact .refl _ _
    · intro first second hfirst hsecond halike
      rw [hfirst.subject, hsecond.subject, if_pos hout, if_pos hout]
      exact halike.fail _ _ _
  · refine ⟨?_, ?_, ?_⟩
    · intro cascade hready
      rw [hready.subject, if_neg hout]
      exact ⟨hready.subject, hready.keyed, hready.owned⟩
    · intro cascade hready
      rw [hready.subject, if_neg hout]
      apply Holdings.agree_withoutSnapshot
      simp [Share.rest, hid]
    · intro first second hfirst hsecond halike
      rw [hfirst.subject, hsecond.subject, if_neg hout, if_neg hout]
      exact ⟨halike.agree.withoutSnapshot clusterId, halike.removals, halike.failures⟩

end

section

variable (conditions : Conditions) {cluster : Cluster} {holdings left right : Holdings}

theorem local_steps (hid : share.clusters cluster.id = true) :
    Local share (Ready share cluster.id) fun cascade =>
      ResourceKind.all.foldl (removeKind conditions) (cascade.forgetHealth conditions) :=
  (local_forgetHealth conditions hid).comp
    (Local.foldl fun kind _ => local_removeKind conditions hid kind)

theorem ready_opening (hkeyed : holdings.AlertsKeyed)
    (howned : ∀ deployment ∈ holdings.resourcesOf .deployments cluster.id,
      share.deployments deployment.id = true) (connection : ConnectionEnd) :
    Ready share cluster.id (opening cluster connection holdings) :=
  ⟨rfl, hkeyed, howned⟩

/-- A cascade leaves everything alone that is not in the share of its cluster. -/
theorem agree_run (hid : share.clusters cluster.id = true) (hkeyed : holdings.AlertsKeyed)
    (howned : ∀ deployment ∈ holdings.resourcesOf .deployments cluster.id,
      share.deployments deployment.id = true) (connection : ConnectionEnd) :
    holdings.Agree share.rest (run conditions cluster connection holdings).holdings ∧
      (run conditions cluster connection holdings).holdings.AlertsKeyed := by
  have hready := ready_opening hkeyed howned connection
  have hrank : holdings.Agree share.rest (holdings.forgetRank cluster.id) :=
    holdings.agree_forgetRank (by simp [Share.rest, hid])
  exact ⟨hrank.trans ((local_steps conditions hid).apart _ hready),
    ((local_steps conditions hid).keeps _ hready).keyed⟩

/-- What a cascade does, and what it reports, can be told from the share of its cluster. -/
theorem alike_run (hid : share.clusters cluster.id = true) (hkeyed : left.AlertsKeyed)
    (hkeyed' : right.AlertsKeyed)
    (howned : ∀ deployment ∈ left.resourcesOf .deployments cluster.id,
      share.deployments deployment.id = true) (hagree : left.Agree share right)
    (connection other : ConnectionEnd) :
    Alike share (run conditions cluster connection left) (run conditions cluster other right) := by
  have howned' : ∀ deployment ∈ right.resourcesOf .deployments cluster.id,
      share.deployments deployment.id = true := by
    unfold Holdings.resourcesOf at howned ⊢
    rwa [← hagree.resources .deployments cluster.id hid]
  have hopening : Alike share (opening cluster connection left) (opening cluster other right) :=
    ⟨hagree.forgetRank cluster.id, rfl, rfl⟩
  have hrun : ∀ connection holdings, run conditions cluster connection holdings =
      ResourceKind.all.foldl (removeKind conditions)
        ((opening cluster connection holdings).forgetHealth conditions) :=
    fun _ _ => rfl
  rw [hrun, hrun]
  exact (local_steps conditions hid).alike (opening cluster connection left)
    (opening cluster other right) (ready_opening hkeyed howned connection)
    (ready_opening hkeyed' howned' other) hopening

end

end Cascade

end Fleet
