import Fleet.Proofs.Accounting
import Fleet.Proofs.Locality

/-!
# The order of teardowns does not matter

Cascades of clusters that have no deployment in common have nothing to do with each other: each does and
reports what it would have done alone, whatever the others have done before it. So it does not matter in
which order they run, nor which of them waited in the queue and which went on by themselves: what is left
is the same, and the same alerts were handed on. Nor does it matter whether they run one at a time: single
calls of theirs commute, and they may alternate in any way, as shown in `Fleet.Proofs.Interleaving`.
-/

namespace Fleet

/-! ## The share of a teardown -/

namespace Share

/-- Everything that is in none of some shares. -/
def beside (shares : List Share) : Share :=
  ⟨fun id => !shares.any (·.clusters id), fun id => !shares.any (·.deployments id)⟩

theorem beside_within_rest {shares : List Share} {share : Share} (h : share ∈ shares) :
    (beside shares).Within share.rest := by
  constructor
  · intro id hid
    simp only [beside, Bool.not_eq_true', List.any_eq_false] at hid
    simpa [rest] using hid share h
  · intro id hid
    simp only [beside, Bool.not_eq_true', List.any_eq_false] at hid
    simpa [rest] using hid share h

end Share

namespace Holdings

/-- What a teardown has to do with: its cluster, and the alerts of the deployments of its cluster. -/
def shareOf (holdings : Holdings) (job : Job) : Share where
  clusters id := decide (id = job.cluster.id)
  deployments id := (holdings.resourcesOf .deployments job.cluster.id).any fun deployment =>
    deployment.id = id

/-- Two teardowns that have nothing in common. -/
structure Apart (holdings : Holdings) (first second : Job) : Prop where
  clusters : first.cluster.id ≠ second.cluster.id
  deployments : ∀ deployment ∈ holdings.resourcesOf .deployments first.cluster.id,
    ∀ other ∈ holdings.resourcesOf .deployments second.cluster.id, deployment.id ≠ other.id

variable {holdings : Holdings} {first second job : Job}

instance : Decidable (holdings.Apart first second) :=
  decidable_of_iff
    (first.cluster.id ≠ second.cluster.id ∧
      ∀ deployment ∈ holdings.resourcesOf .deployments first.cluster.id,
        ∀ other ∈ holdings.resourcesOf .deployments second.cluster.id, deployment.id ≠ other.id)
    ⟨fun h => ⟨h.1, h.2⟩, fun h => ⟨h.clusters, h.deployments⟩⟩

theorem mem_clusters_shareOf {id : String} :
    (holdings.shareOf job).clusters id = true ↔ id = job.cluster.id :=
  decide_eq_true_iff

theorem clusters_shareOf_self : (holdings.shareOf job).clusters job.cluster.id = true :=
  mem_clusters_shareOf.2 rfl

theorem mem_deployments_shareOf {id : String} : (holdings.shareOf job).deployments id = true ↔
    ∃ deployment ∈ holdings.resourcesOf .deployments job.cluster.id, deployment.id = id := by
  simp [shareOf]

theorem Apart.symm (h : holdings.Apart first second) : holdings.Apart second first :=
  ⟨h.clusters.symm, fun other hother deployment hdeployment =>
    (h.deployments deployment hdeployment other hother).symm⟩

theorem Apart.within_rest (h : holdings.Apart first second) :
    (holdings.shareOf first).Within (holdings.shareOf second).rest := by
  constructor
  · intro id hfirst
    rw [mem_clusters_shareOf] at hfirst
    have hsecond : ¬ (holdings.shareOf second).clusters id = true := by
      rw [mem_clusters_shareOf, hfirst]
      exact h.clusters
    simpa [Share.rest] using hsecond
  · intro id hfirst
    obtain ⟨deployment, hdeployment, rfl⟩ := mem_deployments_shareOf.1 hfirst
    have hsecond : ¬ (holdings.shareOf second).deployments deployment.id = true := by
      rw [mem_deployments_shareOf]
      rintro ⟨other, hother, heq⟩
      exact h.deployments deployment hdeployment other hother heq.symm
    simpa [Share.rest] using hsecond

/-! ## Shares that cover everything -/

/-- The same is left, and the same alerts were handed on in some order. -/
structure Matches (left right : Holdings) : Prop where
  resources : ∀ kind, left.resources kind = right.resources kind
  alerts : left.alerts = right.alerts
  health : left.health = right.health
  ranks : left.ranks = right.ranks
  notified : left.notified.Perm right.notified

section

variable {left right : Holdings}

theorem Matches.refl (holdings : Holdings) : Matches holdings holdings :=
  ⟨fun _ => rfl, rfl, rfl, rfl, .refl _⟩

theorem Agree.get?_alerts {share : Share} (h : left.Agree share right) {id : String} {alert : Alert}
    (hget : left.alerts.get? id = some alert) (hshare : share.deployments alert.deploymentId = true) :
    right.alerts.get? id = some alert := by
  have hfound := share.get?_alerts hget hshare
  rw [h.alerts] at hfound
  unfold Share.alerts at hfound
  rw [Table.get?_filter] at hfound
  exact (Option.filter_eq_some_iff.1 hfound).1

theorem Agree.count_notified {share : Share} (h : left.Agree share right) {alert : Alert}
    (hshare : share.deployments alert.deploymentId = true) :
    left.notified.count alert = right.notified.count alert := by
  have hcount : ∀ holdings : Holdings,
      (share.notified holdings).count alert = holdings.notified.count alert :=
    fun _ => List.count_filter hshare
  rw [← hcount, ← hcount, h.notified]

/-- What agrees on shares that have every cluster and every deployment is the same. -/
theorem matches_of_agree
    (hclusters : ∀ id, ∃ share : Share, share.clusters id = true ∧ left.Agree share right)
    (hdeployments : ∀ id, ∃ share : Share, share.deployments id = true ∧ left.Agree share right) :
    left.Matches right := by
  refine ⟨?_, ?_, ?_, ?_, ?_⟩
  · intro kind
    apply Table.ext_get?
    intro id
    obtain ⟨share, hid, hagree⟩ := hclusters id
    exact hagree.resources kind id hid
  · apply Table.ext_get?
    intro id
    apply Option.ext
    intro alert
    obtain ⟨share, hshare, hagree⟩ := hdeployments alert.deploymentId
    exact ⟨fun hget => hagree.get?_alerts hget hshare, fun hget => hagree.symm.get?_alerts hget hshare⟩
  · apply Table.ext_get?
    intro id
    obtain ⟨share, hid, hagree⟩ := hclusters id
    exact hagree.health id hid
  · apply Table.ext_get?
    intro id
    obtain ⟨share, hid, hagree⟩ := hclusters id
    exact hagree.ranks id hid
  · rw [List.perm_iff_count]
    intro alert
    obtain ⟨share, hshare, hagree⟩ := hdeployments alert.deploymentId
    exact hagree.count_notified hshare

theorem matches_of_shares (shares : List Share) (hshares : ∀ share ∈ shares, left.Agree share right)
    (hbeside : left.Agree (Share.beside shares) right) : left.Matches right := by
  apply matches_of_agree
  · intro id
    by_cases hshare : ∃ share ∈ shares, share.clusters id = true
    · obtain ⟨share, hmem, hid⟩ := hshare
      exact ⟨share, hid, hshares share hmem⟩
    · refine ⟨_, ?_, hbeside⟩
      simpa [Share.beside] using hshare
  · intro id
    by_cases hshare : ∃ share ∈ shares, share.deployments id = true
    · obtain ⟨share, hmem, hid⟩ := hshare
      exact ⟨share, hid, hshares share hmem⟩
    · refine ⟨_, ?_, hbeside⟩
      simpa [Share.beside] using hshare

end

end Holdings

/-! ## One cascade after another -/

/-- What a report says beside how the connection has ended. -/
structure Findings where
  removals : List Subsystem
  failures : List StepFailure
deriving DecidableEq

/-- The findings of a report. -/
def Report.findings (report : Report) : Findings :=
  ⟨report.removals, report.failures⟩

namespace Cascade

theorem Alike.findings {share : Share} {first second : Cascade} (h : Alike share first second) :
    first.report.findings = second.report.findings := by
  unfold Report.findings
  rw [h.removals, h.failures]

/-- Run the cascades of some teardowns one at a time; the reports come out in the same order. -/
def inTurn (conditions : Conditions) :
    List (Job × ConnectionEnd) → Holdings → List (Job × Report) × Holdings
  | [], holdings => ([], holdings)
  | (job, connection) :: rest, holdings =>
    let cascade := run conditions job.cluster connection holdings
    let (reports, left) := inTurn conditions rest cascade.holdings
    ((job, cascade.report) :: reports, left)

/-- The cascade of a teardown that runs before any other. -/
def alone (conditions : Conditions) (start : Holdings) (job : Job) : Cascade :=
  run conditions job.cluster .notConnected start

/-- How it stands once some teardowns are done: each has done what it would have done alone, and what no
share of theirs has is as it was. -/
structure Through (conditions : Conditions) (start : Holdings) (jobs : List Job) (left : Holdings) :
    Prop where
  keyed : left.AlertsKeyed
  done : ∀ job ∈ jobs, (alone conditions start job).holdings.Agree (start.shareOf job) left
  spared : ∀ share : Share, (∀ job ∈ jobs, share.Within (start.shareOf job).rest) →
    start.Agree share left

section

variable (conditions : Conditions) {start left right : Holdings} {jobs : List Job}

theorem through_nil (hkeyed : start.AlertsKeyed) : Through conditions start [] start :=
  ⟨hkeyed, List.forall_mem_nil _, fun _ _ => .refl _ _⟩

namespace Through

variable {conditions}

/-- The next teardown does and reports what it would have done alone. -/
theorem run (h : Through conditions start jobs left) (hkeyed : start.AlertsKeyed) {job : Job}
    (hapart : ∀ earlier ∈ jobs, start.Apart earlier job) (connection : ConnectionEnd) :
    Through conditions start (jobs ++ [job]) (run conditions job.cluster connection left).holdings ∧
      (run conditions job.cluster connection left).report.findings =
        (alone conditions start job).report.findings := by
  have hid : (start.shareOf job).clusters job.cluster.id = true := Holdings.clusters_shareOf_self
  have howned : ∀ deployment ∈ start.resourcesOf .deployments job.cluster.id,
      (start.shareOf job).deployments deployment.id = true :=
    fun deployment hdeployment => Holdings.mem_deployments_shareOf.2 ⟨deployment, hdeployment, rfl⟩
  -- the earlier ones have left the share of this one alone
  have hfresh : start.Agree (start.shareOf job) left :=
    h.spared _ fun earlier hearlier => (hapart earlier hearlier).symm.within_rest
  have howned' : ∀ deployment ∈ left.resourcesOf .deployments job.cluster.id,
      (start.shareOf job).deployments deployment.id = true := by
    unfold Holdings.resourcesOf at howned ⊢
    rwa [← hfresh.resources .deployments job.cluster.id hid]
  have halike := alike_run conditions hid hkeyed h.keyed howned hfresh .notConnected
    connection
  obtain ⟨hrest, hkeyed'⟩ := agree_run conditions hid h.keyed howned' connection
  refine ⟨⟨hkeyed', ?_, ?_⟩, ?_⟩
  · intro earlier hmem
    rcases List.mem_append.1 hmem with hearlier | hlast
    · exact (h.done earlier hearlier).trans (hrest.mono (hapart earlier hearlier).within_rest)
    · rw [List.mem_singleton.1 hlast]
      exact halike.agree
  · intro share hwithin
    rw [List.forall_mem_append, List.forall_mem_singleton] at hwithin
    exact (h.spared share hwithin.1).trans (hrest.mono hwithin.2)
  · exact halike.findings.symm

/-- Teardowns that have nothing in common do and report what each would have done alone. -/
theorem inTurn {order : List (Job × ConnectionEnd)} (h : Through conditions start jobs left)
    (hkeyed : start.AlertsKeyed) (hapart : (jobs ++ order.map (·.1)).Pairwise start.Apart) :
    Through conditions start (jobs ++ order.map (·.1)) (inTurn conditions order left).2 ∧
      (Cascade.inTurn conditions order left).1.map (fun entry => (entry.1, entry.2.findings)) =
        (order.map (·.1)).map fun job => (job, (alone conditions start job).report.findings) := by
  induction order generalizing jobs left with
  | nil =>
    rw [List.map_nil, List.append_nil]
    exact ⟨h, rfl⟩
  | cons first rest ih =>
    obtain ⟨job, connection⟩ := first
    have hearlier : ∀ earlier ∈ jobs, start.Apart earlier job :=
      fun earlier hmem => (List.pairwise_append.1 hapart).2.2 earlier hmem job List.mem_cons_self
    obtain ⟨hnext, hfindings⟩ := h.run hkeyed hearlier connection
    have hassoc : jobs ++ ((job, connection) :: rest).map (·.1) = (jobs ++ [job]) ++ rest.map (·.1) := by
      simp
    rw [hassoc] at hapart ⊢
    obtain ⟨hthrough, hreports⟩ := ih hnext hapart
    refine ⟨hthrough, ?_⟩
    rw [List.map_cons, List.map_cons, ← hreports, ← hfindings]
    rfl

/-- What is left after the same teardowns in another order is the same. -/
theorem matches_of_perm (h : Through conditions start jobs left) {other : List Job}
    (h' : Through conditions start other right) (hperm : jobs.Perm other) : left.Matches right := by
  have hdone : ∀ job ∈ jobs, left.Agree (start.shareOf job) right :=
    fun job hjob => (h.done job hjob).symm.trans (h'.done job (hperm.subset hjob))
  have hspared : left.Agree (Share.beside (jobs.map start.shareOf)) right := by
    have hwithin : ∀ job ∈ jobs,
        (Share.beside (jobs.map start.shareOf)).Within (start.shareOf job).rest :=
      fun job hjob => Share.beside_within_rest (List.mem_map_of_mem hjob)
    exact (h.spared _ hwithin).symm.trans
      (h'.spared _ fun job hjob => hwithin job (hperm.symm.subset hjob))
  refine Holdings.matches_of_shares (jobs.map start.shareOf) ?_ hspared
  rw [List.forall_mem_map]
  exact hdone

end Through

/-- Two orders of the same teardowns leave the same and report the same. -/
theorem inTurn_perm {first second : List (Job × ConnectionEnd)} (hkeyed : start.AlertsKeyed)
    (hapart : (first.map (·.1)).Pairwise start.Apart)
    (hperm : (first.map (·.1)).Perm (second.map (·.1))) :
    (inTurn conditions first start).2.Matches (inTurn conditions second start).2 ∧
      ((inTurn conditions first start).1.map fun entry => (entry.1, entry.2.findings)).Perm
        ((inTurn conditions second start).1.map fun entry => (entry.1, entry.2.findings)) := by
  have hapart' : (second.map (·.1)).Pairwise start.Apart := hperm.pairwise hapart .symm
  have hstart := through_nil conditions hkeyed
  obtain ⟨hfirst, hreports⟩ := hstart.inTurn hkeyed hapart
  obtain ⟨hsecond, hreports'⟩ := hstart.inTurn hkeyed hapart'
  refine ⟨hfirst.matches_of_perm hsecond hperm, ?_⟩
  rw [hreports, hreports']
  exact hperm.map _

end

end Cascade

namespace Registry

/-- Settling runs the cascades one at a time, in the order in which the connections come to their end. -/
theorem foldl_finish_inTurn (met : List (Job × ConnectionEnd)) (reports : List (Job × Report))
    (state : State) :
    (met.foldl finish (reports, state)).1 =
        reports ++ (Cascade.inTurn state.conditions met state.holdings).1 ∧
      (met.foldl finish (reports, state)).2.holdings =
        (Cascade.inTurn state.conditions met state.holdings).2 := by
  induction met generalizing reports state with
  | nil => exact ⟨(List.append_nil _).symm, rfl⟩
  | cons first rest ih =>
    rw [List.foldl_cons]
    obtain ⟨hreports, hleft⟩ := ih (finish (reports, state) first).1 (finish (reports, state) first).2
    refine ⟨hreports.trans ?_, hleft⟩
    unfold finish
    rw [List.append_assoc]
    rfl

theorem settle_inTurn (state : State) :
    (settle state).1 =
        (Cascade.inTurn state.conditions (timeline state).finished state.holdings).1 ∧
      (settle state).2.holdings =
        (Cascade.inTurn state.conditions (timeline state).finished state.holdings).2 :=
  foldl_finish_inTurn (timeline state).finished [] (rested state)

end Registry

/-! ## Alerts are kept under their own ids -/

namespace Holdings

variable {holdings left : Holdings} {conditions : Conditions}

theorem AlertsKeyed.run (h : holdings.AlertsKeyed) (cluster : Cluster) (connection : ConnectionEnd) :
    (Cascade.run conditions cluster connection holdings).holdings.AlertsKeyed := by
  have hid : Share.clusters ⟨fun _ => true, fun _ => true⟩ cluster.id = true := rfl
  exact (Cascade.agree_run conditions hid h (fun _ _ => rfl) connection).2

theorem AlertsKeyed.inTurn (h : holdings.AlertsKeyed) (order : List (Job × ConnectionEnd)) :
    (Cascade.inTurn conditions order holdings).2.AlertsKeyed := by
  induction order generalizing holdings with
  | nil => exact h
  | cons first rest ih => exact ih (h.run first.1.cluster first.2)

theorem AlertsKeyed.resolveAlert {alertId : String} (h : holdings.AlertsKeyed)
    (hresolve : holdings.resolveAlert conditions alertId = .ok left) : left.AlertsKeyed := by
  cases hget : holdings.alerts.get? alertId with
  | none =>
    unfold Holdings.resolveAlert Conditions.check Conditions.checkPart at hresolve
    rw [hget] at hresolve
    split at hresolve
    · cases hresolve
    split at hresolve
    · cases hresolve
    · cases hresolve
  | some stored =>
    rw [resolveAlert_of_stored hget] at hresolve
    cases hfailure : conditions.resolutionFailure? alertId with
    | some failure =>
      rw [hfailure] at hresolve
      cases hresolve
    | none =>
      rw [hfailure] at hresolve
      cases hresolve
      exact h.addAlert _

end Holdings

namespace State

variable {state : State}

theorem alertsKeyed_next (hsound : state.Sound) (h : state.holdings.AlertsKeyed) (event : Event) :
    (state.next event).holdings.AlertsKeyed := by
  cases event with
  | call scope operation =>
    have heffect : Effect scope state operation _ (state.next (.call scope operation)) :=
      operation.run_effect scope hsound.keyed
    generalize (operation.run scope).answer state = answer,
      state.next (.call scope operation) = after at heffect
    cases heffect <;> exact h
  | settle =>
    change (Registry.settle state).2.holdings.AlertsKeyed
    rw [(Registry.settle_inTurn state).2]
    exact h.inTurn _
  | addAlert alert => exact h.addAlert alert
  | resolveAlert alertId =>
    cases hresolve : state.holdings.resolveAlert state.conditions.withoutOutages alertId with
    | error failure =>
      simp only [next, State.resolveAlert, hresolve]
      exact h
    | ok left =>
      simp only [next, State.resolveAlert, hresolve]
      exact h.resolveAlert hresolve
  | _ => exact h

theorem alertsKeyed_following (hsound : state.Sound) (h : state.holdings.AlertsKeyed)
    (events : List Event) : (state.following events).holdings.AlertsKeyed := by
  induction events generalizing state with
  | nil => exact h
  | cons event rest ih => exact ih (hsound.next event) (alertsKeyed_next hsound h event)

theorem Reachable.alertsKeyed (h : state.Reachable) : state.holdings.AlertsKeyed := by
  obtain ⟨runtime, settings, now, events, rfl⟩ := h
  exact alertsKeyed_following (sound_start runtime settings now) nofun events

theorem Reachable.summoned (h : state.Reachable) : state.Summoned := by
  obtain ⟨runtime, settings, now, events, rfl⟩ := h
  exact (summoned_following (sound_start runtime settings now)
    (summoned_start runtime settings now) events).1

end State

/-- Settling leaves and reports what the cascades leave and report when they run one at a time in any
order, as long as no two of them have anything in common. It does not matter which of them wait in the
queue, how their connections come to their end, or what is out of order; only the order in which alerts
are handed on may differ. -/
theorem settle_as_in_any_turn {state : State} (hreachable : state.Reachable)
    (hapart : state.queue.jobs.Pairwise state.holdings.Apart) {order : List (Job × ConnectionEnd)}
    (horder : (order.map (·.1)).Perm state.queue.jobs) :
    (Registry.settle state).2.holdings.Matches
        (Cascade.inTurn state.conditions order state.holdings).2 ∧
      ((Registry.settle state).1.map fun entry => (entry.1, entry.2.findings)).Perm
        ((Cascade.inTurn state.conditions order state.holdings).1.map fun entry =>
          (entry.1, entry.2.findings)) := by
  have hfinished := hreachable.summoned.finished_perm
  obtain ⟨hreports, hleft⟩ := Registry.settle_inTurn state
  rw [hreports, hleft]
  apply Cascade.inTurn_perm state.conditions hreachable.alertsKeyed
  · exact hfinished.symm.pairwise hapart .symm
  · exact hfinished.trans horder.symm

/-- There is room for one teardown in the queue, and it waits for an agent that never ends. The second one
overtakes it, so that its alert is handed on first, and one pod cannot be removed. -/
theorem settle_as_in_any_turn_of_overtaking :
    let state := (State.start {} { queueCapacity := 1 } ⟨0, false⟩).following [
      .call .system (.create { name := "prod" }),
      .call .system (.create { name := "test" }),
      .connect { clusterId := "$1", version := "4.1", capacity := 8 },
      .addResource .deployments "$1" ⟨"d-1", "web"⟩,
      .addResource .deployments "$2" ⟨"d-2", "web"⟩,
      .addResource .pods "$1" ⟨"p-1", "web-0"⟩,
      .addAlert ⟨"a-1", "d-1", "$1", "root-user", .active⟩,
      .addAlert ⟨"a-2", "d-2", "$2", "root-user", .active⟩,
      .setOutage ⟨"pods.remove", some "p-1"⟩ true,
      .call .system (.remove "$1" none),
      .call .system (.remove "$2" none)]
    let order := state.queue.jobs.map fun job => (job, ConnectionEnd.notConnected)
    state.queue.jobs.map (·.cluster.id) = ["$1", "$2"] ∧
      (Registry.settle state).1.map (·.2.clusterId) = ["$2", "$1"] ∧
      (Registry.settle state).1.map (·.2.failures.length) = [0, 1] ∧
      (Registry.settle state).2.holdings.notified.map (·.id) = ["a-2", "a-1"] ∧
      (Registry.settle state).2.holdings.Matches
        (Cascade.inTurn state.conditions order state.holdings).2 ∧
      ((Registry.settle state).1.map fun entry => (entry.1, entry.2.findings)).Perm
        ((Cascade.inTurn state.conditions order state.holdings).1.map fun entry =>
          (entry.1, entry.2.findings)) := by
  intro state order
  have hreachable : state.Reachable := ⟨_, _, _, _, rfl⟩
  have hjobs : state.queue.jobs.map (·.cluster.id) = ["$1", "$2"] := by decide +kernel
  have hapart : state.queue.jobs.Pairwise state.holdings.Apart := by decide +kernel
  have horder : (order.map (·.1)).Perm state.queue.jobs := .of_eq (by simp [order, Function.comp_def])
  refine ⟨hjobs, ?_, ?_, ?_, settle_as_in_any_turn hreachable hapart horder⟩
  · decide +kernel
  · decide +kernel
  · decide +kernel

end Fleet
