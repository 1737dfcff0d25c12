import Fleet.Proofs.Meetings
import Fleet.Proofs.Scheduling

/-!
# What the end of a connection decides

How the connection of a removed cluster has ended is noted in the report and decides nothing else. An agent
that ends at once, late, never, or that was asked to end before for another reason: the cascade finds,
removes and reports the same.
-/

namespace Fleet

/-! ## Cascades pay no heed to connections -/

namespace Cascade

/-- The cascade with another note of how the connection has ended. -/
def withConnection (connection : ConnectionEnd) (cascade : Cascade) : Cascade :=
  { cascade with report := { cascade.report with connection } }

variable (conditions : Conditions) (connection : ConnectionEnd)

@[simp] theorem holdings_withConnection (cascade : Cascade) :
    (cascade.withConnection connection).holdings = cascade.holdings := rfl

@[simp] theorem clusterId_withConnection (cascade : Cascade) :
    (cascade.withConnection connection).report.clusterId = cascade.report.clusterId := rfl

@[simp] theorem findings_withConnection (cascade : Cascade) :
    (cascade.withConnection connection).report.findings = cascade.report.findings := rfl

theorem removeResource_withConnection (kind : ResourceKind) (cascade : Cascade) (resource : Resource) :
    (cascade.withConnection connection).removeResource conditions kind resource =
      (cascade.removeResource conditions kind resource).withConnection connection := by
  unfold removeResource
  simp only [holdings_withConnection, clusterId_withConnection]
  split <;> rfl

theorem resolveAlert_withConnection (cascade : Cascade) (alert : Alert) :
    (cascade.withConnection connection).resolveAlert conditions alert =
      (cascade.resolveAlert conditions alert).withConnection connection := by
  unfold resolveAlert
  simp only [holdings_withConnection]
  split <;> rfl

theorem removeDeployment_withConnection (cascade : Cascade) (deployment : Resource) :
    (cascade.withConnection connection).removeDeployment conditions deployment =
      (cascade.removeDeployment conditions deployment).withConnection connection := by
  have halerts : (cascade.withConnection connection).resolveAlerts conditions deployment =
      (cascade.resolveAlerts conditions deployment).withConnection connection := by
    unfold resolveAlerts
    simp only [holdings_withConnection]
    split
    · exact List.foldl_hom _ (resolveAlert_withConnection conditions connection)
    · rfl
  unfold removeDeployment
  rw [halerts, removeResource_withConnection]

theorem removeKind_withConnection (cascade : Cascade) (kind : ResourceKind) :
    (cascade.withConnection connection).removeKind conditions kind =
      (cascade.removeKind conditions kind).withConnection connection := by
  unfold removeKind
  simp only [holdings_withConnection, clusterId_withConnection]
  split
  · rfl
  · cases kind with
    | deployments => exact List.foldl_hom _ (removeDeployment_withConnection conditions connection)
    | _ => exact List.foldl_hom _ (removeResource_withConnection conditions connection _)

theorem forgetHealth_withConnection (cascade : Cascade) :
    (cascade.withConnection connection).forgetHealth conditions =
      (cascade.forgetHealth conditions).withConnection connection := by
  unfold forgetHealth
  simp only [holdings_withConnection, clusterId_withConnection]
  split <;> rfl

/-- The cascades of a cluster differ in the note of how the connection has ended, and in nothing else. -/
theorem run_withConnection (cluster : Cluster) (other : ConnectionEnd) (holdings : Holdings) :
    run conditions cluster connection holdings =
      (run conditions cluster other holdings).withConnection connection := by
  unfold run
  rw [← List.foldl_hom _ (removeKind_withConnection conditions connection),
    ← forgetHealth_withConnection]
  rfl

theorem connection_run (cluster : Cluster) (holdings : Holdings) :
    (run conditions cluster connection holdings).report.connection = connection := by
  rw [run_withConnection conditions connection cluster connection]
  rfl

/-- Every report notes how the connection of its teardown has ended. -/
theorem connections_inTurn (order : List (Job × ConnectionEnd)) (holdings : Holdings) :
    (inTurn conditions order holdings).1.map (fun entry => (entry.1, entry.2.connection)) = order := by
  induction order generalizing holdings with
  | nil => rfl
  | cons first rest ih =>
    have hfirst := connection_run conditions first.2 first.1.cluster holdings
    have hrest := ih (run conditions first.1.cluster first.2 holdings).holdings
    simp only [inTurn, List.map_cons, hfirst, hrest]

/-- Cascades that run in the same order find and leave the same, however the connections have ended. -/
theorem inTurn_congr {first second : List (Job × ConnectionEnd)}
    (h : first.map (·.1) = second.map (·.1)) (holdings : Holdings) :
    (inTurn conditions first holdings).2 = (inTurn conditions second holdings).2 ∧
      (inTurn conditions first holdings).1.map (fun entry => (entry.1, entry.2.findings)) =
        (inTurn conditions second holdings).1.map (fun entry => (entry.1, entry.2.findings)) := by
  induction first generalizing second holdings with
  | nil =>
    rw [List.map_nil, eq_comm, List.map_eq_nil_iff] at h
    rw [h]
    exact ⟨rfl, rfl⟩
  | cons entry rest ih =>
    obtain ⟨other, others, rfl⟩ : ∃ other others, second = other :: others := by
      cases second with
      | nil => cases h
      | cons other others => exact ⟨other, others, rfl⟩
    obtain ⟨hjob, hrest⟩ := List.cons.inj h
    have hrun := run_withConnection conditions entry.2 other.1.cluster other.2 holdings
    obtain ⟨hleft, hfindings⟩ := ih hrest (run conditions other.1.cluster other.2 holdings).holdings
    simp only [inTurn, hjob, hrun, holdings_withConnection, List.map_cons, hleft, hfindings,
      findings_withConnection, and_self]

end Cascade

/-! ## The course of settling -/

namespace Registry

/-- How the teardowns stand after so many steps of settling. -/
def course (state : State) (n : Nat) : Timeline :=
  (Timeline.start state.pace state.roster state.queue state.agenda).steps
    state.settings.terminationTimeout n

theorem exists_timeline_eq_course (state : State) : ∃ last, timeline state = course state last := by
  unfold timeline Timeline.run
  split
  · exact ⟨0, rfl⟩
  · exact ⟨_, rfl⟩

variable {state : State}

theorem attended_course (hsummoned : state.Summoned) :
    (Timeline.start state.pace state.roster state.queue state.agenda).AttendedBut none :=
  Timeline.attended_start state.pace state.roster hsummoned.waiting hsummoned.detached

theorem recounts_course (hsummoned : state.Summoned) (n : Nat) :
    Timeline.Recounts state.settings.terminationTimeout (course state) n := by
  refine Timeline.recounts_steps _ (attended_course hsummoned) ?_ rfl n
  intro lane hlane
  rcases List.mem_cons.1 hlane with rfl | hdetached
  · rfl
  · obtain ⟨job, -, rfl⟩ := List.mem_map.1 hdetached
    rfl

/-- Whoever was asked to end for a teardown has the reason of the teardown from then on, unless there was
one before. -/
theorem ending_course {n k number : Nat} {job : Job} {connection : Connection}
    (hrequests : Timeline.Requests (course state n) (course state (n + 1)) job)
    (hlive : (course state n).connectionOf? job = some number)
    (hconnection : (course state n).roster.connections[number]? = some connection) (hlater : n < k) :
    ∃ later, (course state k).roster.connections[number]? = some later ∧
      later.ending = (connection.ending <|> some Timeline.removalReason) := by
  have hasked := hrequests.asks number hlive
  rw [hconnection, Option.map_some] at hasked
  obtain ⟨later, hfound, hkept⟩ := Timeline.continues_steps _ _ hlater number _ hasked
  obtain ⟨reason, hreason⟩ :=
    Option.isSome_iff_exists.1 (connection.isSome_ending_terminate Timeline.removalReason)
  exact ⟨later, hfound, (hkept.ending reason hreason).trans hreason.symm⟩

/-- Every report is on a teardown that was taken up at some moment, and how the connection has ended
counts from that moment. -/
theorem exists_outcome (hsummoned : state.Summoned) {last : Nat}
    (hlast : timeline state = course state last) {entry : Job × Report} (h : entry ∈ (settle state).1) :
    ∃ n < last, Timeline.Requests (course state n) (course state (n + 1)) entry.1 ∧
      Timeline.Outcome state.settings.terminationTimeout (course state) n entry.1
        entry.2.connection := by
  have hmet : (entry.1, entry.2.connection) ∈ (timeline state).finished := by
    rw [← Cascade.connections_inTurn state.conditions (timeline state).finished state.holdings,
      ← (settle_inTurn state).1]
    exact List.mem_map_of_mem h
  rw [hlast] at hmet
  exact (recounts_course hsummoned last).finished _ hmet

/-- One teardown has no order to come in. -/
theorem jobs_settle_of_one {other : State} (hsummoned : state.Summoned) (hother : other.Summoned)
    (hjobs : other.queue.jobs = state.queue.jobs) (hone : state.queue.jobs.length ≤ 1) :
    (settle other).1.map (·.1) = (settle state).1.map (·.1) := by
  have hperm : ((settle state).1.map (·.1)).Perm state.queue.jobs := (State.settlesExactly hsummoned).once
  have hperm' : ((settle other).1.map (·.1)).Perm other.queue.jobs := (State.settlesExactly hother).once
  rw [hjobs] at hperm'
  cases hlist : state.queue.jobs with
  | nil =>
    rw [hlist] at hperm hperm'
    rw [hperm.eq_nil, hperm'.eq_nil]
  | cons job rest =>
    have hrest : rest = [] := by
      rw [hlist, List.length_cons] at hone
      exact List.length_eq_zero_iff.1 (by omega)
    rw [hlist, hrest, List.perm_singleton] at hperm hperm'
    rw [hperm, hperm']

end Registry

/-- Settling reports on every pending teardown. The report says that no agent was connected if and only if
the cluster had no live connection when its teardown was taken up. Otherwise that connection was asked to
end then, and from then on has the reason it had before or else that of the removal; the report says that
it stopped if it had ended already or does so before the timeout is over, and that it timed out if it has
not ended by then. All the rest pays no heed to connections: what a cascade leaves, removes and fails to
remove is the same however the connection has ended, and two registries that differ in their connections,
timeouts or anything else but hold the same and have the same out of order are left with the same and
report the same as long as their cascades come in the same order, which they do if only one is pending. -/
theorem connection_decides_its_outcome_only {state : State} (hsummoned : state.Summoned) :
    let course := Registry.course state
    ((Registry.settle state).1.map (·.1)).Perm state.queue.jobs ∧
      (∃ last, (Registry.settle state).2.roster = (course last).roster ∧
        ∀ entry ∈ (Registry.settle state).1, ∃ n < last,
          (course n).TakesUp (course (n + 1)) entry.1 ∧
          (entry.2.connection = .notConnected ↔ (course n).connectionOf? entry.1 = none) ∧
          ∀ number, (course n).connectionOf? entry.1 = some number →
            let limit := (course n).now + state.settings.terminationTimeout.nanos
            ((course n).hasStopped number = true ∨ Timeline.StopsBefore course number limit →
                entry.2.connection = .stopped) ∧
              (¬ Timeline.StopsBy course number limit → entry.2.connection = .timedOut) ∧
              ∀ connection, (course n).roster.connections[number]? = some connection →
                ∀ k, n < k → ∃ later, (course k).roster.connections[number]? = some later ∧
                  later.ending = (connection.ending <|> some "cluster was deleted")) ∧
      (∀ cluster connection other holdings,
        let cascade := Cascade.run state.conditions cluster connection holdings
        let another := Cascade.run state.conditions cluster other holdings
        cascade.holdings = another.holdings ∧ cascade.report.findings = another.report.findings) ∧
      ∀ other : State, other.Summoned → other.conditions = state.conditions →
        other.holdings = state.holdings → other.queue.jobs = state.queue.jobs →
        (state.queue.jobs.length ≤ 1 ∨
          (Registry.settle other).1.map (·.1) = (Registry.settle state).1.map (·.1)) →
        (Registry.settle other).2.holdings = (Registry.settle state).2.holdings ∧
          (Registry.settle other).1.map (fun entry => (entry.1, entry.2.findings)) =
            (Registry.settle state).1.map (fun entry => (entry.1, entry.2.findings)) := by
  intro course
  refine ⟨(State.settlesExactly hsummoned).once, ?_, ?_, ?_⟩
  · obtain ⟨last, hlast⟩ := Registry.exists_timeline_eq_course state
    refine ⟨last, ?_, fun entry hentry => ?_⟩
    · rw [Registry.settle_eq, (State.roster_settling state _).1, hlast]
    · obtain ⟨n, hn, hrequests, houtcome⟩ := Registry.exists_outcome hsummoned hlast hentry
      refine ⟨n, hn, hrequests.takesUp, houtcome.eq_notConnected_iff, fun number hlive => ⟨?_, ?_, ?_⟩⟩
      · exact houtcome.eq_stopped (Registry.attended_course hsummoned) hlive
      · exact houtcome.eq_timedOut hlive
      · intro connection hconnection k hk
        exact Registry.ending_course hrequests hlive hconnection hk
  · intro cluster connection other holdings cascade another
    have hsame : cascade = another.withConnection connection :=
      Cascade.run_withConnection state.conditions connection cluster other holdings
    rw [hsame]
    exact ⟨rfl, rfl⟩
  · intro other hother hconditions hholdings hjobs hcome
    have hsame : (Registry.settle other).1.map (·.1) = (Registry.settle state).1.map (·.1) :=
      hcome.elim (Registry.jobs_settle_of_one hsummoned hother hjobs) id
    rw [Registry.jobs_settle, Registry.jobs_settle] at hsame
    obtain ⟨hreports, hleft⟩ := Registry.settle_inTurn state
    obtain ⟨hreports', hleft'⟩ := Registry.settle_inTurn other
    rw [hreports, hreports', hleft, hleft', hconditions, hholdings]
    exact Cascade.inTurn_congr state.conditions hsame state.holdings

/-- A cluster is removed while its agent, which never ends, is connected. One of its pods cannot be
removed. -/
def abandoned : State :=
  (State.start {} {} ⟨0, false⟩).following [
    .call .system (.create { name := "prod" }),
    .connect { clusterId := "$1", version := "4.1", capacity := 8 },
    .addResource .deployments "$1" ⟨"d-1", "web"⟩,
    .addResource .pods "$1" ⟨"p-1", "web-0"⟩,
    .addAlert ⟨"a-1", "d-1", "$1", "root-user", .active⟩,
    .setOutage ⟨"pods.remove", some "p-1"⟩ true,
    .call .system (.remove "$1" none)]

/-- The same cluster with an agent that was asked to end before, for another reason, and takes its time. -/
def maintained : State :=
  { abandoned with
    roster := abandoned.roster.change 0 fun connection =>
      { connection with stopDelay := some (.ofMillis 5), ending := some "maintenance" }
    agenda := abandoned.agenda ++ [.agent 0] }

/-- One agent times out and the other one stops. The pod is reported in both cases, and the same is left. -/
theorem connection_decides_its_outcome_only_of_abandoned :
    (Registry.settle abandoned).1.map (·.2.connection) = [.timedOut] ∧
      (Registry.settle abandoned).2.roster.connections.map (·.ending) = [some "cluster was deleted"] ∧
      (Registry.settle maintained).1.map (·.2.connection) = [.stopped] ∧
      (Registry.settle maintained).2.roster.connections.map (·.ending) = [some "maintenance"] ∧
      (Registry.settle maintained).1.map (·.2.failures.length) = [1] ∧
      (Registry.settle maintained).2.holdings = (Registry.settle abandoned).2.holdings ∧
      (Registry.settle maintained).1.map (fun entry => (entry.1, entry.2.findings)) =
        (Registry.settle abandoned).1.map (fun entry => (entry.1, entry.2.findings)) := by
  have habandoned : abandoned.Summoned := State.Reachable.summoned ⟨_, _, _, _, rfl⟩
  have hmaintained : maintained.Summoned := habandoned.grow rfl (List.subset_append_left _ _)
  have hone : abandoned.queue.jobs.length ≤ 1 := by decide +kernel
  obtain ⟨-, -, -, hsame⟩ := connection_decides_its_outcome_only habandoned
  refine ⟨?_, ?_, ?_, ?_, ?_, hsame maintained hmaintained rfl rfl rfl (.inl hone)⟩
  · decide +kernel
  · decide +kernel
  · decide +kernel
  · decide +kernel
  · decide +kernel

end Fleet
