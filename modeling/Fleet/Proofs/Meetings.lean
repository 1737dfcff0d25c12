import Fleet.Proofs.Attendance
import Fleet.Proofs.Rosters

/-!
# How teardowns meet their connections

In its turn a lane takes teardowns up, one after another, and asks the live connection of each cluster to
end. A teardown is through in that turn or waits, and what came of its connection is told by two things
only: when it was taken up, and when the connection ended. A wait is over as soon as the connection has
ended, and no later than the timeout.
-/

namespace Fleet

/-! ## Asking connections to end -/

theorem Connection.terminate_terminate (connection : Connection) (reason : String) :
    (connection.terminate reason).terminate reason = connection.terminate reason := by
  unfold terminate
  cases connection.ending <;> rfl

namespace Roster

/-- The roster after connections were asked to end because their clusters are removed. -/
def asked (roster : Roster) (numbers : List Nat) : Roster :=
  numbers.foldl (fun roster number => roster.terminate number Timeline.removalReason) roster

@[simp] theorem live_asked (roster : Roster) (numbers : List Nat) :
    (roster.asked numbers).live = roster.live := by
  induction numbers generalizing roster with
  | nil => rfl
  | cons number rest ih => exact ih (roster.terminate number _)

/-- Whoever is asked more than once is asked once. -/
theorem getElem?_asked (roster : Roster) (numbers : List Nat) (number : Nat) :
    (roster.asked numbers).connections[number]? =
      if number ∈ numbers then roster.connections[number]?.map (·.terminate Timeline.removalReason)
      else roster.connections[number]? := by
  induction numbers generalizing roster with
  | nil => rfl
  | cons first rest ih =>
    have hfirst : (roster.terminate first Timeline.removalReason).connections[number]? =
        if first = number then roster.connections[number]?.map (·.terminate Timeline.removalReason)
        else roster.connections[number]? :=
      (List.getElem?_modify _ _ _ _).trans (by split <;> simp)
    change ((roster.terminate first Timeline.removalReason).asked rest).connections[number]? = _
    rw [ih, hfirst]
    by_cases hnumber : first = number
    · subst hnumber
      have hagain : ∀ connection : Option Connection,
          (connection.map (·.terminate Timeline.removalReason)).map
              (·.terminate Timeline.removalReason) =
            connection.map (·.terminate Timeline.removalReason) := by
        rintro (_ | connection)
        · rfl
        · exact congrArg some (connection.terminate_terminate _)
      simp [hagain]
    · simp [hnumber, Ne.symm hnumber]

theorem continues_asked (roster : Roster) (numbers : List Nat) :
    roster.Continues (roster.asked numbers) := by
  intro number connection hconnection
  rw [getElem?_asked, hconnection]
  split
  · exact ⟨_, rfl, connection.continues_terminate _⟩
  · exact ⟨connection, rfl, .refl connection⟩

theorem continues_unregister (roster : Roster) (number : Nat) :
    roster.Continues (roster.unregister number) :=
  roster.continues_apply (.move (.unregister number))

end Roster

/-- The teardowns that a lane has not taken up. -/
def Lane.ahead (lane : Lane) : List Job :=
  match lane.wait with
  | none => lane.jobs
  | some _ => lane.jobs.tail

namespace Timeline

variable {timeout : Duration} {timeline before middle after : Timeline} {job : Job} {position : Nat}
  {ended : ConnectionEnd}

/-! ## What a lane does in its turn -/

/-- The live connection of the cluster of a teardown. -/
def connectionOf? (timeline : Timeline) (job : Job) : Option Nat :=
  timeline.roster.live.get? job.cluster.id

theorem asked_of_unconnected (h : timeline.connectionOf? job = none) :
    timeline.roster.asked ([job].filterMap timeline.connectionOf?) = timeline.roster := by
  rw [List.filterMap_cons_none h]
  rfl

theorem asked_of_connected {number : Nat} (h : timeline.connectionOf? job = some number) :
    timeline.roster.asked ([job].filterMap timeline.connectionOf?) =
      (timeline.terminate number).roster := by
  rw [List.filterMap_cons_some h]
  rfl

/-- How the connection of a teardown has ended if that is known as soon as the teardown is taken up. -/
inductive AtOnce (timeout : Duration) (timeline : Timeline) (job : Job) : ConnectionEnd → Prop
  | notConnected (hlive : timeline.connectionOf? job = none) : AtOnce timeout timeline job .notConnected
  | stopped (number : Nat) (hlive : timeline.connectionOf? job = some number)
      (hstopped : timeline.hasStopped number = true) : AtOnce timeout timeline job .stopped
  | timedOut (number : Nat) (hlive : timeline.connectionOf? job = some number)
      (hrunning : ¬ timeline.hasStopped number = true) (hzero : timeout.nanos = 0) :
      AtOnce timeout timeline job .timedOut

/-- How a connection has ended when the wait for it is over. -/
inductive Over (timeline : Timeline) (wait : Wait) : ConnectionEnd → Prop
  | stopped (hstopped : timeline.hasStopped wait.number = true) : Over timeline wait .stopped
  | timedOut (hrunning : ¬ timeline.hasStopped wait.number = true)
      (hlimit : wait.limit ≤ timeline.now) : Over timeline wait .timedOut

/-- All that the turn of a lane does. It takes some teardowns up and asks the live connections of their
clusters to end. Whatever is through by the end of the turn was taken up in it or was waited for before
it, and whatever is waited for was taken up in it or was waited for before it as well. -/
structure Turned (timeout : Duration) (before after : Timeline) (position : Nat) (earlier later : Lane)
    (taken : List Job) : Prop where
  ahead : earlier.ahead = taken ++ later.ahead
  lanes : after.lanes = before.lanes.set position later
  now : after.now = before.now
  roster : after.roster = before.roster.asked (taken.filterMap before.connectionOf?)
  finished : ∀ entry ∈ after.finished, entry ∈ before.finished ∨
    (entry.1 ∈ taken ∧ AtOnce timeout before entry.1 entry.2) ∨
    ∃ wait rest, earlier.wait = some wait ∧ earlier.jobs = entry.1 :: rest ∧ Over before wait entry.2
  waits : ∀ wait, later.wait = some wait → ∃ job rest, later.jobs = job :: rest ∧
    (job ∈ taken ∧ before.connectionOf? job = some wait.number ∧
        wait.limit = before.now + timeout.nanos ∨
      ∃ wait', earlier.wait = some wait' ∧ earlier.jobs = job :: rest ∧
        wait.number = wait'.number ∧ wait.limit = wait'.limit)

theorem hasStopped_of_asked {numbers : List Nat} (h : after.roster = before.roster.asked numbers)
    (number : Nat) : after.hasStopped number = before.hasStopped number := by
  unfold hasStopped
  rw [h, Roster.getElem?_asked]
  split
  · cases before.roster.connections[number]? <;> rfl
  · rfl

theorem connectionOf?_of_asked {numbers : List Nat} (h : after.roster = before.roster.asked numbers) :
    after.connectionOf? = before.connectionOf? := by
  funext job
  unfold connectionOf?
  rw [h, Roster.live_asked]

theorem AtOnce.congr {numbers : List Nat} (h : AtOnce timeout after job ended)
    (hroster : after.roster = before.roster.asked numbers) : AtOnce timeout before job ended := by
  cases h with
  | notConnected hlive =>
    rw [connectionOf?_of_asked hroster] at hlive
    exact .notConnected hlive
  | stopped number hlive hstopped =>
    rw [connectionOf?_of_asked hroster] at hlive
    rw [hasStopped_of_asked hroster] at hstopped
    exact .stopped number hlive hstopped
  | timedOut number hlive hrunning hzero =>
    rw [connectionOf?_of_asked hroster] at hlive
    rw [hasStopped_of_asked hroster] at hrunning
    exact .timedOut number hlive hrunning hzero

theorem Over.congr {numbers : List Nat} {wait : Wait} (h : Over after wait ended)
    (hroster : after.roster = before.roster.asked numbers) (hnow : after.now = before.now) :
    Over before wait ended := by
  cases h with
  | stopped hstopped =>
    rw [hasStopped_of_asked hroster] at hstopped
    exact .stopped hstopped
  | timedOut hrunning hlimit =>
    rw [hasStopped_of_asked hroster] at hrunning
    exact .timedOut hrunning (hnow ▸ hlimit)

namespace Turned

variable {earlier later start : Lane} {rest taken : List Job}

/-- A turn that takes nothing up: it leaves the lane to wait for what it waits for. -/
theorem kept {wait armed : Wait} (hlanes : after.lanes = before.lanes.set position ⟨some armed, job :: rest⟩)
    (hnumber : armed.number = wait.number) (hlimit : armed.limit = wait.limit)
    (hnow : after.now = before.now) (hroster : after.roster = before.roster)
    (hfinished : after.finished = before.finished) :
    Turned timeout before after position ⟨some wait, job :: rest⟩ ⟨some armed, job :: rest⟩ [] where
  ahead := rfl
  lanes := hlanes
  now := hnow
  roster := hroster
  finished := fun _ hentry => .inl (hfinished ▸ hentry)
  waits := by
    intro found hfound
    cases hfound
    exact ⟨job, rest, rfl, .inr ⟨wait, rfl, rfl, hnumber, hlimit⟩⟩

/-- A turn that stops short of the first of the teardowns. -/
theorem deferred (hlanes : after.lanes = before.lanes.set position { jobs := rest })
    (hnow : after.now = before.now) (hroster : after.roster = before.roster)
    (hfinished : after.finished = before.finished) :
    Turned timeout before after position { jobs := rest } { jobs := rest } [] where
  ahead := rfl
  lanes := hlanes
  now := hnow
  roster := hroster
  finished := fun _ hentry => .inl (hfinished ▸ hentry)
  waits := nofun

/-- A turn that ends in waiting for the connection of the first of the teardowns. -/
theorem waiting {wait : Wait} (hlive : before.connectionOf? job = some wait.number)
    (hlimit : wait.limit = before.now + timeout.nanos)
    (hlanes : after.lanes = before.lanes.set position ⟨some wait, job :: rest⟩)
    (hnow : after.now = before.now)
    (hroster : after.roster = (before.terminate wait.number).roster)
    (hfinished : after.finished = before.finished) :
    Turned timeout before after position { jobs := job :: rest } ⟨some wait, job :: rest⟩ [job] where
  ahead := rfl
  lanes := hlanes
  now := hnow
  roster := hroster.trans (asked_of_connected hlive).symm
  finished := fun _ hentry => .inl (hfinished ▸ hentry)
  waits := by
    intro found hfound
    cases hfound
    exact ⟨job, rest, rfl, .inl ⟨List.mem_singleton_self job, hlive, hlimit⟩⟩

/-- What a turn does first comes before what it goes on with: it takes teardowns up, or is through with
the one for which the lane waited, or neither. -/
theorem prepend (first : List Job) (h : Turned timeout middle after position start later taken)
    (hahead : earlier.ahead = first ++ start.ahead) (hlanes : middle.lanes = before.lanes)
    (hnow : middle.now = before.now)
    (hroster : middle.roster = before.roster.asked (first.filterMap before.connectionOf?))
    (hfinished : ∀ entry ∈ middle.finished, entry ∈ before.finished ∨
      (entry.1 ∈ first ∧ AtOnce timeout before entry.1 entry.2) ∨
      ∃ wait rest, earlier.wait = some wait ∧ earlier.jobs = entry.1 :: rest ∧ Over before wait entry.2)
    (hstart : start.wait = none ∨ start = earlier) :
    Turned timeout before after position earlier later (first ++ taken) where
  ahead := by rw [hahead, h.ahead, List.append_assoc]
  lanes := hlanes ▸ h.lanes
  now := h.now.trans hnow
  roster := by
    rw [h.roster, hroster, connectionOf?_of_asked hroster, List.filterMap_append]
    exact (List.foldl_append).symm
  finished := by
    intro entry hentry
    rcases h.finished entry hentry with hold | ⟨htaken, hatOnce⟩ | ⟨wait, rest, hwait, hjobs, hover⟩
    · refine (hfinished entry hold).imp_right (Or.imp_left ?_)
      exact fun h => ⟨List.mem_append_left _ h.1, h.2⟩
    · exact .inr (.inl ⟨List.mem_append_right _ htaken, hatOnce.congr hroster⟩)
    · rcases hstart with hnone | rfl
      · rw [hnone] at hwait
        cases hwait
      · exact .inr (.inr ⟨wait, rest, hwait, hjobs, hover.congr hroster hnow⟩)
  waits := by
    intro wait hwait
    obtain ⟨job, rest, hjobs, hfresh | ⟨wait', hwait', hkept⟩⟩ := h.waits wait hwait
    · obtain ⟨htaken, hlive, hlimit⟩ := hfresh
      rw [connectionOf?_of_asked hroster] at hlive
      rw [hnow] at hlimit
      exact ⟨job, rest, hjobs, .inl ⟨List.mem_append_right _ htaken, hlive, hlimit⟩⟩
    · rcases hstart with hnone | rfl
      · rw [hnone] at hwait'
        cases hwait'
      · exact ⟨job, rest, hjobs, .inr ⟨wait', hwait', hkept⟩⟩

/-- A teardown that is through as soon as it is taken up comes before what the turn goes on with. -/
theorem cons (h : Turned timeout middle after position { jobs := rest } later taken)
    (hend : AtOnce timeout before job ended) (hlanes : middle.lanes = before.lanes)
    (hnow : middle.now = before.now)
    (hroster : middle.roster = before.roster.asked ([job].filterMap before.connectionOf?))
    (hfinished : middle.finished = before.finished ++ [(job, ended)]) :
    Turned timeout before after position { jobs := job :: rest } later (job :: taken) := by
  refine h.prepend [job] rfl hlanes hnow hroster ?_ (.inl rfl)
  intro entry hentry
  rw [hfinished, List.mem_append, List.mem_singleton] at hentry
  refine hentry.imp_right fun heq => .inl ?_
  rw [heq]
  exact ⟨List.mem_singleton_self job, hend⟩

/-- A wait that is over comes before what the turn goes on with. -/
theorem afterWait {wait : Wait} (h : Turned timeout middle after position { jobs := rest } later taken)
    (hend : Over before wait ended) (hlanes : middle.lanes = before.lanes)
    (hnow : middle.now = before.now) (hroster : middle.roster = before.roster)
    (hfinished : middle.finished = before.finished ++ [(job, ended)]) :
    Turned timeout before after position ⟨some wait, job :: rest⟩ later taken := by
  refine h.prepend [] rfl hlanes hnow hroster ?_ (.inl rfl)
  intro entry hentry
  rw [hfinished, List.mem_append, List.mem_singleton] at hentry
  refine hentry.imp_right fun heq => .inr ?_
  rw [heq]
  exact ⟨wait, rest, rfl, rfl, hend⟩

end Turned

/-- A lane that does its teardowns has its turn. -/
theorem turned_serve (timeout : Duration) (position left : Nat) (jobs : List Job) (timeline : Timeline) :
    ∃ later taken, Turned timeout timeline (serve timeout position left jobs timeline) position { jobs }
      later taken := by
  fun_induction serve timeout position left jobs timeline with
  | case1 left timeline => exact ⟨_, _, .deferred rfl rfl rfl rfl⟩
  | case2 job rest timeline => exact ⟨_, _, .deferred rfl rfl rfl rfl⟩
  | case3 left job rest timeline hnone ih =>
    obtain ⟨later, taken, h⟩ := ih
    exact ⟨later, job :: taken, h.cons (.notConnected hnone) rfl rfl (asked_of_unconnected hnone).symm rfl⟩
  | case4 job rest timeline number hlive asked wait =>
    exact ⟨⟨some wait, job :: rest⟩, _, .waiting hlive rfl rfl rfl rfl rfl⟩
  | case5 job rest timeline number hlive asked left hstopped ih =>
    obtain ⟨later, taken, h⟩ := ih
    have hroster : asked.roster = timeline.roster.asked ([job].filterMap timeline.connectionOf?) :=
      (asked_of_connected hlive).symm
    rw [hasStopped_of_asked hroster] at hstopped
    exact ⟨later, job :: taken, h.cons (.stopped number hlive hstopped) rfl rfl hroster rfl⟩
  | case6 job rest timeline number hlive asked left hrunning hzero ih =>
    obtain ⟨later, taken, h⟩ := ih
    have hroster : asked.roster = timeline.roster.asked ([job].filterMap timeline.connectionOf?) :=
      (asked_of_connected hlive).symm
    rw [hasStopped_of_asked hroster] at hrunning
    exact ⟨later, job :: taken, h.cons (.timedOut number hlive hrunning hzero) rfl rfl hroster rfl⟩
  | case7 job rest timeline number hlive asked wait left hrunning hpositive =>
    exact ⟨⟨some { wait with isArmed := true }, job :: rest⟩, _, .waiting hlive rfl rfl rfl rfl rfl⟩

theorem lanes_await {wait : Wait} {jobs : List Job}
    (h : timeline.lanes[position]? = some ⟨some wait, jobs⟩) :
    (timeline.await position wait jobs).lanes =
      timeline.lanes.set position ⟨some { wait with isArmed := true }, jobs⟩ := by
  unfold await
  split
  · rename_i harmed
    have hself := congrArg Timeline.lanes (setLane_self timeline h)
    rw [← harmed]
    exact hself.symm
  · rfl

theorem turned_resume (timeout : Duration) (timeline : Timeline) {lane : Lane}
    (h : timeline.lanes[position]? = some lane) :
    ∃ later taken, Turned timeout timeline (timeline.resume timeout position) position lane later
      taken := by
  unfold resume
  rw [h]
  obtain ⟨_ | wait, jobs⟩ := lane
  · exact turned_serve timeout position timeline.pace.turnLength jobs timeline
  · cases jobs with
    | nil =>
      obtain ⟨later, taken, hserve⟩ := turned_serve timeout position timeline.pace.turnLength [] timeline
      exact ⟨later, taken, hserve.prepend [] rfl rfl rfl rfl (fun _ => .inl) (.inl rfl)⟩
    | cons job rest =>
      dsimp only
      split
      · rename_i hstopped
        obtain ⟨later, taken, hserve⟩ := turned_serve timeout position (timeline.pace.turnLength - 1) rest
          ((timeline.dropAlarms (.lane position)).finish job .stopped)
        exact ⟨later, taken, hserve.afterWait (.stopped hstopped) rfl rfl rfl rfl⟩
      · rename_i hrunning
        split
        · rename_i hlimit
          obtain ⟨later, taken, hserve⟩ := turned_serve timeout position (timeline.pace.turnLength - 1) rest
            (timeline.finish job .timedOut)
          exact ⟨later, taken, hserve.afterWait (.timedOut hrunning hlimit) rfl rfl rfl rfl⟩
        · have hlanes := lanes_await h
          refine ⟨_, _, .kept hlanes rfl rfl ?_ ?_ ?_⟩ <;> (unfold await; split <;> rfl)

/-! ## What a step does -/

/-- Nobody's teardowns get on: an agent looks or leaves, or time passes up to the next alarm. -/
structure Pauses (before after : Timeline) : Prop where
  lanes : after.lanes = before.lanes
  finished : after.finished = before.finished
  roster : before.roster.Continues after.roster
  now : after.now = before.now ∨
    before.nextRound.agenda = [] ∧ before.nextRound.elapse? = some after

/-- An agent that looks whether it is to end its connection leaves all teardowns alone. -/
theorem heed_spares (timeline : Timeline) (number : Nat) :
    (timeline.heed number).lanes = timeline.lanes ∧
      (timeline.heed number).finished = timeline.finished ∧
      timeline.roster.Continues (timeline.heed number).roster ∧
      (timeline.heed number).now = timeline.now := by
  unfold heed
  split
  · exact ⟨rfl, rfl, .refl _, rfl⟩
  · split
    · split
      · exact ⟨rfl, rfl, timeline.roster.continues_unregister number, rfl⟩
      · exact ⟨rfl, rfl, .refl _, rfl⟩
    · exact ⟨rfl, rfl, .refl _, rfl⟩

/-- Either one lane has its turn or no teardown gets on. -/
def Proceeds (timeout : Duration) (before after : Timeline) : Prop :=
  (∃ position earlier later taken, before.lanes[position]? = some earlier ∧
    Turned timeout before after position earlier later taken) ∨ Pauses before after

theorem proceeds_step (h : before.step? timeout = some after) : Proceeds timeout before after := by
  obtain ⟨agenda, deferred, begun, hround⟩ := before.nextRound_eq
  rcases step?_eq_some h with ⟨turn, rest, hagenda, rfl⟩ | ⟨hagenda, helapse⟩
  · rw [hround]
    cases turn with
    | lane position =>
      cases hlane : before.lanes[position]? with
      | none =>
        refine .inr ?_
        simp only [take, resume, hlane]
        exact ⟨rfl, rfl, .refl _, .inl rfl⟩
      | some earlier =>
        let popped : Timeline := { before with agenda := rest, deferred, taken := begun + 1 }
        obtain ⟨later, taken, hturned⟩ := turned_resume timeout popped hlane
        exact .inl ⟨position, earlier, later, taken, hlane,
          hturned.prepend [] rfl rfl rfl rfl (fun _ => .inl) (.inr rfl)⟩
    | agent number =>
      obtain ⟨hlanes, hfinished, hroster, hnow⟩ :=
        heed_spares { before with agenda := rest, deferred, taken := begun + 1 } number
      exact .inr ⟨hlanes, hfinished, hroster, .inl hnow⟩
    | departure number =>
      exact .inr ⟨rfl, rfl, before.roster.continues_unregister number, .inl rfl⟩
  · obtain ⟨alarm, -, -, rfl⟩ := elapse?_eq_some helapse
    refine .inr ⟨?_, ?_, ?_, .inr ⟨hagenda, helapse⟩⟩
    · rw [hround]
    · rw [hround]
    · rw [hround]
      exact .refl _

theorem Proceeds.continues (h : Proceeds timeout before after) :
    before.roster.Continues after.roster := by
  rcases h with ⟨_, _, _, _, -, hturned⟩ | hpauses
  · rw [hturned.roster]
    exact before.roster.continues_asked _
  · exact hpauses.roster

theorem Proceeds.now_le (h : Proceeds timeout before after) (hattended : before.AttendedBut none) :
    before.now ≤ after.now := by
  rcases h with ⟨_, _, _, _, -, hturned⟩ | hpauses
  · exact Nat.le_of_eq hturned.now.symm
  · rcases hpauses.now with hsame | ⟨-, helapse⟩
    · exact Nat.le_of_eq hsame.symm
    · obtain ⟨_, _, _, hround⟩ := before.nextRound_eq
      obtain ⟨alarm, halarm, -, rfl⟩ := elapse?_eq_some helapse
      have hpunctual := hattended.nextRound.punctual alarm halarm
      rwa [hround] at hpunctual

/-- Time passes up to the end of a wait at most. -/
theorem Pauses.now_le_limit (h : Pauses before after) (hattended : before.AttendedBut none) {lane : Lane}
    {wait : Wait} (hlane : lane ∈ before.lanes) (hwait : lane.wait = some wait) (hjobs : lane.jobs ≠ [])
    (hlimit : before.now ≤ wait.limit) : after.now ≤ wait.limit := by
  rcases h.now with hsame | ⟨hagenda, helapse⟩
  · rw [hsame]
    exact hlimit
  · obtain ⟨_, _, _, hround⟩ := before.nextRound_eq
    obtain ⟨position, hposition⟩ := List.mem_iff_getElem?.1 hlane
    have hlanes : before.nextRound.lanes[position]? = some lane := by
      rw [hround]
      exact hposition
    obtain ⟨alarm, -, hfirst, rfl⟩ := elapse?_eq_some helapse
    -- nobody is called, so the lane waits for its alarm
    rcases (hattended.nextRound.lanes position lane nofun hlanes).comes with
      hdone | hcalled | ⟨wait', hwait', hisSet⟩
    · exact absurd hdone hjobs
    · rw [hagenda, deferred_nextRound hagenda] at hcalled
      cases hcalled
    · rw [hwait] at hwait'
      cases hwait'
      exact hfirst _ hisSet

/-! ## The course of events -/

/-- A step takes a teardown up: a lane had not done so before and has done so after it. -/
def TakesUp (before after : Timeline) (job : Job) : Prop :=
  ∃ (position : Nat) (earlier later : Lane) (taken : List Job),
    before.lanes[position]? = some earlier ∧ after.lanes[position]? = some later ∧
      earlier.ahead = taken ++ later.ahead ∧ job ∈ taken

/-- A step takes a teardown up and asks the live connection of its cluster to end. -/
structure Requests (before after : Timeline) (job : Job) : Prop where
  takesUp : TakesUp before after job
  asks : ∀ number, before.connectionOf? job = some number → after.roster.connections[number]? =
    before.roster.connections[number]?.map (·.terminate removalReason)

theorem Turned.requests {earlier later : Lane} {taken : List Job}
    (h : Turned timeout before after position earlier later taken)
    (hlane : before.lanes[position]? = some earlier) (hjob : job ∈ taken) :
    Requests before after job where
  takesUp := by
    refine ⟨position, earlier, later, taken, hlane, ?_, h.ahead, hjob⟩
    rw [h.lanes]
    exact List.getElem?_set_self (List.getElem?_eq_some_iff.1 hlane).1
  asks := by
    intro number hlive
    rw [h.roster, Roster.getElem?_asked, if_pos (List.mem_filterMap.2 ⟨job, hjob, hlive⟩)]

/-- What is to come of the connection of a teardown that is taken up at a moment: it depends on when the
connection has ended, and the time counts from that moment. -/
inductive Outcome (timeout : Duration) (course : Nat → Timeline) (n : Nat) (job : Job) :
    ConnectionEnd → Prop
  | notConnected (hlive : (course n).connectionOf? job = none) :
      Outcome timeout course n job .notConnected
  | stopped (number k : Nat) (hlive : (course n).connectionOf? job = some number)
      (hstopped : (course k).hasStopped number = true)
      (hintime : (course k).now ≤ (course n).now + timeout.nanos) : Outcome timeout course n job .stopped
  | timedOut (number k : Nat) (hlive : (course n).connectionOf? job = some number) (hle : n ≤ k)
      (hrunning : ¬ (course k).hasStopped number = true)
      (hlate : (course n).now + timeout.nanos ≤ (course k).now) : Outcome timeout course n job .timedOut

/-- At a moment in the course of events, every teardown that is through or waited for was taken up
earlier, and what came of its connection counts from then. -/
structure Recounts (timeout : Duration) (course : Nat → Timeline) (m : Nat) : Prop where
  waiting : ∀ lane ∈ (course m).lanes, ∀ wait, lane.wait = some wait → (course m).now ≤ wait.limit ∧
    ∃ job rest, lane.jobs = job :: rest ∧ ∃ n < m, Requests (course n) (course (n + 1)) job ∧
      (course n).connectionOf? job = some wait.number ∧ wait.limit = (course n).now + timeout.nanos
  finished : ∀ entry ∈ (course m).finished, ∃ n < m, Requests (course n) (course (n + 1)) entry.1 ∧
    Outcome timeout course n entry.1 entry.2

theorem AtOnce.outcome {course : Nat → Timeline} {n : Nat} (h : AtOnce timeout (course n) job ended) :
    Outcome timeout course n job ended := by
  cases h with
  | notConnected hlive => exact .notConnected hlive
  | stopped number hlive hstopped => exact .stopped number n hlive hstopped (Nat.le_add_right _ _)
  | timedOut number hlive hrunning hzero =>
    exact .timedOut number n hlive (Nat.le_refl n) hrunning (by rw [hzero]; exact Nat.le_refl _)

/-- A wait that has not gone beyond its limit comes to an end with the outcome that counts from when the
teardown was taken up. -/
theorem Over.outcome {course : Nat → Timeline} {m n : Nat} {wait : Wait}
    (h : Over (course m) wait ended) (hlive : (course n).connectionOf? job = some wait.number)
    (hle : n ≤ m) (hlimit : (course m).now ≤ wait.limit)
    (hcounted : wait.limit = (course n).now + timeout.nanos) : Outcome timeout course n job ended := by
  cases h with
  | stopped hstopped => exact .stopped wait.number m hlive hstopped (hcounted ▸ hlimit)
  | timedOut hrunning hlate => exact .timedOut wait.number m hlive hle hrunning (hcounted ▸ hlate)

namespace Recounts

variable {course : Nat → Timeline} {m : Nat}

/-- After the turn of a lane, what it was through with or waited for before is told as it was, and all the
rest was taken up in this turn. -/
theorem turned (h : Recounts timeout course m) {earlier later : Lane} {taken : List Job}
    (hlane : (course m).lanes[position]? = some earlier)
    (hturned : Turned timeout (course m) (course (m + 1)) position earlier later taken) :
    Recounts timeout course (m + 1) := by
  have hmem : earlier ∈ (course m).lanes := List.mem_of_getElem? hlane
  constructor
  · intro lane hmem' wait hwait
    rw [hturned.now]
    rw [hturned.lanes] at hmem'
    rcases List.mem_or_eq_of_mem_set hmem' with hold | rfl
    · obtain ⟨hlimit, job, rest, hjobs, n, hn, hsince⟩ := h.waiting lane hold wait hwait
      exact ⟨hlimit, job, rest, hjobs, n, Nat.lt_succ_of_lt hn, hsince⟩
    · obtain ⟨job, rest, hjobs, ⟨htaken, hlive, hlimit⟩ | ⟨wait', hwait', hjobs', hnumber, hlimit⟩⟩ :=
        hturned.waits wait hwait
      · exact ⟨hlimit ▸ Nat.le_add_right _ _, job, rest, hjobs, m, Nat.lt_succ_self m,
          hturned.requests hlane htaken, hlive, hlimit⟩
      · obtain ⟨hlimit', job', rest', heq, n, hn, hsince⟩ := h.waiting earlier hmem wait' hwait'
        rw [hjobs'] at heq
        cases heq
        rw [hnumber, hlimit]
        exact ⟨hlimit', job, rest, hjobs, n, Nat.lt_succ_of_lt hn, hsince⟩
  · intro entry hentry
    rcases hturned.finished entry hentry with
      hold | ⟨htaken, hatOnce⟩ | ⟨wait, rest, hwait, hjobs, hover⟩
    · obtain ⟨n, hn, hsince⟩ := h.finished entry hold
      exact ⟨n, Nat.lt_succ_of_lt hn, hsince⟩
    · exact ⟨m, Nat.lt_succ_self m, hturned.requests hlane htaken, hatOnce.outcome⟩
    · obtain ⟨hlimit, job, rest', heq, n, hn, hrequests, hlive, hcounted⟩ :=
        h.waiting earlier hmem wait hwait
      rw [hjobs] at heq
      cases heq
      exact ⟨n, Nat.lt_succ_of_lt hn, hrequests,
        hover.outcome hlive (Nat.le_of_lt hn) hlimit hcounted⟩

/-- If no teardown gets on, all is told as it was, and no wait lasts beyond its limit. -/
theorem pauses (h : Recounts timeout course m) (hattended : (course m).AttendedBut none)
    (hpauses : Pauses (course m) (course (m + 1))) : Recounts timeout course (m + 1) := by
  constructor
  · intro lane hmem wait hwait
    rw [hpauses.lanes] at hmem
    obtain ⟨hlimit, job, rest, hjobs, n, hn, hsince⟩ := h.waiting lane hmem wait hwait
    refine ⟨?_, job, rest, hjobs, n, Nat.lt_succ_of_lt hn, hsince⟩
    exact hpauses.now_le_limit hattended hmem hwait (hjobs ▸ List.cons_ne_nil job rest) hlimit
  · intro entry hentry
    rw [hpauses.finished] at hentry
    obtain ⟨n, hn, hsince⟩ := h.finished entry hentry
    exact ⟨n, Nat.lt_succ_of_lt hn, hsince⟩

theorem succ (h : Recounts timeout course m) (hattended : (course m).AttendedBut none)
    (hproceeds : Proceeds timeout (course m) (course (m + 1))) :
    Recounts timeout course (m + 1) := by
  rcases hproceeds with ⟨_, _, _, _, hlane, hturned⟩ | hpauses
  · exact h.turned hlane hturned
  · exact h.pauses hattended hpauses

end Recounts

theorem steps_succ (timeout : Duration) (n : Nat) (timeline : Timeline) :
    timeline.steps timeout (n + 1) =
      ((timeline.steps timeout n).step? timeout).getD (timeline.steps timeout n) := by
  induction n generalizing timeline with
  | zero =>
    simp only [steps]
    cases timeline.step? timeout <;> rfl
  | succ n ih =>
    cases hstep : timeline.step? timeout with
    | none => simp [steps, hstep]
    | some next =>
      have hnext : ∀ k, timeline.steps timeout (k + 1) = next.steps timeout k := by
        intro k
        simp only [steps, hstep]
      rw [hnext, hnext, ih]

theorem proceeds_steps (timeout : Duration) (n : Nat) (timeline : Timeline) :
    Proceeds timeout (timeline.steps timeout n) (timeline.steps timeout (n + 1)) := by
  rw [steps_succ]
  cases hstep : (timeline.steps timeout n).step? timeout with
  | none => exact .inr ⟨rfl, rfl, .refl _, .inl rfl⟩
  | some next => exact proceeds_step hstep

section

variable {start : Timeline} {m n : Nat}

theorem now_steps_le (timeout : Duration) (hattended : start.AttendedBut none) (h : m ≤ n) :
    (start.steps timeout m).now ≤ (start.steps timeout n).now := by
  induction h with
  | refl => exact Nat.le_refl _
  | step _ ih =>
    exact Nat.le_trans ih ((proceeds_steps timeout _ start).now_le (hattended.steps timeout _))

theorem continues_steps (timeout : Duration) (start : Timeline) (h : m ≤ n) :
    (start.steps timeout m).roster.Continues (start.steps timeout n).roster := by
  induction h with
  | refl => exact .refl _
  | step _ ih => exact ih.trans (proceeds_steps timeout _ start).continues

theorem hasStopped_of_continues {number : Nat} (h : before.roster.Continues after.roster)
    (hstopped : before.hasStopped number = true) : after.hasStopped number = true := by
  unfold hasStopped at hstopped ⊢
  cases hconnection : before.roster.connections[number]? with
  | none =>
    rw [hconnection] at hstopped
    cases hstopped
  | some connection =>
    rw [hconnection] at hstopped
    obtain ⟨current, hcurrent, hkept⟩ := h number connection hconnection
    rw [hcurrent]
    exact hkept.stopped hstopped

theorem recounts_steps (timeout : Duration) (hattended : start.AttendedBut none)
    (hwaits : ∀ lane ∈ start.lanes, lane.wait = none) (hfinished : start.finished = []) (m : Nat) :
    Recounts timeout (fun n => start.steps timeout n) m := by
  induction m with
  | zero =>
    constructor
    · intro lane hlane wait hwait
      rw [hwaits lane hlane] at hwait
      cases hwait
    · intro entry hentry
      change entry ∈ start.finished at hentry
      rw [hfinished] at hentry
      cases hentry
  | succ m ih => exact ih.succ (hattended.steps timeout m) (proceeds_steps timeout m start)

/-! ## What the outcome says -/

/-- A connection has ended in the course of events before a time. -/
def StopsBefore (course : Nat → Timeline) (number time : Nat) : Prop :=
  ∃ k, (course k).hasStopped number = true ∧ (course k).now < time

/-- A connection has ended in the course of events by a time. -/
def StopsBy (course : Nat → Timeline) (number time : Nat) : Prop :=
  ∃ k, (course k).hasStopped number = true ∧ (course k).now ≤ time

namespace Outcome

variable {course : Nat → Timeline} {number : Nat}

theorem eq_notConnected_iff (h : Outcome timeout course n job ended) :
    ended = .notConnected ↔ (course n).connectionOf? job = none := by
  cases h with
  | notConnected hlive => exact iff_of_true rfl hlive
  | stopped _ _ hlive | timedOut _ _ hlive =>
    rw [hlive]
    exact iff_of_false nofun nofun

theorem eq_stopped (h : Outcome timeout (fun k => start.steps timeout k) n job ended)
    (hattended : start.AttendedBut none)
    (hlive : (start.steps timeout n).connectionOf? job = some number)
    (hstops : (start.steps timeout n).hasStopped number = true ∨
      StopsBefore (fun k => start.steps timeout k) number
        ((start.steps timeout n).now + timeout.nanos)) : ended = .stopped := by
  cases h with
  | notConnected hnone => exact absurd (hnone.symm.trans hlive) nofun
  | stopped => rfl
  | timedOut other k hlive' hle hrunning hlate =>
    obtain rfl : other = number := Option.some.inj (hlive'.symm.trans hlive)
    refine absurd ?_ hrunning
    rcases hstops with hsooner | ⟨i, hstopped, hearly⟩
    · exact hasStopped_of_continues (continues_steps timeout start hle) hsooner
    · have hi : i ≤ k := by
        by_contra hlater
        have hnow := now_steps_le timeout hattended (Nat.le_of_not_le hlater)
        dsimp only at hearly hlate
        omega
      exact hasStopped_of_continues (continues_steps timeout start hi) hstopped

theorem eq_timedOut (h : Outcome timeout course n job ended)
    (hlive : (course n).connectionOf? job = some number)
    (hnever : ¬ StopsBy course number ((course n).now + timeout.nanos)) : ended = .timedOut := by
  cases h with
  | notConnected hnone => exact absurd (hnone.symm.trans hlive) nofun
  | stopped other k hlive' hstopped hintime =>
    obtain rfl : other = number := Option.some.inj (hlive'.symm.trans hlive)
    exact absurd ⟨k, hstopped, hintime⟩ hnever
  | timedOut => rfl

end Outcome

end

end Timeline

end Fleet
