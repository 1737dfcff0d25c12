import Fleet.Proofs.Progress

/-!
# Every teardown is done once

On the timeline no teardown gets lost and none is doubled, and a lane with something to do always has a
turn to come. So once nobody has a turn every teardown is done, and done once.
-/

namespace Fleet.Timeline

/-! ## No teardown gets lost -/

/-- How often a teardown is on the timeline, done or not. -/
def holds (timeline : Timeline) (job : Job) : Nat :=
  (timeline.finished.map (·.1)).count job + total (fun lane => lane.jobs.count job) timeline.lanes

section

variable (timeline : Timeline) (job : Job)

theorem holds_setLane {position : Nat} (h : position < timeline.lanes.length) (lane : Lane) :
    (timeline.setLane position lane).holds job =
      (timeline.setLane position {}).holds job + lane.jobs.count job := by
  have hold := List.getElem?_eq_getElem h
  have hnew := total_set (fun lane : Lane => lane.jobs.count job) lane hold
  have hempty := total_set (fun lane : Lane => lane.jobs.count job) {} hold
  rw [List.count_nil] at hempty
  simp only [holds, setLane]
  omega

theorem holds_finish (first : Job) (connectionEnd : ConnectionEnd) (rest : List Job) :
    (timeline.finish first connectionEnd).holds job + rest.count job =
      timeline.holds job + (first :: rest).count job := by
  simp only [holds, finish, List.map_append, List.map_cons, List.map_nil, List.count_append,
    List.count_cons, List.count_nil]
  omega

theorem holds_await {position : Nat} (wait : Wait) (hunarmed : wait.isArmed = false)
    (h : position < timeline.lanes.length) (jobs : List Job) :
    (timeline.await position wait jobs).holds job =
      (timeline.setLane position {}).holds job + jobs.count job := by
  unfold await
  rw [if_neg (by simp [hunarmed])]
  exact holds_setLane timeline job h _

end

/-- Doing teardowns neither loses nor doubles one. -/
theorem holds_serve (timeout : Duration) (position left : Nat) (jobs : List Job) (timeline : Timeline)
    (h : position < timeline.lanes.length) (job : Job) :
    (serve timeout position left jobs timeline).holds job =
      (timeline.setLane position {}).holds job + jobs.count job := by
  fun_induction serve timeout position left jobs timeline with
  | case1 left timeline => simp
  | case2 first rest timeline => exact holds_setLane timeline job h _
  | case3 left first rest timeline hnone ih =>
    rw [ih h]
    exact holds_finish (timeline.setLane position {}) job first _ rest
  | case4 first rest timeline number hlive asked wait => exact holds_setLane asked job h _
  | case5 first rest timeline number hlive asked left hstopped ih =>
    rw [ih h]
    exact holds_finish (timeline.setLane position {}) job first _ rest
  | case6 first rest timeline number hlive asked left hrunning hzero ih =>
    rw [ih h]
    exact holds_finish (timeline.setLane position {}) job first _ rest
  | case7 first rest timeline number hlive asked wait left hrunning hpositive =>
    exact holds_await asked job wait rfl h _

theorem holds_resume (timeout : Duration) (timeline : Timeline) (position : Nat) (job : Job) :
    (timeline.resume timeout position).holds job = timeline.holds job := by
  cases hlane : timeline.lanes[position]? with
  | none => simp [resume, hlane]
  | some lane =>
    have h := (List.getElem?_eq_some_iff.1 hlane).1
    have hself : timeline.holds job =
        (timeline.setLane position {}).holds job + lane.jobs.count job := by
      rw [← holds_setLane timeline job h, setLane_self timeline hlane]
    rw [hself]
    unfold resume
    rw [hlane]
    obtain ⟨_ | wait, jobs⟩ := lane
    · exact holds_serve timeout position _ jobs timeline h job
    · cases jobs with
      | nil => exact holds_serve timeout position _ [] timeline h job
      | cons first rest =>
        dsimp only
        split
        · refine (holds_serve timeout position _ rest _ (by exact h) job).trans ?_
          exact holds_finish (timeline.setLane position {}) job first _ rest
        · split
          · refine (holds_serve timeout position _ rest _ (by exact h) job).trans ?_
            exact holds_finish (timeline.setLane position {}) job first _ rest
          · cases harmed : wait.isArmed with
            | false => exact holds_await timeline job wait harmed h _
            | true =>
              simp only [await, harmed, if_true]
              exact hself

theorem holds_take (timeout : Duration) (timeline : Timeline) (turn : Turn) (job : Job) :
    (timeline.take timeout turn).holds job = timeline.holds job := by
  cases turn with
  | lane position => exact holds_resume timeout timeline position job
  | departure number => rfl
  | agent number =>
    simp only [take, heed]
    split
    · rfl
    · split
      · split <;> rfl
      · rfl

theorem holds_nextRound (timeline : Timeline) (job : Job) :
    timeline.nextRound.holds job = timeline.holds job := by
  unfold nextRound
  split <;> rfl

theorem holds_step? {timeout : Duration} {timeline next : Timeline}
    (h : timeline.step? timeout = some next) (job : Job) : next.holds job = timeline.holds job := by
  rw [← holds_nextRound timeline]
  rcases step?_eq_some h with ⟨turn, rest, -, rfl⟩ | ⟨-, helapse⟩
  · exact holds_take timeout _ turn job
  · obtain ⟨alarm, -, -, rfl⟩ := elapse?_eq_some helapse
    rfl

theorem holds_steps (timeout : Duration) (n : Nat) (timeline : Timeline) (job : Job) :
    (timeline.steps timeout n).holds job = timeline.holds job := by
  induction n generalizing timeline with
  | zero => rfl
  | succ n ih =>
    unfold steps
    cases hstep : timeline.step? timeout with
    | none => rfl
    | some next => rw [ih next, holds_step? hstep]

theorem holds_start (pace : Pace) (roster : Roster) (queue : TeardownQueue) (agenda : Agenda)
    (job : Job) :
    (start pace roster queue agenda).holds job = (queue.waiting ++ queue.detached).count job := by
  have hdetached : total (fun lane : Lane => lane.jobs.count job)
      (queue.detached.map fun job => { jobs := [job] }) = queue.detached.count job := by
    induction queue.detached with
    | nil => rfl
    | cons first rest ih =>
      rw [List.map_cons, total_cons, ih, List.count_cons, List.count_cons, List.count_nil]
      omega
  simp only [holds, start, total_cons, hdetached, List.map_nil, List.count_nil, List.count_append]
  omega

/-! ## Every lane has its turn to come -/

/-- The alarm of a lane for the end of what it waits for is set. -/
def IsSet (timeline : Timeline) (position : Nat) (wait : Wait) : Prop :=
  ⟨wait.limit, .lane position⟩ ∈ timeline.alarms

/-- A lane with something to do has a turn to come, or waits until its alarm goes off; and an alarm that
was set has not been lost. -/
structure Attends (timeline : Timeline) (position : Nat) (lane : Lane) : Prop where
  comes : lane.jobs = [] ∨ .lane position ∈ timeline.agenda ++ timeline.deferred ∨
    ∃ wait, lane.wait = some wait ∧ timeline.IsSet position wait
  armed : ∀ wait, lane.wait = some wait → wait.isArmed = true →
    timeline.IsSet position wait ∨ wait.limit ≤ timeline.now

theorem subset_call (agenda : Agenda) (turn : Turn) : agenda ⊆ agenda.call turn := by
  unfold Agenda.call
  split
  · exact List.Subset.refl _
  · exact List.subset_append_left _ _

theorem mem_call (agenda : Agenda) (turn : Turn) : turn ∈ agenda.call turn := by
  unfold Agenda.call
  split
  · assumption
  · simp

theorem subset_callAgent (agenda : Agenda) (roster : Roster) (number : Nat) :
    agenda ⊆ agenda.callAgent roster number := by
  unfold Agenda.callAgent
  split
  · exact List.Subset.refl _
  · split
    · exact subset_call agenda (.agent number)
    · exact List.Subset.refl _

theorem subset_foldl_call (agenda : Agenda) (turns : List Turn) :
    agenda ⊆ turns.foldl Agenda.call agenda := by
  obtain ⟨fresh, hfold, -, -⟩ := exists_foldl_call agenda turns
  rw [hfold]
  exact List.subset_append_left _ _

theorem mem_foldl_call {agenda : Agenda} {turns : List Turn} {turn : Turn} (h : turn ∈ turns) :
    turn ∈ turns.foldl Agenda.call agenda := by
  induction turns generalizing agenda with
  | nil => cases h
  | cons first rest ih =>
    rw [List.foldl_cons]
    rcases List.mem_cons.1 h with rfl | hrest
    · exact subset_foldl_call _ rest (mem_call agenda turn)
    · exact ih hrest

/-- Every lane is attended, but for the one that has the turn if there is one, and no alarm is
overdue. -/
structure AttendedBut (timeline : Timeline) (exempt : Option Nat) : Prop where
  lanes : ∀ position lane, exempt ≠ some position → timeline.lanes[position]? = some lane →
    timeline.Attends position lane
  punctual : ∀ alarm ∈ timeline.alarms, timeline.now ≤ alarm.time

namespace AttendedBut

variable {before after : Timeline} {exempt : Option Nat} {position : Nat}

/-- Lanes that are left alone stay attended as long as no turn and no alarm of theirs is lost. -/
theorem change (h : before.AttendedBut exempt)
    (hlanes : ∀ other, exempt ≠ some other → after.lanes[other]? = before.lanes[other]?)
    (hcomes : ∀ other, exempt ≠ some other → .lane other ∈ before.agenda ++ before.deferred →
      .lane other ∈ after.agenda ++ after.deferred)
    (hset : ∀ other wait, exempt ≠ some other → before.IsSet other wait → after.IsSet other wait)
    (hpunctual : ∀ alarm ∈ after.alarms, alarm ∈ before.alarms ∨ after.now ≤ alarm.time)
    (hnow : after.now = before.now) : after.AttendedBut exempt := by
  constructor
  · intro other lane hother hlane
    rw [hlanes other hother] at hlane
    have hattends := h.lanes other lane hother hlane
    constructor
    · rcases hattends.comes with hdone | hagain | ⟨wait, hwait, hisSet⟩
      · exact .inl hdone
      · exact .inr (.inl (hcomes other hother hagain))
      · exact .inr (.inr ⟨wait, hwait, hset other wait hother hisSet⟩)
    · intro wait hwait harmed
      rw [hnow]
      exact (hattends.armed wait hwait harmed).imp_left (hset other wait hother)
  · intro alarm halarm
    rcases hpunctual alarm halarm with hold | hlater
    · rw [hnow]
      exact h.punctual alarm hold
    · exact hlater

/-- Whoever only calls somebody or sets an alarm leaves every lane attended. -/
theorem grow (h : before.AttendedBut exempt) (hlanes : after.lanes = before.lanes)
    (hagenda : before.agenda ⊆ after.agenda) (hdeferred : before.deferred ⊆ after.deferred)
    (halarms : before.alarms ⊆ after.alarms)
    (hpunctual : ∀ alarm ∈ after.alarms, alarm ∈ before.alarms ∨ after.now ≤ alarm.time)
    (hnow : after.now = before.now) : after.AttendedBut exempt := by
  refine h.change ?_ ?_ ?_ hpunctual hnow
  · intro other _
    rw [hlanes]
  · intro other _ hmem
    rcases List.mem_append.1 hmem with hcalled | hbroken
    · exact List.mem_append_left _ (hagenda hcalled)
    · exact List.mem_append_right _ (hdeferred hbroken)
  · intro other wait _ hisSet
    exact halarms hisSet

theorem weaken (h : before.AttendedBut none) (exempt : Option Nat) : before.AttendedBut exempt :=
  ⟨fun other lane _ hlane => h.lanes other lane nofun hlane, h.punctual⟩

/-- Once the lane that had the turn is attended as well, all are. -/
theorem complete (h : before.AttendedBut (some position))
    (hattends : ∀ lane, before.lanes[position]? = some lane → before.Attends position lane) :
    before.AttendedBut none := by
  refine ⟨?_, h.punctual⟩
  intro other lane _ hlane
  by_cases heq : other = position
  · subst heq
    exact hattends lane hlane
  · exact h.lanes other lane (fun hsome => heq (Option.some.inj hsome).symm) hlane

/-- The lane that had the turn is attended again once it is put in its place. -/
theorem setLane {lane : Lane} (h : before.AttendedBut (some position))
    (hlt : position < before.lanes.length)
    (hattends : (before.setLane position lane).Attends position lane) :
    (before.setLane position lane).AttendedBut none := by
  have hothers : (before.setLane position lane).AttendedBut (some position) := by
    refine h.change ?_ (fun _ _ h => h) (fun _ _ _ h => h) (fun _ h => .inl h) rfl
    intro other hother
    exact List.getElem?_set_ne fun heq => hother (congrArg some heq)
  refine hothers.complete ?_
  intro found hfound
  have hlane : (before.setLane position lane).lanes[position]? = some lane :=
    List.getElem?_set_self hlt
  rw [hlane] at hfound
  cases hfound
  exact hattends

theorem finish (h : before.AttendedBut exempt) (job : Job) (connectionEnd : ConnectionEnd) :
    (before.finish job connectionEnd).AttendedBut exempt :=
  h.grow rfl (List.Subset.refl _) (List.Subset.refl _) (List.Subset.refl _) (fun _ h => .inl h) rfl

theorem terminate (h : before.AttendedBut exempt) (number : Nat) :
    (before.terminate number).AttendedBut exempt :=
  h.grow rfl (subset_callAgent _ _ _) (List.Subset.refl _) (List.Subset.refl _)
    (fun _ h => .inl h) rfl

theorem setAlarm (h : before.AttendedBut exempt) {time : Nat} (hlater : before.now ≤ time)
    (turn : Turn) : (before.setAlarm time turn).AttendedBut exempt := by
  refine h.grow rfl (List.Subset.refl _) (List.Subset.refl _) (List.subset_append_left _ _) ?_ rfl
  intro alarm halarm
  rcases List.mem_append.1 halarm with hold | hnew
  · exact .inl hold
  · rw [List.mem_singleton.1 hnew]
    exact .inr hlater

theorem dropAlarms (h : before.AttendedBut (some position)) :
    (before.dropAlarms (.lane position)).AttendedBut (some position) := by
  refine h.change (fun _ _ => rfl) (fun _ _ h => h) ?_ ?_ rfl
  · intro other wait hother hisSet
    refine List.mem_filter.2 ⟨hisSet, decide_eq_true ?_⟩
    intro heq
    cases heq
    exact hother rfl
  · intro alarm halarm
    exact .inl (List.mem_filter.1 halarm).1

theorem defer {lane : Lane} (h : before.AttendedBut (some position))
    (hlt : position < before.lanes.length)
    (hunarmed : ∀ wait, lane.wait = some wait → wait.isArmed = false) :
    (before.defer position lane).AttendedBut none := by
  let called : Timeline := { before with deferred := before.deferred ++ [.lane position] }
  have hcalled : called.AttendedBut (some position) :=
    h.grow rfl (List.Subset.refl _) (List.subset_append_left _ _) (List.Subset.refl _)
      (fun _ h => .inl h) rfl
  refine hcalled.setLane hlt ⟨.inr (.inl ?_), ?_⟩
  · exact List.mem_append_right _ (List.mem_append_right _ List.mem_cons_self)
  · intro wait hwait harmed
    rw [hunarmed wait hwait] at harmed
    cases harmed

theorem await {wait : Wait} {jobs : List Job} (h : before.AttendedBut (some position))
    (hlt : position < before.lanes.length) (hunarmed : wait.isArmed = false)
    (hlater : before.now ≤ wait.limit) : (before.await position wait jobs).AttendedBut none := by
  have hawait : before.await position wait jobs =
      (before.setAlarm wait.limit (.lane position)).setLane position
        ⟨some { wait with isArmed := true }, jobs⟩ := by
    simp [Timeline.await, hunarmed, Timeline.setLane, Timeline.setAlarm]
  rw [hawait]
  refine (h.setAlarm hlater _).setLane hlt ?_
  have hisSet : IsSet ((before.setAlarm wait.limit (.lane position)).setLane position
      ⟨some { wait with isArmed := true }, jobs⟩) position { wait with isArmed := true } :=
    List.mem_append_right _ List.mem_cons_self
  refine ⟨.inr (.inr ⟨_, rfl, hisSet⟩), ?_⟩
  intro found hfound _
  cases hfound
  exact .inl hisSet

theorem depart (h : before.AttendedBut exempt) (number : Nat) :
    (before.depart number).AttendedBut exempt :=
  h.grow rfl (subset_foldl_call _ _) (List.Subset.refl _) (List.Subset.refl _) (fun _ h => .inl h) rfl

theorem heed (h : before.AttendedBut exempt) (number : Nat) :
    (before.heed number).AttendedBut exempt := by
  unfold Timeline.heed
  split
  · exact h
  · split
    · split
      · exact h.depart number
      · exact h.setAlarm (Nat.le_add_right _ _) _
    · exact h

end AttendedBut

/-- A lane that has done what it can in its turn is attended again. -/
theorem attended_serve (timeout : Duration) (position left : Nat) (jobs : List Job)
    (timeline : Timeline) (hlt : position < timeline.lanes.length)
    (h : timeline.AttendedBut (some position)) :
    (serve timeout position left jobs timeline).AttendedBut none := by
  fun_induction serve timeout position left jobs timeline with
  | case1 left timeline =>
    refine h.setLane hlt ⟨.inl rfl, ?_⟩
    intro wait hwait
    cases hwait
  | case2 first rest timeline =>
    refine h.defer hlt ?_
    intro wait hwait
    cases hwait
  | case3 left first rest timeline hnone ih => exact ih hlt (h.finish first _)
  | case4 first rest timeline number hlive asked wait =>
    refine (h.terminate number).defer hlt ?_
    intro found hfound
    cases hfound
    rfl
  | case5 first rest timeline number hlive asked left hstopped ih =>
    exact ih hlt ((h.terminate number).finish first _)
  | case6 first rest timeline number hlive asked left hrunning hzero ih =>
    exact ih hlt ((h.terminate number).finish first _)
  | case7 first rest timeline number hlive asked wait left hrunning hpositive =>
    exact (h.terminate number).await hlt rfl (Nat.le_add_right _ _)

namespace AttendedBut

variable {timeline next : Timeline} {position : Nat}

theorem resume (timeout : Duration) (h : timeline.AttendedBut (some position))
    (harmed : ∀ lane, timeline.lanes[position]? = some lane → ∀ wait, lane.wait = some wait →
      wait.isArmed = true → timeline.IsSet position wait ∨ wait.limit ≤ timeline.now) :
    (timeline.resume timeout position).AttendedBut none := by
  unfold Timeline.resume
  cases hlane : timeline.lanes[position]? with
  | none =>
    refine h.complete ?_
    intro lane hfound
    rw [hlane] at hfound
    cases hfound
  | some lane =>
    have hlt := (List.getElem?_eq_some_iff.1 hlane).1
    have harmed := harmed lane hlane
    obtain ⟨_ | wait, jobs⟩ := lane
    · exact attended_serve timeout position _ jobs timeline hlt h
    · cases jobs with
      | nil => exact attended_serve timeout position _ [] timeline hlt h
      | cons first rest =>
        dsimp only
        split
        · exact attended_serve timeout position _ rest _ hlt (h.dropAlarms.finish first _)
        · split
          · exact attended_serve timeout position _ rest _ hlt (h.finish first _)
          · rename_i hearly
            cases hwait : wait.isArmed with
            | false => exact h.await hlt hwait (by omega)
            | true =>
              simp only [Timeline.await, hwait, if_true]
              have hisSet := (harmed wait rfl hwait).resolve_right hearly
              refine h.complete ?_
              intro found hfound
              rw [hlane] at hfound
              cases hfound
              refine ⟨.inr (.inr ⟨wait, rfl, hisSet⟩), ?_⟩
              intro other hother _
              cases hother
              exact .inl hisSet

/-- Whoever takes the turn has it no longer to come, and all others still do. -/
theorem take (timeout : Duration) (h : timeline.AttendedBut none) {turn : Turn} {rest : Agenda}
    (hagenda : timeline.agenda = turn :: rest) (taken : Nat) :
    (({ timeline with agenda := rest, taken } : Timeline).take timeout turn).AttendedBut none := by
  have hpopped : ∀ exempt : Option Nat, (∀ other, turn = .lane other → exempt = some other) →
      ({ timeline with agenda := rest, taken } : Timeline).AttendedBut exempt := by
    intro exempt hexempt
    refine (h.weaken exempt).change (fun _ _ => rfl) ?_ (fun _ _ _ h => h) (fun _ h => .inl h) rfl
    intro other hother hmem
    rw [hagenda, List.cons_append] at hmem
    rcases List.mem_cons.1 hmem with heq | hrest
    · exact absurd (hexempt other heq.symm) hother
    · exact hrest
  cases turn with
  | lane position =>
    refine (hpopped (some position) ?_).resume timeout ?_
    · intro other heq
      cases heq
      rfl
    · intro lane hlane
      exact (h.lanes position lane nofun hlane).armed
  | agent number => exact (hpopped none nofun).heed number
  | departure number => exact (hpopped none nofun).depart number

theorem nextRound (h : timeline.AttendedBut none) : timeline.nextRound.AttendedBut none := by
  unfold Timeline.nextRound
  split
  · refine h.change (fun _ _ => rfl) ?_ (fun _ _ _ h => h) (fun _ h => .inl h) rfl
    intro other _ hmem
    exact List.mem_append_left _ hmem
  · exact h

/-- An alarm that goes off calls its lane, and all others stay set. -/
theorem elapse (h : timeline.AttendedBut none) (helapse : timeline.elapse? = some next) :
    next.AttendedBut none := by
  obtain ⟨alarm, halarm, hfirst, rfl⟩ := elapse?_eq_some helapse
  have hnow : timeline.now ≤ alarm.time := h.punctual alarm halarm
  have hgoesOff : ∀ other (wait : Wait), timeline.IsSet other wait → wait.limit = alarm.time →
      Turn.lane other ∈ ((timeline.alarms.filter (·.time = alarm.time)).map (·.turn)).foldl
        Agenda.call timeline.agenda := by
    intro other wait hisSet hdue
    refine mem_foldl_call (List.mem_map.2 ⟨_, List.mem_filter.2 ⟨hisSet, ?_⟩, rfl⟩)
    exact decide_eq_true hdue
  have hstays : ∀ other (wait : Wait), timeline.IsSet other wait → ¬ wait.limit = alarm.time →
      (⟨wait.limit, .lane other⟩ : Alarm) ∈ timeline.alarms.filter (¬ ·.time = alarm.time) := by
    intro other wait hisSet hlater
    exact List.mem_filter.2 ⟨hisSet, decide_eq_true hlater⟩
  constructor
  · intro other lane hother hlane
    have hattends := h.lanes other lane hother hlane
    constructor
    · rcases hattends.comes with hdone | hagain | ⟨wait, hwait, hisSet⟩
      · exact .inl hdone
      · rcases List.mem_append.1 hagain with hcalled | hbroken
        · exact .inr (.inl (List.mem_append_left _ (subset_foldl_call _ _ hcalled)))
        · exact .inr (.inl (List.mem_append_right _ hbroken))
      · by_cases hdue : wait.limit = alarm.time
        · exact .inr (.inl (List.mem_append_left _ (hgoesOff other wait hisSet hdue)))
        · exact .inr (.inr ⟨wait, hwait, hstays other wait hisSet hdue⟩)
    · intro wait hwait harmed
      by_cases hdue : wait.limit = alarm.time
      · exact .inr (Nat.le_of_eq hdue)
      · rcases hattends.armed wait hwait harmed with hisSet | hover
        · exact .inl (hstays other wait hisSet hdue)
        · exact .inr (Nat.le_trans hover hnow)
  · intro other hother
    exact hfirst other (List.mem_filter.1 hother).1

theorem step? {timeout : Duration} (h : timeline.AttendedBut none)
    (hstep : timeline.step? timeout = some next) : next.AttendedBut none := by
  rcases step?_eq_some hstep with ⟨turn, rest, hagenda, rfl⟩ | ⟨-, helapse⟩
  · exact h.nextRound.take timeout hagenda _
  · exact h.nextRound.elapse helapse

theorem steps (timeout : Duration) (n : Nat) (h : timeline.AttendedBut none) :
    (timeline.steps timeout n).AttendedBut none := by
  induction n generalizing timeline with
  | zero => exact h
  | succ n ih =>
    unfold Timeline.steps
    cases hstep : timeline.step? timeout with
    | none => exact h
    | some next => exact ih (h.step? hstep)

/-- Lanes that are attended though nobody is called, broken off or has an alarm set are through. -/
theorem jobs_eq_nil (h : timeline.AttendedBut none) (halarms : timeline.alarms = [])
    (hidle : ∀ position lane, timeline.lanes[position]? = some lane →
      .lane position ∈ timeline.agenda ++ timeline.deferred → lane.jobs = [])
    {lane : Lane} (hlane : lane ∈ timeline.lanes) : lane.jobs = [] := by
  obtain ⟨position, hposition⟩ := List.mem_iff_getElem?.1 hlane
  rcases (h.lanes position lane nofun hposition).comes with hdone | hagain | ⟨wait, -, hisSet⟩
  · exact hdone
  · exact hidle position lane hposition hagain
  · unfold IsSet at hisSet
    rw [halarms] at hisSet
    cases hisSet

end AttendedBut

/-- A new round is another agenda, and nothing else changes. -/
theorem nextRound_eq (timeline : Timeline) :
    ∃ agenda deferred taken, timeline.nextRound = { timeline with agenda, deferred, taken } := by
  unfold nextRound
  split
  · exact ⟨_, _, _, rfl⟩
  · exact ⟨_, _, _, rfl⟩

/-- If nobody is called once the round is over, then nobody was broken off in it. -/
theorem deferred_nextRound {timeline : Timeline} (h : timeline.nextRound.agenda = []) :
    timeline.nextRound.deferred = [] := by
  unfold nextRound at h ⊢
  split
  · rfl
  · rename_i hround
    rw [if_neg hround] at h
    simp [h] at hround

/-- A timeline on which nobody has a turn and no alarm is set is through with every lane. -/
theorem jobs_eq_nil_of_quiet {timeout : Duration} {timeline : Timeline}
    (h : timeline.AttendedBut none) (hquiet : timeline.step? timeout = none) :
    ∀ lane ∈ timeline.lanes, lane.jobs = [] := by
  obtain ⟨hagenda, helapse⟩ := step?_eq_none hquiet
  obtain ⟨_, _, _, hround⟩ := timeline.nextRound_eq
  have hlanes : timeline.nextRound.lanes = timeline.lanes := by rw [hround]
  have halarms : timeline.nextRound.alarms = [] := by
    simpa [elapse?] using helapse
  intro lane hlane
  rw [← hlanes] at hlane
  refine h.nextRound.jobs_eq_nil halarms ?_ hlane
  intro position found _ hcalled
  rw [hagenda, deferred_nextRound hagenda] at hcalled
  cases hcalled

/-! ## Every teardown is done once -/

theorem attended_start (pace : Pace) (roster : Roster) {queue : TeardownQueue} {agenda : Agenda}
    (hwaiting : queue.waiting ≠ [] → .lane 0 ∈ agenda)
    (hdetached : ∀ k < queue.detached.length, .lane (k + 1) ∈ agenda) :
    (start pace roster queue agenda).AttendedBut none := by
  refine ⟨?_, nofun⟩
  intro position lane _ hlane
  cases position with
  | zero =>
    cases hlane
    refine ⟨?_, nofun⟩
    by_cases hempty : queue.waiting = []
    · exact .inl hempty
    · exact .inr (.inl (List.mem_append_left _ (hwaiting hempty)))
  | succ k =>
    have hget : (queue.detached.map fun job => ({ jobs := [job] } : Lane))[k]? = some lane := hlane
    rw [List.getElem?_map] at hget
    obtain ⟨job, hjob, rfl⟩ := Option.map_eq_some_iff.1 hget
    have hlt := (List.getElem?_eq_some_iff.1 hjob).1
    exact ⟨.inr (.inl (List.mem_append_left _ (hdetached k hlt))), nofun⟩

/-- If every lane with something to do is called, all are through in the end. -/
theorem jobs_eq_nil_of_run (timeout : Duration) {timeline : Timeline}
    (h : timeline.AttendedBut none) (hdeferred : timeline.deferred = [])
    (halarms : timeline.alarms = []) : ∀ lane ∈ (timeline.run timeout).lanes, lane.jobs = [] := by
  unfold run
  split
  · rename_i hidle
    intro lane hlane
    refine h.jobs_eq_nil halarms ?_ hlane
    intro position found hfound hcalled
    rw [hdeferred, List.append_nil] at hcalled
    have hnothing := List.all_eq_true.1 hidle _ hcalled
    simpa [isIdle, hfound] using hnothing
  · exact jobs_eq_nil_of_quiet (h.steps timeout _) (step?_steps timeout (Nat.le_refl _))

theorem holds_run (timeout : Duration) (timeline : Timeline) (job : Job) :
    (timeline.run timeout).holds job = timeline.holds job := by
  unfold run
  split
  · rfl
  · exact holds_steps timeout _ timeline job

/-- Every teardown of a queue is done once, whatever becomes of the connections. -/
theorem finished_run_perm (timeout : Duration) (pace : Pace) (roster : Roster)
    {queue : TeardownQueue} {agenda : Agenda} (hwaiting : queue.waiting ≠ [] → .lane 0 ∈ agenda)
    (hdetached : ∀ k < queue.detached.length, .lane (k + 1) ∈ agenda) :
    (((start pace roster queue agenda).run timeout).finished.map (·.1)).Perm
      (queue.waiting ++ queue.detached) := by
  have hdone := jobs_eq_nil_of_run timeout (attended_start pace roster hwaiting hdetached) rfl rfl
  rw [List.perm_iff_count]
  intro job
  have hnone : total (fun lane : Lane => lane.jobs.count job)
      ((start pace roster queue agenda).run timeout).lanes = 0 := by
    generalize ((start pace roster queue agenda).run timeout).lanes = lanes at hdone
    induction lanes with
    | nil => rfl
    | cons lane rest ih =>
      rw [total_cons, hdone lane List.mem_cons_self, List.count_nil,
        ih fun other hother => hdone other (List.mem_cons_of_mem _ hother)]
  have hholds := holds_run timeout (start pace roster queue agenda) job
  rw [holds_start, holds, hnone] at hholds
  exact hholds

end Fleet.Timeline
