import Fleet.Teardown.Timeline

/-!
# Teardowns come to their end

Whoever has a turn leads to fewer steps than the turn was counted for, whatever the agents do. So the
steps that are counted at the start are enough: after so many of them nobody has a turn, and no alarm is
set.
-/

namespace Fleet

namespace Lane

@[simp] theorem reach_empty (lanes : Nat) : ({} : Lane).reach lanes = 0 := by
  simp [reach]

theorem reach_cons (lanes : Nat) (job : Job) (rest : List Job) :
    ({ jobs := job :: rest } : Lane).reach lanes =
      ({ jobs := rest } : Lane).reach lanes + (lanes + 6) := by
  simp only [reach, List.length_cons, Nat.succ_mul]

theorem reach_waiting (lanes : Nat) (wait : Wait) (job : Job) (rest : List Job) :
    (⟨some wait, job :: rest⟩ : Lane).reach lanes =
      ({ jobs := rest } : Lane).reach lanes + if wait.isArmed then 0 else 2 := by
  simp only [reach, List.length_cons, Nat.add_sub_cancel]

end Lane

namespace Timeline

/-! ## Sums over lists -/

section

variable {α : Type} (count : α → Nat)

@[simp] theorem total_nil : total count [] = 0 := rfl

@[simp] theorem total_cons (head : α) (tail : List α) :
    total count (head :: tail) = count head + total count tail := rfl

@[simp] theorem total_append (left right : List α) :
    total count (left ++ right) = total count left + total count right := by
  induction left with
  | nil => simp
  | cons head tail ih => simp only [List.cons_append, total_cons, ih, Nat.add_assoc]

@[simp] theorem total_map {β : Type} (f : β → α) (elements : List β) :
    total count (elements.map f) = total (fun element => count (f element)) elements := by
  induction elements with
  | nil => rfl
  | cons head tail ih => simp only [List.map_cons, total_cons, ih]

theorem total_add_one (elements : List α) :
    total (fun element => count element + 1) elements = total count elements + elements.length := by
  induction elements with
  | nil => rfl
  | cons head tail ih =>
    simp only [total_cons, ih, List.length_cons]
    omega

/-- Putting an element in the place of another exchanges what the two count. -/
theorem total_set {elements : List α} {position : Nat} {old : α} (new : α)
    (h : elements[position]? = some old) :
    total count (elements.set position new) + count old = total count elements + count new := by
  induction elements generalizing position with
  | nil => simp at h
  | cons head tail ih =>
    cases position with
    | zero =>
      have hold : head = old := by simpa using h
      simp only [List.set_cons_zero, total_cons, hold]
      omega
    | succ position =>
      have htail := ih (by simpa using h)
      simp only [List.set_cons_succ, total_cons]
      omega

/-- What passes a test and what fails it count as much as all together. -/
theorem total_filter_add_total_filter_not (test : α → Bool) (elements : List α) :
    total count (elements.filter test) + total count (elements.filter (!test ·)) =
      total count elements := by
  induction elements with
  | nil => rfl
  | cons head tail ih =>
    cases htest : test head <;> simp [htest] <;> omega

theorem total_filter_le (test : α → Bool) (elements : List α) :
    total count (elements.filter test) ≤ total count elements := by
  have h := total_filter_add_total_filter_not count test elements
  omega

end

/-! ## Calls for a turn -/

theorem total_call (lanes : Nat) (agenda : Agenda) (turn : Turn) :
    total (Turn.reach lanes) (agenda.call turn) ≤
      total (Turn.reach lanes) agenda + turn.reach lanes := by
  unfold Agenda.call
  split
  · omega
  · simp

theorem total_callAgent (lanes : Nat) (agenda : Agenda) (roster : Roster) (number : Nat) :
    total (Turn.reach lanes) (agenda.callAgent roster number) ≤
      total (Turn.reach lanes) agenda + (lanes + 3) := by
  unfold Agenda.callAgent
  split
  · omega
  · split
    · exact total_call lanes agenda (.agent number)
    · omega

theorem total_foldl_call (lanes : Nat) (agenda : Agenda) (turns : List Turn) :
    total (Turn.reach lanes) (turns.foldl Agenda.call agenda) ≤
      total (Turn.reach lanes) agenda + total (Turn.reach lanes) turns := by
  induction turns generalizing agenda with
  | nil => simp
  | cons turn rest ih =>
    have hrest := ih (agenda.call turn)
    have hturn := total_call lanes agenda turn
    simp only [List.foldl_cons, total_cons]
    omega

/-- Calls put on the agenda whoever is not there, each one once. -/
theorem exists_foldl_call (agenda : Agenda) (turns : List Turn) :
    ∃ fresh, turns.foldl Agenda.call agenda = agenda ++ fresh ∧ fresh.Nodup ∧
      ∀ turn ∈ fresh, turn ∈ turns ∧ turn ∉ agenda := by
  induction turns generalizing agenda with
  | nil => exact ⟨[], by simp⟩
  | cons turn rest ih =>
    obtain ⟨fresh, hfold, hnodup, hfresh⟩ := ih (agenda.call turn)
    rw [List.foldl_cons, hfold]
    unfold Agenda.call at hfresh ⊢
    split
    · rename_i hmem
      rw [if_pos hmem] at hfresh
      exact ⟨fresh, rfl, hnodup, fun other h => ⟨List.mem_cons_of_mem _ (hfresh other h).1,
        (hfresh other h).2⟩⟩
    · rename_i hmem
      rw [if_neg hmem] at hfresh
      refine ⟨turn :: fresh, by simp, List.nodup_cons.2 ⟨?_, hnodup⟩, ?_⟩
      · intro h
        exact (hfresh turn h).2 (by simp)
      · intro other hother
        rcases List.mem_cons.1 hother with rfl | hother
        · exact ⟨List.mem_cons_self, hmem⟩
        · obtain ⟨hturns, hagenda⟩ := hfresh other hother
          exact ⟨List.mem_cons_of_mem _ hturns, fun h => hagenda (List.mem_append_left _ h)⟩

/-- Calling lanes alone adds at most one turn for each of them. -/
theorem total_foldl_call_lanes (lanes : Nat) (agenda : Agenda) {turns : List Turn}
    (h : ∀ turn ∈ turns, ∃ position, position < lanes ∧ turn = .lane position) :
    total (Turn.reach lanes) (turns.foldl Agenda.call agenda) ≤
      total (Turn.reach lanes) agenda + lanes := by
  obtain ⟨fresh, hfold, hnodup, hfresh⟩ := exists_foldl_call agenda turns
  have hsubset : fresh ⊆ (List.range lanes).map Turn.lane := by
    intro turn hturn
    obtain ⟨position, hposition, rfl⟩ := h turn (hfresh turn hturn).1
    exact List.mem_map.2 ⟨position, List.mem_range.2 hposition, rfl⟩
  have hlength : fresh.length ≤ lanes := by
    simpa using hnodup.length_le_of_subset hsubset
  have hones : total (Turn.reach lanes) fresh = fresh.length := by
    have hreach : ∀ turn ∈ fresh, turn.reach lanes = 1 := by
      intro turn hturn
      obtain ⟨position, -, rfl⟩ := h turn (hfresh turn hturn).1
      rfl
    clear hfold hnodup hfresh hsubset hlength
    induction fresh with
    | nil => rfl
    | cons turn rest ih =>
      have hrest := ih fun other hother => hreach other (List.mem_cons_of_mem _ hother)
      have hturn := hreach turn List.mem_cons_self
      simp only [total_cons, List.length_cons]
      omega
  rw [hfold, total_append]
  omega

/-! ## What each change adds -/

section

variable (timeline : Timeline)

@[simp] theorem length_setLane (position : Nat) (lane : Lane) :
    (timeline.setLane position lane).lanes.length = timeline.lanes.length :=
  List.length_set

theorem setLane_self {position : Nat} {lane : Lane}
    (h : timeline.lanes[position]? = some lane) : timeline.setLane position lane = timeline := by
  obtain ⟨hlt, rfl⟩ := List.getElem?_eq_some_iff.1 h
  unfold setLane
  rw [List.set_getElem_self]

/-- A lane counts for itself, whatever the others do. -/
theorem stepsLeft_setLane {position : Nat} (h : position < timeline.lanes.length) (lane : Lane) :
    (timeline.setLane position lane).stepsLeft =
      (timeline.setLane position {}).stepsLeft + lane.reach timeline.lanes.length := by
  have hold := List.getElem?_eq_getElem h
  have hnew := total_set (Lane.reach timeline.lanes.length) lane hold
  have hempty := total_set (Lane.reach timeline.lanes.length) {} hold
  rw [Lane.reach_empty] at hempty
  simp only [stepsLeft, setLane, List.length_set]
  omega

theorem stepsLeft_setAlarm (time : Nat) (turn : Turn) :
    (timeline.setAlarm time turn).stepsLeft =
      timeline.stepsLeft + (turn.reach timeline.lanes.length + 1) := by
  simp only [stepsLeft, setAlarm, total_append, total_cons, total_nil]
  omega

theorem stepsLeft_dropAlarms (turn : Turn) :
    (timeline.dropAlarms turn).stepsLeft ≤ timeline.stepsLeft := by
  have hdrop := total_filter_le (fun alarm : Alarm => alarm.turn.reach timeline.lanes.length + 1)
    (fun alarm => alarm.turn ≠ turn) timeline.alarms
  simp only [stepsLeft, dropAlarms]
  omega

theorem stepsLeft_terminate (number : Nat) :
    (timeline.terminate number).stepsLeft ≤
      timeline.stepsLeft + (timeline.lanes.length + 3) := by
  have hcall := total_callAgent timeline.lanes.length timeline.agenda timeline.roster number
  simp only [stepsLeft, terminate]
  omega

theorem stepsLeft_terminate_setLane (position number : Nat) (lane : Lane) :
    ((timeline.terminate number).setLane position lane).stepsLeft ≤
      (timeline.setLane position lane).stepsLeft + (timeline.lanes.length + 3) := by
  have h := stepsLeft_terminate (timeline.setLane position lane) number
  rwa [length_setLane] at h

theorem stepsLeft_defer {position : Nat} (h : position < timeline.lanes.length) (lane : Lane) :
    (timeline.defer position lane).stepsLeft =
      (timeline.setLane position {}).stepsLeft + lane.reach timeline.lanes.length + 1 := by
  rw [← stepsLeft_setLane timeline h lane]
  simp only [stepsLeft, defer, total_append, total_cons, total_nil, Turn.reach, setLane,
    List.length_set]
  omega

theorem stepsLeft_await {position : Nat} {wait : Wait} (h : position < timeline.lanes.length)
    (hunarmed : wait.isArmed = false) (job : Job) (rest : List Job) :
    (timeline.await position wait (job :: rest)).stepsLeft =
      (timeline.setLane position {}).stepsLeft
        + ({ jobs := rest } : Lane).reach timeline.lanes.length + 2 := by
  have hawait : timeline.await position wait (job :: rest) =
      (timeline.setLane position ⟨some { wait with isArmed := true }, job :: rest⟩).setAlarm
        wait.limit (.lane position) := by
    simp [await, hunarmed]
  rw [hawait, stepsLeft_setAlarm, stepsLeft_setLane timeline h, Lane.reach_waiting]
  rfl

theorem stepsLeft_depart (number : Nat) :
    (timeline.depart number).stepsLeft ≤ timeline.stepsLeft + timeline.lanes.length := by
  have hlanes : ∀ turn ∈ (timeline.alarms.map (·.turn)).filter (timeline.waitsFor number),
      ∃ position, position < timeline.lanes.length ∧ turn = .lane position := by
    intro turn hturn
    have hwaits := (List.mem_filter.1 hturn).2
    cases turn with
    | lane position =>
      refine ⟨position, ?_, rfl⟩
      cases hlane : timeline.lanes[position]? with
      | none => simp [waitsFor, hlane] at hwaits
      | some lane => exact (List.getElem?_eq_some_iff.1 hlane).1
    | _ => simp [waitsFor] at hwaits
  have hcalls := total_foldl_call_lanes timeline.lanes.length timeline.agenda hlanes
  simp only [stepsLeft, depart]
  omega

theorem stepsLeft_heed (number : Nat) :
    (timeline.heed number).stepsLeft ≤ timeline.stepsLeft + (timeline.lanes.length + 2) := by
  unfold heed
  split
  · omega
  · split
    · split
      · have hdepart := stepsLeft_depart timeline number
        omega
      · rw [stepsLeft_setAlarm]
        simp only [Turn.reach]
        omega
    · omega

end

/-! ## A turn leads to less than it was counted for -/

/-- Doing the teardowns of a lane leads to no more steps than they were counted for, but for the turn
of a lane that is broken off before it has done anything. -/
theorem stepsLeft_serve (timeout : Duration) (position left : Nat) (jobs : List Job)
    (timeline : Timeline) (h : position < timeline.lanes.length) :
    (serve timeout position left jobs timeline).stepsLeft ≤
      (timeline.setLane position {}).stepsLeft
        + ({ jobs } : Lane).reach timeline.lanes.length + if left = 0 then 1 else 0 := by
  fun_induction serve timeout position left jobs timeline with
  | case1 left timeline => omega
  | case2 job rest timeline =>
    rw [stepsLeft_defer timeline h]
    simp
  | case3 left job rest timeline hnone ih =>
    have hrest := ih h
    rw [Lane.reach_cons]
    change _ ≤ (timeline.setLane position {}).stepsLeft
      + ({ jobs := rest } : Lane).reach timeline.lanes.length + _ at hrest
    split at hrest <;> omega
  | case4 job rest timeline number hlive asked wait =>
    have hasked : (asked.setLane position {}).stepsLeft ≤ _ :=
      stepsLeft_terminate_setLane timeline position number {}
    have hlanes : asked.lanes.length = timeline.lanes.length := rfl
    rw [stepsLeft_defer asked h, Lane.reach_waiting, Lane.reach_cons, hlanes]
    simp only [wait, Bool.false_eq_true, if_false, if_neg (Nat.succ_ne_zero _)]
    omega
  | case5 job rest timeline number hlive asked left hstopped ih =>
    have hasked : (asked.setLane position {}).stepsLeft ≤ _ :=
      stepsLeft_terminate_setLane timeline position number {}
    have hrest := ih h
    rw [Lane.reach_cons]
    change _ ≤ (asked.setLane position {}).stepsLeft
      + ({ jobs := rest } : Lane).reach timeline.lanes.length + _ at hrest
    split at hrest <;> omega
  | case6 job rest timeline number hlive asked left hrunning hzero ih =>
    have hasked : (asked.setLane position {}).stepsLeft ≤ _ :=
      stepsLeft_terminate_setLane timeline position number {}
    have hrest := ih h
    rw [Lane.reach_cons]
    change _ ≤ (asked.setLane position {}).stepsLeft
      + ({ jobs := rest } : Lane).reach timeline.lanes.length + _ at hrest
    split at hrest <;> omega
  | case7 job rest timeline number hlive asked wait left hrunning hpositive =>
    have hasked : (asked.setLane position {}).stepsLeft ≤ _ :=
      stepsLeft_terminate_setLane timeline position number {}
    have hlanes : asked.lanes.length = timeline.lanes.length := rfl
    rw [stepsLeft_await asked h rfl, Lane.reach_cons, hlanes]
    omega

/-- The turn of a lane leads to no more steps than its teardowns were counted for. -/
theorem stepsLeft_resume (timeout : Duration) (timeline : Timeline) (position : Nat) :
    (timeline.resume timeout position).stepsLeft ≤ timeline.stepsLeft := by
  cases hlane : timeline.lanes[position]? with
  | none => simp [resume, hlane]
  | some lane =>
    have h := (List.getElem?_eq_some_iff.1 hlane).1
    have hself : timeline.stepsLeft = (timeline.setLane position {}).stepsLeft
        + lane.reach timeline.lanes.length := by
      rw [← stepsLeft_setLane timeline h, setLane_self timeline hlane]
    have hturn : timeline.pace.turnLength ≠ 0 := by
      have := timeline.pace.one_lt_turnLength
      omega
    have hrest : timeline.pace.turnLength - 1 ≠ 0 := by
      have := timeline.pace.one_lt_turnLength
      omega
    unfold resume
    rw [hlane]
    obtain ⟨_ | wait, jobs⟩ := lane
    · have hserve := stepsLeft_serve timeout position timeline.pace.turnLength jobs timeline h
      rw [if_neg hturn] at hserve
      dsimp only
      omega
    · cases jobs with
      | nil =>
        have hserve := stepsLeft_serve timeout position timeline.pace.turnLength [] timeline h
        rw [if_neg hturn, Lane.reach_empty] at hserve
        dsimp only
        omega
      | cons job rest =>
        rw [Lane.reach_waiting] at hself
        dsimp only
        split
        · have hdrop := stepsLeft_dropAlarms (timeline.setLane position {}) (.lane position)
          have hserve := stepsLeft_serve timeout position (timeline.pace.turnLength - 1) rest
            ((timeline.dropAlarms (.lane position)).finish job .stopped) h
          rw [if_neg hrest] at hserve
          change _ ≤ ((timeline.setLane position {}).dropAlarms (.lane position)).stepsLeft
            + ({ jobs := rest } : Lane).reach timeline.lanes.length + 0 at hserve
          omega
        · split
          · have hserve := stepsLeft_serve timeout position (timeline.pace.turnLength - 1) rest
              (timeline.finish job .timedOut) h
            rw [if_neg hrest] at hserve
            change _ ≤ (timeline.setLane position {}).stepsLeft
              + ({ jobs := rest } : Lane).reach timeline.lanes.length + 0 at hserve
            omega
          · cases harmed : wait.isArmed with
            | false =>
              rw [stepsLeft_await timeline h harmed]
              rw [harmed] at hself
              simp only [Bool.false_eq_true, if_false] at hself
              omega
            | true => simp [await, harmed]

/-- A turn leads to fewer steps than it was counted for. -/
theorem stepsLeft_take (timeout : Duration) (timeline : Timeline) (turn : Turn) :
    (timeline.take timeout turn).stepsLeft <
      timeline.stepsLeft + turn.reach timeline.lanes.length := by
  cases turn with
  | lane position =>
    have h := stepsLeft_resume timeout timeline position
    simp only [take, Turn.reach]
    omega
  | agent number =>
    have h := stepsLeft_heed timeline number
    simp only [take, Turn.reach]
    omega
  | departure number =>
    have h := stepsLeft_depart timeline number
    simp only [take, Turn.reach]
    omega

/-! ## Every step counts -/

@[simp] theorem stepsLeft_nextRound (timeline : Timeline) :
    timeline.nextRound.stepsLeft = timeline.stepsLeft := by
  unfold nextRound
  split
  · simp only [stepsLeft, total_append, total_nil]
    omega
  · rfl

/-- Time passes only if an alarm goes off. -/
theorem elapse?_eq_some {timeline next : Timeline} (h : timeline.elapse? = some next) :
    ∃ alarm ∈ timeline.alarms, (∀ other ∈ timeline.alarms, alarm.time ≤ other.time) ∧
      next = { timeline with
        now := alarm.time
        alarms := timeline.alarms.filter (¬ ·.time = alarm.time)
        agenda := ((timeline.alarms.filter (·.time = alarm.time)).map (·.turn)).foldl
          Agenda.call timeline.agenda } := by
  unfold elapse? at h
  obtain ⟨time, htime, rfl⟩ := Option.map_eq_some_iff.1 h
  obtain ⟨hmem, hleast⟩ := List.min?_eq_some_iff.1 htime
  obtain ⟨alarm, halarm, rfl⟩ := List.mem_map.1 hmem
  refine ⟨alarm, halarm, fun other hother => hleast _ (List.mem_map_of_mem hother), ?_⟩
  rw [List.partition_eq_filter_filter]
  simp only [Function.comp_def, decide_not]

theorem stepsLeft_elapse? {timeline next : Timeline} (h : timeline.elapse? = some next) :
    next.stepsLeft < timeline.stepsLeft := by
  obtain ⟨alarm, halarm, -, rfl⟩ := elapse?_eq_some h
  simp only [stepsLeft, decide_not]
  generalize timeline.lanes.length = lanes
  -- Each alarm counts for its turn and once more for going off.
  have hsplit := total_filter_add_total_filter_not
    (fun other : Alarm => other.turn.reach lanes + 1) (·.time = alarm.time) timeline.alarms
  have hmem : alarm ∈ timeline.alarms.filter (·.time = alarm.time) := by
    simpa using halarm
  generalize timeline.alarms.filter (·.time = alarm.time) = due at hsplit hmem ⊢
  have hcalls := total_foldl_call lanes timeline.agenda (due.map (·.turn))
  have hdue := total_add_one (fun other : Alarm => other.turn.reach lanes) due
  have hsome := List.length_pos_of_mem hmem
  rw [total_map] at hcalls
  omega

/-- Whoever is first on the agenda takes the turn, and time passes only when nobody is there. -/
theorem step?_eq_some {timeout : Duration} {timeline next : Timeline}
    (h : timeline.step? timeout = some next) :
    (∃ turn rest, timeline.nextRound.agenda = turn :: rest ∧
      next = { timeline.nextRound with
        agenda := rest
        taken := timeline.nextRound.taken + 1 }.take timeout turn) ∨
      timeline.nextRound.agenda = [] ∧ timeline.nextRound.elapse? = some next := by
  unfold step? at h
  dsimp only at h
  split at h
  · rename_i turn rest hagenda
    cases h
    exact .inl ⟨turn, rest, hagenda, rfl⟩
  · rename_i hagenda
    exact .inr ⟨hagenda, h⟩

/-- There is a further step unless nobody has a turn and no alarm is set. -/
theorem step?_eq_none {timeout : Duration} {timeline : Timeline}
    (h : timeline.step? timeout = none) :
    timeline.nextRound.agenda = [] ∧ timeline.nextRound.elapse? = none := by
  unfold step? at h
  dsimp only at h
  split at h
  · cases h
  · rename_i hagenda
    exact ⟨hagenda, h⟩

/-- Every step leaves fewer steps than there were. -/
theorem stepsLeft_step? {timeout : Duration} {timeline next : Timeline}
    (h : timeline.step? timeout = some next) : next.stepsLeft < timeline.stepsLeft := by
  rw [← stepsLeft_nextRound timeline]
  rcases step?_eq_some h with ⟨turn, rest, hagenda, rfl⟩ | ⟨-, helapse⟩
  · refine Nat.lt_of_lt_of_eq (stepsLeft_take timeout _ turn) ?_
    simp only [stepsLeft, hagenda, total_cons]
    omega
  · exact stepsLeft_elapse? helapse

/-- After as many steps as are left at most, there is no further step. -/
theorem step?_steps (timeout : Duration) {n : Nat} {timeline : Timeline}
    (h : timeline.stepsLeft ≤ n) : (timeline.steps timeout n).step? timeout = none := by
  induction n generalizing timeline with
  | zero =>
    cases hstep : timeline.step? timeout with
    | none => exact hstep
    | some next =>
      have hfewer := stepsLeft_step? hstep
      omega
  | succ n ih =>
    unfold steps
    cases hstep : timeline.step? timeout with
    | none => exact hstep
    | some next =>
      have hfewer := stepsLeft_step? hstep
      exact ih (by omega)

end Timeline

end Fleet
