import Fleet.Proofs.Itinerary

/-!
# Cascades that take turns

A cascade is run as one step, and on another runtime the calls of several cascades could alternate.
Here a cascade goes on by one call at a time, and which cascade goes on next is left open. Calls of
cascades that have nothing in common can be exchanged, and whatever the alternation was, each of them has
in the end done and reported what it would have done alone.
-/

namespace Fleet

namespace Cascade

/-! ## A cascade under way -/

/-- A cascade under way: its report so far, and the calls that it has to make yet. -/
structure Process where
  job : Job
  report : Report
  todo : List Task

namespace Process

/-- A cascade that has not made a call yet. -/
def start (job : Job) (connection : ConnectionEnd) : Process where
  job := job
  report := { clusterId := job.cluster.id, clusterName := job.cluster.name, connection }
  todo := itinerary

/-- The cascade, with what is held at the moment. -/
def on (process : Process) (holdings : Holdings) : Cascade :=
  ⟨holdings, process.report⟩

/-- Make the next call, if there is one left. -/
def proceed (conditions : Conditions) (process : Process) (holdings : Holdings) : Process × Holdings :=
  match process.todo with
  | [] => (process, holdings)
  | task :: rest =>
    let cascade := process.on holdings
    let after := cascade.perform conditions task
    ({ process with report := after.report, todo := cascade.followUp conditions task ++ rest },
      after.holdings)

/-- The share that the cascade had of what was held at the start is still enough for it. -/
def FitsIn (begun : Holdings) (process : Process) (holdings : Holdings) : Prop :=
  Fits (begun.shareOf process.job) process.job.cluster.id process.todo (process.on holdings)

variable (conditions : Conditions) {begun holdings left : Holdings} {process other : Process}
  {task : Task} {rest : List Task}

theorem proceed_of_done (h : process.todo = []) :
    process.proceed conditions holdings = (process, holdings) := by
  simp only [proceed, h]

theorem proceed_of_task (h : process.todo = task :: rest) :
    process.proceed conditions holdings =
      ({ process with
          report := ((process.on holdings).perform conditions task).report
          todo := (process.on holdings).followUp conditions task ++ rest },
        ((process.on holdings).perform conditions task).holdings) := by
  simp only [proceed, h]

theorem job_proceed : (process.proceed conditions holdings).1.job = process.job := by
  unfold proceed
  split <;> rfl

/-- A call leaves alone what is not in the share of the cascade. -/
theorem FitsIn.agree_proceed (h : process.FitsIn begun holdings) :
    holdings.Agree (begun.shareOf process.job).rest (process.proceed conditions holdings).2 := by
  unfold FitsIn at h
  cases htodo : process.todo with
  | nil =>
    rw [proceed_of_done conditions htodo]
    exact .refl _ _
  | cons task rest =>
    rw [proceed_of_task conditions htodo]
    rw [htodo] at h
    exact (local_perform conditions Holdings.clusters_shareOf_self List.mem_cons_self).apart _ h

theorem FitsIn.proceed (h : process.FitsIn begun holdings) :
    (process.proceed conditions holdings).1.FitsIn begun (process.proceed conditions holdings).2 := by
  cases htodo : process.todo with
  | nil =>
    rw [proceed_of_done conditions htodo]
    exact h
  | cons task rest =>
    rw [proceed_of_task conditions htodo]
    unfold FitsIn at h
    rw [htodo] at h
    exact Fits.perform conditions h Holdings.clusters_shareOf_self

theorem FitsIn.moved (h : process.FitsIn begun holdings)
    (hagree : holdings.Agree (begun.shareOf process.job) left) (hkeyed : left.AlertsKeyed) :
    process.FitsIn begun left :=
  Fits.moved h Holdings.clusters_shareOf_self hagree hkeyed

/-- What a call does can be told from the share of the cascade. -/
theorem proceed_congr (h : process.FitsIn begun holdings) (h' : process.FitsIn begun left)
    (hagree : holdings.Agree (begun.shareOf process.job) left) :
    (process.proceed conditions holdings).1 = (process.proceed conditions left).1 ∧
      (process.proceed conditions holdings).2.Agree (begun.shareOf process.job)
        (process.proceed conditions left).2 := by
  cases htodo : process.todo with
  | nil =>
    rw [proceed_of_done conditions htodo, proceed_of_done conditions htodo]
    exact ⟨rfl, hagree⟩
  | cons task rest =>
    unfold FitsIn at h h'
    rw [htodo] at h h'
    have hid : (begun.shareOf process.job).clusters process.job.cluster.id = true :=
      Holdings.clusters_shareOf_self
    have halike : Alike (begun.shareOf process.job) (process.on holdings) (process.on left) :=
      ⟨hagree, rfl, rfl⟩
    have hafter := (local_perform conditions hid List.mem_cons_self).alike _ _ h h' halike
    have hreport : (process.on holdings).report = (process.on left).report := rfl
    rw [proceed_of_task conditions htodo, proceed_of_task conditions htodo,
      report_perform_congr conditions hreport hafter,
      followUp_congr conditions hid List.mem_cons_self h h' halike]
    exact ⟨rfl, hafter.agree⟩

/-- Calls of two cascades that have nothing in common can be exchanged. -/
theorem proceed_comm (hapart : begun.Apart process.job other.job) (h : process.FitsIn begun holdings)
    (h' : other.FitsIn begun holdings) :
    let first := process.proceed conditions holdings
    let second := other.proceed conditions first.2
    let second' := other.proceed conditions holdings
    let first' := process.proceed conditions second'.2
    first.1 = first'.1 ∧ second.1 = second'.1 ∧ second.2.Matches first'.2 := by
  intro first second second' first'
  have hrest : holdings.Agree (begun.shareOf process.job).rest first.2 := h.agree_proceed conditions
  have hrest' : holdings.Agree (begun.shareOf other.job).rest second'.2 := h'.agree_proceed conditions
  -- each of them finds its share as it would without the call of the other
  have hothers : holdings.Agree (begun.shareOf other.job) first.2 := hrest.mono hapart.symm.within_rest
  have hown : holdings.Agree (begun.shareOf process.job) second'.2 := hrest'.mono hapart.within_rest
  have hfits : other.FitsIn begun first.2 := h'.moved hothers (h.proceed conditions).ready.keyed
  have hfits' : process.FitsIn begun second'.2 := h.moved hown (h'.proceed conditions).ready.keyed
  obtain ⟨hfirst, hagree⟩ := proceed_congr conditions h hfits' hown
  obtain ⟨hsecond, hagree'⟩ := proceed_congr conditions h' hfits hothers
  have hlast := hfits.agree_proceed conditions
  have hlast' := hfits'.agree_proceed conditions
  let shares := [begun.shareOf process.job, begun.shareOf other.job]
  refine ⟨hfirst, hsecond.symm, Holdings.matches_of_shares shares ?_ ?_⟩
  · intro share hmem
    simp only [shares, List.mem_cons, List.not_mem_nil, or_false] at hmem
    rcases hmem with rfl | rfl
    · exact (hlast.mono hapart.within_rest).symm.trans hagree
    · exact hagree'.symm.trans (hlast'.mono hapart.symm.within_rest)
  · have hbeside : (Share.beside shares).Within (begun.shareOf process.job).rest :=
      Share.beside_within_rest List.mem_cons_self
    have hbeside' : (Share.beside shares).Within (begun.shareOf other.job).rest :=
      Share.beside_within_rest (List.mem_cons_of_mem _ List.mem_cons_self)
    have hleft : Holdings.Agree (Share.beside shares) holdings second.2 :=
      (hrest.mono hbeside).trans (hlast.mono hbeside')
    have hright : Holdings.Agree (Share.beside shares) holdings first'.2 :=
      (hrest'.mono hbeside').trans (hlast'.mono hbeside)
    exact hleft.symm.trans hright

/-- A cascade under way stands where it would stand without the others: what it would have left to do
then comes to what it does alone. -/
structure Tracks (conditions : Conditions) (begun : Holdings) (process : Process) (holdings : Holdings) :
    Prop where
  fits : process.FitsIn begun holdings
  lone : ∃ lone : Cascade,
    Fits (begun.shareOf process.job) process.job.cluster.id process.todo lone ∧
      Alike (begun.shareOf process.job) lone (process.on holdings) ∧
      process.todo.foldl (complete conditions) lone = alone conditions begun process.job

namespace Tracks

variable {conditions}

theorem start (hkeyed : begun.AlertsKeyed) (job : Job) (connection : ConnectionEnd) :
    (Process.start job connection).Tracks conditions begun begun := by
  have hready : ∀ connection, Fits (begun.shareOf job) job.cluster.id itinerary
      ((Process.start job connection).on begun) := by
    intro connection
    refine ⟨⟨rfl, hkeyed, fun deployment hdeployment => ?_⟩, fun _ h => ?_, fun _ h => ?_⟩
    · exact Holdings.mem_deployments_shareOf.2 ⟨deployment, hdeployment, rfl⟩
    · simp [itinerary] at h
    · simp [Pending, itinerary] at h
  exact ⟨hready connection, _, hready .notConnected, ⟨.refl _ _, rfl, rfl⟩,
    foldl_complete_itinerary conditions job.cluster .notConnected begun⟩

theorem proceed (h : process.Tracks conditions begun holdings) :
    (process.proceed conditions holdings).1.Tracks conditions begun
      (process.proceed conditions holdings).2 := by
  obtain ⟨hfits, lone, hlone, halike, hcomplete⟩ := h
  refine ⟨hfits.proceed conditions, ?_⟩
  cases htodo : process.todo with
  | nil =>
    rw [proceed_of_done conditions htodo]
    exact ⟨lone, hlone, halike, hcomplete⟩
  | cons task rest =>
    have hid : (begun.shareOf process.job).clusters process.job.cluster.id = true :=
      Holdings.clusters_shareOf_self
    unfold FitsIn at hfits
    rw [htodo] at hfits hlone hcomplete
    rw [proceed_of_task conditions htodo]
    have hfollow := followUp_congr conditions hid List.mem_cons_self hlone hfits halike
    refine ⟨lone.perform conditions task, ?_, ?_, ?_⟩
    · dsimp only
      rw [← hfollow]
      exact hlone.perform conditions hid
    · exact (local_perform conditions hid List.mem_cons_self).alike _ _ hlone hfits halike
    · dsimp only
      rw [← hfollow, List.foldl_append, ← complete_eq]
      exact hcomplete

/-- It does not matter what happens beside the share. -/
theorem moved (h : process.Tracks conditions begun holdings)
    (hagree : holdings.Agree (begun.shareOf process.job) left) (hkeyed : left.AlertsKeyed) :
    process.Tracks conditions begun left := by
  obtain ⟨hfits, lone, hlone, halike, hcomplete⟩ := h
  exact ⟨hfits.moved hagree hkeyed, lone, hlone,
    ⟨halike.agree.trans hagree, halike.removals, halike.failures⟩, hcomplete⟩

theorem alike_alone (h : process.Tracks conditions begun holdings) (hdone : process.todo = []) :
    Alike (begun.shareOf process.job) (alone conditions begun process.job) (process.on holdings) := by
  obtain ⟨-, lone, -, halike, hcomplete⟩ := h
  rw [hdone] at hcomplete
  rwa [← hcomplete]

end Tracks

end Process

/-! ## Taking turns -/

/-- Cascades that are under way at the same time, and what is held at the moment. -/
structure Alternation where
  holdings : Holdings
  processes : List Process

namespace Alternation

/-- The cascades of some teardowns before any of them has made a call. -/
def start (order : List (Job × ConnectionEnd)) (holdings : Holdings) : Alternation :=
  ⟨holdings, order.map fun entry => .start entry.1 entry.2⟩

/-- Let one of the cascades make its next call. -/
def turn (conditions : Conditions) (alternation : Alternation) (index : Nat) : Alternation :=
  match alternation.processes[index]? with
  | none => alternation
  | some process =>
    let (next, left) := process.proceed conditions alternation.holdings
    ⟨left, alternation.processes.set index next⟩

/-- How it stands after some turns. -/
def after (conditions : Conditions) (alternation : Alternation) (turns : List Nat) : Alternation :=
  turns.foldl (turn conditions) alternation

/-- Whether every cascade has made all of its calls. -/
def isDone (alternation : Alternation) : Bool :=
  alternation.processes.all (·.todo.isEmpty)

/-- The findings of each cascade. -/
def findings (alternation : Alternation) : List (Job × Findings) :=
  alternation.processes.map fun process => (process.job, process.report.findings)

variable {conditions : Conditions} {begun : Holdings} {jobs : List Job} {alternation : Alternation}
  {index : Nat} {process : Process}

theorem turn_of_none (h : alternation.processes[index]? = none) :
    alternation.turn conditions index = alternation := by
  simp only [turn, h]

theorem turn_of_some (h : alternation.processes[index]? = some process) :
    alternation.turn conditions index =
      ⟨(process.proceed conditions alternation.holdings).2,
        alternation.processes.set index (process.proceed conditions alternation.holdings).1⟩ := by
  simp only [turn, h]

/-- A turn leaves the other cascades where they were. -/
theorem getElem?_turn_of_ne {other : Nat} (hne : other ≠ index) :
    (alternation.turn conditions index).processes[other]? = alternation.processes[other]? := by
  cases hprocess : alternation.processes[index]? with
  | none => rw [turn_of_none hprocess]
  | some process =>
    rw [turn_of_some hprocess]
    exact List.getElem?_set_ne hne.symm

/-- Each of some cascades stands where it would stand without the others, and what is in no share of
theirs is as it was. -/
structure Tracks (conditions : Conditions) (begun : Holdings) (jobs : List Job)
    (alternation : Alternation) : Prop where
  keyed : alternation.holdings.AlertsKeyed
  jobs_eq : alternation.processes.map (·.job) = jobs
  each : ∀ process ∈ alternation.processes, process.Tracks conditions begun alternation.holdings
  spared : ∀ share : Share, (∀ job ∈ jobs, share.Within (begun.shareOf job).rest) →
    begun.Agree share alternation.holdings

namespace Tracks

theorem start (hkeyed : begun.AlertsKeyed) (order : List (Job × ConnectionEnd)) :
    (Alternation.start order begun).Tracks conditions begun (order.map (·.1)) := by
  refine ⟨hkeyed, ?_, ?_, fun _ _ => .refl _ _⟩
  · rw [Alternation.start, List.map_map]
    rfl
  · intro process hprocess
    obtain ⟨entry, -, rfl⟩ := List.mem_map.1 hprocess
    exact .start hkeyed entry.1 entry.2

theorem job_eq (h : alternation.Tracks conditions begun jobs)
    (hprocess : alternation.processes[index]? = some process) : jobs[index]? = some process.job := by
  rw [← h.jobs_eq, List.getElem?_map, hprocess, Option.map_some]

/-- Two of the cascades have nothing in common. -/
theorem apart (h : alternation.Tracks conditions begun jobs) (hapart : jobs.Pairwise begun.Apart)
    {first second : Nat} (hne : first ≠ second) {process other : Process}
    (hfirst : alternation.processes[first]? = some process)
    (hsecond : alternation.processes[second]? = some other) : begun.Apart process.job other.job := by
  obtain ⟨hlt, hjob⟩ := List.getElem?_eq_some_iff.1 (h.job_eq hfirst)
  obtain ⟨hlt', hjob'⟩ := List.getElem?_eq_some_iff.1 (h.job_eq hsecond)
  rw [List.pairwise_iff_getElem] at hapart
  rw [← hjob, ← hjob']
  rcases Nat.lt_or_gt_of_ne hne with hbefore | hafter
  · exact hapart first second hlt hlt' hbefore
  · exact (hapart second first hlt' hlt hafter).symm

theorem turn (h : alternation.Tracks conditions begun jobs) (hapart : jobs.Pairwise begun.Apart)
    (index : Nat) : (alternation.turn conditions index).Tracks conditions begun jobs := by
  cases hprocess : alternation.processes[index]? with
  | none =>
    rw [turn_of_none hprocess]
    exact h
  | some process =>
    have hmem := List.mem_of_getElem? hprocess
    have htracks := h.each process hmem
    have hrest := htracks.fits.agree_proceed conditions
    have hkeyed := htracks.proceed.fits.ready.keyed
    rw [turn_of_some hprocess]
    refine ⟨hkeyed, ?_, fun other hother => ?_, fun share hwithin => ?_⟩
    · obtain ⟨hlt, hjob⟩ := List.getElem?_eq_some_iff.1 (h.job_eq hprocess)
      rw [List.map_set, process.job_proceed, h.jobs_eq, ← hjob, List.set_getElem_self]
    · obtain ⟨position, hposition⟩ := List.mem_iff_getElem?.1 hother
      by_cases hsame : position = index
      · rw [hsame, List.getElem?_set_self (List.getElem?_eq_some_iff.1 hprocess).1] at hposition
        rw [← Option.some.inj hposition]
        exact htracks.proceed
      · rw [List.getElem?_set_ne (Ne.symm hsame)] at hposition
        have hapart' := h.apart hapart hsame hposition hprocess
        exact (h.each other (List.mem_of_getElem? hposition)).moved
          (hrest.mono hapart'.within_rest) hkeyed
    · have hjob : process.job ∈ jobs := h.jobs_eq ▸ List.mem_map_of_mem hmem
      exact (h.spared share hwithin).trans (hrest.mono (hwithin process.job hjob))

theorem after (h : alternation.Tracks conditions begun jobs) (hapart : jobs.Pairwise begun.Apart)
    (turns : List Nat) : (alternation.after conditions turns).Tracks conditions begun jobs := by
  induction turns generalizing alternation with
  | nil => exact h
  | cons index rest ih => exact ih (h.turn hapart index)

/-- Once every cascade has made its calls, each has done what it would have done alone. -/
theorem through (h : alternation.Tracks conditions begun jobs) (hdone : alternation.isDone) :
    Through conditions begun jobs alternation.holdings ∧
      alternation.findings =
        jobs.map fun job => (job, (alone conditions begun job).report.findings) := by
  have halike : ∀ process ∈ alternation.processes, Alike (begun.shareOf process.job)
      (alone conditions begun process.job) (process.on alternation.holdings) := by
    intro process hprocess
    have htodo := List.all_eq_true.1 hdone process hprocess
    exact (h.each process hprocess).alike_alone (List.isEmpty_iff.1 htodo)
  refine ⟨⟨h.keyed, ?_, h.spared⟩, ?_⟩
  · rw [← h.jobs_eq, List.forall_mem_map]
    exact fun process hprocess => (halike process hprocess).agree
  · rw [← h.jobs_eq, List.map_map]
    refine List.map_congr_left fun process hprocess => ?_
    exact congrArg (process.job, ·) (halike process hprocess).findings.symm

/-- Two calls of different cascades could as well have been made the other way round. -/
theorem turn_comm (h : alternation.Tracks conditions begun jobs) (hapart : jobs.Pairwise begun.Apart)
    (first second : Nat) :
    let left := (alternation.turn conditions first).turn conditions second
    let right := (alternation.turn conditions second).turn conditions first
    left.processes = right.processes ∧ left.holdings.Matches right.holdings := by
  intro left right
  by_cases hsame : first = second
  · subst hsame
    exact ⟨rfl, .refl _⟩
  have hfirst : (alternation.turn conditions second).processes[first]? =
      alternation.processes[first]? := getElem?_turn_of_ne hsame
  have hsecond : (alternation.turn conditions first).processes[second]? =
      alternation.processes[second]? := getElem?_turn_of_ne (Ne.symm hsame)
  cases hprocess : alternation.processes[first]? with
  | none =>
    simp only [left, right, turn_of_none hprocess, turn_of_none (hfirst.trans hprocess)]
    exact ⟨trivial, .refl _⟩
  | some process =>
    cases hother : alternation.processes[second]? with
    | none =>
      simp only [left, right, turn_of_none hother, turn_of_none (hsecond.trans hother)]
      exact ⟨trivial, .refl _⟩
    | some other =>
      obtain ⟨hown, hothers, hmatches⟩ := Process.proceed_comm conditions
        (h.apart hapart hsame hprocess hother) (h.each process (List.mem_of_getElem? hprocess)).fits
        (h.each other (List.mem_of_getElem? hother)).fits
      simp only [left, right]
      rw [turn_of_some (hsecond.trans hother), turn_of_some (hfirst.trans hprocess),
        turn_of_some hprocess, turn_of_some hother]
      refine ⟨?_, hmatches⟩
      dsimp only
      rw [← hown, hothers, List.set_comm _ _ hsame]

end Tracks

/-! ## Every alternation can come to its end -/

theorem after_append (turns more : List Nat) :
    alternation.after conditions (turns ++ more) =
      (alternation.after conditions turns).after conditions more :=
  List.foldl_append

theorem length_after (turns : List Nat) :
    (alternation.after conditions turns).processes.length = alternation.processes.length := by
  induction turns generalizing alternation with
  | nil => rfl
  | cons index rest ih =>
    refine ih.trans ?_
    unfold turn
    split
    · rfl
    · exact List.length_set

theorem getElem?_after_of_ne {turns : List Nat} {other : Nat}
    (hne : ∀ index ∈ turns, other ≠ index) :
    (alternation.after conditions turns).processes[other]? = alternation.processes[other]? := by
  induction turns generalizing alternation with
  | nil => rfl
  | cons index rest ih =>
    rw [List.forall_mem_cons] at hne
    exact (ih hne.2).trans (getElem?_turn_of_ne hne.1)

/-- A cascade comes to the end of some calls if it goes on for long enough, whatever they lead to. -/
theorem exists_todo_after (conditions : Conditions) (depth : Nat) {alternation : Alternation}
    {process : Process} {tasks rest : List Task} (hdepth : ∀ task ∈ tasks, task.depth < depth)
    (hprocess : alternation.processes[index]? = some process) (htodo : process.todo = tasks ++ rest) :
    ∃ turns, (∀ turn ∈ turns, turn = index) ∧ ∃ last,
      (alternation.after conditions turns).processes[index]? = some last ∧ last.todo = rest := by
  -- a call leads to calls of less depth, and these are made before the others
  induction depth generalizing alternation process tasks rest with
  | zero =>
    cases tasks with
    | nil => exact ⟨[], nofun, process, hprocess, htodo⟩
    | cons task more => exact absurd (hdepth task List.mem_cons_self) (Nat.not_lt_zero _)
  | succ depth ih =>
    induction tasks generalizing alternation process with
    | nil => exact ⟨[], nofun, process, hprocess, htodo⟩
    | cons task more ihmore =>
      rw [List.forall_mem_cons] at hdepth
      rw [List.cons_append] at htodo
      have hnext : (alternation.turn conditions index).processes[index]? =
          some (process.proceed conditions alternation.holdings).1 := by
        rw [turn_of_some hprocess]
        exact List.getElem?_set_self (List.getElem?_eq_some_iff.1 hprocess).1
      have hfollow : (process.proceed conditions alternation.holdings).1.todo =
          (process.on alternation.holdings).followUp conditions task ++ (more ++ rest) := by
        rw [Process.proceed_of_task conditions htodo]
      have hless : ∀ next ∈ (process.on alternation.holdings).followUp conditions task,
          next.depth < depth := by
        intro next hmem
        have := (leadsTo_of_mem_followUp conditions hmem).depth_lt
        omega
      obtain ⟨turns, hturns, middle, hmiddle, hmore⟩ := ih hless hnext hfollow
      obtain ⟨turns', hturns', last, hlast, hrest⟩ := ihmore hdepth.2 hmiddle hmore
      refine ⟨index :: (turns ++ turns'), ?_, last, ?_, hrest⟩
      · rw [List.forall_mem_cons, List.forall_mem_append]
        exact ⟨rfl, hturns, hturns'⟩
      · rw [← after_append] at hlast
        exact hlast

/-- Whatever alternation it was so far, it can go on until every cascade has made all of its calls. -/
theorem exists_isDone (conditions : Conditions) (alternation : Alternation) :
    ∃ turns, (alternation.after conditions turns).isDone = true := by
  have hfront : ∀ count, ∃ turns, ∀ (index : Nat), index < count → ∀ process : Process,
      (alternation.after conditions turns).processes[index]? = some process → process.todo = [] := by
    intro count
    induction count with
    | zero => exact ⟨[], nofun⟩
    | succ count ih =>
      obtain ⟨turns, hturns⟩ := ih
      cases hprocess : (alternation.after conditions turns).processes[count]? with
      | none =>
        refine ⟨turns, fun index hlt process hfound => ?_⟩
        rcases Nat.lt_succ_iff_lt_or_eq.1 hlt with hbefore | rfl
        · exact hturns index hbefore process hfound
        · rw [hprocess] at hfound
          cases hfound
      | some process =>
        obtain ⟨more, hmore, last, hlast, hdone⟩ := exists_todo_after conditions 4
          (fun task _ => task.depth_lt) hprocess (List.append_nil process.todo).symm
        refine ⟨turns ++ more, fun index hlt other hfound => ?_⟩
        rw [after_append] at hfound
        rcases Nat.lt_succ_iff_lt_or_eq.1 hlt with hbefore | rfl
        · have hne : ∀ turn ∈ more, index ≠ turn := by
            intro turn hturn
            rw [hmore turn hturn]
            exact Nat.ne_of_lt hbefore
          rw [getElem?_after_of_ne hne] at hfound
          exact hturns index hbefore other hfound
        · rw [hlast] at hfound
          cases hfound
          exact hdone
  obtain ⟨turns, hturns⟩ := hfront alternation.processes.length
  refine ⟨turns, List.all_eq_true.2 fun process hprocess => ?_⟩
  obtain ⟨index, hindex⟩ := List.mem_iff_getElem?.1 hprocess
  have hlt := (List.getElem?_eq_some_iff.1 hindex).1
  rw [length_after] at hlt
  exact List.isEmpty_iff.2 (hturns index hlt process hindex)

/-! ## In any alternation -/

/-- Two calls that cascades with nothing in common make one after the other could as well have been made
the other way round, whatever calls were made before them. -/
theorem after_turn_comm (hkeyed : begun.AlertsKeyed) {order : List (Job × ConnectionEnd)}
    (hapart : (order.map (·.1)).Pairwise begun.Apart) (turns : List Nat) (first second : Nat) :
    let left := (start order begun).after conditions (turns ++ [first, second])
    let right := (start order begun).after conditions (turns ++ [second, first])
    left.processes = right.processes ∧ left.holdings.Matches right.holdings := by
  have htracks : ((start order begun).after conditions turns).Tracks conditions begun
      (order.map (·.1)) := (Tracks.start hkeyed order).after hapart turns
  rw [after_append, after_append]
  exact htracks.turn_comm hapart first second

/-- Whatever the alternation of their calls, cascades that have nothing in common leave and report what
they leave and report when they run one at a time, in any order. -/
theorem as_inTurn (hkeyed : begun.AlertsKeyed) {order serial : List (Job × ConnectionEnd)}
    (hapart : (order.map (·.1)).Pairwise begun.Apart)
    (hperm : (order.map (·.1)).Perm (serial.map (·.1))) {turns : List Nat}
    (hdone : ((start order begun).after conditions turns).isDone) :
    let final := (start order begun).after conditions turns
    final.holdings.Matches (inTurn conditions serial begun).2 ∧
      final.findings.Perm ((inTurn conditions serial begun).1.map fun entry =>
        (entry.1, entry.2.findings)) := by
  intro final
  have htracks : final.Tracks conditions begun (order.map (·.1)) :=
    (Tracks.start hkeyed order).after hapart turns
  obtain ⟨hthrough, hfindings⟩ := htracks.through hdone
  obtain ⟨hserial, hreports⟩ :=
    (through_nil conditions hkeyed).inTurn hkeyed (hperm.pairwise hapart .symm)
  refine ⟨hthrough.matches_of_perm hserial hperm, ?_⟩
  rw [hfindings, hreports]
  exact hperm.map _

end Alternation

end Cascade

/-- What settling leaves and reports, the cascades leave and report too when their calls alternate,
however they do, as long as no two of them have anything in common. -/
theorem alternation_as_settle {state : State} (hreachable : state.Reachable)
    (hapart : state.queue.jobs.Pairwise state.holdings.Apart) {order : List (Job × ConnectionEnd)}
    (horder : (order.map (·.1)).Perm state.queue.jobs) {turns : List Nat}
    (hdone : ((Cascade.Alternation.start order state.holdings).after state.conditions turns).isDone) :
    let final := (Cascade.Alternation.start order state.holdings).after state.conditions turns
    final.holdings.Matches (Registry.settle state).2.holdings ∧
      final.findings.Perm ((Registry.settle state).1.map fun entry => (entry.1, entry.2.findings)) := by
  obtain ⟨hreports, hleft⟩ := Registry.settle_inTurn state
  rw [hreports, hleft]
  exact Cascade.Alternation.as_inTurn hreachable.alertsKeyed (horder.symm.pairwise hapart .symm)
    (horder.trans hreachable.summoned.finished_perm.symm) hdone

/-- Two cascades make their calls by turns, the second one first. Each of them has an alert to hand on,
and one pod cannot be removed. -/
example :
    let state := (State.start {} {} ⟨0, false⟩).following [
      .call .system (.create { name := "prod" }),
      .call .system (.create { name := "test" }),
      .addResource .deployments "$1" ⟨"d-1", "web"⟩,
      .addResource .deployments "$2" ⟨"d-2", "web"⟩,
      .addResource .pods "$1" ⟨"p-1", "web-0"⟩,
      .addAlert ⟨"a-1", "d-1", "$1", "root-user", .active⟩,
      .addAlert ⟨"a-2", "d-2", "$2", "root-user", .active⟩,
      .setOutage ⟨"pods.remove", some "p-1"⟩ true,
      .call .system (.remove "$1" none),
      .call .system (.remove "$2" none)]
    let order := state.queue.jobs.map fun job => (job, ConnectionEnd.notConnected)
    let final := (Cascade.Alternation.start order state.holdings).after state.conditions
      (List.replicate 14 [1, 0]).flatten
    final.isDone = true ∧
      final.holdings.notified.map (·.id) = ["a-2", "a-1"] ∧
      (Registry.settle state).2.holdings.notified.map (·.id) = ["a-1", "a-2"] ∧
      final.findings = (Registry.settle state).1.map fun entry => (entry.1, entry.2.findings) := by
  decide +kernel

end Fleet
