import Fleet.Proofs.Settings
import Fleet.Proofs.Soundness

/-!
# How long a takeover is refused

A takeover is refused until the grace period is over, and the refusal says how many whole seconds that
is, rounded up: after so many the takeover goes through, and a second earlier it does not. The time that
has passed is told from what a clock shows, and a clock does not show a leap second as one of its own. So
the promise is kept where the time that has passed grows by one second in every second, which it does
unless a leap second is at either end.
-/

namespace Fleet

open Registry

theorem Duration.ceilSeconds_le_iff (d : Duration) (seconds : Nat) :
    d.ceilSeconds ≤ seconds ↔ d.nanos ≤ (ofSeconds seconds).nanos := by
  unfold ceilSeconds wholeSeconds ofSeconds nanosPerSecond
  dsimp only
  split <;> omega

namespace Instant

variable {later earlier : Instant}

/-- Outside leap seconds the time that has passed is the difference, or nothing. -/
theorem elapsed_of_plain (hlater : later.leap = false) (hearlier : earlier.leap = false) :
    ((later.elapsed earlier).nanos : Int) = max (later.nanos - earlier.nanos) 0 := by
  have hleap : later.leapSeconds earlier = 0 := by
    simp [leapSeconds, hlater, hearlier]
  unfold elapsed
  dsimp only
  rw [hleap]
  omega

theorem addSeconds_of_plain (hlater : later.leap = false) (seconds : Nat) :
    (later.addSeconds seconds).leap = false ∧
      (later.addSeconds seconds).nanos = later.nanos + (Duration.ofSeconds seconds).nanos := by
  unfold addSeconds
  split
  · rename_i hzero
    subst hzero
    exact ⟨hlater, (Int.add_zero _).symm⟩
  · refine ⟨rfl, ?_⟩
    simp [hlater, Duration.ofSeconds]

/-- Outside leap seconds every second counts. -/
theorem elapsed_addSeconds (hlater : later.leap = false) (hearlier : earlier.leap = false)
    (hpast : earlier.nanos ≤ later.nanos) (seconds : Nat) :
    ((later.addSeconds seconds).elapsed earlier).nanos =
      (later.elapsed earlier).nanos + (Duration.ofSeconds seconds).nanos := by
  obtain ⟨hplain, hadded⟩ := addSeconds_of_plain hlater seconds
  have hnow := elapsed_of_plain hlater hearlier
  have hthen := elapsed_of_plain hplain hearlier
  omega

end Instant

theorem graceLeft?_of_within {grace : Duration} {contact now : Instant}
    (h : (now.elapsed contact).nanos < grace.nanos) :
    graceLeft? grace contact now = some ⟨grace.nanos - (now.elapsed contact).nanos⟩ :=
  if_pos h

/-- The waiting time can be read off the refusal. -/
theorem Failure.takeoverRefused_inj {name reason : String} {wait other : Nat}
    (h : takeoverRefused name reason (Text.writeNat wait) =
      takeoverRefused name reason (Text.writeNat other)) : wait = other := by
  unfold takeoverRefused at h
  have hmessage := (Failure.conflict.inj h).2
  have hwritten := (String.append_right_inj _).1 ((String.append_left_inj _).1 hmessage)
  exact Text.writeNat_inj hwritten

/-- Why an agent does not pass for the successor of the last one, if it does not. -/
def Announcement.discontinuity? (announcement : Announcement) (last : SensorIdentity) :
    Option Discontinuity :=
  match announcement.sensor with
  | some agent => agent.discontinuity? last
  | none => some .unidentified

/-- A stored cluster whose last agent was in contact is announced by an agent that does not pass for the
successor of that one. -/
structure Contested (id : String) (announcement : Announcement) (state : State) (cluster : Cluster)
    (contact : Instant) (reason : Discontinuity) : Prop where
  target : target? state.directory announcement = some id
  stored : state.clusters.get? id = some cluster
  named : announcement.name ≠ "" → announcement.name = cluster.name
  contact : Snapshots.lastContact state.holdings.health cluster.id = some contact
  foreign : ∃ last, cluster.sensor = some last ∧ announcement.discontinuity? last = some reason

/-- An announcement for the cluster of a name is refused at a time, and the agent told to wait for so many
seconds. -/
def TurnedAway (announcement : Announcement) (state : State) (name : String)
    (reason : Discontinuity) (time : Instant) (wait : Nat) : Prop :=
  (reconcile announcement time).answer state =
    .error (.takeoverRefused name reason.message (Text.writeNat wait))

instance (announcement : Announcement) (state : State) (name : String) (reason : Discontinuity)
    (time : Instant) (wait : Nat) : Decidable (TurnedAway announcement state name reason time wait) :=
  match h : (reconcile announcement time).answer state with
  | .ok _ => .isFalse (by rw [TurnedAway, h]; nofun)
  | .error failure =>
    decidable_of_iff (failure = .takeoverRefused name reason.message (Text.writeNat wait))
      (by rw [TurnedAway, h, Except.error.injEq])

namespace Contested

open Fleet.Action

variable {id : String} {announcement : Announcement} {state : State} {cluster : Cluster}
  {contact : Instant} {reason : Discontinuity}

theorem refusal_eq (h : Contested id announcement state cluster contact reason) (time : Instant) :
    takeoverRefusal? state.settings.moveGrace cluster.name cluster.sensor announcement.sensor
        (Snapshots.lastContact state.holdings.health cluster.id) time =
      (graceLeft? state.settings.moveGrace contact time).map fun left =>
        .takeoverRefused cluster.name reason.message (Text.writeNat left.ceilSeconds) := by
  obtain ⟨last, hlast, hforeign⟩ := h.foreign
  unfold Announcement.discontinuity? at hforeign
  unfold takeoverRefusal?
  rw [h.contact, hlast]
  cases hleft : graceLeft? state.settings.moveGrace contact time with
  | none => simp [hleft]
  | some left =>
    cases hsensor : announcement.sensor with
    | none =>
      rw [hsensor] at hforeign
      cases hforeign
      simp [hleft]
    | some agent =>
      rw [hsensor] at hforeign
      change agent.discontinuity? last = some reason at hforeign
      simp [hleft, hforeign]

theorem answer_within (h : Contested id announcement state cluster contact reason)
    (hcalm : state.conditions = {}) {time : Instant}
    (hwithin : (time.elapsed contact).nanos < state.settings.moveGrace.nanos) :
    TurnedAway announcement state cluster.name reason time
      (Duration.mk (state.settings.moveGrace.nanos - (time.elapsed contact).nanos)).ceilSeconds := by
  have hrefusal := h.refusal_eq time
  rw [graceLeft?_of_within hwithin, Option.map_some] at hrefusal
  have hrun := adopt_of_refusal hcalm h.stored h.named hrefusal
  unfold TurnedAway Action.answer
  rw [reconcile_apply, decide_of_target h.target, hrun]

theorem answer_after (h : Contested id announcement state cluster contact reason)
    (hcalm : state.conditions = {}) {time : Instant}
    (hover : state.settings.moveGrace.nanos ≤ (time.elapsed contact).nanos) :
    (reconcile announcement time).answer state =
      (converge cluster announcement.managed).answer state := by
  have hrefusal := h.refusal_eq time
  rw [(graceLeft?_eq_none_iff _ _ _).2 hover, Option.map_none] at hrefusal
  have hadopt : Adoptable id announcement time state cluster :=
    ⟨h.stored, h.named, takeoverRefusal?_eq_none_iff.1 hrefusal⟩
  unfold Action.answer
  rw [reconcile_apply, decide_of_target h.target, adopt_of_adoptable hcalm hadopt]
  cases converge cluster announcement.managed state <;> rfl

/-- Bringing a record in line fails only for what is asked for. -/
theorem isInvalid_of_converge {managed : Option ManagedConfig} {failure : Failure}
    (hcalm : state.conditions = {})
    (h : (converge cluster managed).answer state = .error failure) : failure.IsInvalid := by
  cases hconverged : cluster.converged? managed with
  | none =>
    rw [converge_of_kept hconverged] at h
    cases h
  | some revised =>
    rw [converge_of_revised hconverged] at h
    by_cases haccepted : revised.Acceptable
    · have hprepare := Cluster.prepare_of_acceptable haccepted state.settings.admissionTimeout
      unfold Action.answer at h
      rw [bind_of_ok (store_of_prepared hcalm hprepare)] at h
      cases h
    · obtain ⟨objection, hprepare, hinvalid⟩ :=
        Cluster.prepare_of_not_acceptable haccepted state.settings.admissionTimeout
      unfold Action.answer at h
      rw [bind_of_error (store_of_unfit hprepare)] at h
      cases h
      exact hinvalid

theorem turnedAway_iff (h : Contested id announcement state cluster contact reason)
    (hcalm : state.conditions = {}) (time : Instant) :
    (∃ wait, TurnedAway announcement state cluster.name reason time wait) ↔
      (time.elapsed contact).nanos < state.settings.moveGrace.nanos := by
  constructor
  · rintro ⟨wait, haway⟩
    refine Nat.not_le.1 fun hover => ?_
    unfold TurnedAway at haway
    rw [h.answer_after hcalm hover] at haway
    obtain ⟨_, _, _, hinvalid⟩ := isInvalid_of_converge hcalm haway
    cases hinvalid
  · exact fun hwithin => ⟨_, h.answer_within hcalm hwithin⟩

/-- The agent is told the least number of whole seconds in which the grace period is over. -/
theorem wait_le_iff (h : Contested id announcement state cluster contact reason)
    (hcalm : state.conditions = {}) {now : Instant} {wait : Nat}
    (haway : TurnedAway announcement state cluster.name reason now wait) (seconds : Nat) :
    wait ≤ seconds ↔ state.settings.moveGrace.nanos ≤
      (now.elapsed contact).nanos + (Duration.ofSeconds seconds).nanos := by
  have hwithin := (h.turnedAway_iff hcalm now).1 ⟨wait, haway⟩
  have htold := h.answer_within hcalm hwithin
  have hwait : wait = (Duration.mk (state.settings.moveGrace.nanos -
      (now.elapsed contact).nanos)).ceilSeconds := by
    unfold TurnedAway at haway htold
    rw [haway] at htold
    exact Failure.takeoverRefused_inj (Except.error.inj htold)
  rw [hwait, Duration.ceilSeconds_le_iff]
  dsimp only
  omega

end Contested

/-- The settings of an environment have a grace period of whole seconds that fits sixty-four bits. -/
theorem Settings.moveGrace_of_environment {env : Environment} {settings : Settings}
    (h : ofEnvironment env = .ok settings) :
    ∃ seconds, seconds < UInt64.size ∧ settings.moveGrace = .ofSeconds seconds :=
  (ofEnvironment_eq_ok_iff.1 h).expressible.grace

/-- Within the grace period, and not after it, an agent that does not pass for the successor of the last
one is turned away. It is told the least number of whole seconds that is left, which fits sixty-four bits
if the grace period does; and for as long as no leap second comes in between, it is turned away for all
of these seconds but no longer. -/
theorem turned_away_for_as_long_as_told {id : String} {announcement : Announcement} {state : State}
    {cluster : Cluster} {contact : Instant} {reason : Discontinuity} (hcalm : state.conditions = {})
    (h : Contested id announcement state cluster contact reason) :
    let grace := state.settings.moveGrace
    let turnedAway := TurnedAway announcement state cluster.name reason
    (∀ time, ((∃ wait, turnedAway time wait) ↔ (time.elapsed contact).nanos < grace.nanos) ∧
      (grace.nanos ≤ (time.elapsed contact).nanos →
        (reconcile announcement time).answer state =
          (converge cluster announcement.managed).answer state)) ∧
    (∀ time : Instant, time.leap = false → contact.leap = false →
      ((time.elapsed contact).nanos : Int) = max (time.nanos - contact.nanos) 0) ∧
    (∀ env settings, Settings.ofEnvironment env = .ok settings →
      ∃ seconds, seconds < UInt64.size ∧ settings.moveGrace = .ofSeconds seconds) ∧
    ∀ now wait, turnedAway now wait →
      (∀ seconds, wait ≤ seconds ↔
        grace.nanos ≤ (now.elapsed contact).nanos + (Duration.ofSeconds seconds).nanos) ∧
      (∀ seconds, seconds < UInt64.size → grace = .ofSeconds seconds → wait < UInt64.size) ∧
      (∀ seconds later, (later.elapsed contact).nanos =
          (now.elapsed contact).nanos + (Duration.ofSeconds seconds).nanos →
        ((∃ left, turnedAway later left) ↔ seconds < wait)) ∧
      (now.leap = false → contact.leap = false → contact.nanos ≤ now.nanos →
        (¬ ∃ left, turnedAway (now.addSeconds wait) left) ∧
          ∃ left, turnedAway (now.addSeconds (wait - 1)) left) := by
  intro grace turnedAway
  refine ⟨fun time => ⟨h.turnedAway_iff hcalm time, h.answer_after hcalm⟩,
    fun time => Instant.elapsed_of_plain,
    fun env settings => Settings.moveGrace_of_environment, ?_⟩
  intro now wait haway
  have hwait := h.wait_le_iff hcalm haway
  have hlater : ∀ seconds later, (later.elapsed contact).nanos =
      (now.elapsed contact).nanos + (Duration.ofSeconds seconds).nanos →
      ((∃ left, turnedAway later left) ↔ seconds < wait) := by
    intro seconds later helapsed
    rw [h.turnedAway_iff hcalm, helapsed, ← Nat.not_le, ← Nat.not_le, hwait]
  refine ⟨hwait, ?_, hlater, ?_⟩
  · intro seconds hfits hgrace
    have hle : wait ≤ seconds := (hwait seconds).2 (hgrace ▸ Nat.le_add_left _ _)
    exact Nat.lt_of_le_of_lt hle hfits
  · intro hnow hcontact hpast
    have hshift := Instant.elapsed_addSeconds hnow hcontact hpast
    have hsome : 0 < wait := by
      rw [← Nat.not_le, hwait]
      exact Nat.not_le.2 ((h.turnedAway_iff hcalm now).1 ⟨wait, haway⟩)
    refine ⟨?_, ?_⟩
    · rw [hlater wait _ (hshift wait)]
      exact Nat.lt_irrefl wait
    · rw [hlater (wait - 1) _ (hshift (wait - 1))]
      omega

/-- A cluster has been announced, and its agent was in contact. -/
def visited (contact : Instant) : List Event := [
  .call .system (.announce {
    sensor := some { systemNamespaceId := "system-1" }, declaration := some { name := "prod" } }),
  .call .system (.updateHealth "$1" { lastContact := some contact })]

/-- An agent from another physical cluster announces itself for that cluster. -/
def replacement : Announcement :=
  { clusterId := some "$1", sensor := some { systemNamespaceId := "system-2" } }

/-- A replacement comes almost ten seconds after the contact, and 171 seconds later it is let in. -/
theorem turned_away_for_as_long_as_told_of_replacement :
    let state := (State.start {} {} ⟨0, false⟩).following (visited ⟨10000000001, false⟩)
    let reason := Discontinuity.changed "system_namespace_id" "system-1" "system-2"
    TurnedAway replacement state "prod" reason ⟨20000000000, false⟩ 171 ∧
      (∃ left, TurnedAway replacement state "prod" reason ⟨190000000000, false⟩ left) ∧
      ¬ ∃ left, TurnedAway replacement state "prod" reason ⟨191000000000, false⟩ left := by
  intro state reason
  have hcalm : state.conditions = {} := by decide +kernel
  have hfound : (state.clusters.get? "$1").map (fun cluster =>
      (cluster.name, cluster.id, cluster.sensor)) =
        some ("prod", "$1", some { systemNamespaceId := "system-1" }) := by decide +kernel
  obtain ⟨cluster, hstored, hcluster⟩ := Option.map_eq_some_iff.1 hfound
  simp only [Prod.mk.injEq] at hcluster
  obtain ⟨hname, hid, hsensor⟩ := hcluster
  have hcontested : Contested "$1" replacement state cluster ⟨10000000001, false⟩ reason := by
    refine ⟨by decide +kernel, hstored, fun hnamed => absurd rfl hnamed, ?_, _, hsensor,
      by decide +kernel⟩
    rw [hid]
    decide +kernel
  have haway : TurnedAway replacement state cluster.name reason ⟨20000000000, false⟩ 171 := by
    rw [hname]
    decide +kernel
  obtain ⟨-, -, -, htold⟩ := turned_away_for_as_long_as_told hcalm hcontested
  obtain ⟨-, -, -, hplain⟩ := htold _ _ haway
  obtain ⟨hlet, hstill⟩ := hplain rfl rfl (by decide)
  rw [hname] at haway hlet hstill
  exact ⟨haway, hstill, hlet⟩

/-- The last contact was inside a leap second, a minute before midnight. A replacement that comes as that
second is over is told to wait for 179 seconds, since the second counts. On the next day it is not counted
any more, so the replacement is turned away once more after waiting. -/
theorem turned_away_after_waiting_past_leap_second :
    let state := (State.start {} {} ⟨0, false⟩).following (visited ⟨86340000000000, true⟩)
    let reason := Discontinuity.changed "system_namespace_id" "system-1" "system-2"
    let now : Instant := ⟨86340000000000, false⟩
    TurnedAway replacement state "prod" reason now 179 ∧
      TurnedAway replacement state "prod" reason (now.addSeconds 179) 1 := by
  constructor <;> decide +kernel

end Fleet
