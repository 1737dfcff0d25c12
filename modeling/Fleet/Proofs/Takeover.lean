import Fleet.Takeover

/-!
# When a takeover is refused

A takeover is refused exactly while the agent before is protected, and only to an agent that is not
known to run in the same physical cluster. Within the grace period nobody else gets through.
-/

namespace Fleet

/-- Whether the call met a conflict about the cluster of a name. -/
def Failure.IsConflictOf (failure : Failure) (name : String) : Prop :=
  ∃ message, failure = .conflict name message

namespace SensorIdentity

/-- No telling field differs if and only if both agents run in the same physical cluster. -/
theorem discontinuity?_eq_none_iff (incoming stored : SensorIdentity) :
    incoming.discontinuity? stored = none ↔ incoming.sameCluster stored := by
  unfold discontinuity? sameCluster
  rw [Option.map_eq_none_iff, List.find?_eq_none]
  simp only [telling, List.mem_cons, List.not_mem_nil, or_false, forall_eq_or_imp, forall_eq,
    decide_eq_true_eq, Decidable.not_not]
  constructor
  · rintro ⟨hsystem, hdefault, happ⟩
    exact ⟨hsystem.symm, hdefault.symm, happ.symm⟩
  · rintro ⟨hsystem, hdefault, happ⟩
    exact ⟨hsystem.symm, hdefault.symm, happ.symm⟩

end SensorIdentity

theorem graceLeft?_eq_none_iff (grace : Duration) (contact now : Instant) :
    graceLeft? grace contact now = none ↔ grace.nanos ≤ (now.elapsed contact).nanos := by
  unfold graceLeft?
  dsimp only
  split
  · rename_i hwithin
    simp only [reduceCtorEq, false_iff]
    exact Nat.not_le.2 hwithin
  · rename_i hover
    simp only [true_iff]
    exact Nat.le_of_not_lt hover

/-- The agent before was in contact within the grace period, and the one that announces itself is not
known to run in the same physical cluster. -/
def IsTakeover (grace : Duration) (stored incoming : Option SensorIdentity)
    (lastContact : Option Instant) (now : Instant) : Prop :=
  ∃ contact last, lastContact = some contact ∧ stored = some last ∧
    (now.elapsed contact).nanos < grace.nanos ∧
    ∀ agent, incoming = some agent → ¬ agent.sameCluster last

section

variable {grace : Duration} {name : String} {stored incoming : Option SensorIdentity}
  {lastContact : Option Instant} {now : Instant}

theorem takeoverRefusal?_eq_none_iff :
    takeoverRefusal? grace name stored incoming lastContact now = none ↔
      ¬ IsTakeover grace stored incoming lastContact now := by
  unfold takeoverRefusal? IsTakeover
  cases lastContact with
  | none => simp
  | some contact =>
    cases stored with
    | none => simp
    | some last =>
      cases hleft : graceLeft? grace contact now with
      | none =>
        have hover := (graceLeft?_eq_none_iff _ _ _).1 hleft
        have hnot : ¬ (now.elapsed contact).nanos < grace.nanos := Nat.not_lt.2 hover
        simp [hleft, hnot]
      | some left =>
        have hwithin : (now.elapsed contact).nanos < grace.nanos := by
          rw [← Nat.not_le, ← graceLeft?_eq_none_iff, hleft]
          simp
        cases incoming with
        | none => simp [hleft, hwithin]
        | some agent =>
          have hsame := SensorIdentity.discontinuity?_eq_none_iff agent last
          cases hreason : agent.discontinuity? last with
          | none => simp [hreason, hsame.1 hreason]
          | some reason =>
            have hdiffers : ¬ agent.sameCluster last := by
              rw [← hsame, hreason]
              simp
            simp [hleft, hwithin, hreason, hdiffers]

theorem isConflictOf_of_takeoverRefusal? {failure : Failure}
    (h : takeoverRefusal? grace name stored incoming lastContact now = some failure) :
    failure.IsConflictOf name := by
  unfold takeoverRefusal? at h
  simp only [Option.bind_eq_bind, Option.bind_eq_some_iff] at h
  obtain ⟨contact, -, last, -, left, -, h⟩ := h
  cases incoming with
  | none =>
    cases h
    exact ⟨_, rfl⟩
  | some agent =>
    obtain ⟨reason, -, h⟩ := Option.bind_eq_some_iff.1 h
    cases h
    exact ⟨_, rfl⟩

end

end Fleet
