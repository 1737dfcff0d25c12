import Fleet.Proofs.Soundness

/-!
# Who changes which part of a record

A stored record changes in two ways only: a call amends one part of it, or it is revised as a whole, by an
operator or by an announcement. The agent that was last seen is amended, and the configuration that
manages a cluster is announced; but an update, which is a revision by an operator, takes both from its
caller as well.
-/

namespace Fleet

namespace Operation

theorem amendment?_of_asks {operation : Operation} (h : operation.asks = true) :
    operation.amendment? = none := by
  cases operation <;> first | rfl | cases h

theorem amendment?_of_newcomer? {operation : Operation} {given : Cluster}
    (h : operation.newcomer? = some given) : operation.amendment? = none := by
  cases operation <;> first | rfl | cases h

theorem amendment?_of_revision? {operation : Operation} {existing given : Cluster}
    (h : operation.revision? existing = some given) : operation.amendment? = none := by
  cases operation <;> first | rfl | cases h

end Operation

/-- What becomes of a stored record in a call that does not drop it. -/
inductive Becomes (defaultTimeout : Int32) (operation : Operation) (answer : Except Failure Answer)
    (id : String) (earlier : Cluster) : Cluster → Prop
  /-- It stays; if it was to be amended then the call has failed. -/
  | kept (hfailed : ∀ change, operation.amendment? = some (id, change) → answer.isOk = false) :
      Becomes defaultTimeout operation answer id earlier earlier
  | revised {given normal : Cluster} (hoperation : operation.revision? earlier = some given)
      (hid : given.id = id) (hprepare : given.prepare defaultTimeout = .ok normal) :
      Becomes defaultTimeout operation answer id earlier normal.stored
  | amended {change : Cluster → Cluster} (hoperation : operation.amendment? = some (id, change))
      (hanswer : answer = .ok .done) :
      Becomes defaultTimeout operation answer id earlier (change earlier).stored

theorem Becomes.of_unamended {defaultTimeout : Int32} {operation : Operation}
    {answer : Except Failure Answer} {id : String} {earlier : Cluster}
    (hnone : operation.amendment? = none) :
    Becomes defaultTimeout operation answer id earlier earlier := by
  refine .kept fun change hamend => ?_
  rw [hnone] at hamend
  cases hamend

/-- Every call makes one of these of a record. -/
theorem Effect.becomes {scope : Scope} {before after : State} {operation : Operation}
    {answer : Except Failure Answer} (heffect : Effect scope before operation answer after)
    (hsound : before.Sound) {id : String} {earlier later : Cluster}
    (hearlier : before.clusters.get? id = some earlier)
    (hlater : after.clusters.get? id = some later) :
    Becomes before.settings.admissionTimeout operation answer id earlier later := by
  cases heffect with
  | idle _ hanswer =>
    rw [hearlier] at hlater
    cases hlater
    rcases hanswer with hasks | ⟨failure, rfl⟩
    · exact .of_unamended (Operation.amendment?_of_asks hasks)
    · exact .kept fun _ _ => rfl
  | reported | rebuilt =>
    rw [hearlier] at hlater
    cases hlater
    exact .of_unamended rfl
  | removed =>
    rw [Table.get?_erase, hearlier] at hlater
    split at hlater
    · cases hlater
    · cases hlater
      exact .of_unamended rfl
  | @enrolled _ _ given normal _ _ _ hoperation _ henrol _ =>
    change (before.clusters.insert _ _).get? id = some later at hlater
    rw [Table.get?_insert, hearlier] at hlater
    split at hlater
    · rename_i heq
      have hissued := (hsound.kept id earlier hearlier).issued
      rw [heq, henrol.id] at hissued
      exact absurd hissued (State.not_hasIssued_nextId _)
    · cases hlater
      exact .of_unamended (Operation.amendment?_of_newcomer? hoperation)
  | @revised _ _ other existing given normal _ _ _ hoperation hother _ hid _ hprepare _ _ =>
    change (before.clusters.insert _ _).get? id = some later at hlater
    rw [Table.get?_insert, (Cluster.sameSubject_of_prepare hprepare).id, hid, hearlier] at hlater
    split at hlater
    · rename_i heq
      subst heq
      rw [hearlier] at hother
      cases hother
      cases hlater
      exact .revised hoperation hid hprepare
    · cases hlater
      exact .of_unamended (Operation.amendment?_of_revision? hoperation)
  | @amended _ other change existing hoperation hother _ =>
    rw [Table.get?_insert, hearlier] at hlater
    split at hlater
    · rename_i heq
      subst heq
      rw [hearlier] at hother
      cases hother
      cases hlater
      exact .amended hoperation rfl
    · rename_i hne
      cases hlater
      refine .kept fun _ hamend => ?_
      rw [hoperation] at hamend
      cases hamend
      exact absurd rfl hne

namespace Becomes

variable {defaultTimeout : Int32} {operation : Operation} {answer : Except Failure Answer}
  {id : String} {earlier later : Cluster}

/-- The agent of a stored cluster is another one only if it was reported, or if an update says so. -/
theorem sensor_eq_or (h : Becomes defaultTimeout operation answer id earlier later) :
    later.sensor = earlier.sensor ∨
      (∃ sensor, operation = .updateSensor id sensor ∧ later.sensor = some sensor) ∨
      ∃ given, operation = .update given ∧ given.id = id ∧ later.sensor = given.sensor := by
  cases h with
  | kept => exact .inl rfl
  | revised hoperation hid hprepare =>
    have hsensor := (Cluster.sameSubject_of_prepare hprepare).sensor
    cases operation with
    | update given =>
      cases hoperation
      exact .inr (.inr ⟨given, rfl, hid, hsensor⟩)
    | announce announcement =>
      exact .inl (hsensor.trans (Cluster.sameSubject_of_converged? hoperation).sensor)
    | _ => cases hoperation
  | amended hoperation =>
    cases operation with
    | updateSensor subject sensor =>
      cases hoperation
      exact .inr (.inl ⟨sensor, rfl, rfl⟩)
    | _ => cases hoperation <;> exact .inl rfl

/-- A stored cluster is managed otherwise only if that was announced, or if an update says so. -/
theorem managed_eq_or (h : Becomes defaultTimeout operation answer id earlier later) :
    later.managed = earlier.managed ∨
      (∃ announcement, operation = .announce announcement ∧ later.managed = announcement.managed) ∨
      ∃ given, operation = .update given ∧ given.id = id ∧ later.managed = given.managed := by
  cases h with
  | kept => exact .inl rfl
  | revised hoperation hid hprepare =>
    have hmanaged := Cluster.managed_of_prepare hprepare
    cases operation with
    | update given =>
      cases hoperation
      exact .inr (.inr ⟨given, rfl, hid, hmanaged⟩)
    | announce announcement =>
      exact .inr (.inl ⟨announcement, rfl,
        hmanaged.trans (Cluster.managed_of_converged? hoperation)⟩)
    | _ => cases hoperation
  | amended hoperation => cases operation <;> cases hoperation <;> exact .inl rfl

end Becomes

/-- An update that is answered has written what its caller gave for the agent and the configuration. -/
theorem Effect.agent_fields_of_updated {scope : Scope} {before after : State} {given later : Cluster}
    {value : Answer} (heffect : Effect scope before (.update given) (.ok value) after)
    (hlater : after.clusters.get? given.id = some later) :
    later.sensor = given.sensor ∧ later.managed = given.managed := by
  cases heffect with
  | idle _ hanswer => rcases hanswer with hasks | ⟨failure, hfailed⟩ <;> contradiction
  | enrolled _ _ _ hoperation => cases hoperation
  | @revised _ _ id _ _ normal _ _ _ hoperation _ _ hid _ hprepare _ _ =>
    cases hoperation
    have hsubject := Cluster.sameSubject_of_prepare hprepare
    change (before.clusters.insert normal.id normal.stored).get? given.id = some later at hlater
    rw [hsubject.id, Table.get?_insert_self] at hlater
    cases hlater
    have hmanaged := Cluster.managed_of_prepare hprepare
    exact ⟨hsubject.sensor, hmanaged⟩
  | amended hoperation => cases hoperation

/-- Whatever happens in a state that a run leads to, the agent of a stored cluster changes only if it is
reported, and the configuration that manages the cluster only if that is announced; or else an operator
updates the cluster, and an update that is answered replaces both by what its caller has given. -/
theorem agent_fields_change_by {state : State} (hreachable : state.Reachable) (event : Event)
    {id : String} {earlier later : Cluster} (hearlier : state.clusters.get? id = some earlier)
    (hlater : (state.next event).clusters.get? id = some later) :
    (later.sensor ≠ earlier.sensor → ∃ scope,
      (∃ sensor, event = .call scope (.updateSensor id sensor) ∧ later.sensor = some sensor) ∨
        ∃ given, event = .call scope (.update given) ∧ given.id = id ∧ later.sensor = given.sensor) ∧
    (later.managed ≠ earlier.managed → ∃ scope,
      (∃ announcement, event = .call scope (.announce announcement) ∧
          later.managed = announcement.managed) ∨
        ∃ given, event = .call scope (.update given) ∧ given.id = id ∧
          later.managed = given.managed) ∧
    (∀ scope given value, event = .call scope (.update given) → given.id = id →
      ((Operation.update given).run scope).answer state = .ok value →
      later.sensor = given.sensor ∧ later.managed = given.managed) := by
  have hsound := hreachable.sound
  rcases State.next_cases hsound.keyed event with ⟨hcall, hsame⟩ | ⟨scope, operation, rfl, heffect⟩
  · have hkept : later = earlier := by
      rw [hsame.clusters, hearlier] at hlater
      exact (Option.some.inj hlater).symm
    refine ⟨fun hne => absurd (hkept ▸ rfl) hne, fun hne => absurd (hkept ▸ rfl) hne, ?_⟩
    intro scope given _ hevent
    exact absurd hevent (hcall scope _)
  · have hbecomes := heffect.becomes hsound hearlier hlater
    refine ⟨fun hne => ⟨scope, ?_⟩, fun hne => ⟨scope, ?_⟩, ?_⟩
    · rcases hbecomes.sensor_eq_or with heq | ⟨sensor, rfl, hsensor⟩ | ⟨given, rfl, hid, hsensor⟩
      · exact absurd heq hne
      · exact .inl ⟨sensor, rfl, hsensor⟩
      · exact .inr ⟨given, rfl, hid, hsensor⟩
    · rcases hbecomes.managed_eq_or with heq | ⟨announcement, rfl, hmanaged⟩ | ⟨given, rfl, hid, hmanaged⟩
      · exact absurd heq hne
      · exact .inl ⟨announcement, rfl, hmanaged⟩
      · exact .inr ⟨given, rfl, hid, hmanaged⟩
    · rintro _ given value ⟨⟩ rfl hanswer
      rw [hanswer] at heffect
      exact heffect.agent_fields_of_updated hlater

/-- The announcement of an agent that brings a configuration. -/
def announcementOf (fingerprint : String) : Event :=
  .call .system (.announce {
    sensor := some { systemNamespaceId := "system-1" }
    declaration := some { name := "prod", config := some { fingerprint } } })

/-- The next configuration takes the place of the first because it is announced. -/
theorem agent_fields_change_by_announcement :
    let state := (State.start {} {} ⟨0, false⟩).next (announcementOf "v1")
    ∃ earlier later, state.clusters.get? "$1" = some earlier ∧
      (state.next (announcementOf "v2")).clusters.get? "$1" = some later ∧
      later.managed ≠ earlier.managed ∧
      ∃ scope announcement, announcementOf "v2" = .call scope (.announce announcement) ∧
        later.managed = announcement.managed := by
  intro state
  have hreachable : state.Reachable := ⟨{}, {}, ⟨0, false⟩, [announcementOf "v1"], rfl⟩
  have hfirst : (state.clusters.get? "$1").map (·.fingerprint?) = some (some "v1") := by
    decide +kernel
  have hsecond : ((state.next (announcementOf "v2")).clusters.get? "$1").map (·.fingerprint?) =
      some (some "v2") := by decide +kernel
  obtain ⟨earlier, hearlier, hbefore⟩ := Option.map_eq_some_iff.1 hfirst
  obtain ⟨later, hlater, hafter⟩ := Option.map_eq_some_iff.1 hsecond
  have hne : later.managed ≠ earlier.managed := by
    intro heq
    unfold Cluster.fingerprint? at hbefore hafter
    rw [heq, hbefore] at hafter
    exact absurd hafter (by decide)
  refine ⟨earlier, later, hearlier, hlater, hne, ?_⟩
  obtain ⟨scope, ⟨announcement, hevent, hmanaged⟩ | ⟨given, hevent, -⟩⟩ :=
    (agent_fields_change_by hreachable (announcementOf "v2") hearlier hlater).2.1 hne
  · exact ⟨scope, announcement, hevent, hmanaged⟩
  · cases hevent

/-- An update that only wants to set a label, say, and gives nothing else takes the agent and the
configuration away from the cluster. -/
theorem update_takes_agent_fields_away :
    let state := (State.start {} {} ⟨0, false⟩).next (announcementOf "v1")
    let update := Operation.update
      { id := "$1", name := "prod", labels := .ofList [("tier", "gold")] }
    (state.clusters.get? "$1").map (fun cluster => (cluster.sensor, cluster.fingerprint?)) =
        some (some { systemNamespaceId := "system-1" }, some "v1") ∧
      ((update.run .system).answer state).isOk = true ∧
      ((state.next (.call .system update)).clusters.get? "$1").map
        (fun cluster => (cluster.sensor, cluster.fingerprint?)) = some (none, none) := by
  decide +kernel

end Fleet
