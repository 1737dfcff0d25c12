import Fleet.Proofs.Formats

/-!
# Records written and read

Every record has a faithful format: its members are its fields under names of their own, and each of
them has one. The proofs take the fields one after another, in the order of their names. A text that a
record was read from is therefore as good as the text that is written for it.
-/

namespace Fleet

open Wire

/-! ## Configuration -/

theorem ClusterKind.faithful : Faithful toJson read? fun _ => True :=
  faithful_labelled fun kind => by cases kind <;> rfl

theorem CollectionMethod.faithful : Faithful toJson read? fun _ => True :=
  faithful_labelled fun method => by cases method <;> rfl

theorem AdmissionConfig.faithful : Faithful toJson (read? .exact default) fun _ => True where
  writable config := by simp [toJson, faithful_int32.writable]
  ne_null _ := nofun
  read_write config _ :=
    fields_of_obj rfl (by decide) <|
    faithful_bool.required trivial rfl <|
    faithful_int32.required trivial rfl <|
    faithful_bool.required trivial rfl <|
    faithful_bool.required trivial rfl <|
    faithful_bool.required trivial rfl rfl
  proper _ _ _ := trivial

theorem DynamicConfig.faithful : Faithful toJson (read? .exact default) fun _ => True where
  writable config := by simp [toJson, Json.writable_ofOption AdmissionConfig.faithful.writable]
  ne_null _ := nofun
  read_write config _ :=
    fields_of_obj rfl (by decide) <|
    AdmissionConfig.faithful.optional (fun _ _ => trivial) rfl <|
    faithful_text.required trivial rfl <|
    faithful_bool.required trivial rfl rfl
  proper _ _ _ := trivial

theorem Tolerations.faithful : Faithful toJson (read? .exact default) fun _ => True where
  writable tolerations := by simp [toJson, Json.single]
  ne_null _ := nofun
  read_write tolerations _ := fields_of_obj rfl (by decide) <| faithful_bool.required trivial rfl rfl
  proper _ _ _ := trivial

theorem StaticConfig.faithful : Faithful toJson (read? .exact default) fun _ => True where
  writable config := by
    simp [toJson, ClusterKind.faithful.writable, CollectionMethod.faithful.writable,
      Json.writable_ofOption Tolerations.faithful.writable]
  ne_null _ := nofun
  read_write config _ :=
    fields_of_obj rfl (by decide) <|
    ClusterKind.faithful.required trivial rfl <|
    faithful_text.required trivial rfl <|
    faithful_text.required trivial rfl <|
    CollectionMethod.faithful.required trivial rfl <|
    faithful_text.required trivial rfl <|
    faithful_bool.required trivial rfl <|
    faithful_bool.required trivial rfl <|
    faithful_bool.required trivial rfl <|
    Tolerations.faithful.optional (fun _ _ => trivial) rfl <|
    faithful_bool.required trivial rfl rfl
  proper _ _ _ := trivial

theorem ManagedConfig.faithful : Faithful toJson (read? .exact default) fun _ => True where
  writable config := by
    simp [toJson, Json.writable_ofOption DynamicConfig.faithful.writable,
      StaticConfig.faithful.writable, faithful_text.table.writable]
  ne_null _ := nofun
  read_write config _ :=
    fields_of_obj rfl (by decide) <|
    DynamicConfig.faithful.optional (fun _ _ => trivial) rfl <|
    StaticConfig.faithful.required trivial rfl <|
    faithful_text.table.required (fun _ _ => trivial) rfl <|
    faithful_text.required trivial rfl rfl
  proper _ _ _ := trivial

/-! ## What agents report -/

theorem SensorIdentity.faithful : Faithful toJson (read? .exact default) fun _ => True where
  writable sensor := by simp [toJson]
  ne_null _ := nofun
  read_write sensor _ :=
    fields_of_obj rfl (by decide) <|
    faithful_text.required trivial rfl <|
    faithful_text.required trivial rfl <|
    faithful_text.required trivial rfl <|
    faithful_text.required trivial rfl <|
    faithful_text.required trivial rfl <|
    faithful_text.required trivial rfl rfl
  proper _ _ _ := trivial

theorem Upgradability.faithful : Faithful toJson read? fun _ => True :=
  faithful_labelled fun verdict => by cases verdict <;> rfl

theorem UpgradeStatus.faithful : Faithful toJson (read? .exact default) fun _ => True where
  writable status := by
    simp [toJson, Upgradability.faithful.writable, Json.ofText?,
      Json.writable_ofOption faithful_text.writable]
  ne_null _ := nofun
  read_write status _ :=
    fields_of_obj rfl (by decide) <|
    Upgradability.faithful.required trivial rfl <|
    faithful_text.required trivial rfl <|
    faithful_text.optional (fun _ _ => trivial) rfl rfl
  proper _ _ _ := trivial

namespace CertExpiry

/-- A clock can show the times of the certificate. -/
structure OnClock (status : CertExpiry) : Prop where
  expiry : ∀ t ∈ status.expiry, t.OnClock
  notBefore : ∀ t ∈ status.notBefore, t.OnClock

theorem faithful : Faithful toJson (read? .exact default) OnClock where
  writable status := by simp [toJson, Json.writable_ofOption faithful_instant.writable]
  ne_null _ := nofun
  read_write status h :=
    fields_of_obj rfl (by decide) <|
    faithful_instant.optional h.expiry rfl <|
    faithful_instant.optional h.notBefore rfl rfl
  proper json status h := by
    obtain ⟨fields, -, h⟩ := Option.bind_eq_some_iff.1 h
    obtain ⟨expiry, hexpiry, h⟩ := Option.bind_eq_some_iff.1 h
    obtain ⟨notBefore, hnotBefore, h⟩ := Option.bind_eq_some_iff.1 h
    cases h
    exact ⟨faithful_instant.proper_of_optional hexpiry,
      faithful_instant.proper_of_optional hnotBefore⟩

end CertExpiry

namespace Orchestrator

/-- A clock can show the build date. -/
def OnClock (orchestrator : Orchestrator) : Prop :=
  ∀ t ∈ orchestrator.buildDate, t.OnClock

theorem faithful : Faithful toJson (read? .exact default) OnClock where
  writable orchestrator := by
    simp [toJson, Json.writable_ofOption faithful_instant.writable, faithful_text.list.writable]
  ne_null _ := nofun
  read_write orchestrator h :=
    fields_of_obj rfl (by decide) <|
    faithful_text.required trivial rfl <|
    faithful_instant.optional h rfl <|
    faithful_text.list.required (fun _ _ => trivial) rfl rfl
  proper json orchestrator h := by
    obtain ⟨fields, -, h⟩ := Option.bind_eq_some_iff.1 h
    obtain ⟨version, -, h⟩ := Option.bind_eq_some_iff.1 h
    obtain ⟨buildDate, hbuildDate, h⟩ := Option.bind_eq_some_iff.1 h
    obtain ⟨apiVersions, -, h⟩ := Option.bind_eq_some_iff.1 h
    cases h
    exact faithful_instant.proper_of_optional hbuildDate

end Orchestrator

namespace ClusterStatus

/-- A clock can show the times in the status block. -/
structure OnClock (status : ClusterStatus) : Prop where
  orchestrator : ∀ orchestrator ∈ status.orchestrator, orchestrator.OnClock
  certExpiry : ∀ expiry ∈ status.certExpiry, expiry.OnClock

theorem faithful : Faithful toJson (read? .exact default) OnClock where
  writable status := by
    simp [toJson, Json.writable_ofOption Orchestrator.faithful.writable,
      Json.writable_ofOption UpgradeStatus.faithful.writable,
      Json.writable_ofOption CertExpiry.faithful.writable]
  ne_null _ := nofun
  read_write status h :=
    fields_of_obj rfl (by decide) <|
    faithful_text.required trivial rfl <|
    Orchestrator.faithful.optional h.orchestrator rfl <|
    UpgradeStatus.faithful.optional (fun _ _ => trivial) rfl <|
    CertExpiry.faithful.optional h.certExpiry rfl rfl
  proper json status h := by
    obtain ⟨fields, -, h⟩ := Option.bind_eq_some_iff.1 h
    obtain ⟨sensorVersion, -, h⟩ := Option.bind_eq_some_iff.1 h
    obtain ⟨orchestrator, horchestrator, h⟩ := Option.bind_eq_some_iff.1 h
    obtain ⟨upgrade, -, h⟩ := Option.bind_eq_some_iff.1 h
    obtain ⟨certExpiry, hcertExpiry, h⟩ := Option.bind_eq_some_iff.1 h
    cases h
    exact ⟨Orchestrator.faithful.proper_of_optional horchestrator,
      CertExpiry.faithful.proper_of_optional hcertExpiry⟩

end ClusterStatus

namespace AuditPosition

/-- A clock can show the time of the position. -/
def OnClock (position : AuditPosition) : Prop :=
  ∀ t ∈ position.collectSince, t.OnClock

theorem faithful : Faithful toJson (read? .exact default) OnClock where
  writable position := by simp [toJson, Json.writable_ofOption faithful_instant.writable]
  ne_null _ := nofun
  read_write position h :=
    fields_of_obj rfl (by decide) <|
    faithful_instant.optional h rfl <|
    faithful_text.required trivial rfl rfl
  proper json position h := by
    obtain ⟨fields, -, h⟩ := Option.bind_eq_some_iff.1 h
    obtain ⟨collectSince, hcollectSince, h⟩ := Option.bind_eq_some_iff.1 h
    obtain ⟨lastAuditId, -, h⟩ := Option.bind_eq_some_iff.1 h
    cases h
    exact faithful_instant.proper_of_optional hcollectSince

end AuditPosition

theorem HealthLevel.faithful : Faithful toJson read? fun _ => True :=
  faithful_labelled fun level => by cases level <;> rfl

theorem CollectorRollout.faithful : Faithful toJson (read? .exact default) fun _ => True where
  writable rollout := by simp [toJson, faithful_int32.writable, faithful_text.list.writable]
  ne_null _ := nofun
  read_write rollout _ :=
    fields_of_obj rfl (by decide) <|
    faithful_int32.required trivial rfl <|
    faithful_int32.required trivial rfl <|
    faithful_text.list.required (fun _ _ => trivial) rfl rfl
  proper _ _ _ := trivial

namespace Health

/-- A clock can show the time of the last contact. -/
def OnClock (health : Health) : Prop :=
  ∀ t ∈ health.lastContact, t.OnClock

theorem faithful : Faithful toJson (read? .exact default) OnClock where
  writable health := by
    simp [toJson, Json.writable_ofOption HealthLevel.faithful.writable,
      Json.writable_ofOption CollectorRollout.faithful.writable,
      Json.writable_ofOption faithful_instant.writable]
  ne_null _ := nofun
  read_write health h :=
    fields_of_obj rfl (by decide) <|
    HealthLevel.faithful.optional (fun _ _ => trivial) rfl <|
    HealthLevel.faithful.optional (fun _ _ => trivial) rfl <|
    HealthLevel.faithful.optional (fun _ _ => trivial) rfl <|
    CollectorRollout.faithful.optional (fun _ _ => trivial) rfl <|
    faithful_instant.optional h rfl rfl
  proper json health h := by
    obtain ⟨fields, -, h⟩ := Option.bind_eq_some_iff.1 h
    obtain ⟨sensor, -, h⟩ := Option.bind_eq_some_iff.1 h
    obtain ⟨collector, -, h⟩ := Option.bind_eq_some_iff.1 h
    obtain ⟨admission, -, h⟩ := Option.bind_eq_some_iff.1 h
    obtain ⟨rollout, -, h⟩ := Option.bind_eq_some_iff.1 h
    obtain ⟨lastContact, hlastContact, h⟩ := Option.bind_eq_some_iff.1 h
    cases h
    exact faithful_instant.proper_of_optional hlastContact

end Health

/-! ## Cluster records -/

namespace Cluster

/-- A clock can show the times in the record. -/
structure OnClock (cluster : Cluster) : Prop where
  status : ∀ status ∈ cluster.status, status.OnClock
  auditLogs : ∀ entry ∈ cluster.auditLogs.entries, entry.2.OnClock

/-- What is looked up on reading is no part of the format, so what is read does not have it. -/
theorem faithful : Faithful toJson (read? .exact default) fun cluster =>
    cluster.OnClock ∧ cluster.stored = cluster where
  writable cluster := by
    simp [toJson, members, ClusterKind.faithful.writable, CollectionMethod.faithful.writable,
      faithful_text.table.writable, AuditPosition.faithful.table.writable,
      Json.writable_ofOption Tolerations.faithful.writable,
      Json.writable_ofOption DynamicConfig.faithful.writable,
      Json.writable_ofOption ManagedConfig.faithful.writable,
      Json.writable_ofOption SensorIdentity.faithful.writable,
      Json.writable_ofOption ClusterStatus.faithful.writable]
  ne_null _ := nofun
  read_write cluster h :=
    fields_of_obj rfl (by decide) <|
    faithful_text.required trivial rfl <|
    faithful_text.required trivial rfl <|
    ClusterKind.faithful.required trivial rfl <|
    faithful_text.table.required (fun _ _ => trivial) rfl <|
    faithful_text.required trivial rfl <|
    faithful_text.required trivial rfl <|
    faithful_text.required trivial rfl <|
    faithful_bool.required trivial rfl <|
    CollectionMethod.faithful.required trivial rfl <|
    faithful_bool.required trivial rfl <|
    faithful_bool.required trivial rfl <|
    faithful_bool.required trivial rfl <|
    Tolerations.faithful.optional (fun _ _ => trivial) rfl <|
    faithful_bool.required trivial rfl <|
    DynamicConfig.faithful.optional (fun _ _ => trivial) rfl <|
    ManagedConfig.faithful.optional (fun _ _ => trivial) rfl <|
    SensorIdentity.faithful.optional (fun _ _ => trivial) rfl <|
    ClusterStatus.faithful.optional h.1.status rfl <|
    AuditPosition.faithful.table.required h.1.auditLogs rfl <|
    congrArg some h.2
  proper json cluster h := by
    obtain ⟨fields, -, h⟩ := Option.bind_eq_some_iff.1 h
    -- The seventeen fields before the status hold no times.
    iterate 17 obtain ⟨_, -, h⟩ := Option.bind_eq_some_iff.1 h
    obtain ⟨status, hstatus, h⟩ := Option.bind_eq_some_iff.1 h
    obtain ⟨auditLogs, hauditLogs, h⟩ := Option.bind_eq_some_iff.1 h
    cases h
    exact ⟨⟨ClusterStatus.faithful.proper_of_optional hstatus,
      AuditPosition.faithful.table.proper_of_required
        (fun _ hentry => absurd hentry List.not_mem_nil) hauditLogs⟩, rfl⟩

end Cluster

/-! ## Announcements -/

theorem Declaration.faithful : Faithful toJson (read? .exact default) fun _ => True where
  writable declaration := by simp [toJson, Json.writable_ofOption ManagedConfig.faithful.writable]
  ne_null _ := nofun
  read_write declaration _ :=
    fields_of_obj rfl (by decide) <|
    faithful_text.required trivial rfl <|
    ManagedConfig.faithful.optional (fun _ _ => trivial) rfl <|
    faithful_bool.required trivial rfl rfl
  proper _ _ _ := trivial

theorem Announcement.faithful : Faithful toJson (read? .exact default) fun _ => True where
  writable announcement := by
    simp [toJson, Json.ofText?, Json.writable_ofOption faithful_text.writable,
      Json.writable_ofOption SensorIdentity.faithful.writable,
      Json.writable_ofOption Declaration.faithful.writable]
  ne_null _ := nofun
  read_write announcement _ :=
    fields_of_obj rfl (by decide) <|
    faithful_text.optional (fun _ _ => trivial) rfl <|
    SensorIdentity.faithful.optional (fun _ _ => trivial) rfl <|
    Declaration.faithful.optional (fun _ _ => trivial) rfl rfl
  proper _ _ _ := trivial

/-! ## Texts -/

namespace Wire

/-- The value that a text holds in a format. -/
def decode? {α : Type} (read : Json → Option α) (text : String) : Option α :=
  (Json.read? text).bind read

namespace Faithful

variable {α : Type} {write : α → Json} {read : Json → Option α} {Proper : α → Prop}

theorem decode?_write (h : Faithful write read Proper) {value : α} (hvalue : Proper value) :
    decode? read (write value).write = some value := by
  rw [decode?, Json.read?_write (h.writable value), Option.bind_some, h.read_write value hvalue]

/-- A text that is read can as well be replaced by the one that is written for its value. -/
theorem decode?_again (h : Faithful write read Proper) (text : String) :
    (decode? read text).bind (fun value => decode? read (write value).write) = decode? read text := by
  cases hread : decode? read text with
  | none => rfl
  | some value =>
    obtain ⟨json, -, hjson⟩ := Option.bind_eq_some_iff.1 hread
    exact h.decode?_write (h.proper json value hjson)

theorem reencode_again (h : Faithful write read Proper) {json value : Json}
    (hread : (read value >>= fun found => pure (write found)) = some json) :
    (Json.read? json.write >>= fun value => read value >>= fun found => pure (write found)) =
      some json := by
  obtain ⟨found, hfound, hjson⟩ := Option.bind_eq_some_iff.1 hread
  cases hjson
  exact Option.bind_eq_some_iff.2 ⟨write found, Json.read?_write (h.writable found),
    Option.bind_eq_some_iff.2 ⟨found, h.read_write found (h.proper value found hfound), rfl⟩⟩

end Faithful

theorem reencode?_of_reencode? {typeName text : String} {json : Json}
    (h : reencode? typeName text = some json) : reencode? typeName json.write = some json := by
  obtain ⟨value, -, h⟩ := Option.bind_eq_some_iff.1 h
  split at h
  · exact CollectionMethod.faithful.reencode_again h
  · exact ClusterKind.faithful.reencode_again h
  · exact Upgradability.faithful.reencode_again h
  · exact HealthLevel.faithful.reencode_again h
  · exact AdmissionConfig.faithful.reencode_again h
  · exact DynamicConfig.faithful.reencode_again h
  · exact Tolerations.faithful.reencode_again h
  · exact StaticConfig.faithful.reencode_again h
  · exact ManagedConfig.faithful.reencode_again h
  · exact SensorIdentity.faithful.reencode_again h
  · exact UpgradeStatus.faithful.reencode_again h
  · exact CertExpiry.faithful.reencode_again h
  · exact Orchestrator.faithful.reencode_again h
  · exact ClusterStatus.faithful.reencode_again h
  · exact CollectorRollout.faithful.reencode_again h
  · exact Health.faithful.reencode_again h
  · exact AuditPosition.faithful.reencode_again h
  · exact Cluster.faithful.reencode_again h
  · exact Declaration.faithful.reencode_again h
  · exact Announcement.faithful.reencode_again h
  · cases h

/-- This holds of every type that a text may be read as. -/
theorem reencode?_again (typeName text : String) :
    (reencode? typeName text).bind (fun json => reencode? typeName json.write) =
      reencode? typeName text := by
  cases hread : reencode? typeName text with
  | none => rfl
  | some json => exact reencode?_of_reencode? hread

end Wire

/-- What is written is read back: of a cluster record all but health and priority, which are not written,
and of announcements, snapshots and declared configurations everything. So whatever text a value was read
from, the text written for the value is read as the same value, and this goes for every type. -/
theorem decoding_undoes_encoding :
    (∀ cluster : Cluster, cluster.OnClock →
      decode? (Cluster.read? .exact default) cluster.toJson.write = some cluster.stored) ∧
    (∀ announcement : Announcement,
      decode? (Announcement.read? .exact default) announcement.toJson.write = some announcement) ∧
    (∀ health : Health, health.OnClock →
      decode? (Health.read? .exact default) health.toJson.write = some health) ∧
    (∀ config : ManagedConfig,
      decode? (ManagedConfig.read? .exact default) config.toJson.write = some config) ∧
    (∀ text, (decode? (Cluster.read? .exact default) text).bind
        (fun cluster => decode? (Cluster.read? .exact default) cluster.toJson.write) =
      decode? (Cluster.read? .exact default) text) ∧
    (∀ text, (decode? (Announcement.read? .exact default) text).bind
        (fun announcement => decode? (Announcement.read? .exact default) announcement.toJson.write) =
      decode? (Announcement.read? .exact default) text) ∧
    (∀ text, (decode? (Health.read? .exact default) text).bind
        (fun health => decode? (Health.read? .exact default) health.toJson.write) =
      decode? (Health.read? .exact default) text) ∧
    (∀ text, (decode? (ManagedConfig.read? .exact default) text).bind
        (fun config => decode? (ManagedConfig.read? .exact default) config.toJson.write) =
      decode? (ManagedConfig.read? .exact default) text) ∧
    ∀ typeName text, (reencode? typeName text).bind (fun json => reencode? typeName json.write) =
      reencode? typeName text := by
  refine ⟨fun cluster h => ?_, fun announcement => Announcement.faithful.decode?_write trivial,
    fun health h => Health.faithful.decode?_write h,
    fun config => ManagedConfig.faithful.decode?_write trivial,
    Cluster.faithful.decode?_again, Announcement.faithful.decode?_again, Health.faithful.decode?_again,
    ManagedConfig.faithful.decode?_again, reencode?_again⟩
  -- The record is written as it is stored.
  have hstored : cluster.stored.OnClock ∧ cluster.stored.stored = cluster.stored :=
    ⟨⟨h.status, h.auditLogs⟩, rfl⟩
  exact Cluster.faithful.decode?_write hstored

/-- A record with a leap second, decimals, escapes and labels, and a snapshot from a day long past. -/
theorem decoding_undoes_encoding_of_leap_second :
    let leapSecond : Instant := ⟨1483228800250000000, true⟩
    let longPast : Instant := ⟨-62135596799999999999, false⟩
    let cluster : Cluster :=
      { id := "c1", name := "π \"prod\" 😀", kind := .openshift4,
        labels := .ofList [("zone", "a\tb"), ("", "\\")],
        status := some { certExpiry := some { expiry := some leapSecond } },
        auditLogs := .ofList [("node", { collectSince := some longPast })],
        health := some { sensor := some .degraded }, priority := 7 }
    let health : Health := { collector := some .healthy, lastContact := some longPast }
    cluster.OnClock ∧
      decode? (Cluster.read? .exact default) cluster.toJson.write = some cluster.stored ∧
      health.OnClock ∧
      decode? (Health.read? .exact default) health.toJson.write = some health := by
  intro leapSecond longPast cluster health
  have hleap : leapSecond.OnClock := Instant.onClock_of_year (by decide) (by decide)
  have hpast : longPast.OnClock := Instant.onClock_of_year (by decide) (by decide)
  have hcluster : cluster.OnClock := by
    refine ⟨?_, ?_⟩
    · rintro _ ⟨⟩
      exact ⟨nofun, by rintro _ ⟨⟩; exact ⟨by rintro _ ⟨⟩; exact hleap, nofun⟩⟩
    · intro entry hentry
      cases List.mem_singleton.1 hentry
      rintro _ ⟨⟩
      exact hpast
  have hhealth : health.OnClock := by
    rintro _ ⟨⟩
    exact hpast
  exact ⟨hcluster, decoding_undoes_encoding.1 cluster hcluster, hhealth,
    decoding_undoes_encoding.2.2.1 health hhealth⟩

end Fleet
