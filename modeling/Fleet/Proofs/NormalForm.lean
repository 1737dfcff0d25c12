import Fleet.Cluster.Normal

/-!
# Normal forms

When a record is accepted, what its normal form keeps of it, and that what is stored is normal. The
checks look only at fields that the defaults leave alone, so whether a record is accepted can be told
from the record as it was given. Once every default is filled in there is nothing left to fill in, and
only the endpoint can still become another one.
-/

namespace Fleet

/-- Whether the input is to blame. -/
def Failure.IsInvalid (failure : Failure) : Prop :=
  ∃ cluster message field, failure = .invalid cluster message field

namespace Cluster

open Fleet.Text

/-- What a record has to satisfy to be stored. -/
structure Acceptable (cluster : Cluster) : Prop where
  timeout : 0 ≤ cluster.admissionTimeout
  named : isBlankText cluster.name = false
  image : cluster.mainImage.toList.any isBlank = false

/-- The record with every default filled in, whether it is accepted or not. -/
def normalForm (defaultTimeout : Int32) (cluster : Cluster) : Cluster :=
  (cluster.normalize defaultTimeout).1

/-! ## What the defaults leave alone -/

theorem admissionTimeout_fill (cluster : Cluster) :
    cluster.fill.admissionTimeout = cluster.admissionTimeout := by
  cases hdynamic : cluster.dynamic with
  | none => simp [fill, admissionTimeout, hdynamic]
  | some dynamic => simp [fill, admissionTimeout, hdynamic]

theorem normalForm_eq (defaultTimeout : Int32) (cluster : Cluster) :
    cluster.normalForm defaultTimeout =
      if cluster.admissionTimeout = 0 then cluster.fill.withAdmissionTimeout defaultTimeout
      else cluster.fill := by
  simp only [normalForm, normalize, admissionTimeout_fill]
  by_cases hzero : cluster.admissionTimeout = 0
  · rw [hzero]
    rfl
  · rw [if_neg hzero, if_neg hzero]
    split <;> rfl

/-- Only the endpoint, the collection method, what follows from it, the tolerations and the dynamic
configuration may differ between a record and its normal form. -/
theorem normalForm_frame (defaultTimeout : Int32) (cluster : Cluster) :
    let normal := cluster.normalForm defaultTimeout
    normal = { cluster with
      endpoint := normal.endpoint
      collectionMethod := normal.collectionMethod
      runtimeSupport := normal.runtimeSupport
      tolerations := normal.tolerations
      dynamic := normal.dynamic } := by
  rw [normalForm_eq]
  split <;> rfl

@[simp] theorem normalForm_name (defaultTimeout : Int32) (cluster : Cluster) :
    (cluster.normalForm defaultTimeout).name = cluster.name := by
  rw [normalForm_frame]

@[simp] theorem normalForm_mainImage (defaultTimeout : Int32) (cluster : Cluster) :
    (cluster.normalForm defaultTimeout).mainImage = cluster.mainImage := by
  rw [normalForm_frame]

/-! ## When a record is accepted -/

theorem objection?_eq_none_iff (cluster : Cluster) :
    cluster.objection? = none ↔
      isBlankText cluster.name = false ∧ cluster.mainImage.toList.any isBlank = false := by
  unfold objection?
  cases isBlankText cluster.name <;> cases cluster.mainImage.toList.any isBlank <;> simp

theorem isInvalid_of_objection? {cluster : Cluster} {failure : Failure}
    (h : cluster.objection? = some failure) : failure.IsInvalid := by
  unfold objection? at h
  split at h
  · cases h
    exact ⟨_, _, _, rfl⟩
  · split at h
    · cases h
      exact ⟨_, _, _, rfl⟩
    · cases h

/-- The defaults can be filled in if and only if the timeout is not negative. -/
theorem normalize_eq_iff {cluster normal : Cluster} {defaultTimeout : Int32} :
    cluster.normalize defaultTimeout = (normal, none) ↔
      0 ≤ cluster.admissionTimeout ∧ normal = cluster.normalForm defaultTimeout := by
  have hproblem : (cluster.normalize defaultTimeout).2 = none ↔ 0 ≤ cluster.admissionTimeout := by
    simp only [normalize, admissionTimeout_fill]
    by_cases hnegative : cluster.admissionTimeout < 0
    · rw [if_pos hnegative]
      exact iff_of_false nofun (Int32.not_le.2 hnegative)
    · rw [if_neg hnegative]
      refine iff_of_true ?_ (Int32.not_lt.1 hnegative)
      split <;> rfl
  rw [Prod.ext_iff, hproblem, and_comm]
  exact and_congr_right fun _ => eq_comm

/-- An acceptable record is stored in its normal form. -/
theorem prepare_of_acceptable {cluster : Cluster} (h : cluster.Acceptable) (defaultTimeout : Int32) :
    cluster.prepare defaultTimeout = .ok (cluster.normalForm defaultTimeout) := by
  have hnormalize : cluster.normalize defaultTimeout = (cluster.normalForm defaultTimeout, none) :=
    normalize_eq_iff.2 ⟨h.timeout, rfl⟩
  have hobjection : (cluster.normalForm defaultTimeout).objection? = none := by
    rw [objection?_eq_none_iff, normalForm_name, normalForm_mainImage]
    exact ⟨h.named, h.image⟩
  unfold prepare
  simp only [hnormalize, hobjection]

/-- A record that is not acceptable is refused as invalid. -/
theorem prepare_of_not_acceptable {cluster : Cluster} (h : ¬ cluster.Acceptable)
    (defaultTimeout : Int32) :
    ∃ failure, cluster.prepare defaultTimeout = .error failure ∧ failure.IsInvalid := by
  unfold prepare
  cases hnormalize : cluster.normalize defaultTimeout with
  | mk normal problem =>
    cases problem with
    | some failure =>
      refine ⟨failure, rfl, ?_⟩
      simp only [normalize] at hnormalize
      split at hnormalize
      · cases hnormalize
        exact ⟨_, _, _, rfl⟩
      · split at hnormalize <;> cases hnormalize
    | none =>
      have hform : cluster.normalForm defaultTimeout = normal := congrArg Prod.fst hnormalize
      have htimeout : 0 ≤ cluster.admissionTimeout := by
        rw [← Int32.not_lt]
        intro hnegative
        simp only [normalize, admissionTimeout_fill, if_pos hnegative] at hnormalize
        cases hnormalize
      cases hobjection : normal.objection? with
      | some failure =>
        refine ⟨failure, ?_, isInvalid_of_objection? hobjection⟩
        simp only [hobjection]
      | none =>
        rw [← hform, objection?_eq_none_iff, normalForm_name, normalForm_mainImage] at hobjection
        exact absurd ⟨htimeout, hobjection.1, hobjection.2⟩ h

theorem prepare_eq_ok_iff (cluster normal : Cluster) (defaultTimeout : Int32) :
    cluster.prepare defaultTimeout = .ok normal ↔
      cluster.Acceptable ∧ normal = cluster.normalForm defaultTimeout := by
  by_cases h : cluster.Acceptable
  · rw [prepare_of_acceptable h]
    simp only [Except.ok.injEq, h, true_and, eq_comm]
  · obtain ⟨failure, hfailure, -⟩ := prepare_of_not_acceptable h defaultTimeout
    rw [hfailure]
    simp only [reduceCtorEq, h, false_and]

/-! ## What is prepared -/

/-- Two records of one cluster that name the same agent. -/
structure SameSubject (left right : Cluster) : Prop where
  id : left.id = right.id
  name : left.name = right.name
  sensor : left.sensor = right.sensor

theorem SameSubject.trans {first second third : Cluster} (h : first.SameSubject second)
    (h' : second.SameSubject third) : first.SameSubject third :=
  ⟨h.id.trans h'.id, h.name.trans h'.name, h.sensor.trans h'.sensor⟩

section

variable {cluster normal : Cluster} {defaultTimeout : Int32}

theorem sameSubject_of_prepare (h : cluster.prepare defaultTimeout = .ok normal) :
    normal.SameSubject cluster := by
  obtain ⟨-, rfl⟩ := (prepare_eq_ok_iff _ _ _).1 h
  rw [normalForm_frame]
  exact ⟨rfl, rfl, rfl⟩

theorem managed_of_prepare (h : cluster.prepare defaultTimeout = .ok normal) :
    normal.managed = cluster.managed := by
  obtain ⟨-, rfl⟩ := (prepare_eq_ok_iff _ _ _).1 h
  rw [normalForm_frame]

theorem health_of_prepare (h : cluster.prepare defaultTimeout = .ok normal) :
    normal.health = cluster.health := by
  obtain ⟨-, rfl⟩ := (prepare_eq_ok_iff _ _ _).1 h
  rw [normalForm_frame]

theorem stored_of_prepare (h : cluster.prepare defaultTimeout = .ok normal)
    (hstored : cluster.stored = cluster) : normal.stored = normal := by
  obtain ⟨-, rfl⟩ := (prepare_eq_ok_iff _ _ _).1 h
  have hhealth : cluster.health = none := (congrArg Cluster.health hstored).symm
  have hpriority : cluster.priority = 0 := (congrArg Cluster.priority hstored).symm
  rw [normalForm_frame]
  simp only [stored, hhealth, hpriority]

end

/-! ## What is stored is normal -/

/-- The admission settings of a record with its defaults filled in. -/
theorem dynamic_fill (cluster : Cluster) :
    ∃ dynamic admission, cluster.fill.dynamic = some dynamic ∧
      dynamic.admission = some admission ∧ admission.timeoutSeconds = cluster.admissionTimeout ∧
      (cluster.kind.hasAuditLogs = false → dynamic.disableAuditLogs = true) := by
  refine ⟨_, _, rfl, rfl, rfl, ?_⟩
  intro hkind
  simp [hkind]

theorem method_fill (cluster : Cluster) : cluster.fill.collectionMethod ≠ .unspecified := by
  simp only [fill]
  split
  · decide
  · assumption

/-- An accepted record has its normal form in normal form, if the default timeout is one that counts. -/
theorem normal_normalForm {cluster : Cluster} {defaultTimeout : Int32} (h : cluster.Acceptable)
    (hpositive : 0 < defaultTimeout) : (cluster.normalForm defaultTimeout).Normal := by
  obtain ⟨dynamic, admission, hdynamic, hadmission, htimeout, haudit⟩ := dynamic_fill cluster
  have hmethod := method_fill cluster
  have hruntime : cluster.fill.runtimeSupport = true ↔ cluster.fill.collectionMethod ≠ .off := by
    simp [fill]
  rw [normalForm_eq]
  split
  · refine ⟨h.named, h.image, hmethod, hruntime, rfl, ?_⟩
    let timed : AdmissionConfig := { admission with timeoutSeconds := defaultTimeout }
    refine ⟨{ dynamic with admission := some timed }, timed, ?_, rfl, hpositive, haudit⟩
    simp only [withAdmissionTimeout, hdynamic, hadmission, Option.map_some]
    rfl
  · rename_i hnonzero
    refine ⟨h.named, h.image, hmethod, hruntime, rfl, ?_⟩
    refine ⟨dynamic, admission, hdynamic, hadmission, ?_, haudit⟩
    rw [htimeout]
    exact Int32.lt_of_le_of_ne h.timeout (Ne.symm hnonzero)

/-- A normal record is accepted. -/
theorem Normal.acceptable {cluster : Cluster} (h : cluster.Normal) : cluster.Acceptable where
  timeout := by
    obtain ⟨dynamic, admission, hdynamic, hadmission, hpositive, -⟩ := h.admission
    simp only [admissionTimeout, hdynamic, hadmission, Option.getD_some]
    exact Int32.le_of_lt hpositive
  named := h.named
  image := h.image

/-- Whether a record is normal does not depend on identity, status, audit log positions, declared
configuration, health and priority. -/
theorem Normal.frame {cluster other : Cluster} (h : cluster.Normal)
    (hother : other = { cluster with
      managed := other.managed
      sensor := other.sensor
      status := other.status
      auditLogs := other.auditLogs
      health := other.health
      priority := other.priority }) : other.Normal := by
  rw [hother]
  exact ⟨h.named, h.image, h.method, h.runtime, h.tolerations, h.admission⟩

/-- What was prepared is normal, if the default timeout is one that counts. -/
theorem normal_of_prepare {cluster normal : Cluster} {defaultTimeout : Int32}
    (h : cluster.prepare defaultTimeout = .ok normal) (hpositive : 0 < defaultTimeout) :
    normal.Normal := by
  obtain ⟨hacceptable, rfl⟩ := (prepare_eq_ok_iff _ _ _).1 h
  exact normal_normalForm hacceptable hpositive

theorem Normal.stored {cluster : Cluster} (h : cluster.Normal) : cluster.stored.Normal :=
  h.frame rfl

/-- What is looked up on reading is left out once and for all. -/
@[simp] theorem stored_stored (cluster : Cluster) : cluster.stored.stored = cluster.stored := rfl

/-! ## Filling in defaults again -/

/-- The endpoint starts with a scheme. -/
def HasScheme (endpoint : String) : Prop :=
  "https://".toList <+: endpoint.toList ∨ "http://".toList <+: endpoint.toList

instance (endpoint : String) : Decidable (HasScheme endpoint) :=
  inferInstanceAs (Decidable (_ ∨ _))

theorem bareEndpoint_of_hasScheme {endpoint : String} (h : HasScheme endpoint) :
    endpoint = "https://" ++ bareEndpoint endpoint ∨
      endpoint = "http://" ++ bareEndpoint endpoint := by
  have hsplit : ∀ scheme : String, scheme.toList <+: endpoint.toList →
      endpoint = scheme ++ String.ofList (endpoint.toList.drop scheme.toList.length) := by
    intro scheme hscheme
    obtain ⟨rest, hrest⟩ := hscheme
    apply String.toList_injective
    rw [← hrest, String.toList_append, String.toList_ofList, List.drop_left]
  unfold bareEndpoint
  simp only [List.isPrefixOf_iff_prefix]
  by_cases hsecure : "https://".toList <+: endpoint.toList
  · rw [if_pos hsecure]
    exact .inl (hsplit "https://" hsecure)
  · have hplain := h.resolve_left hsecure
    rw [if_neg hsecure, if_pos hplain]
    exact .inr (hsplit "http://" hplain)

theorem bareEndpoint_of_not_hasScheme {endpoint : String} (h : ¬ HasScheme endpoint) :
    bareEndpoint endpoint = endpoint := by
  unfold HasScheme at h
  unfold bareEndpoint
  simp only [List.isPrefixOf_iff_prefix]
  rw [if_neg fun hsecure => h (.inl hsecure), if_neg fun hplain => h (.inr hplain)]

/-- Every default is filled in. The endpoint may still start with a scheme, since one at most is taken
off at a time. -/
structure Filled (defaultTimeout : Int32) (cluster : Cluster) : Prop where
  method : cluster.collectionMethod ≠ .unspecified
  runtime : cluster.runtimeSupport = decide (cluster.collectionMethod ≠ .off)
  tolerations : cluster.tolerations.isSome
  dynamic : ∃ dynamic, cluster.dynamic = some dynamic ∧ dynamic.admission.isSome ∧
    (cluster.kind.hasAuditLogs = false → dynamic.disableAuditLogs = true)
  timeout : 0 ≤ cluster.admissionTimeout
  default : cluster.admissionTimeout = 0 → defaultTimeout = 0

theorem fill_of_filled {defaultTimeout : Int32} {cluster : Cluster}
    (h : cluster.Filled defaultTimeout) :
    cluster.fill = { cluster with endpoint := bareEndpoint cluster.endpoint } := by
  obtain ⟨tolerations, htolerations⟩ := Option.isSome_iff_exists.1 h.tolerations
  obtain ⟨⟨admission?, override, disabled⟩, hdynamic, hadmission, haudit⟩ := h.dynamic
  obtain ⟨admission, rfl⟩ := Option.isSome_iff_exists.1 hadmission
  have hdisabled : (disabled || !cluster.kind.hasAuditLogs) = disabled := by
    cases hkind : cluster.kind.hasAuditLogs with
    | true => simp
    | false => simpa using haudit hkind
  simp only [fill, if_neg h.method, htolerations, hdynamic, Option.getD_some, hdisabled]
  rw [← h.runtime, ← htolerations, ← hdynamic]

theorem withAdmissionTimeout_self (cluster : Cluster) :
    cluster.withAdmissionTimeout cluster.admissionTimeout = cluster := by
  cases cluster with
  | mk id name kind labels mainImage collectorImage endpoint runtimeSupport collectionMethod
      admissionController admissionUpdates admissionEvents tolerations slimCollector dynamic managed
      sensor status auditLogs health priority =>
    cases dynamic with
    | none => rfl
    | some dynamic =>
      cases dynamic with
      | mk admission override disabled => cases admission <;> rfl

/-- Filling in the defaults again has no effect but on the endpoint. -/
theorem normalize_of_filled {defaultTimeout : Int32} {cluster : Cluster}
    (h : cluster.Filled defaultTimeout) :
    cluster.normalize defaultTimeout =
      ({ cluster with endpoint := bareEndpoint cluster.endpoint }, none) := by
  have htimeout : cluster.fill.admissionTimeout = cluster.admissionTimeout :=
    admissionTimeout_fill cluster
  simp only [normalize, htimeout]
  rw [if_neg (Int32.not_lt.2 h.timeout), ← fill_of_filled h]
  split
  · rename_i hzero
    have hself := withAdmissionTimeout_self cluster.fill
    rw [htimeout, hzero, ← h.default hzero] at hself
    rw [hself]
  · rfl

/-- A record in normal form has every default filled in, if the default timeout is not negative. -/
theorem filled_normalForm {cluster : Cluster} {defaultTimeout : Int32}
    (htimeout : 0 ≤ cluster.admissionTimeout) (hdefault : 0 ≤ defaultTimeout) :
    (cluster.normalForm defaultTimeout).Filled defaultTimeout := by
  obtain ⟨dynamic, admission, hdynamic, hadmission, hfilled, haudit⟩ := dynamic_fill cluster
  have hmethod := method_fill cluster
  rw [normalForm_eq]
  split
  · have hset : (cluster.fill.withAdmissionTimeout defaultTimeout).dynamic = some
        { dynamic with admission := some { admission with timeoutSeconds := defaultTimeout } } := by
      simp only [withAdmissionTimeout, hdynamic, hadmission, Option.map_some]
    refine ⟨hmethod, rfl, rfl, ⟨_, hset, rfl, haudit⟩, ?_, ?_⟩
    · simpa only [admissionTimeout, hset, Option.getD_some] using hdefault
    · simp only [admissionTimeout, hset, Option.getD_some, imp_self]
  · rename_i hnonzero
    refine ⟨hmethod, rfl, rfl, ⟨dynamic, hdynamic, by rw [hadmission]; rfl, haudit⟩, ?_, ?_⟩
    · rwa [admissionTimeout_fill]
    · rw [admissionTimeout_fill]
      exact fun hzero => absurd hzero hnonzero

/-- What was prepared is accepted again, if the default timeout is not negative. -/
theorem acceptable_of_prepare {cluster normal : Cluster} {defaultTimeout : Int32}
    (h : cluster.prepare defaultTimeout = .ok normal) (hdefault : 0 ≤ defaultTimeout) :
    normal.Acceptable := by
  obtain ⟨hacceptable, rfl⟩ := (prepare_eq_ok_iff _ _ _).1 h
  refine ⟨(filled_normalForm hacceptable.timeout hdefault).timeout, ?_, ?_⟩
  · rw [normalForm_name]
    exact hacceptable.named
  · rw [normalForm_mainImage]
    exact hacceptable.image

/-- What was prepared has its defaults filled in, if the default timeout is not negative. -/
theorem filled_of_prepare {cluster normal : Cluster} {defaultTimeout : Int32}
    (h : cluster.prepare defaultTimeout = .ok normal) (hdefault : 0 ≤ defaultTimeout) :
    normal.Filled defaultTimeout := by
  obtain ⟨hacceptable, rfl⟩ := (prepare_eq_ok_iff _ _ _).1 h
  exact filled_normalForm hacceptable.timeout hdefault

/-- An accepted record with its defaults filled in is stored as it is, but for a scheme. -/
theorem prepare_of_filled {cluster : Cluster} {defaultTimeout : Int32}
    (h : cluster.Filled defaultTimeout) (hacceptable : cluster.Acceptable) :
    cluster.prepare defaultTimeout =
      .ok { cluster with endpoint := bareEndpoint cluster.endpoint } := by
  rw [prepare_of_acceptable hacceptable, normalForm, normalize_of_filled h]

section

variable {cluster other : Cluster} (hother : other = { cluster with
  managed := other.managed
  sensor := other.sensor
  status := other.status
  auditLogs := other.auditLogs
  health := other.health
  priority := other.priority })

include hother

/-- Whether a record is accepted does not depend on what a configuration does not set. -/
theorem Acceptable.frame (h : cluster.Acceptable) : other.Acceptable := by
  rw [hother]
  exact ⟨h.timeout, h.named, h.image⟩

/-- Neither does it whether a default is left to fill in. -/
theorem Filled.frame {defaultTimeout : Int32} (h : cluster.Filled defaultTimeout) :
    other.Filled defaultTimeout := by
  rw [hother]
  exact ⟨h.method, h.runtime, h.tolerations, h.dynamic, h.timeout, h.default⟩

end

end Cluster

end Fleet
