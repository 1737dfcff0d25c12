import Fleet.Proofs.Directory
import Fleet.Proofs.Runs

/-!
# What every run keeps

The directory holds the names of the stored records and nothing else, and every record is kept as it
was written: under its own id, which was given out by the registry, in normal form, and without what is
looked up on reading. Nothing that happens to the control plane breaks this, not even a call that is
interrupted between two writes. And the past stays: a record that is there after a run was there before
it under the same name, or its id was given out in between.
-/

namespace Fleet

open Registry

/-! ## Ids -/

namespace State

/-- Whether an id was given out already. -/
def HasIssued (state : State) (id : String) : Prop :=
  ∃ k, k ≤ state.issued ∧ id = state.ids.idOf k

theorem HasIssued.ne_empty {state : State} {id : String} (h : state.HasIssued id) : id ≠ "" := by
  obtain ⟨k, -, rfl⟩ := h
  exact state.ids.idOf_ne_empty k

/-- The next id was not given out yet. -/
theorem not_hasIssued_nextId (state : State) : ¬ state.HasIssued state.nextId := by
  rintro ⟨k, hk, heq⟩
  have := state.ids.idOf_inj heq
  omega

theorem HasIssued.mono {before after : State} {id : String} (h : before.HasIssued id)
    (hids : after.ids = before.ids) (hle : before.issued ≤ after.issued) : after.HasIssued id := by
  obtain ⟨k, hk, hid⟩ := h
  exact ⟨k, Nat.le_trans hk hle, hid.trans (by rw [hids])⟩

theorem SameRegistry.hasIssued {before after : State} (h : SameRegistry before after) :
    after.HasIssued = before.HasIssued := by
  unfold HasIssued
  rw [h.ids, h.issued]

end State

/-! ## Records -/

/-- A record that is kept as it was written, under an id that was given out. -/
structure Cluster.WellKept (defaultTimeout : Int32) (issued : String → Prop) (id : String)
    (cluster : Cluster) : Prop where
  keyed : cluster.id = id
  plain : cluster.stored = cluster
  issued : issued id
  named : Text.isBlankText cluster.name = false
  normal : 0 < defaultTimeout → cluster.Normal
  acceptable : 0 ≤ defaultTimeout → cluster.Acceptable
  filled : 0 ≤ defaultTimeout → cluster.Filled defaultTimeout

namespace Cluster.WellKept

variable {defaultTimeout : Int32} {issued later : String → Prop} {id : String} {cluster : Cluster}

theorem mono (h : cluster.WellKept defaultTimeout issued id) (hissued : issued id → later id) :
    cluster.WellKept defaultTimeout later id :=
  ⟨h.keyed, h.plain, hissued h.issued, h.named, h.normal, h.acceptable, h.filled⟩

theorem of_prepare {given normal : Cluster} (hprepare : given.prepare defaultTimeout = .ok normal)
    (hid : given.id = id) (hissued : issued id) :
    normal.stored.WellKept defaultTimeout issued id := by
  have hfilled := filled_of_prepare hprepare
  have hacceptable := acceptable_of_prepare hprepare
  have hsubject := sameSubject_of_prepare hprepare
  refine ⟨hsubject.id.trans hid, normal.stored_stored, hissued, ?_, ?_, ?_, ?_⟩
  · change Text.isBlankText normal.name = false
    rw [hsubject.name]
    exact ((prepare_eq_ok_iff _ _ _).1 hprepare).1.named
  · intro hpositive
    exact (normal_of_prepare hprepare hpositive).stored
  · exact fun hdefault => (hacceptable hdefault).frame rfl
  · exact fun hdefault => (hfilled hdefault).frame rfl

theorem amend {operation : Operation} {change : Cluster → Cluster}
    (h : cluster.WellKept defaultTimeout issued id)
    (hoperation : operation.amendment? = some (id, change)) :
    (change cluster).stored.WellKept defaultTimeout issued id := by
  have hframe : (change cluster).stored = { cluster with
      managed := (change cluster).stored.managed
      sensor := (change cluster).stored.sensor
      status := (change cluster).stored.status
      auditLogs := (change cluster).stored.auditLogs
      health := (change cluster).stored.health
      priority := (change cluster).stored.priority } := by
    cases operation <;> cases hoperation <;> rfl
  obtain ⟨hid, hname⟩ := Operation.frame_of_amendment? hoperation cluster
  refine ⟨hid.trans h.keyed, rfl, h.issued, ?_, ?_, ?_, ?_⟩
  · change Text.isBlankText (change cluster).name = false
    rw [hname]
    exact h.named
  · exact fun hpositive => (h.normal hpositive).frame hframe
  · exact fun hdefault => (h.acceptable hdefault).frame hframe
  · exact fun hdefault => (h.filled hdefault).frame hframe

end Cluster.WellKept

/-- Every record is well kept, and the directory holds their names and nothing else. -/
structure Registered (defaultTimeout : Int32) (issued : String → Prop) (clusters : Table Cluster)
    (directory : Directory) : Prop where
  kept : ∀ id cluster, clusters.get? id = some cluster → cluster.WellKept defaultTimeout issued id
  named : ∀ id, directory.nameOf? id = (clusters.get? id).map (·.name)

namespace Registered

variable {defaultTimeout : Int32} {issued later : String → Prop} {clusters : Table Cluster}
  {directory : Directory}

theorem empty (defaultTimeout : Int32) (issued : String → Prop) :
    Registered defaultTimeout issued .empty .empty := by
  refine ⟨?_, fun id => rfl⟩
  intro id cluster hstored
  cases hstored

theorem nameOf?_of_stored (h : Registered defaultTimeout issued clusters directory) {id : String}
    {cluster : Cluster} (hstored : clusters.get? id = some cluster) :
    directory.nameOf? id = some cluster.name := by
  rw [h.named, hstored]
  rfl

/-- Every entry of the directory is the name of a stored record. -/
theorem stored_of_nameOf? (h : Registered defaultTimeout issued clusters directory) {id name : String}
    (hname : directory.nameOf? id = some name) :
    ∃ cluster, clusters.get? id = some cluster ∧ cluster.name = name := by
  rw [h.named] at hname
  exact Option.map_eq_some_iff.1 hname

/-- No two records share a name. -/
theorem eq_of_name (h : Registered defaultTimeout issued clusters directory) {id other : String}
    {cluster another : Cluster} (hstored : clusters.get? id = some cluster)
    (hother : clusters.get? other = some another) (hname : cluster.name = another.name) :
    id = other := by
  have hfirst := h.nameOf?_of_stored hstored
  have hsecond := h.nameOf?_of_stored hother
  rw [← hname, ← Directory.idOf?_eq_some_iff] at hsecond
  rw [← Directory.idOf?_eq_some_iff, hsecond] at hfirst
  exact (Option.some.inj hfirst).symm

/-- The name of a stored record belongs to no other id. -/
theorem owner_eq (h : Registered defaultTimeout issued clusters directory) {id other : String}
    {cluster : Cluster} (hstored : clusters.get? id = some cluster)
    (hother : directory.nameOf? other = some cluster.name) : other = id := by
  obtain ⟨another, hanother, hname⟩ := h.stored_of_nameOf? hother
  exact h.eq_of_name hanother hstored hname

/-- A record is written and its name entered. -/
theorem insert (h : Registered defaultTimeout issued clusters directory) {id : String}
    {cluster : Cluster} (hissued : ∀ id, issued id → later id)
    (hkept : cluster.WellKept defaultTimeout later id)
    (hfree : ∀ other, directory.nameOf? other = some cluster.name → other = id) :
    Registered defaultTimeout later (clusters.insert id cluster)
      (directory.insert id cluster.name) := by
  constructor
  · intro other another hstored
    rw [Table.get?_insert] at hstored
    split at hstored
    · rename_i heq
      cases hstored
      exact heq ▸ hkept
    · exact (h.kept other another hstored).mono (hissued other)
  · intro other
    rw [Directory.nameOf?_insert_of_free hfree, Table.get?_insert, h.named]
    split <;> rfl

/-- A stored record is written again under the same name. -/
theorem rewrite (h : Registered defaultTimeout issued clusters directory) {id : String}
    {existing cluster : Cluster} (hstored : clusters.get? id = some existing)
    (hkept : cluster.WellKept defaultTimeout issued id) (hname : cluster.name = existing.name) :
    Registered defaultTimeout issued (clusters.insert id cluster) directory ∧
      directory.insert id cluster.name = directory := by
  have hsame : directory.insert id cluster.name = directory := by
    refine Directory.insert_of_nameOf? ?_
    rw [hname, h.nameOf?_of_stored hstored]
  refine ⟨?_, hsame⟩
  have hwritten := h.insert (fun _ hissued => hissued) hkept ?_
  · rwa [hsame] at hwritten
  · intro other hother
    rw [hname] at hother
    exact h.owner_eq hstored hother

/-- A record and its name are dropped. -/
theorem erase (h : Registered defaultTimeout issued clusters directory) (id : String) :
    Registered defaultTimeout issued (clusters.erase id) (directory.erase id) := by
  constructor
  · intro other cluster hstored
    rw [Table.get?_erase] at hstored
    split at hstored
    · cases hstored
    · exact h.kept other cluster hstored
  · intro other
    rw [Directory.nameOf?_erase, Table.get?_erase, h.named]
    split <;> rfl

/-- Entering names that are there changes nothing. -/
theorem foldl_insert (records : List Cluster)
    (h : ∀ cluster ∈ records, directory.nameOf? cluster.id = some cluster.name) :
    records.foldl (fun names cluster => names.insert cluster.id cluster.name) directory =
      directory := by
  induction records with
  | nil => rfl
  | cons first rest ih =>
    rw [List.foldl_cons, Directory.insert_of_nameOf? (h first List.mem_cons_self)]
    exact ih fun cluster hcluster => h cluster (List.mem_cons_of_mem _ hcluster)

end Registered

/-! ## Steps -/

namespace State

/-- What every run keeps. -/
def Sound (state : State) : Prop :=
  Registered state.settings.admissionTimeout state.HasIssued state.clusters state.directory

namespace Sound

variable {before after : State}

theorem keyed (h : before.Sound) : before.Keyed :=
  fun id cluster hstored => (h.kept id cluster hstored).keyed

/-- Nothing is stored under the id that is given out next. -/
theorem absent_of_next (h : before.Sound) :
    before.clusters.get? before.nextId = none := by
  cases hstored : before.clusters.get? before.nextId with
  | none => rfl
  | some cluster => exact absurd (h.kept _ cluster hstored).issued before.not_hasIssued_nextId

/-- Entering the stored names anew changes nothing. -/
theorem rereadDirectory (h : before.Sound) : before.rereadDirectory = before.directory := by
  unfold State.rereadDirectory
  refine Registered.foldl_insert _ ?_
  intro cluster hcluster
  unfold State.records at hcluster
  rw [List.mem_mergeSort, Table.values, List.mem_map] at hcluster
  obtain ⟨⟨id, value⟩, hentry, rfl⟩ := hcluster
  have hstored := (Table.get?_eq_some_iff _ _ _).2 hentry
  rw [h.keyed id value hstored]
  exact h.nameOf?_of_stored hstored

theorem sameRegistry (h : before.Sound) (hsame : SameRegistry before after) : after.Sound := by
  unfold Sound
  rw [hsame.settings, hsame.hasIssued, hsame.clusters, hsame.directory]
  exact h

theorem enrolled (h : before.Sound) {given normal : Cluster}
    (henrol : Enrollable given before normal) : (before.withNewcomer normal).Sound := by
  have hid : normal.id = before.nextId := henrol.id
  have hgiven : (before.withNewcomer normal).HasIssued before.nextId :=
    ⟨before.issued + 1, Nat.le_refl _, rfl⟩
  have hkept := Cluster.WellKept.of_prepare henrol.prepared rfl hgiven
  rw [← hid] at hkept
  refine h.insert (fun id hissued => hissued.mono rfl (Nat.le_succ _)) hkept ?_
  intro other hother
  have hfree := henrol.free other
  exact absurd hother hfree

theorem revised (h : before.Sound) {id : String} {existing given normal : Cluster}
    (hstored : before.clusters.get? id = some existing) (hid : given.id = id)
    (hname : given.name = existing.name)
    (hprepare : given.prepare before.settings.admissionTimeout = .ok normal) :
    (before.withRecord normal).Sound ∧ (before.withRecord normal).directory = before.directory := by
  have hkept := Cluster.WellKept.of_prepare hprepare hid (h.kept id existing hstored).issued
  have hsubject := Cluster.sameSubject_of_prepare hprepare
  obtain ⟨hregistered, hdirectory⟩ := h.rewrite hstored hkept (hsubject.name.trans hname)
  unfold Sound withRecord
  rw [hsubject.id.trans hid]
  exact ⟨hdirectory.symm ▸ hregistered, hdirectory⟩

theorem amended (h : before.Sound) {operation : Operation} {id : String}
    {change : Cluster → Cluster} {existing : Cluster}
    (hoperation : operation.amendment? = some (id, change))
    (hstored : before.clusters.get? id = some existing) :
    ({ before with clusters := before.clusters.insert id (change existing).stored } : State).Sound :=
  (h.rewrite hstored ((h.kept id existing hstored).amend hoperation)
    (Operation.frame_of_amendment? hoperation existing).2).1

/-- No call breaks it, whatever is out of order. -/
theorem effect {scope : Scope} {operation : Operation} {answer : Except Failure Answer}
    (h : before.Sound) (heffect : Effect scope before operation answer after) : after.Sound := by
  cases heffect with
  | idle => exact h
  | enrolled _ _ _ _ _ henrol _ => exact h.enrolled henrol
  | revised _ _ _ _ hstored _ hid hname hprepare _ _ =>
    exact (h.revised hstored hid hname hprepare).1
  | amended hoperation hstored _ => exact h.amended hoperation hstored
  | reported => exact h
  | removed => exact h.erase _
  | rebuilt =>
    unfold Sound
    rw [h.rereadDirectory]
    exact h

theorem next (h : before.Sound) (event : Event) : (before.next event).Sound := by
  rcases next_cases h.keyed event with ⟨-, hsame⟩ | ⟨scope, operation, -, heffect⟩
  · exact h.sameRegistry hsame
  · exact h.effect heffect

theorem following (h : before.Sound) (events : List Event) : (before.following events).Sound := by
  induction events generalizing before with
  | nil => exact h
  | cons event rest ih => exact ih (h.next event)

end Sound

/-- Everything is in order in a run in which nothing is put out of order. -/
theorem conditions_following {state : State} (hsound : state.Sound) (h : state.conditions = {})
    {events : List Event} (hevents : events.all Event.isCalm = true) :
    (state.following events).conditions = {} := by
  induction events generalizing state with
  | nil => exact h
  | cons event rest ih =>
    rw [List.all_cons, Bool.and_eq_true] at hevents
    exact ih (hsound.next event) (conditions_next hsound.keyed hevents.1 h) hevents.2

theorem sound_start (runtime : Runtime) (settings : Settings) (now : Instant) :
    (start runtime settings now).Sound :=
  Registered.empty _ _

theorem Reachable.sound {state : State} (h : state.Reachable) : state.Sound := by
  obtain ⟨runtime, settings, now, events, rfl⟩ := h
  exact (sound_start runtime settings now).following events

/-! ## The past -/

/-- What a later state owes to an earlier one: a stored record was stored before under the same name,
or its id was given out since. -/
structure Continues (before after : State) : Prop where
  ids : after.ids = before.ids
  settings : after.settings = before.settings
  issued : before.issued ≤ after.issued
  records : ∀ id cluster, after.clusters.get? id = some cluster →
    (∃ earlier, before.clusters.get? id = some earlier ∧ earlier.name = cluster.name) ∨
      ¬ before.HasIssued id

namespace Continues

variable {before after : State}

theorem of_same (hids : after.ids = before.ids) (hsettings : after.settings = before.settings)
    (hissued : after.issued = before.issued) (hclusters : after.clusters = before.clusters) :
    Continues before after := by
  refine ⟨hids, hsettings, Nat.le_of_eq hissued.symm, ?_⟩
  intro id cluster hstored
  rw [hclusters] at hstored
  exact .inl ⟨cluster, hstored, rfl⟩

theorem trans {first second third : State} (h : Continues first second)
    (h' : Continues second third) : Continues first third := by
  refine ⟨h'.ids.trans h.ids, h'.settings.trans h.settings, Nat.le_trans h.issued h'.issued, ?_⟩
  intro id cluster hstored
  rcases h'.records id cluster hstored with ⟨middle, hmiddle, hname⟩ | hnew
  · rcases h.records id middle hmiddle with ⟨earlier, hearlier, hname'⟩ | hnew
    · exact .inl ⟨earlier, hearlier, hname'.trans hname⟩
    · exact .inr hnew
  · exact .inr fun hissued => hnew (hissued.mono h.ids h.issued)

/-- A record is written, in place of one of its name or under an id that was not given out. -/
theorem insert {id : String} {written : Cluster} {later : Nat} (hle : before.issued ≤ later)
    (hwritten : (∃ earlier, before.clusters.get? id = some earlier ∧ earlier.name = written.name) ∨
      ¬ before.HasIssued id)
    (hids : after.ids = before.ids) (hsettings : after.settings = before.settings)
    (hissued : after.issued = later) (hclusters : after.clusters = before.clusters.insert id written) :
    Continues before after := by
  refine ⟨hids, hsettings, hissued ▸ hle, ?_⟩
  intro other cluster hstored
  rw [hclusters, Table.get?_insert] at hstored
  split at hstored
  · rename_i heq
    cases hstored
    exact heq ▸ hwritten
  · exact .inl ⟨cluster, hstored, rfl⟩

theorem erase (id : String) (hids : after.ids = before.ids)
    (hsettings : after.settings = before.settings) (hissued : after.issued = before.issued)
    (hclusters : after.clusters = before.clusters.erase id) : Continues before after := by
  refine ⟨hids, hsettings, Nat.le_of_eq hissued.symm, ?_⟩
  intro other cluster hstored
  rw [hclusters, Table.get?_erase] at hstored
  split at hstored
  · cases hstored
  · exact .inl ⟨cluster, hstored, rfl⟩

theorem effect {scope : Scope} {operation : Operation} {answer : Except Failure Answer}
    (heffect : Effect scope before operation answer after) : Continues before after := by
  cases heffect with
  | idle => exact .of_same rfl rfl rfl rfl
  | enrolled _ _ _ _ _ henrol _ =>
    refine .insert (Nat.le_succ _) (.inr ?_) rfl rfl rfl rfl
    rw [henrol.id]
    exact before.not_hasIssued_nextId
  | @revised _ _ id existing given _ _ _ _ _ hstored _ hid hname hprepare _ _ =>
    have hsubject := Cluster.sameSubject_of_prepare hprepare
    refine .insert (Nat.le_refl _) (.inl ⟨existing, ?_, ?_⟩) rfl rfl rfl rfl
    · rw [hsubject.id, hid]
      exact hstored
    · exact (hsubject.name.trans hname).symm
  | @amended _ _ _ existing hoperation hstored _ =>
    have hname := (Operation.frame_of_amendment? hoperation existing).2
    refine .insert (Nat.le_refl _) (.inl ⟨existing, hstored, ?_⟩) rfl rfl rfl rfl
    exact hname.symm
  | reported => exact .of_same rfl rfl rfl rfl
  | removed => exact .erase _ rfl rfl rfl rfl
  | rebuilt => exact .of_same rfl rfl rfl rfl

theorem next (h : before.Sound) (event : Event) : Continues before (before.next event) := by
  rcases next_cases h.keyed event with ⟨-, hsame⟩ | ⟨scope, operation, -, heffect⟩
  · exact .of_same hsame.ids hsame.settings hsame.issued hsame.clusters
  · exact .effect heffect

theorem following (h : before.Sound) (events : List Event) :
    Continues before (before.following events) := by
  induction events generalizing before with
  | nil => exact .of_same rfl rfl rfl rfl
  | cons event rest ih => exact (next h event).trans (ih (h.next event))

theorem hasIssued (h : Continues before after) {id : String} (hissued : before.HasIssued id) :
    after.HasIssued id :=
  hissued.mono h.ids h.issued

/-- A record whose id was given out by then was stored by then. -/
theorem stored_of_issued (h : Continues before after) {id : String} {cluster : Cluster}
    (hissued : before.HasIssued id) (hstored : after.clusters.get? id = some cluster) :
    ∃ earlier, before.clusters.get? id = some earlier ∧ earlier.name = cluster.name := by
  rcases h.records id cluster hstored with hearlier | hnew
  · exact hearlier
  · exact absurd hissued hnew

/-- A record that was stored has its name for good. -/
theorem name_eq (h : Continues before after) (hsound : before.Sound) {id : String}
    {earlier cluster : Cluster} (hearlier : before.clusters.get? id = some earlier)
    (hstored : after.clusters.get? id = some cluster) : cluster.name = earlier.name := by
  obtain ⟨other, hother, hname⟩ :=
    h.stored_of_issued (hsound.kept id earlier hearlier).issued hstored
  rw [hearlier] at hother
  cases hother
  exact hname.symm

end Continues

end State

/-- In every run, whatever is called and whatever goes out of order, every stored record is in normal form,
as long as the timeout that is filled in by default is positive. -/
theorem stored_records_are_normal (runtime : Runtime) (settings : Settings) (now : Instant)
    (events : List Event) (hpositive : 0 < settings.admissionTimeout) {id : String} {cluster : Cluster}
    (hstored : ((State.start runtime settings now).following events).clusters.get? id = some cluster) :
    cluster.Normal := by
  have hstart := State.sound_start runtime settings now
  have hsettings := (State.Continues.following hstart events).settings
  have hkept := (hstart.following events).kept id cluster hstored
  rw [hsettings] at hkept
  exact hkept.normal hpositive

/-- A cluster is enrolled and then managed by a configuration that leaves everything open, while the index
cannot be written. Its certificate is reported, and an update asks for a timeout that is refused. -/
def roughService : List Event := [
  .call .system (.create { name := "prod", kind := .openshift4, collectionMethod := .off }),
  .setOutage ⟨"index.add", none⟩ true,
  .call .system (.announce {
    declaration := some { name := "prod", config := some { fingerprint := "v1" } } }),
  .call .system (.updateCertExpiry "$1" { expiry := some ⟨60, false⟩ }),
  .call .system (.update {
    id := "$1", name := "prod", dynamic := some { admission := some { timeoutSeconds := -1 } } })]

/-- The configuration was stored although it could not be indexed, and what it leaves open is filled in. -/
theorem stored_records_are_normal_of_roughService :
    0 < ({} : Settings).admissionTimeout ∧
    ∃ cluster,
      ((State.start {} {} ⟨0, false⟩).following roughService).clusters.get? "$1" = some cluster ∧
      cluster.fingerprint? = some "v1" ∧ cluster.Normal := by
  have hpositive : 0 < ({} : Settings).admissionTimeout := by decide
  have hmanaged : (((State.start {} {} ⟨0, false⟩).following roughService).clusters.get? "$1").map
      (·.fingerprint?) = some (some "v1") := by decide +kernel
  obtain ⟨cluster, hstored, hfingerprint⟩ := Option.map_eq_some_iff.1 hmanaged
  exact ⟨hpositive, cluster, hstored, hfingerprint,
    stored_records_are_normal {} {} ⟨0, false⟩ roughService hpositive hstored⟩

end Fleet
