import Fleet.Proofs.Reports
import Mathlib.Data.List.Induction

/-!
# Snapshots as histories of reports

A report need not fill every field, reports on many clusters come in any order, and a snapshot may be
dropped in between. What is stored for a cluster is still simple to tell from the reports alone: each
field has the last value that was reported for it since the snapshot was dropped. Merging is associative,
so it makes no difference whether reports are recorded one by one or merged first.
-/

namespace Fleet

/-! ## The last value of each field -/

/-- What the last of the reports that fill a field says in it. -/
def lastSaid {α : Type} (field : Health → Option α) (reports : List Health) : Option α :=
  (reports.filterMap field).getLast?

theorem lastSaid_append {α : Type} (field : Health → Option α) (earlier later : List Health) :
    lastSaid field (earlier ++ later) = (lastSaid field later <|> lastSaid field earlier) := by
  unfold lastSaid
  rw [List.filterMap_append, List.getLast?_append, Option.orElse_eq_orElse, Option.orElse_eq_or]

theorem lastSaid_singleton {α : Type} (field : Health → Option α) (report : Health) :
    lastSaid field [report] = field report := by
  unfold lastSaid
  cases h : field report with
  | none => rw [List.filterMap_cons_none h]; rfl
  | some value => rw [List.filterMap_cons_some h]; rfl

namespace Health

/-- The snapshot with the last reported value of each field. -/
def ofReports (reports : List Health) : Health where
  sensor := lastSaid sensor reports
  collector := lastSaid collector reports
  admission := lastSaid admission reports
  rollout := lastSaid rollout reports
  lastContact := lastSaid lastContact reports

theorem ofReports_append (earlier later : List Health) :
    ofReports (earlier ++ later) = (ofReports earlier).merge (ofReports later) := by
  simp only [ofReports, merge, lastSaid_append]

@[simp] theorem ofReports_singleton (report : Health) : ofReports [report] = report := by
  simp only [ofReports, lastSaid_singleton]

theorem ofReports_concat (reports : List Health) (report : Health) :
    ofReports (reports ++ [report]) = (ofReports reports).merge report := by
  rw [ofReports_append, ofReports_singleton]

theorem merge_assoc (first second third : Health) :
    (first.merge second).merge third = first.merge (second.merge third) := by
  have h := ofReports_append ([first] ++ [second]) [third]
  rw [List.append_assoc, ofReports_append, ofReports_append, ofReports_append] at h
  simpa using h.symm

/-- Reports merged into one another leave the last value of each field. -/
theorem foldl_merge (snapshot : Health) (reports : List Health) :
    reports.foldl merge snapshot = snapshot.merge (ofReports reports) := by
  induction reports generalizing snapshot with
  | nil => rfl
  | cons report rest ih =>
    rw [List.foldl_cons, ih, merge_assoc, ← List.singleton_append, ofReports_append,
      ofReports_singleton]

theorem livenessDiffers_eq_true_iff (before after : Health) :
    before.livenessDiffers after = true ↔
      after.sensor ≠ before.sensor ∨ after.collector ≠ before.collector := by
  rw [← Bool.not_eq_false, livenessDiffers_eq_false_iff, liveness, liveness, Prod.mk.injEq,
    Decidable.not_and_iff_or_not]

end Health

/-! ## Histories of calls -/

/-- A call that records a snapshot, drops one or reads some. -/
inductive HealthCall where
  | record (clusterId : String) (report : Health)
  | forget (clusterId : String)
  | get (clusterId : String)
  | lastContact (clusterId : String)
  | findMany (clusterIds : List String)
  | all
deriving DecidableEq

namespace HealthCall

/-- What a call reports on a cluster. -/
def reportOn? (clusterId : String) : HealthCall → Option Health
  | .record other report => if other = clusterId then some report else none
  | _ => none

/-- Whether a call writes the snapshot of a cluster. -/
def concerns (clusterId : String) : HealthCall → Bool
  | .record other _ => other = clusterId
  | .forget other => other = clusterId
  | _ => false

end HealthCall

/-- The reports on a cluster that came since its snapshot was dropped last, or since the start. -/
def reportsSince (clusterId : String) (calls : List HealthCall) : List Health :=
  (calls.reverse.takeWhile (· ≠ .forget clusterId)).reverse.filterMap (·.reportOn? clusterId)

namespace Snapshots

/-- What a call makes of the snapshots. -/
def next (snapshots : Snapshots) : HealthCall → Snapshots
  | .record clusterId report => snapshots.record clusterId report
  | .forget clusterId => snapshots.erase clusterId
  | _ => snapshots

/-- The snapshots after calls, from none. -/
def after (calls : List HealthCall) : Snapshots :=
  calls.foldl next .empty

theorem after_concat (calls : List HealthCall) (call : HealthCall) :
    after (calls ++ [call]) = (after calls).next call := by
  unfold after
  rw [List.foldl_append]
  rfl

end Snapshots

variable {clusterId : String}

theorem reportsSince_concat (calls : List HealthCall) (call : HealthCall) :
    reportsSince clusterId (calls ++ [call]) =
      if call = .forget clusterId then []
      else reportsSince clusterId calls ++ (call.reportOn? clusterId).toList := by
  unfold reportsSince
  rw [List.reverse_append, List.reverse_singleton, List.singleton_append, List.takeWhile_cons]
  by_cases hforget : call = .forget clusterId
  · rw [if_pos hforget, if_neg (by simpa using hforget)]
    rfl
  · rw [if_neg hforget, if_pos (by simpa using hforget), List.reverse_cons, List.filterMap_append]
    cases hreport : call.reportOn? clusterId with
    | none => rw [List.filterMap_cons_none hreport]; rfl
    | some report => rw [List.filterMap_cons_some hreport]; rfl

/-- The history of a cluster is that of the calls that write its snapshot. -/
theorem reportsSince_filter_concerns (calls : List HealthCall) :
    reportsSince clusterId (calls.filter (·.concerns clusterId)) = reportsSince clusterId calls := by
  induction calls using List.reverseRecOn with
  | nil => rfl
  | append_singleton calls call ih =>
    rw [List.filter_append, reportsSince_concat]
    by_cases hconcerns : call.concerns clusterId = true
    · rw [List.filter_cons_of_pos hconcerns, List.filter_nil, reportsSince_concat, ih]
    · rw [List.filter_cons_of_neg hconcerns, List.filter_nil, List.append_nil, ih]
      cases call <;> simp_all [HealthCall.concerns, HealthCall.reportOn?]

namespace Snapshots

/-- The snapshot that reports amount to: none without a report. -/
def ofReports? (reports : List Health) : Option Health :=
  if reports = [] then none else some (Health.ofReports reports)

theorem getD_ofReports? (reports : List Health) :
    (ofReports? reports).getD default = Health.ofReports reports := by
  unfold ofReports?
  split
  · rename_i hnone
    rw [hnone]
    rfl
  · rfl

theorem ofReports?_concat (reports : List Health) (report : Health) :
    ofReports? (reports ++ [report]) = some ((Health.ofReports reports).merge report) := by
  unfold ofReports?
  rw [if_neg (by simp), Health.ofReports_concat]

/-- One call and its report: the step of the induction over the history. -/
theorem get?_next {snapshots : Snapshots} {reports : List Health}
    (h : snapshots.get? clusterId = ofReports? reports) (call : HealthCall) :
    (snapshots.next call).get? clusterId =
      ofReports? (if call = .forget clusterId then []
        else reports ++ (call.reportOn? clusterId).toList) := by
  cases call with
  | record other report =>
    rw [if_neg (by simp)]
    simp only [next, record, updated, HealthCall.reportOn?, Table.get?_insert]
    by_cases hsame : other = clusterId
    · subst hsame
      rw [if_pos rfl, if_pos rfl, h, getD_ofReports?, Option.toList_some, ofReports?_concat]
    · rw [if_neg (Ne.symm hsame), if_neg hsame, Option.toList_none, List.append_nil, h]
  | forget other =>
    simp only [next, HealthCall.reportOn?, Table.get?_erase, HealthCall.forget.injEq,
      Option.toList_none, List.append_nil]
    by_cases hsame : other = clusterId
    · rw [if_pos hsame.symm, if_pos hsame]
      rfl
    · rw [if_neg (Ne.symm hsame), if_neg hsame, h]
  | get | lastContact | findMany | all =>
    simpa [next, HealthCall.reportOn?] using h

theorem get?_after (calls : List HealthCall) (clusterId : String) :
    (after calls).get? clusterId = ofReports? (reportsSince clusterId calls) := by
  induction calls using List.reverseRecOn with
  | nil => rfl
  | append_singleton calls call ih =>
    rw [after_concat, reportsSince_concat]
    exact get?_next ih call

/-- What a report makes of the snapshot of a cluster depends on the history of that cluster alone. -/
theorem updated_after (calls : List HealthCall) (clusterId : String) (report : Health) :
    (after calls).updated clusterId report =
      ⟨Health.ofReports (reportsSince clusterId calls ++ [report]),
        (Health.ofReports (reportsSince clusterId calls)).livenessDiffers
          (Health.ofReports (reportsSince clusterId calls ++ [report]))⟩ := by
  unfold updated
  rw [get?_after, getD_ofReports?, Health.ofReports_concat]

/-- Reports on one cluster that are recorded one by one leave what their merge leaves. -/
theorem foldl_record (snapshots : Snapshots) (clusterId : String) (first : Health)
    (rest : List Health) :
    (first :: rest).foldl (·.record clusterId ·) snapshots =
      snapshots.record clusterId (rest.foldl Health.merge first) := by
  induction rest generalizing snapshots first with
  | nil => rfl
  | cons second rest ih =>
    rw [List.foldl_cons, ih, List.foldl_cons, Health.foldl_merge, Health.foldl_merge]
    unfold record updated
    dsimp only
    rw [Table.get?_insert_self, Table.insert_insert_self, Option.getD_some]
    simp only [Health.merge_assoc]

end Snapshots

/-- After any calls, the snapshot of a cluster has in each field the last value that a report on the
cluster filled in since the snapshot was dropped last, and there is no snapshot if and only if there was
no such report. One more report is answered with the snapshot so defined, and a level is said to have
changed if and only if the sensor or the collector so defined is another than before. Calls that do not
write the snapshot of the cluster make no difference to it, and reports that are recorded one by one
leave the snapshots that their merge leaves. -/
theorem snapshot_is_last_said (calls : List HealthCall) (clusterId : String) :
    let snapshots := Snapshots.after calls
    let own := Snapshots.after (calls.filter (·.concerns clusterId))
    let reports := reportsSince clusterId calls
    (snapshots.get? clusterId = if reports = [] then none else some {
        sensor := lastSaid Health.sensor reports
        collector := lastSaid Health.collector reports
        admission := lastSaid Health.admission reports
        rollout := lastSaid Health.rollout reports
        lastContact := lastSaid Health.lastContact reports }) ∧
      snapshots.lastContact clusterId = lastSaid Health.lastContact reports ∧
      (∀ report,
        some (snapshots.updated clusterId report).snapshot =
            (snapshots.record clusterId report).get? clusterId ∧
          ((snapshots.updated clusterId report).livenessChanged = true ↔
            lastSaid Health.sensor (reports ++ [report]) ≠ lastSaid Health.sensor reports ∨
              lastSaid Health.collector (reports ++ [report]) ≠ lastSaid Health.collector reports) ∧
          own.updated clusterId report = snapshots.updated clusterId report) ∧
      own.get? clusterId = snapshots.get? clusterId ∧
      ∀ first rest, (first :: rest).foldl (·.record clusterId ·) snapshots =
        snapshots.record clusterId (rest.foldl Health.merge first) := by
  intro snapshots own reports
  have hget : snapshots.get? clusterId = Snapshots.ofReports? reports :=
    Snapshots.get?_after calls clusterId
  have hown : own.get? clusterId = snapshots.get? clusterId := by
    rw [Snapshots.get?_after, Snapshots.get?_after, reportsSince_filter_concerns]
  refine ⟨hget, ?_, fun report => ⟨?_, ?_, ?_⟩, hown, Snapshots.foldl_record snapshots clusterId⟩
  · unfold Snapshots.lastContact
    rw [hget, Snapshots.ofReports?]
    split
    · rename_i hnone
      rw [hnone]
      rfl
    · rfl
  · exact (Table.get?_insert_self _ _ _).symm
  · rw [Snapshots.updated_after, Health.livenessDiffers_eq_true_iff]
    rfl
  · unfold Snapshots.updated
    rw [hown]

/-- Two clusters report in turn. The snapshot of the first is dropped in between, and with it the level
of the sensor that no later report gives. -/
def interleaved : List HealthCall := [
  .record "a" { sensor := some .healthy, collector := some .degraded },
  .record "b" { sensor := some .unhealthy },
  .forget "a",
  .record "a" { collector := some .degraded },
  .get "b",
  .record "b" { admission := some .healthy },
  .record "a" { collector := some .healthy, lastContact := some ⟨5, false⟩ }]

example : (Snapshots.after interleaved).entries = [
    ("a", { collector := some .healthy, lastContact := some ⟨5, false⟩ }),
    ("b", { sensor := some .unhealthy, admission := some .healthy })] := by
  decide +kernel

end Fleet
