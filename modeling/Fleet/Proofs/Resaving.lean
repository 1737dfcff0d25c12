import Fleet.Proofs.Soundness

/-!
# Records saved again

Saving a record brings it into normal form first, whether or not it has been saved before. A record that
has been saved has nothing left to fill in, so saving it again changes nothing; only an endpoint that was
given with more than one scheme in front loses one of them each time.
-/

namespace Fleet

open Registry Cluster

/-- A stored record is saved again as it is, but for a scheme that its endpoint still has. -/
theorem State.Sound.prepare_of_stored {state : State} (h : state.Sound)
    (hdefault : 0 ≤ state.settings.admissionTimeout) {id : String} {cluster : Cluster}
    (hstored : state.clusters.get? id = some cluster) :
    cluster.prepare state.settings.admissionTimeout =
      .ok { cluster with endpoint := bareEndpoint cluster.endpoint } :=
  let hkept := h.kept id cluster hstored
  prepare_of_filled (hkept.filled hdefault) (hkept.acceptable hdefault)

/-- Filling in the defaults a second time, and saving a stored record a second time, changes nothing but
an endpoint that still has a scheme, which loses it. So clearing the declared configuration of a cluster
leaves everything else in its record alone, up to such a scheme. -/
theorem saved_again_but_for_scheme {defaultTimeout : Int32} (hdefault : 0 ≤ defaultTimeout) :
    (∀ cluster normal : Cluster, cluster.normalize defaultTimeout = (normal, none) →
      normal.normalize defaultTimeout =
        ({ normal with endpoint := bareEndpoint normal.endpoint }, none)) ∧
    (∀ endpoint, ¬ HasScheme endpoint → bareEndpoint endpoint = endpoint) ∧
    (∀ endpoint, HasScheme endpoint → endpoint = "https://" ++ bareEndpoint endpoint ∨
      endpoint = "http://" ++ bareEndpoint endpoint) ∧
    ∀ state : State, state.Reachable → state.settings.admissionTimeout = defaultTimeout →
      ∀ id cluster, state.clusters.get? id = some cluster →
        cluster.prepare defaultTimeout =
          .ok { cluster with endpoint := bareEndpoint cluster.endpoint } ∧
        ∀ announcement now, state.conditions = {} →
          target? state.directory announcement = some id →
          Adoptable id announcement now state cluster →
          announcement.managed = none → cluster.isManaged = true →
          let cleared :=
            { cluster with managed := none, endpoint := bareEndpoint cluster.endpoint }
          ∃ after, reconcile announcement now state = .ok ⟨cleared, .cleared⟩ after ∧
            after.clusters.get? id = some cleared := by
  refine ⟨?_, fun _ => bareEndpoint_of_not_hasScheme, fun _ => bareEndpoint_of_hasScheme, ?_⟩
  · intro cluster normal hnormal
    obtain ⟨htimeout, rfl⟩ := normalize_eq_iff.1 hnormal
    exact normalize_of_filled (filled_normalForm htimeout hdefault)
  · rintro state hreachable rfl id cluster hstored
    have hsound := hreachable.sound
    have hkept := hsound.kept id cluster hstored
    refine ⟨hsound.prepare_of_stored hdefault hstored, ?_⟩
    intro announcement now hcalm htarget hadopt hunmanaged hmanaged cleared
    have hrevised : cluster.converged? announcement.managed = some { cluster with managed := none } := by
      rw [hunmanaged]
      exact if_pos hmanaged
    have hprepare : ({ cluster with managed := none } : Cluster).prepare
        state.settings.admissionTimeout = .ok cleared :=
      prepare_of_filled ((hkept.filled hdefault).frame rfl) ((hkept.acceptable hdefault).frame rfl)
    have hrun := reconcile_of_revised hcalm htarget hadopt hrevised hprepare
    rw [hunmanaged] at hrun
    refine ⟨_, hrun, ?_⟩
    change (state.clusters.insert cleared.id cleared.stored).get? id = some cleared
    rw [show cleared.id = id from hkept.keyed, Table.get?_insert_self]
    exact congrArg (fun kept : Cluster => some { kept with
      managed := none, endpoint := bareEndpoint cluster.endpoint }) hkept.plain

/-- A configuration whose endpoint has two schemes is declared for a cluster. -/
def doublyPrefixed : Announcement :=
  { declaration := some { name := "prod", config := some {
      fingerprint := "v1", static := { endpoint := "https://http://central:443" } } } }

/-- The agent of that cluster announces itself without a declaration. -/
def undeclared : Announcement := { clusterId := some "$1" }

/-- The record is stored with the second scheme, and clearing the declaration takes that off as well. -/
theorem saved_again_but_for_scheme_of_undeclared :
    let state := (State.start {} {} ⟨0, false⟩).following [.call .system (.announce doublyPrefixed)]
    0 ≤ state.settings.admissionTimeout ∧
    ∃ cleared after, reconcile undeclared ⟨7, false⟩ state = .ok ⟨cleared, .cleared⟩ after ∧
      after.clusters.get? "$1" = some cleared ∧ cleared.endpoint = "central:443" := by
  intro state
  have hdefault : 0 ≤ state.settings.admissionTimeout := by decide +kernel
  have hcalm : state.conditions = {} := by decide +kernel
  have htarget : target? state.directory undeclared = some "$1" := by decide +kernel
  have hfound : (state.clusters.get? "$1").map (fun cluster =>
      (cluster.isManaged, cluster.sensor, cluster.endpoint)) =
        some (true, none, "http://central:443") := by decide +kernel
  obtain ⟨cluster, hstored, hcluster⟩ := Option.map_eq_some_iff.1 hfound
  simp only [Prod.mk.injEq] at hcluster
  obtain ⟨hmanaged, hsensor, hendpoint⟩ := hcluster
  have hadopt : Adoptable "$1" undeclared ⟨7, false⟩ state cluster := by
    refine ⟨hstored, fun hnamed => absurd rfl hnamed, ?_⟩
    rintro ⟨contact, last, -, hlast, -⟩
    rw [hsensor] at hlast
    cases hlast
  obtain ⟨-, -, -, hsaved⟩ := saved_again_but_for_scheme hdefault
  obtain ⟨-, hcleared⟩ := hsaved state ⟨_, _, _, _, rfl⟩ rfl "$1" cluster hstored
  obtain ⟨after, hrun, hafter⟩ := hcleared undeclared ⟨7, false⟩ hcalm htarget hadopt rfl hmanaged
  refine ⟨hdefault, _, after, hrun, hafter, ?_⟩
  change bareEndpoint cluster.endpoint = "central:443"
  rw [hendpoint]
  decide +kernel

/-- Filling in the defaults a second time can change an endpoint, and so can clearing the declared
configuration of a cluster whose record is otherwise left alone. -/
theorem second_scheme_lost_on_saving_again :
    (∃ normal, ({ name := "prod", endpoint := "https://http://central:443" } : Cluster).normalize 3 =
        (normal, none) ∧ normal.normalize 3 ≠ (normal, none)) ∧
    let state := (State.start {} {} ⟨0, false⟩).following [.call .system (.announce doublyPrefixed)]
    (state.clusters.get? "$1").map (·.endpoint) = some "http://central:443" ∧
      ((reconcile undeclared ⟨7, false⟩).answer state).toOption.map
          (fun reconciled => (reconciled.outcome, reconciled.cluster.endpoint)) =
        some (.cleared, "central:443") := by
  refine ⟨⟨_, rfl, ?_⟩, ?_⟩ <;> decide +kernel

end Fleet
