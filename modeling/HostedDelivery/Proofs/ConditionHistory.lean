import HostedDelivery.Proofs.Lifecycle
import HostedDelivery.Proofs.Snapshot

/-!
# Conditions over the life of a deployment

Passes over the deployment as it is stored are the only ones to write its conditions, and they write what
`Condition.merge` makes of them. So conditions of distinct types that carry their times stay such, whatever happens to
the deployment and its bundles and wherever passes are broken off, and types are only ever added at the end
(`conditions_only_grow`). The invariant is `Hub.ShowsFrom`: each call of a pass keeps it (`Hub.ShowsFrom.perform`), and
so does each event (`Hub.ShowsFrom.happen`).
-/

namespace HostedDelivery
open Pass Condition

/-- The conditions have distinct types, and all of them carry a time. -/
structure Condition.Orderly (cs : List Condition) : Prop where
  distinct : (cs.map (·.type)).Nodup
  timed : ∀ c ∈ cs, c.lastTransitionTime.isSome

theorem Condition.Orderly.merge {cs : List Condition} (orderly : Orderly cs) (reports : List (Time × Condition)) :
    Orderly (Condition.merge cs reports) where
  distinct := nodup_merge reports orderly.distinct
  timed := timed_merge reports orderly.timed

/-- The deployment under a key shows orderly conditions, the first of which are of the given types. -/
def Hub.ShowsFrom (hub : Hub) (key : Key) (types : List String) : Prop :=
  ∃ d, hub.deployments key = some d ∧ Orderly d.conditions ∧ types <+: d.conditions.map (·.type)

namespace Hub
variable {hub later : Hub} {key : Key} {d : Deployment} {types : List String}

theorem ShowsFrom.of_sameStatus (shows : hub.ShowsFrom key types)
    (same : (later.deployments key).map (·.status) = (hub.deployments key).map (·.status)) :
    later.ShowsFrom key types := by
  obtain ⟨d, stored, orderly, starts⟩ := shows
  rw [stored, Option.map_some] at same
  obtain ⟨d', stored', status⟩ := Option.map_eq_some_iff.mp same
  have conditions : d'.conditions = d.conditions := by rw [Deployment.conditions, status, Deployment.conditions]
  exact ⟨d', stored', conditions ▸ orderly, conditions ▸ starts⟩

/-! ### Calls -/

/-- Only a status patch writes a status. -/
theorem sameStatuses_perform {c : HubCall} (quiet : c.patchesStatus = false) (hub : Hub) :
    SameStatuses hub (hub.perform c).2 := by
  intro key
  cases c with
  | patchStatus k patch => cases quiet
  | addFinalizer k f =>
    rcases hub.deployments_addFinalizer k f with ⟨-, same⟩ | ⟨d, stored, set⟩
    · rw [same]
    · exact sameStatuses_withFinalizers stored set key
  | removeFinalizer k f =>
    rcases hub.deployments_removeFinalizer k f with same | ⟨d, stored, set⟩
    · rw [same]
    · exact sameStatuses_withFinalizers stored set key
  | _ => rw [deployments_perform rfl]

/-- A call of a pass over `d` leaves its own conditions, or others that begin with the same types. -/
theorem ShowsFrom.perform {c : HubCall} (shows : hub.ShowsFrom key (d.conditions.map (·.type)))
    (orderly : Orderly d.conditions) (calls : d.MayCall c) :
    (hub.perform c).2.ShowsFrom key (d.conditions.map (·.type)) := by
  by_cases quiet : c.patchesStatus
  · cases c with
    | patchStatus k patch =>
      obtain ⟨stamps, rfl⟩ := calls k patch rfl
      cases answer : (hub.perform (.patchStatus k
          (.ofFields [("status", some (Status.toJson ⟨merge d.conditions stamps⟩))]))).1 with
      | error e =>
        refine shows.of_sameStatus ?_
        rw [(sameStores_of_error answer).deployments]
      | ok done =>
        obtain ⟨d', stored, set⟩ := deployments_patchStatus_ok answer
        -- The patch goes to where the deployment says that it is, which need not be where it is stored.
        by_cases isKey : key = k
        · subst isKey
          refine ⟨_, (congrFun set key).trans (Store.set_same ..), orderly.merge stamps, ?_⟩
          exact types_prefix_merge d.conditions stamps
        · refine shows.of_sameStatus ?_
          rw [set, Store.set_of_ne _ _ isKey]
    | _ => cases quiet
  · rw [Bool.not_eq_true] at quiet
    exact shows.of_sameStatus (sameStatuses_perform quiet hub key)

/-- A pass over the deployment as it is stored, wherever it is broken off, leaves conditions that begin with the types
that were there before. -/
theorem ShowsFrom.visits (delivery : Delivery) (stored : hub.deployments key = some d) (orderly : Orderly d.conditions)
    (visits : later ∈ (delivery.reconcile d).states hub) : later.ShowsFrom key (d.conditions.map (·.type)) := by
  have start : hub.ShowsFrom key (d.conditions.map (·.type)) := ⟨d, stored, orderly, List.prefix_refl _⟩
  have steady : Steady (ShowsFrom · key (d.conditions.map (·.type))) :=
    ⟨fun _ shows => shows, fun _ _ shows => shows⟩
  have along := (uses_reconcile delivery d).along (fun _ _ => True) steady
    (fun c hub calls shows => shows.perform orderly calls) start
  exact along.states (fun _ _ => trivial) visits

/-! ### Events -/

theorem status_addDeployment {d' : Deployment} (stored : hub.deployments key = some d) (status : d'.status = d.status) :
    ((hub.addDeployment d').deployments key).map (·.status) = some d.status := by
  by_cases isKey : key = d'.metadata.key
  · simp [addDeployment, ← isKey, status]
  · simp [addDeployment, Store.set_of_ne _ _ isKey, stored]

theorem ShowsFrom.happen (shows : hub.ShowsFrom key types) (e : Event) : (e.happen key hub).ShowsFrom key types := by
  refine shows.of_sameStatus ?_
  obtain ⟨d, stored, -⟩ := shows
  cases e with
  | report bundle status =>
    rw [Event.happen, setWorkStatus]
    cases hub.works bundle <;> rfl
  | finish bundle => rfl
  | delete since =>
    simp only [Event.happen, stored, Option.elim, markDeleting, deployments_tick]
    exact status_addDeployment stored rfl
  | edit spec =>
    simp only [Event.happen, stored, Option.elim]
    exact status_addDeployment stored rfl
  | fail o failure => rfl
  | failOnce o answer => rfl

end Hub

/-! ### Runs -/

section
variable {delivery : Delivery} {key : Key} {start hub : Hub} {d : Deployment} {types : List String}

theorem Hub.ShowsFrom.reachable {may : Hub → Event → Prop} {fair : Ask → Hub → Prop} (shows : start.ShowsFrom key types)
    (reached : Reachable delivery key may fair start hub) : hub.ShowsFrom key types := by
  induction reached with
  | start => exact shows
  | event _ e _ ih => exact ih.happen e
  | pass _ stored _ visits ih =>
    obtain ⟨d, there, orderly, starts⟩ := ih
    obtain rfl := Option.some.inj (there.symm.trans stored)
    obtain ⟨d', stored', orderly', grown⟩ := Hub.ShowsFrom.visits delivery stored orderly visits
    exact ⟨d', stored', orderly', starts.trans grown⟩

/-- In every state of every run that begins with conditions of distinct types that carry their times, the stored
conditions are such. From any such state on, whatever happens, types are only added, and only at the end. -/
theorem conditions_only_grow (stored : start.deployments key = some d) (orderly : Orderly d.conditions)
    (reached : Reachable delivery key (fun _ _ => True) (fun _ _ => True) start hub) :
    ∃ d', hub.deployments key = some d' ∧ Orderly d'.conditions ∧
      ∀ later, Reachable delivery key (fun _ _ => True) (fun _ _ => True) hub later →
        ∃ d'', later.deployments key = some d'' ∧ d'.conditions.map (·.type) <+: d''.conditions.map (·.type) := by
  have shows : start.ShowsFrom key [] := ⟨d, stored, orderly, List.nil_prefix⟩
  obtain ⟨d', stored', orderly', -⟩ := shows.reachable reached
  refine ⟨d', stored', orderly', fun later reached' => ?_⟩
  have shows' : hub.ShowsFrom key (d'.conditions.map (·.type)) := ⟨d', stored', orderly', List.prefix_refl _⟩
  obtain ⟨d'', stored'', -, grown⟩ := shows'.reachable reached'
  exact ⟨d'', stored'', grown⟩

end

theorem conditions_only_grow_contested : ∃ d',
    (Hub.contested.afterPass {} ⟨"team-a", "hd"⟩).deployments ⟨"team-a", "hd"⟩ = some d' ∧
    [platformConfigured] <+: d'.conditions.map (·.type) := by
  have orderly : Orderly Deployment.withdrawn.conditions := ⟨by decide, by decide⟩
  have stored : Hub.contested.deployments ⟨"team-a", "hd"⟩ = some .withdrawn := rfl
  have reached : Reachable {} ⟨"team-a", "hd"⟩ (fun _ _ => True) (fun _ _ => True) Hub.contested .contested := .start
  obtain ⟨d, stored', -, grows⟩ := conditions_only_grow stored orderly reached
  obtain rfl := Option.some.inj (stored.symm.trans stored')
  exact grows _ (Reachable.afterPass .start fun _ _ _ _ => trivial)

end HostedDelivery
