import HostedDelivery.Proofs.Api.Address
import HostedDelivery.Proofs.Hub

/-!
# Two ways to edit finalizers

The hub in memory changes a list of finalizers in place. Over the API server a call reads the deployment, and if there
is anything to change writes the whole list. As long as nobody else writes, and the server does what it is asked, both
come to the same list call after call, or both find no deployment (`finalizer_edits_agree`). A list that is missing
counts as an empty one here: where there is nothing to remove, only the hub in memory leaves a list behind.
-/

namespace HostedDelivery

/-- A client reads the object as a deployment. -/
structure Json.IsDeployment (o : Json) (d : Deployment) : Prop where
  isObject : o.isObject
  reads : Deployment.read? (.known o) = some d

/-- An API server that does what it is asked: it shows what is stored, and merges a patch unless that was made for
another version. It lets nothing go, not even what waits to be removed. -/
structure ObjectServer where
  State : Type
  /-- The object that requests to a path are about. -/
  stored : State → String → Option Json
  /-- The answer to a request, and the server after it. -/
  handle : State → Request → Response × State
  shows {s : State} {q : Request} {o : Json} (isGet : q.method = .get) (ofObject : q.address.name.isSome)
    (is : stored s q.path = some o) : (handle s q).1.isRefusal = false ∧ (handle s q).1.body = .json o
  denies {s : State} {q : Request} (isGet : q.method = .get) (ofObject : q.address.name.isSome)
    (absent : stored s q.path = none) : (handle s q).1.isRefusal ∧ (handle s q).1.refusal.code = 404
  /-- A look changes nothing. -/
  looks {s : State} {q : Request} (isGet : q.method = .get) : stored (handle s q).2 = stored s
  /-- What is stored after a patch is the merged object. What the server keeps about it by itself, such as its version,
  may be another, but a deployment stays a deployment with the same finalizers. -/
  merges {s : State} {q : Request} {patch o : Json} (isPatch : q.method = .patch) (whole : q.address.ofStatus = false)
    (holds : q.body = some patch) (is : stored s q.path = some o) (current : ¬Server.conflicts o patch) :
    ∃ o', ((handle s q).1.isRefusal = false ∧ (handle s q).1.body = .json o') ∧
      stored (handle s q).2 = Function.update (stored s) q.path (some o') ∧
      ∀ d, (o.mergePatch patch).IsDeployment d →
        ∃ d', o'.IsDeployment d' ∧ d'.metadata.finalizers = d.metadata.finalizers

/-- A patch that is made from what was read is made for the version that is stored. -/
theorem Json.IsDeployment.not_conflicts {o : Json} {d : Deployment} (is : o.IsDeployment d) (fs : List String) :
    ¬Server.conflicts o (Exchange.finalizersPatch d.metadata fs) := by
  rw [Server.conflicts, Exchange.patchVersion?_finalizersPatch, Deployment.version_of_read? is.isObject is.reads]
  cases d.metadata.resourceVersion <;> simp

namespace Response
variable {α : Type} {r : Response}

theorem read_granted {read? : Json.Written → Option α} {o : Json} {a : α} (granted : r.isRefusal = false)
    (body : r.body = .json o) (reads : read? (.known o) = some a) : r.read read? = .ok a := by
  rw [read, granted, body, Body.written?, Option.bind_some, reads]
  rfl

theorem read_denied (read? : Json.Written → Option α) (refused : r.isRefusal) (code : r.refusal.code = 404) :
    r.read read? = .error (.notFound r.refusal.message) := by
  rw [read, if_pos refused, HubError.ofApi, if_pos code]

end Response

namespace Edit
variable {e : Edit} {key : Key} {fs : List String} {hub : Hub}

/-- The finalizers after an edit. -/
def edited : Edit → List String → List String
  | add finalizer => Finalizers.add finalizer
  | remove finalizer => Finalizers.remove finalizer

theorem edited_of_isDone (done : e.IsDone fs) : e.edited fs = fs := by
  cases e with
  | add finalizer => exact if_pos done
  | remove finalizer =>
    refine List.filter_eq_self.mpr fun f member => decide_eq_true ?_
    rintro rfl
    exact done member

theorem edited_of_not_isDone (wanting : ¬e.IsDone fs) : e.edited fs = e.apply fs := by
  cases e with
  | add finalizer => exact if_neg wanting
  | remove finalizer => rfl

/-- The call on a hub in memory. -/
def inMemory (key : Key) : Edit → Hub → Except HubError Unit × Hub
  | add finalizer, hub => hub.perform (.addFinalizer key finalizer)
  | remove finalizer, hub => hub.perform (.removeFinalizer key finalizer)

theorem reliable_inMemory (reliable : hub.Reliable) : (e.inMemory key hub).2.Reliable := by
  cases e <;> exact reliable.perform _

theorem inMemory_absent (reliable : hub.Reliable) (absent : hub.deployments key = none) :
    (e.inMemory key hub).1 = .error (Hub.deploymentNotFound key) ∧
      (e.inMemory key hub).2.deployments = hub.deployments := by
  cases e <;>
    rw [inMemory, Hub.perform_granted (reliable.refusal?_eq_none rfl), Hub.apply, Hub.editFinalizers,
      Hub.deployments_noted, absent] <;>
    exact ⟨rfl, Hub.deployments_noted ..⟩

theorem inMemory_held {d : Deployment} (reliable : hub.Reliable) (holds : hub.deployments key = some d) :
    (e.inMemory key hub).1 = .ok () ∧ (e.inMemory key hub).2.deployments =
      hub.deployments.set key (some (d.withFinalizers (e.edited (d.metadata.finalizers.getD [])))) := by
  cases e <;>
    rw [inMemory, Hub.perform_granted (reliable.refusal?_eq_none rfl), Hub.apply, Hub.editFinalizers,
      Hub.deployments_noted, holds] <;>
    exact ⟨rfl, rfl⟩

end Edit

namespace ObjectServer
variable {S : ObjectServer} {s : S.State} {e : Edit} {key : Key} {keys : Set Key}

/-- What a query is answered with. Edits do not ask for the time. -/
def step (S : ObjectServer) : (w : Wire) → S.State → w.Answer × S.State
  | .send q, s => S.handle s q
  | .clock, s => (default, s)
  | .log _, s => ((), s)

/-- The call over the server. -/
def call (S : ObjectServer) (key : Key) (e : Edit) (s : S.State) : Except HubError Unit × S.State :=
  Program.run S.step (e.exchange key).run s

theorem call_eq (addressable : Key.Addressable keys) (isKey : key ∈ keys) :
    S.call key e s = Program.run S.step (e.plainly key) s := by
  rw [call, Edit.run_exchange_plainly (addressable.looks isKey) fun d => addressable.writes isKey _]

theorem call_absent (addressable : Key.Addressable keys) (isKey : key ∈ keys)
    (absent : S.stored s (Edit.look key).path = none) :
    ∃ message, (S.call key e s).1 = .error (.notFound message) ∧ S.stored (S.call key e s).2 = S.stored s := by
  obtain ⟨refused, code⟩ := S.denies (q := Edit.look key) rfl rfl absent
  rw [call_eq addressable isKey, Edit.plainly, Program.run, step, Response.read_denied _ refused code]
  exact ⟨_, rfl, S.looks rfl⟩

theorem handle_write {o : Json} {d : Deployment} (stored : S.stored s (Edit.look key).path = some o)
    (is : o.IsDeployment d) : Edit.outcome (S.handle s (e.write key d)).1 = .ok () ∧ ∃ o' d',
      S.stored (S.handle s (e.write key d)).2 = Function.update (S.stored s) (Edit.look key).path (some o') ∧
      o'.IsDeployment d' ∧ d'.metadata.finalizers = some (e.apply (d.metadata.finalizers.getD [])) := by
  have place : (e.write key d).path = (Edit.look key).path := Request.path_eq_of_address rfl
  rw [← place] at stored ⊢
  obtain ⟨o', ⟨granted, body⟩, after, kept⟩ := S.merges rfl rfl rfl stored (is.not_conflicts _)
  obtain ⟨d', is', same⟩ := kept _ ⟨rfl, Exchange.read?_finalizersPatch is.isObject is.reads ..⟩
  refine ⟨?_, o', d', after, is', same⟩
  rw [Edit.outcome, Response.read_granted granted body is'.reads]
  rfl

theorem call_stored (addressable : Key.Addressable keys) (isKey : key ∈ keys) {o : Json} {d : Deployment}
    (stored : S.stored s (Edit.look key).path = some o) (is : o.IsDeployment d) :
    (S.call key e s).1 = .ok () ∧ ∃ o' d',
      S.stored (S.call key e s).2 = Function.update (S.stored s) (Edit.look key).path (some o') ∧
      o'.IsDeployment d' ∧ d'.metadata.finalizers.getD [] = e.edited (d.metadata.finalizers.getD []) := by
  obtain ⟨granted, body⟩ := S.shows (q := Edit.look key) rfl rfl stored
  have looked : S.stored (S.handle s (Edit.look key)).2 = S.stored s := S.looks rfl
  rw [call_eq addressable isKey, Edit.plainly, Program.run, step, Response.read_granted granted body is.reads]
  dsimp only
  by_cases done : e.IsDone (d.metadata.finalizers.getD [])
  · rw [if_pos done]
    refine ⟨rfl, o, d, ?_, is, (Edit.edited_of_isDone done).symm⟩
    rw [← stored, Function.update_eq_self]
    exact looked
  · rw [if_neg done]
    rw [← looked] at stored ⊢
    obtain ⟨outcome, o', d', after, is', same⟩ := handle_write (e := e) stored is
    refine ⟨outcome, o', d', after, is', ?_⟩
    rw [same, Edit.edited_of_not_isDone done]
    rfl

/-! ### Side by side -/

/-- Under a key there is nothing in either place, or a deployment with one list of finalizers. -/
inductive Agrees (S : ObjectServer) (s : S.State) (hub : Hub) (key : Key) : Prop
  | absent (unstored : S.stored s (Edit.look key).path = none) (unheld : hub.deployments key = none)
  | present {o : Json} {read held : Deployment} (stored : S.stored s (Edit.look key).path = some o)
    (is : o.IsDeployment read) (holds : hub.deployments key = some held)
    (same : read.metadata.finalizers.getD [] = held.metadata.finalizers.getD [])

end ObjectServer

/-- Two calls have succeeded, or neither has found the deployment. -/
inductive SameOutcome : Except HubError Unit → Except HubError Unit → Prop
  | succeeded : SameOutcome (.ok ()) (.ok ())
  | notFound {err err' : HubError} (isNotFound : err.isNotFound) (isNotFound' : err'.isNotFound) :
    SameOutcome (.error err) (.error err')

namespace ObjectServer
variable {S : ObjectServer} {s : S.State} {e : Edit} {key : Key} {keys : Set Key} {hub : Hub}

/-- A call leaves everything else as it is. -/
theorem Agrees.of_others {s' : S.State} {hub' : Hub} (agrees : S.Agrees s hub key)
    (stored : S.stored s' (Edit.look key).path = S.stored s (Edit.look key).path)
    (held : hub'.deployments key = hub.deployments key) : S.Agrees s' hub' key := by
  cases agrees with
  | absent unstored unheld => exact .absent (stored.trans unstored) (held.trans unheld)
  | present isStored is holds same => exact .present (stored.trans isStored) is (held.trans holds) same

theorem agrees_call (addressable : Key.Addressable keys) (reliable : hub.Reliable)
    (agree : ∀ key ∈ keys, S.Agrees s hub key) (isKey : key ∈ keys) :
    SameOutcome (S.call key e s).1 (e.inMemory key hub).1 ∧
      ∀ key' ∈ keys, S.Agrees (S.call key e s).2 (e.inMemory key hub).2 key' := by
  cases agree key isKey with
  | absent unstored unheld =>
    obtain ⟨message, outcome, after⟩ := call_absent (e := e) addressable isKey unstored
    obtain ⟨outcome', after'⟩ := Edit.inMemory_absent (e := e) reliable unheld
    rw [outcome, outcome']
    refine ⟨.notFound rfl rfl, fun key' isKey' => (agree key' isKey').of_others ?_ ?_⟩
    · rw [after]
    · rw [after']
  | present stored is holds same =>
    obtain ⟨outcome, o', d', after, is', edited⟩ := call_stored (e := e) addressable isKey stored is
    obtain ⟨outcome', after'⟩ := Edit.inMemory_held (e := e) reliable holds
    rw [outcome, outcome']
    refine ⟨.succeeded, fun key' isKey' => ?_⟩
    by_cases own : key' = key
    · subst own
      refine .present (by rw [after, Function.update_self]) is' (by rw [after', Store.set_same]) ?_
      rw [edited, same]
      rfl
    · refine (agree key' isKey').of_others ?_ ?_
      · rw [after, Function.update_of_ne fun place => own (addressable.apart isKey' isKey place)]
      · rw [after', Store.set_of_ne _ _ own]

end ObjectServer

/-- The outcomes of calls that are made one after another, and what they leave. -/
def Edit.inTurn {σ : Type} (call : Key → Edit → σ → Except HubError Unit × σ) :
    List (Key × Edit) → σ → List (Except HubError Unit) × σ
  | [], state => ([], state)
  | (key, e) :: rest, state =>
    let (outcome, after) := call key e state
    let (outcomes, last) := inTurn call rest after
    (outcome :: outcomes, last)

/-- Without another writer and without failures, the same calls have the same outcomes over an API server and on the hub
in memory, and leave the same finalizers. -/
theorem finalizer_edits_agree {S : ObjectServer} {s : S.State} {hub : Hub} {keys : Set Key}
    (addressable : Key.Addressable keys) (reliable : hub.Reliable) (agree : ∀ key ∈ keys, S.Agrees s hub key)
    (calls : List (Key × Edit)) (about : ∀ call ∈ calls, call.1 ∈ keys) :
    List.Forall₂ SameOutcome (Edit.inTurn S.call calls s).1 (Edit.inTurn (fun key e => e.inMemory key) calls hub).1 ∧
      ∀ key ∈ keys,
        S.Agrees (Edit.inTurn S.call calls s).2 (Edit.inTurn (fun key e => e.inMemory key) calls hub).2 key := by
  induction calls generalizing s hub with
  | nil => exact ⟨.nil, agree⟩
  | cons call rest ih =>
    obtain ⟨isKey, later⟩ := List.forall_mem_cons.mp about
    obtain ⟨outcome, agree'⟩ := ObjectServer.agrees_call (e := call.2) addressable reliable agree isKey
    obtain ⟨outcomes, last⟩ := ih (Edit.reliable_inMemory reliable) agree' later
    exact ⟨.cons outcome outcomes, last⟩

/-! ### A server -/

/-- A deployment is read from its JSON form, but that its times are whole seconds. -/
theorem Deployment.isDeployment_toJson (d : Deployment) :
    d.toJson.IsDeployment { d with metadata := d.metadata.reread } where
  isObject := rfl
  reads := by
    have status := Record.optional_field _ _ Status.read?_toJson nofun d.status
    refine (read?_eq_some_iff rfl).mpr ⟨?_, ?_, ?_⟩ <;> rw [find?_toJson]
    · exact Metadata.read?_toJson d.metadata
    · exact DeploymentSpec.read?_toJson d.spec
    · cases isStatus : d.status <;> rw [isStatus] at status <;> exact status

theorem Json.IsDeployment.versioned {o : Json} {d : Deployment} (is : o.IsDeployment d) (version : Nat) :
    (Server.versioned o version).IsDeployment
      { d with metadata := { d.metadata with resourceVersion := some (toString version) } } where
  isObject := rfl
  reads := by
    refine Deployment.read?_metadataPatch is.isObject is.reads (Json.ofFields_ne_null _) fun v metadata =>
      Metadata.read?_edited rfl metadata (fun name _ other => Json.find?_mergePatch_single v _ other) ?_ ?_
    · rw [Json.find?_mergePatch_single v _ (by decide)]
      exact (Metadata.fields_of_read? metadata).1
    · rw [Json.find?_mergePatch_ofFields _ (by simp)]
      simp [Json.patched, Json.mergePatch, Record.readOptional]

/-- Objects under paths, and the last version that was given to one. -/
structure NumberedObjects where
  objects : String → Option Json
  version : Nat := 0

namespace ObjectServer
variable {key : Key} {keys : Set Key} {hub : Hub}

/-- A server that numbers the versions of its objects. -/
def numbering : ObjectServer where
  State := NumberedObjects
  stored s := s.objects
  handle s q :=
    match q.method, s.objects q.path with
    | .get, some o => (Server.answer 200 o, s)
    | .patch, some o =>
      let patch := q.body.getD .null
      if Server.conflicts o patch then (Server.refuse 409 "Conflict" "the object was modified", s)
      else
        let written := Server.versioned (o.mergePatch patch) (s.version + 1)
        (Server.answer 200 written, ⟨Function.update s.objects q.path (some written), s.version + 1⟩)
    | _, _ => (Server.refuse 404 "NotFound" "there is no such object", s)
  shows isGet _ is := by
    simp only [isGet, is]
    exact ⟨rfl, rfl⟩
  denies isGet _ absent := by
    simp only [isGet, absent]
    rw [Server.refusal_refuse (by decide)]
    exact ⟨rfl, rfl⟩
  looks {s q} isGet := by
    rw [isGet]
    cases s.objects q.path <;> rfl
  merges isPatch _ holds is current := by
    simp only [isPatch, holds, is, Option.getD_some, if_neg current]
    exact ⟨_, ⟨rfl, rfl⟩, rfl, fun d merged => ⟨_, merged.versioned _, rfl⟩⟩

/-- The server that holds one deployment. -/
def holding (key : Key) (d : Deployment) : NumberedObjects where
  objects := Function.update (fun _ => none) (Edit.look key).path (some d.toJson)

theorem stored_numbering (s : NumberedObjects) (path : String) : numbering.stored s path = s.objects path := rfl

theorem objects_holding (key : Key) (d : Deployment) : (holding key d).objects =
    Function.update (fun _ => none) (Edit.look key).path (some d.toJson) := by
  rw [holding]

/-- Whatever deployment a server and a hub in memory hold, they agree on it. -/
theorem agrees_holding {d : Deployment} (addressable : Key.Addressable keys) (isKey : key ∈ keys)
    (holds : hub.deployments key = some d) (others : ∀ key', key' ≠ key → hub.deployments key' = none) :
    ∀ key' ∈ keys, numbering.Agrees (holding key d) hub key' := by
  intro key' isKey'
  by_cases own : key' = key
  · subst own
    refine .present ?_ d.isDeployment_toJson holds rfl
    rw [stored_numbering, objects_holding, Function.update_self]
  · have apart : (Edit.look key').path ≠ (Edit.look key).path := fun place =>
      own (addressable.apart isKey' isKey place)
    refine .absent ?_ (others key' own)
    rw [stored_numbering, objects_holding, Function.update_of_ne apart]

end ObjectServer

/-- A finalizer is added to a list that was missing, and again, and is removed. Another deployment is missing. -/
theorem finalizer_edits_agree_numbering :
    let key : Key := ⟨"team-a", "hd"⟩
    let d : Deployment := .sample "team-a" "hd" "abc12" none
    let calls : List (Key × Edit) :=
      [(key, .add "a"), (key, .add "a"), (⟨"team-a", "other"⟩, .add "a"), (key, .remove "a")]
    let overServer := Edit.inTurn ObjectServer.numbering.call calls (ObjectServer.holding key d)
    let inMemory := Edit.inTurn (fun key e => e.inMemory key) calls (Hub.sample d)
    List.Forall₂ SameOutcome overServer.1 inMemory.1 ∧
      inMemory.1 = [.ok (), .ok (), .error (.notFound "HypershiftDeployment team-a/other"), .ok ()] ∧
      ObjectServer.numbering.Agrees overServer.2 inMemory.2 key := by
  intro key d calls
  have plain : key.Plain := by decide +kernel
  have plain' : Key.Plain ⟨"team-a", "other"⟩ := by decide +kernel
  have holds : (Hub.sample d).deployments key = some d := rfl
  have others (key' : Key) (other : key' ≠ key) : (Hub.sample d).deployments key' = none := Store.set_of_ne _ _ other
  have agree := ObjectServer.agrees_holding Key.addressable_plain plain holds others
  have about : ∀ call ∈ calls, call.1 ∈ {key : Key | key.Plain} := by
    simp only [calls, List.forall_mem_cons]
    exact ⟨plain, plain, plain', plain, nofun⟩
  obtain ⟨outcomes, last⟩ := finalizer_edits_agree Key.addressable_plain ⟨fun _ => rfl, fun _ => rfl⟩ agree calls about
  exact ⟨outcomes, rfl, last key plain⟩

end HostedDelivery
