import Mathlib.Logic.Function.Basic
import HostedDelivery.Proofs.Api.Versions

/-!
# Edits of finalizers that contend

Any number of calls edit the finalizers of deployments over one API server, and whoever else likes sends requests of his
own in between (`Scene`, `Scene.Reached`). A call writes what follows from an object that it has read some time ago. It
is still right to write it, because an object that was read is known by its version: what is stored with that version is
this object (`ApiServer.Knows`), and a write for another version is refused. So no edit is lost
(`finalizer_edits_lose_nothing`).
-/

namespace HostedDelivery

namespace ApiServer
variable {S : ApiServer} {s s' : S.State} {q : Request} {r : Response} {path : String} {o : Json}

/-- What is stored under the path with the version of an object is this object. -/
def Knows (S : ApiServer) (s : S.State) (path : String) (o : Json) : Prop :=
  ∃ version, Server.patchVersion? o = some version ∧ S.used s path version ∧
    ∀ o', S.stored s path = some o' → Server.patchVersion? o' = some version → o' = o

theorem knows_of_stored (is : S.stored s path = some o) : S.Knows s path o := by
  obtain ⟨version, has, used⟩ := S.versioned is
  exact ⟨version, has, used, fun o' other _ => Option.some.inj (other.symm.trans is)⟩

theorem Knows.serves (knows : S.Knows s path o) (served : S.serves s q r s') : S.Knows s' path o := by
  -- Another object can only come with a version that was not used before, and this one was.
  obtain ⟨version, has, used, unique⟩ := knows
  refine ⟨version, has, S.recalls served used, fun o' stored same => ?_⟩
  obtain before | ⟨new, hasNew, unused⟩ := S.fresh served stored
  · exact unique o' before same
  · obtain rfl := Option.some.inj (hasNew.symm.trans same)
    exact absurd used unused

/-- A deployment that is read is the object that is stored. -/
theorem look_spec {key : Key} {d : Deployment} (served : S.serves s (Edit.look key) r s')
    (reads : r.read Deployment.read? = .ok d) :
    ∃ o, S.stored s (Edit.look key).path = some o ∧ d.metadata.finalizers.getD [] = o.finalizers ∧
      Server.patchVersion? o = d.metadata.resourceVersion := by
  have granted : r.isRefusal = false := by
    rw [Response.read] at reads
    split at reads
    · cases reads
    · rename_i granted
      exact Bool.eq_false_iff.mpr granted
  obtain ⟨o, stored, body⟩ := S.shows served rfl rfl granted
  obtain ⟨version, has, -⟩ := S.versioned stored
  have isObject := Server.isObject_of_patchVersion? has
  have readsObject : Deployment.read? (.known o) = some d := by
    rw [Response.read, granted, body, Body.written?, Option.bind_some] at reads
    cases value : Deployment.read? (.known o) <;> rw [value] at reads <;> cases reads
    rfl
  exact ⟨o, stored, Deployment.finalizers_of_read? isObject readsObject,
    Deployment.version_of_read? isObject readsObject⟩

/-- A request made exactly the change of an edit to the deployment under a key. -/
def Edits (S : ApiServer) (s : S.State) (key : Key) (e : Edit) (s' : S.State) : Prop :=
  ∃ o, S.stored s (Edit.look key).path = some o ∧ ¬ e.IsDone o.finalizers ∧
    ((∃ o', S.stored s' (Edit.look key).path = some o' ∧ o'.finalizers = e.apply o.finalizers) ∨
      S.stored s' (Edit.look key).path = none ∧ e.apply o.finalizers = [])

/-- A write that is granted finds the object that it was made for. -/
theorem write_spec {key : Key} {e : Edit} {d : Deployment} (served : S.serves s (e.write key d) r s')
    (granted : r.isRefusal = false) (knows : S.Knows s (Edit.look key).path o)
    (listed : d.metadata.finalizers.getD [] = o.finalizers)
    (version : Server.patchVersion? o = d.metadata.resourceVersion) (wanting : ¬ e.IsDone o.finalizers) :
    S.Edits s key e s' := by
  have place : (e.write key d).path = (Edit.look key).path := Request.path_eq_of_address rfl
  obtain ⟨current, stored, after⟩ := S.merges served rfl rfl rfl granted
  obtain ⟨v, has, -, unique⟩ := knows
  have current : current = o := by
    refine unique current (place ▸ stored) ?_
    by_contra other
    have outdated : Server.conflicts current (Exchange.finalizersPatch d.metadata
        (e.apply (d.metadata.finalizers.getD []))) := by
      rw [Server.conflicts, Exchange.patchVersion?_finalizersPatch, ← version, has]
      exact decide_eq_true other
    have refused := (S.rejects served rfl rfl rfl stored outdated).1.1
    rw [granted] at refused
    cases refused
  subst current
  rw [listed] at after
  have merged := Exchange.at?_merged current d.metadata (e.apply current.finalizers)
  rw [place] at stored after
  refine ⟨current, stored, wanting, ?_⟩
  obtain ⟨o', storedAfter, same⟩ | ⟨gone, free⟩ := after
  · exact .inl ⟨o', storedAfter, Json.finalizers_eq (same.trans merged)⟩
  · exact .inr ⟨gone, (Json.finalizers_eq merged).symm.trans free⟩

end ApiServer

/-! ### Scenes -/

/-- A request that was served. -/
structure Served (S : ApiServer) (ι : Type) where
  /-- The call that sent it, if one did. -/
  sender : Option ι
  request : Request
  response : Response
  before : S.State
  after : S.State

namespace Served
variable {S : ApiServer} {ι : Type}

/-- It was a patch that was not refused. -/
def Granted (m : Served S ι) : Prop := m.request.method = .patch ∧ m.response.isRefusal = false

/-- It was a patch for another version of the object than the one that was stored. -/
def Outdated (m : Served S ι) : Prop :=
  m.request.method = .patch ∧ ∃ o ∈ S.stored m.before m.request.path, ∃ patch ∈ m.request.body, Server.conflicts o patch

instance (m : Served S ι) : Decidable m.Granted := inferInstanceAs (Decidable (_ ∧ _))

instance (m : Served S ι) : Decidable m.Outdated := inferInstanceAs (Decidable (_ ∧ _))

end Served

/-- Calls at work on an API server. -/
structure Scene (S : ApiServer) (ι : Type) where
  state : S.State
  /-- What is left of each call. -/
  rest : ι → Program Wire Wire.Answer (Except HubError Unit)
  /-- The requests that were served, the first of them first. -/
  served : List (Served S ι) := []

namespace Scene
variable {S : ApiServer} {ι : Type} [DecidableEq ι] {edits : ι → Key × Edit} {σ : Scene S ι}

/-- Edits lead to a scene, from some state of the server and with requests of anyone in any order. -/
inductive Reached (edits : ι → Key × Edit) : Scene S ι → Prop
  | start (s : S.State) : Reached edits ⟨s, fun i => ((edits i).2.exchange (edits i).1).run, []⟩
  /-- A call sends its next request. -/
  | send {σ : Scene S ι} (before : Reached edits σ) {i : ι} {q : Request}
      {next : (Wire.send q).Answer → Program Wire Wire.Answer (Except HubError Unit)}
      (asks : σ.rest i = .ask (.send q) next) {r : Response} {s' : S.State} (serves : S.serves σ.state q r s') :
      Reached edits ⟨s', Function.update σ.rest i (next r), σ.served ++ [⟨some i, q, r, σ.state, s'⟩]⟩
  /-- A call tells the log something. -/
  | note {σ : Scene S ι} (before : Reached edits σ) {i : ι} {entry : Log.Entry}
      {next : (Wire.log entry).Answer → Program Wire Wire.Answer (Except HubError Unit)}
      (asks : σ.rest i = .ask (.log entry) next) :
      Reached edits { σ with rest := Function.update σ.rest i (next ()) }
  /-- Someone else sends a request. -/
  | other {σ : Scene S ι} (before : Reached edits σ) {q : Request} {r : Response} {s' : S.State}
      (serves : S.serves σ.state q r s') :
      Reached edits ⟨s', σ.rest, σ.served ++ [⟨none, q, r, σ.state, s'⟩]⟩

def past (i : ι) (served : List (Served S ι)) : List (Request × Response) :=
  (served.filter fun m => m.sender = some i).map fun m => (m.request, m.response)

theorem past_append (i : ι) (served : List (Served S ι)) (m : Served S ι) :
    past i (served ++ [m]) = past i served ++ (if m.sender = some i then [(m.request, m.response)] else []) := by
  by_cases own : m.sender = some i <;> simp [past, own]

theorem mem_past {i : ι} {served : List (Served S ι)} {x : Request × Response} :
    x ∈ past i served ↔ ∃ m ∈ served, m.sender = some i ∧ (m.request, m.response) = x := by
  simp [past, and_assoc]

/-- What holds in every scene that edits lead to. -/
structure Sound (edits : ι → Key × Edit) (σ : Scene S ι) : Prop where
  stages (i : ι) : Edit.Stage (edits i).2 (edits i).1 (past i σ.served) (σ.rest i)
  answered {m : Served S ι} (isServed : m ∈ σ.served) : S.serves m.before m.request m.response m.after
  /-- Whatever was stored before a request is known by its version. -/
  known {m : Served S ι} {path : String} {o : Json} (isServed : m ∈ σ.served)
    (stored : S.stored m.before path = some o) : S.Knows σ.state path o
  edited {m : Served S ι} {i : ι} (isServed : m ∈ σ.served) (own : m.sender = some i) (granted : m.Granted) :
    S.Edits m.before (edits i).1 (edits i).2 m.after

theorem Sound.start (edits : ι → Key × Edit) (s : S.State) :
    Sound edits ⟨s, fun i => ((edits i).2.exchange (edits i).1).run, []⟩ where
  stages _ := .start
  answered := nofun
  known := nofun
  edited := nofun

theorem Sound.note (sound : Sound edits σ) {i : ι} {entry : Log.Entry}
    {next : (Wire.log entry).Answer → Program Wire Wire.Answer (Except HubError Unit)}
    (asks : σ.rest i = .ask (.log entry) next) :
    Sound edits { σ with rest := Function.update σ.rest i (next ()) } where
  stages j := by
    by_cases own : j = i
    · subst own
      have stage := sound.stages j
      rw [asks] at stage
      simpa [Edit.sent] using stage.answered ()
    · simpa [own] using sound.stages j
  answered := sound.answered
  known := sound.known
  edited := sound.edited

/-- One more request is served, whoever has sent it. -/
theorem Sound.serve (sound : Sound edits σ) {m : Served S ι} (before : m.before = σ.state)
    (serves : S.serves m.before m.request m.response m.after)
    {rest : ι → Program Wire Wire.Answer (Except HubError Unit)}
    (stages : ∀ i, Edit.Stage (edits i).2 (edits i).1 (past i (σ.served ++ [m])) (rest i))
    (edited : ∀ i, m.sender = some i → m.Granted → S.Edits m.before (edits i).1 (edits i).2 m.after) :
    Sound edits ⟨m.after, rest, σ.served ++ [m]⟩ where
  stages := stages
  answered isServed := by
    obtain earlier | now := List.mem_append.mp isServed
    · exact sound.answered earlier
    · exact List.mem_singleton.mp now ▸ serves
  known isServed stored := by
    refine ApiServer.Knows.serves ?_ serves
    obtain earlier | now := List.mem_append.mp isServed
    · exact before ▸ sound.known earlier stored
    · exact ApiServer.knows_of_stored (List.mem_singleton.mp now ▸ stored)
  edited isServed own granted := by
    obtain earlier | now := List.mem_append.mp isServed
    · exact sound.edited earlier own granted
    · obtain rfl := List.mem_singleton.mp now
      exact edited _ own granted

theorem Sound.other (sound : Sound edits σ) {q : Request} {r : Response} {s' : S.State}
    (serves : S.serves σ.state q r s') :
    Sound edits ⟨s', σ.rest, σ.served ++ [⟨none, q, r, σ.state, s'⟩]⟩ := by
  refine sound.serve (m := ⟨none, q, r, σ.state, s'⟩) rfl serves (fun i => ?_) nofun
  rw [past_append, if_neg nofun, List.append_nil]
  exact sound.stages i

theorem Sound.send (sound : Sound edits σ) {i : ι} {q : Request}
    {next : (Wire.send q).Answer → Program Wire Wire.Answer (Except HubError Unit)}
    (asks : σ.rest i = .ask (.send q) next) {r : Response} {s' : S.State} (serves : S.serves σ.state q r s') :
    Sound edits ⟨s', Function.update σ.rest i (next r), σ.served ++ [⟨some i, q, r, σ.state, s'⟩]⟩ := by
  have stage := sound.stages i
  rw [asks] at stage
  refine sound.serve (m := ⟨some i, q, r, σ.state, s'⟩) rfl serves (fun j => ?_) fun j own granted => ?_
  · rw [past_append]
    by_cases own : j = i
    · subst own
      simpa [Edit.sent] using stage.answered r
    · simpa [own, Ne.symm own] using sound.stages j
  · obtain rfl := Option.some.inj own
    obtain ⟨-, rfl⟩ | ⟨looked, d, isPast, reads, wanting, rfl⟩ := stage.sends
    · cases granted.1
    obtain ⟨m, isServed, -, same⟩ := mem_past.mp (isPast ▸ List.mem_singleton.mpr rfl)
    obtain ⟨isLook, rfl⟩ := Prod.mk.inj same
    obtain ⟨o, stored, listed, version⟩ := ApiServer.look_spec (isLook ▸ sound.answered isServed) reads
    exact ApiServer.write_spec serves granted.2 (sound.known isServed stored) listed version (listed ▸ wanting)

theorem Reached.sound (reached : Reached edits σ) : Sound edits σ := by
  induction reached with
  | start s => exact .start edits s
  | send _ asks serves ih => exact ih.send asks serves
  | note _ asks ih => exact ih.note asks
  | other _ serves ih => exact ih.other serves

/-- A call that was refused its write has sent two requests, and neither of them changed anything. -/
theorem Sound.unchanged (sound : Sound edits σ) {m : Served S ι} {i : ι} (isServed : m ∈ σ.served)
    (own : m.sender = some i) (isPatch : m.request.method = .patch) (kept : S.stored m.after = S.stored m.before)
    {m' : Served S ι} (isServed' : m' ∈ σ.served) (own' : m'.sender = some i) :
    S.stored m'.after = S.stored m'.before := by
  obtain ⟨r, d, isPast, -, -⟩ := (sound.stages i).ends (mem_past.mpr ⟨m, isServed, own, rfl⟩) isPatch
  obtain ⟨first, tail, isPair, isLook, isTail⟩ := List.map_eq_cons_iff.mp isPast
  obtain ⟨second, none, rfl, isWrite, isNil⟩ := List.map_eq_cons_iff.mp isTail
  obtain rfl := List.map_eq_nil_iff.mp isNil
  have each {m : Served S ι} (isServed : m ∈ σ.served) (own : m.sender = some i) : m = first ∨ m = second := by
    have listed : m ∈ σ.served.filter fun m => m.sender = some i := List.mem_filter.mpr ⟨isServed, by simpa using own⟩
    simpa [isPair] using listed
  have looks : first.request = Edit.look (edits i).1 := (Prod.mk.inj isLook).1
  obtain rfl | rfl := each isServed' own'
  · exact S.looks (sound.answered isServed') (by rw [looks]; rfl)
  · obtain rfl | rfl := each isServed own
    · rw [looks] at isPatch
      cases isPatch
    · exact kept

end Scene

/-- Edits of finalizers over one API server lose nothing, however their requests and those of others are mixed.

* A call whose write is granted has made exactly its change to the finalizers that were stored right before it.
* A call that succeeds without a write has found the finalizers as wanted when it looked.
* A call whose write is refused, since it was made for another version, has changed nothing and ends in an error that
  is neither that the deployment is absent nor that it is there already. -/
theorem finalizer_edits_lose_nothing {S : ApiServer} {ι : Type} [DecidableEq ι] {edits : ι → Key × Edit}
    {σ : Scene S ι} (reached : σ.Reached edits) :
    (∀ m ∈ σ.served, ∀ i, m.sender = some i → m.Granted → S.Edits m.before (edits i).1 (edits i).2 m.after) ∧
    (∀ i, σ.rest i = .done (.ok ()) → (∀ m ∈ σ.served, m.sender = some i → m.request.method ≠ .patch) →
      ∃ m ∈ σ.served, m.sender = some i ∧ ∃ o, S.stored m.before (Edit.look (edits i).1).path = some o ∧
        (edits i).2.IsDone o.finalizers) ∧
    ∀ m ∈ σ.served, ∀ i, m.sender = some i → m.Outdated →
      (∀ m' ∈ σ.served, m'.sender = some i → S.stored m'.after = S.stored m'.before) ∧
      ∃ err, σ.rest i = .done (.error err) ∧ err.isNotFound = false ∧ ∀ message, err ≠ .alreadyExists message := by
  have sound := reached.sound
  refine ⟨fun m isServed i own => sound.edited isServed own, ?_, ?_⟩
  · intro i ended unwritten
    have stage := sound.stages i
    rw [ended] at stage
    obtain ⟨r, d, looked, reads, done⟩ := stage.found fun x isPast => by
      obtain ⟨m, isServed, own, rfl⟩ := Scene.mem_past.mp isPast
      exact unwritten m isServed own
    obtain ⟨m, isServed, own, same⟩ := Scene.mem_past.mp looked
    obtain ⟨isLook, rfl⟩ := Prod.mk.inj same
    obtain ⟨o, stored, listed, -⟩ := ApiServer.look_spec (isLook ▸ sound.answered isServed) reads
    exact ⟨m, isServed, own, o, stored, listed ▸ done⟩
  · rintro m isServed i own ⟨isPatch, o, stored, patch, holds, outdated⟩
    obtain ⟨r, d, -, isWrite, ended⟩ :=
      (sound.stages i).ends (Scene.mem_past.mpr ⟨m, isServed, own, rfl⟩) isPatch
    have whole : m.request.address.ofStatus = false := by
      rw [isWrite]
      rfl
    obtain ⟨⟨refused, code, reason⟩, kept⟩ :=
      S.rejects (sound.answered isServed) isPatch whole holds stored outdated
    rw [Edit.outcome_conflict refused code reason] at ended
    exact ⟨fun m' => sound.unchanged isServed own isPatch kept, _, ended, rfl, nofun⟩

/-! ### A scene on the simulated server -/

namespace Scene
variable {ι : Type} [DecidableEq ι] {edits : ι → Key × Edit} {σ : Scene Server.api ι} {key : Key}

/-- The scene after a call has made its next request about a deployment, or has told the log what comes next. -/
def turn (key : Key) (σ : Scene Server.api ι) (i : ι) : Scene Server.api ι :=
  match σ.rest i with
  | .ask (.send q) next =>
    let served := σ.state.1.serve q.method Resource.deployments.plural key (q.body.getD .null)
    let after : Server.api.State := ⟨served.2, σ.state.2.serve ..⟩
    ⟨after, Function.update σ.rest i (next served.1), σ.served ++ [⟨some i, q, served.1, σ.state, after⟩]⟩
  | .ask (.log _) next => { σ with rest := Function.update σ.rest i (next ()) }
  | _ => σ

/-- The requests of all calls can be sent, and are about the deployment under a key. -/
structure About (key : Key) (edits : ι → Key × Edit) : Prop where
  place (i : ι) : Server.placeOf (Edit.look (edits i).1).path =
    (key.namespace_, Resource.deployments.plural, some key.name)
  looks (i : ι) : Server.Receives (Edit.look (edits i).1)
  writes (i : ι) (d : Deployment) : Server.Receives ((edits i).2.write (edits i).1 d)

omit [DecidableEq ι] in
theorem About.handle (about : About key edits) {i : ι} {q : Request}
    (isOwn : q = Edit.look (edits i).1 ∨ ∃ d, q = (edits i).2.write (edits i).1 d) (s : Server) :
    Server.Receives q ∧ s.handle q = s.serve q.method Resource.deployments.plural key (q.body.getD .null) := by
  have receives : Server.Receives q := by
    obtain rfl | ⟨d, rfl⟩ := isOwn
    · exact about.looks i
    · exact about.writes i d
  have toObject : q.method ≠ .post := by
    obtain rfl | ⟨d, rfl⟩ := isOwn <;> exact nofun
  have path : q.path = (Edit.look (edits i).1).path := by
    obtain rfl | ⟨d, rfl⟩ := isOwn <;> exact Request.path_eq_of_address rfl
  obtain ⟨ns, c, name, place, handled⟩ := Server.handle_of_receives receives toObject
  rw [path, about.place i] at place
  obtain ⟨rfl, rfl, same⟩ := place
  exact ⟨receives, (handled s).2⟩

theorem Reached.turn (reached : σ.Reached edits) (about : About key edits) (i : ι) :
    (σ.turn key i).Reached edits := by
  rw [Scene.turn]
  split
  · rename_i q next asks
    have stage := reached.sound.stages i
    rw [asks] at stage
    have isOwn : q = Edit.look (edits i).1 ∨ ∃ d, q = (edits i).2.write (edits i).1 d := by
      obtain ⟨-, isLook⟩ | ⟨r, d, -, -, -, isWrite⟩ := stage.sends
      · exact .inl isLook
      · exact .inr ⟨d, isWrite⟩
    obtain ⟨receives, handled⟩ := about.handle isOwn σ.state.1
    exact reached.send asks ⟨receives, handled⟩
  · rename_i entry next asks
    exact reached.note asks
  · exact reached

end Scene

namespace Contenders

def key : Key := ⟨"ns", "hd"⟩

/-- A server that holds one deployment with one finalizer. -/
def server : Server :=
  ({} : Server).store Resource.deployments.plural key (.ofFields [
    ("metadata", some (.ofFields [("finalizers", some (.arr [.str "a"]))])),
    ("spec", some (.obj []))])

theorem orderly_server : server.Orderly :=
  Server.Orderly.store ⟨rfl, fun found => by cases found⟩ ..

/-- Two calls that have something to change, and one that has not. -/
def edits : Fin 3 → Key × Edit
  | 0 => (key, .add "b")
  | 1 => (key, .remove "a")
  | 2 => (key, .add "a")

theorem fst_edits (i : Fin 3) : (edits i).1 = key := by
  revert i
  decide

theorem about_edits : Scene.About key edits where
  place i := by
    rw [fst_edits]
    decide +kernel
  looks i := by
    rw [fst_edits]
    exact ⟨(Edit.look key).target, by decide +kernel, .inr (by decide +kernel)⟩
  writes i d := by
    rw [fst_edits]
    -- The body has no part in where a request goes.
    have target : ((edits i).2.write key d).uri =
        (⟨.patch, Exchange.address .deployments key, none⟩ : Request).uri := rfl
    refine ⟨(Edit.look key).target ++ "?", target.trans (by decide +kernel), .inr (by decide +kernel)⟩

/-- All of them look, and then the first two write. -/
def scene : Scene Server.api (Fin 3) :=
  [0, 1, 2, 0, 0, 1, 1].foldl (Scene.turn key)
    ⟨⟨server, orderly_server⟩, fun i => (edits i).2.plainly (edits i).1, []⟩

theorem reached_scene : scene.Reached edits := by
  have turns (is : List (Fin 3)) (σ : Scene Server.api (Fin 3)) (reached : σ.Reached edits) :
      (is.foldl (Scene.turn key) σ).Reached edits := by
    induction is generalizing σ with
    | nil => exact reached
    | cons i is ih => exact ih _ (reached.turn about_edits i)
  have plain : (fun i => ((edits i).2.exchange (edits i).1).run) = fun i => (edits i).2.plainly (edits i).1 :=
    funext fun i => Edit.run_exchange_plainly (about_edits.looks i).sendable fun d => (about_edits.writes i d).sendable
  exact turns _ _ (plain ▸ .start _)

/-- Both writes are made for the same version, so only the first is granted. -/
theorem served_scene : (∃ m ∈ scene.served, m.sender = some 0 ∧ m.Granted) ∧
    (∃ m ∈ scene.served, m.sender = some 1 ∧ m.Outdated) ∧
    ∀ m ∈ scene.served, m.sender = some 2 → m.request.method ≠ .patch := by
  decide +kernel

theorem rest_scene : scene.rest 2 = .done (.ok ()) := by
  have ended : (match scene.rest 2 with | .done (.ok ()) => true | _ => false) = true := by
    decide +kernel
  split at ended
  · rename_i same
    exact same
  · cases ended

end Contenders

theorem finalizer_edits_lose_nothing_contended :
    (∃ m ∈ Contenders.scene.served, m.sender = some 0 ∧
      Server.api.Edits m.before Contenders.key (.add "b") m.after) ∧
    (∃ m ∈ Contenders.scene.served, m.sender = some 2 ∧ ∃ o,
      Server.api.stored m.before (Edit.look Contenders.key).path = some o ∧ "a" ∈ o.finalizers) ∧
    (∀ m ∈ Contenders.scene.served, m.sender = some 1 → Server.api.stored m.after = Server.api.stored m.before) ∧
      ∃ err, Contenders.scene.rest 1 = .done (.error err) ∧ err.isNotFound = false := by
  obtain ⟨⟨granted, isServed, own, isGranted⟩, ⟨refused, isServed', own', isOutdated⟩, unwritten⟩ :=
    Contenders.served_scene
  obtain ⟨edited, found, unchanged⟩ := finalizer_edits_lose_nothing Contenders.reached_scene
  obtain ⟨kept, err, ended, present, -⟩ := unchanged refused isServed' 1 own' isOutdated
  exact ⟨⟨granted, isServed, own, edited granted isServed 0 own isGranted⟩,
    found 2 Contenders.rest_scene unwritten, kept, err, ended, present⟩

end HostedDelivery
