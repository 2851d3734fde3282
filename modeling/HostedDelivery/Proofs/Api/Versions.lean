import Mathlib.Data.List.TakeWhile
import HostedDelivery.Proofs.Api.Edit
import HostedDelivery.Proofs.Text

/-!
# API servers that keep versions

`ApiServer` is an API server as its clients may take it to be. It answers one request at a time, gives every object a
version and a new one whenever the object is written, and refuses a patch that was made for another version than the
stored one. Apart from this it may refuse what it likes.

The simulated server is such a server, as long as no request is made to fail (`Server.api`).
-/

namespace HostedDelivery

namespace Request

/-- The path that the server finds the object of a request by. -/
def path (q : Request) : String :=
  String.ofList ((q.target.toList.takeWhile fun c => c ≠ '#').takeWhile fun c => c ≠ '?')

theorem takeWhile_query (q : Request) : q.query.toList.takeWhile (fun c => c ≠ '?' ∧ c ≠ '#') = [] := by
  -- Every query begins with a question mark.
  rw [query]
  generalize q.method = method
  cases method <;> decide +kernel

theorem path_eq (q : Request) :
    q.path = String.ofList (q.address.path.toList.takeWhile fun c => c ≠ '?' ∧ c ≠ '#') := by
  rw [path, List.takeWhile_takeWhile, target, String.toList_append]
  simp only [decide_eq_true_eq]
  rw [List.takeWhile_append, takeWhile_query, List.append_nil]
  split
  · rename_i whole
    rw [(List.takeWhile_prefix _).eq_of_length whole]
  · rfl

theorem path_eq_of_address {q q' : Request} (same : q.address = q'.address) : q.path = q'.path := by
  rw [path_eq, path_eq, same]

end Request

/-- An API server as its clients may take it to be. -/
structure ApiServer where
  State : Type
  /-- The object that requests to a path are about. -/
  stored : State → String → Option Json
  /-- Whether the object under a path has had a version by now. -/
  used : State → String → String → Prop
  /-- In one state a request gets an answer, which leaves the server in another. -/
  serves : State → Request → Response → State → Prop
  versioned {s : State} {path : String} {o : Json} (is : stored s path = some o) :
    ∃ version, Server.patchVersion? o = some version ∧ used s path version
  /-- An object is as it was, or it was written and has a version that it never had before. -/
  fresh {s s' : State} {q : Request} {r : Response} {path : String} {o : Json} (served : serves s q r s')
    (is : stored s' path = some o) :
    stored s path = some o ∨ ∃ version, Server.patchVersion? o = some version ∧ ¬ used s path version
  recalls {s s' : State} {q : Request} {r : Response} {path version : String} (served : serves s q r s')
    (had : used s path version) : used s' path version
  /-- A look changes nothing. -/
  looks {s s' : State} {q : Request} {r : Response} (served : serves s q r s') (isGet : q.method = .get) :
    stored s' = stored s
  shows {s s' : State} {q : Request} {r : Response} (served : serves s q r s') (isGet : q.method = .get)
    (ofObject : q.address.name.isSome) (granted : r.isRefusal = false) :
    ∃ o, stored s q.path = some o ∧ r.body = .json o
  /-- A patch is merged into the object as it is stored. If no finalizer holds the object then, it may go at once. -/
  merges {s s' : State} {q : Request} {r : Response} {patch : Json} (served : serves s q r s')
    (isPatch : q.method = .patch) (whole : q.address.ofStatus = false) (holds : q.body = some patch)
    (granted : r.isRefusal = false) :
    ∃ o, stored s q.path = some o ∧
      ((∃ o', stored s' q.path = some o' ∧
          o'.at? ["metadata", "finalizers"] = (o.mergePatch patch).at? ["metadata", "finalizers"]) ∨
        stored s' q.path = none ∧ (o.mergePatch patch).finalizers = [])
  /-- A patch for another version than the stored one is refused. -/
  rejects {s s' : State} {q : Request} {r : Response} {patch o : Json} (served : serves s q r s')
    (isPatch : q.method = .patch) (whole : q.address.ofStatus = false) (holds : q.body = some patch)
    (is : stored s q.path = some o) (outdated : Server.conflicts o patch) :
    (r.isRefusal ∧ r.refusal.code = 409 ∧ r.refusal.reason = "Conflict") ∧ stored s' = stored s

/-! ### The simulated server -/

namespace Server
variable {s : Server} {c : String} {key : Key}

/-- Every object has a version that was given out, and no request is made to fail. -/
structure Orderly (s : Server) : Prop where
  granting : s.faults = []
  numbered {c : String} {key : Key} {o : Json} (stored : s.find? c key = some o) :
    ∃ n ≤ s.version, patchVersion? o = some (toString n)

/-- Only an object has a version. -/
theorem isObject_of_patchVersion? {o : Json} {version : String} (versioned : patchVersion? o = some version) :
    o.isObject := by
  cases o with
  | obj ms => rfl
  | _ => cases versioned

theorem patchVersion?_stamped (s : Server) (o : Json) :
    patchVersion? (s.stamped o) = some (toString (s.version + 1)) := by
  simp [patchVersion?, stamped, versioned, Json.at?_cons, Json.find?_mergePatch_ofFields, Json.patched_of_ne_null,
    Json.ofFields_ne_null, Json.mergePatch, Json.string?]

theorem finalizers_stamped (s : Server) (o : Json) :
    (s.stamped o).at? ["metadata", "finalizers"] = o.at? ["metadata", "finalizers"] := by
  simp [stamped, versioned, Json.at?_cons, Json.find?_mergePatch_ofFields, Json.patched_of_ne_null,
    List.lookup_cons, Json.ofFields_ne_null]
  cases o.find? "metadata" <;> rfl

/-- An object that nothing keeps lists no finalizers. -/
theorem finalizers_of_isReleased {o : Json} (released : isReleased c o) : o.finalizers = [] := by
  have free : isHeld o = false := by
    simp only [isReleased, Bool.and_eq_true, Bool.not_eq_true'] at released
    exact released.2
  rw [Json.finalizers]
  split
  · rename_i items listed
    cases items with
    | nil => rfl
    | cons item rest => simp [isHeld, listed] at free
  · rfl

theorem find?_store (s : Server) (c : String) (key : Key) (o : Json) (c' : String) (key' : Key) :
    (s.store c key o).find? c' key' =
      if c' = c ∧ key = key' then (if isReleased c o then none else some (s.stamped o)) else s.find? c' key' := by
  simp only [store]
  split <;> by_cases here : c' = c <;> simp [find?, change, Shelf.find?_drop, Shelf.find?_put, here]

theorem version_store (s : Server) (c : String) (key : Key) (o : Json) :
    (s.store c key o).version = s.version + 1 := by
  rw [store]
  split <;> rfl

theorem serve_cases (granting : s.faults = []) (m : Method) (c : String) (key : Key) (body : Json) :
    (s.serve m c key body).2 = s ∨ ∃ o, (s.serve m c key body).2 = s.store c key o := by
  simp only [serve, faultCode?, granting, List.find?_nil, Option.map_none]
  cases m <;> cases s.find? c key <;> dsimp only
  case patch.some | delete.some =>
    split
    · exact .inl rfl
    · exact .inr ⟨_, rfl⟩
  case post.none | put.some => exact .inr ⟨_, rfl⟩
  all_goals exact .inl rfl

theorem Orderly.store (orderly : s.Orderly) (c : String) (key : Key) (o : Json) : (s.store c key o).Orderly where
  granting := by
    rw [Server.store]
    split <;> exact orderly.granting
  numbered := by
    intro c' key' o' found
    rw [version_store]
    rw [find?_store] at found
    split at found
    · split at found
      · cases found
      · obtain rfl := Option.some.inj found
        exact ⟨s.version + 1, le_rfl, patchVersion?_stamped s o⟩
    · obtain ⟨n, low, version⟩ := orderly.numbered found
      exact ⟨n, Nat.le_succ_of_le low, version⟩

theorem Orderly.serve (orderly : s.Orderly) (m : Method) (c : String) (key : Key) (body : Json) :
    (s.serve m c key body).2.Orderly := by
  obtain same | ⟨o, stored⟩ := serve_cases orderly.granting m c key body
  · rw [same]
    exact orderly
  · rw [stored]
    exact orderly.store c key o

theorem version_serve (orderly : s.Orderly) (m : Method) (c : String) (key : Key) (body : Json) :
    s.version ≤ (s.serve m c key body).2.version := by
  obtain same | ⟨o, stored⟩ := serve_cases orderly.granting m c key body
  · rw [same]
  · rw [stored, version_store]
    exact Nat.le_succ _

theorem find?_serve (orderly : s.Orderly) {m : Method} {body o : Json} {c' : String} {key' : Key}
    (found : (s.serve m c key body).2.find? c' key' = some o) :
    s.find? c' key' = some o ∨ patchVersion? o = some (toString (s.version + 1)) := by
  obtain same | ⟨object, stored⟩ := serve_cases orderly.granting m c key body
  · exact .inl (same ▸ found)
  · rw [stored, find?_store] at found
    split at found
    · split at found
      · cases found
      · obtain rfl := Option.some.inj found
        exact .inr (patchVersion?_stamped s object)
    · exact .inl found

/-- The object that a path names. -/
def objectAt (s : Server) (path : String) : Option Json :=
  (placeOf path).2.2.bind fun name => s.find? (placeOf path).2.1 ⟨(placeOf path).1, name⟩

theorem placeOf_uri {q : Request} {uri : String} (sendable : q.uri = .ok uri) : placeOf uri = placeOf q.path := by
  have cut : uri = String.ofList (q.target.toList.takeWhile fun c => c ≠ '#') := by
    simp only [Request.uri, Uri.ofTarget] at sendable
    split at sendable
    · cases sendable
    · split at sendable
      · cases sendable
      · split at sendable
        · exact (Except.ok.inj sendable).symm
        · cases sendable
  rw [cut, Request.path, placeOf, placeOf, String.toList_ofList, String.toList_ofList, List.takeWhile_idem]

/-- A request is sent to an object by its name, or to a collection. -/
def Receives (q : Request) : Prop := ∃ uri, q.uri = .ok uri ∧ (q.method = .post ∨ (placeOf uri).2.2.isSome)

theorem Receives.sendable {q : Request} (receives : Receives q) : ∃ uri, q.uri = .ok uri :=
  receives.imp fun _ sent => sent.1

/-- A request that is sent to an object is about the object that its path names. -/
theorem handle_of_receives {q : Request} (receives : Receives q) (toObject : q.method ≠ .post) :
    ∃ ns c name, placeOf q.path = (ns, c, some name) ∧ ∀ s : Server, s.objectAt q.path = s.find? c ⟨ns, name⟩ ∧
      s.handle q = s.serve q.method c ⟨ns, name⟩ (q.body.getD .null) := by
  obtain ⟨uri, sendable, named⟩ := receives
  obtain ⟨name, named⟩ := Option.isSome_iff_exists.mp (named.resolve_left toObject)
  rw [placeOf_uri sendable] at named
  refine ⟨(placeOf q.path).1, (placeOf q.path).2.1, name, by rw [← named], fun s => ⟨?_, ?_⟩⟩
  · rw [objectAt, named, Option.bind_some]
  · simp only [handle, sendable, Except.toOption, Option.getD_some, placeOf_uri sendable, named]

-- The limit for codes is left open, since numbers of its size slow the reading of the other fields down.
theorem read_refuse {code limit : Nat} (small : code < limit) (reason message : String) :
    (do
      let r ← Json.Written.record? ["status", "message", "reason", "code"] 4 (.known (.ofFields [
        ("kind", some (.str "Status")),
        ("apiVersion", some (.str "v1")),
        ("status", some (.str "Failure")),
        ("reason", some (.str reason)),
        ("message", some (.str message)),
        ("code", some (.int code))]))
      return {
        status := ← r.required "status" Json.Written.string?
        message := ← r.defaulted "message" "" Json.Written.string?
        reason := ← r.defaulted "reason" "" Json.Written.string?
        code := ← r.required "code" (Json.Written.natBelow? limit) : Refusal }) =
      some ⟨"Failure", message, reason, code⟩ := by
  simp [Json.Written.record?_ofFields, Record.required_ofObject, Record.defaulted_ofObject, Json.find?_ofFields,
    List.lookup_cons, Json.Written.natBelow?_int small]

theorem refusal_refuse {code : Nat} (small : code < UInt16.size) (reason message : String) :
    (refuse code reason message).refusal = ⟨"Failure", message, reason, code⟩ := by
  rw [Response.refusal, refuse, answer, Body.written?, Option.bind_some, Response.refusal?, read_refuse small,
    Option.getD_some]

theorem serve_absent (granting : s.faults = []) {m : Method} (toObject : m ≠ .post) {body : Json}
    (absent : s.find? c key = none) :
    s.serve m c key body = (refuse 404 "NotFound" (c ++ " " ++ key.text ++ " not found"), s) := by
  simp only [serve, faultCode?, granting, List.find?_nil, Option.map_none, absent]

theorem serve_get (granting : s.faults = []) {body : Json} :
    s.serve .get c key body = ((s.find? c key).elim (refuse 404 "NotFound" (c ++ " " ++ key.text ++ " not found"))
      (answer 200), s) := by
  cases found : s.find? c key with
  | none => exact serve_absent granting (by decide) found
  | some o => simp only [serve, faultCode?, granting, List.find?_nil, Option.map_none, found, Option.elim_some]

theorem serve_patch (granting : s.faults = []) {patch o : Json} (found : s.find? c key = some o) :
    s.serve .patch c key patch =
      if conflicts o patch then (refuse 409 "Conflict" (c ++ " " ++ key.text ++ " was modified"), s)
      else (answer 200 (s.stamped (o.mergePatch patch)), s.store c key (o.mergePatch patch)) := by
  simp only [serve, faultCode?, granting, List.find?_nil, Option.map_none, found]

theorem served_at {s s' : Server} {q : Request} {r : Response} (receives : Receives q) (handled : s.handle q = (r, s'))
    (toObject : q.method ≠ .post) :
    ∃ c key, (∀ s : Server, s.objectAt q.path = s.find? c key) ∧
      s.serve q.method c key (q.body.getD .null) = (r, s') := by
  obtain ⟨ns, c, name, -, about⟩ := handle_of_receives receives toObject
  exact ⟨c, ⟨ns, name⟩, fun s => (about s).1, (about s).2.symm.trans handled⟩

/-- The simulated server, as its clients may take it. -/
def api : ApiServer where
  State := { s : Server // s.Orderly }
  stored s path := s.1.objectAt path
  used s _ version := ∃ n ≤ s.1.version, version = toString n
  serves s q r s' := Receives q ∧ s.1.handle q = (r, s'.1)
  versioned {s path o} is := by
    obtain ⟨name, -, found⟩ := Option.bind_eq_some_iff.mp is
    obtain ⟨n, low, version⟩ := s.2.numbered found
    exact ⟨toString n, version, n, low, rfl⟩
  fresh {s s' q r path o} served is := by
    obtain ⟨name, named, found⟩ := Option.bind_eq_some_iff.mp is
    have after : s'.1 = (s.1.handle q).2 := (congrArg Prod.snd served.2).symm
    rw [after] at found
    obtain before | version := find?_serve s.2 found
    · exact .inl (Option.bind_eq_some_iff.mpr ⟨name, named, before⟩)
    · refine .inr ⟨_, version, ?_⟩
      rintro ⟨n, low, same⟩
      have next := Numeral.toString_injective same
      omega
  recalls {s s' q r path version} served had := by
    obtain ⟨n, low, rfl⟩ := had
    have grows : s.1.version ≤ (s.1.handle q).2.version := version_serve s.2 ..
    rw [served.2] at grows
    exact ⟨n, low.trans grows, rfl⟩
  looks {s s' q r} served isGet := by
    obtain ⟨c, key, -, handled⟩ := served_at served.1 served.2 (by rw [isGet]; nofun)
    rw [isGet, serve_get s.2.granting] at handled
    rw [(Prod.mk.inj handled).2]
  shows {s s' q r} served isGet _ granted := by
    obtain ⟨c, key, place, handled⟩ := served_at served.1 served.2 (by rw [isGet]; nofun)
    rw [isGet, serve_get s.2.granting] at handled
    rw [place]
    obtain ⟨answered, -⟩ := Prod.mk.inj handled
    cases found : s.1.find? c key with
    | none =>
      rw [← answered, found] at granted
      cases granted
    | some o =>
      rw [found] at answered
      exact ⟨o, rfl, answered ▸ rfl⟩
  merges {s s' q r patch} served isPatch _ holds granted := by
    obtain ⟨c, key, place, handled⟩ := served_at served.1 served.2 (by rw [isPatch]; nofun)
    rw [isPatch, holds, Option.getD_some] at handled
    rw [place, place]
    cases found : s.1.find? c key with
    | none =>
      rw [serve_absent s.2.granting (by decide) found] at handled
      rw [← (Prod.mk.inj handled).1] at granted
      cases granted
    | some o =>
      rw [serve_patch s.2.granting found] at handled
      split at handled
      · rw [← (Prod.mk.inj handled).1] at granted
        cases granted
      · obtain ⟨-, after⟩ := Prod.mk.inj handled
        refine ⟨o, rfl, ?_⟩
        rw [← after, find?_store, if_pos ⟨rfl, rfl⟩]
        split
        · exact .inr ⟨rfl, finalizers_of_isReleased ‹_›⟩
        · exact .inl ⟨_, rfl, finalizers_stamped ..⟩
  rejects {s s' q r patch o} served isPatch _ holds is outdated := by
    obtain ⟨c, key, place, handled⟩ := served_at served.1 served.2 (by rw [isPatch]; nofun)
    rw [place] at is
    rw [isPatch, holds, Option.getD_some, serve_patch s.2.granting is, if_pos outdated] at handled
    obtain ⟨rfl, after⟩ := Prod.mk.inj handled
    rw [refusal_refuse (by decide), ← after]
    exact ⟨⟨rfl, rfl, rfl⟩, rfl⟩

end Server
end HostedDelivery
