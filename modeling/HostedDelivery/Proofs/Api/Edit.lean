import HostedDelivery.Api.Client
import HostedDelivery.Api.Server
import HostedDelivery.Proofs.Json.MergePatch

/-!
# Edits of finalizers over the API server

A call that adds or removes a finalizer reads the deployment first and then, unless its finalizers are as wanted, writes
the whole list. `Edit.Stage` lists the stages that such a call goes through, with what it has exchanged before each of
them, and `Edit.stage_of_becomes` is that there are no others. What is written follows from what was read: the list of
the object with the edit applied (`Deployment.finalizers_of_read?`, `Exchange.at?_merged`), and the version that the
object had (`Deployment.version_of_read?`, `Exchange.patchVersion?_finalizersPatch`). What is written can be read again,
and nothing else in it has changed (`Exchange.read?_finalizersPatch`).
-/

namespace HostedDelivery

/-! ### Finalizers and versions of objects -/

namespace Json

def finalizers (object : Json) : List String :=
  match object.at? ["metadata", "finalizers"] with
  | some (.arr items) => items.filterMap string?
  | _ => []

theorem finalizers_eq {object : Json} {fs : List String}
    (listed : object.at? ["metadata", "finalizers"] = some (.arr (fs.map .str))) : object.finalizers = fs := by
  have texts : (fs.map Json.str).filterMap string? = fs := by
    rw [List.filterMap_map]
    exact List.filterMap_some
  rw [finalizers, listed]
  exact texts

namespace Written

theorem eq_str_of_string? {v : Json} {s : String} (reads : string? (.known v) = some s) : v = .str s := by
  cases v with
  | str t => exact congrArg Json.str (Option.some.inj reads)
  | _ => cases reads

theorem eq_arr_of_list? {v : Json} {fs : List String} (reads : list? string? (.known v) = some fs) :
    v = .arr (fs.map .str) := by
  cases v with
  | arr items =>
    simp only [list?, items?, Option.bind_eq_bind, Option.bind_some, List.mapM_map] at reads
    refine congrArg Json.arr ?_
    induction items generalizing fs with
    | nil => cases reads; rfl
    | cons item rest ih =>
      simp only [List.mapM_cons, Option.bind_eq_bind, Option.bind_eq_some_iff, Option.pure_def, Option.some.injEq,
        Function.comp] at reads
      obtain ⟨first, firstReads, others, othersRead, rfl⟩ := reads
      rw [eq_str_of_string? firstReads, ih othersRead, List.map_cons]
  | _ => cases reads

end Written
end Json

open Json.Written Record

/-- Of the metadata that is read, the finalizers and the version stand in it as they are. -/
theorem Metadata.fields_of_read? {v : Json} {m : Metadata} (reads : read? (.known v) = some m) :
    readOptional (list? string?) (v.find? "finalizers") = some m.finalizers ∧
      readOptional string? (v.find? "resourceVersion") = some m.resourceVersion := by
  cases v with
  | obj ms =>
    rw [read?, looseRecord?_obj] at reads
    obtain ⟨_, record, reads⟩ := Option.bind_eq_some_iff.mp reads
    obtain rfl := Option.some.inj record
    -- The fields are read one after another; the fifth and the thirteenth are kept.
    iterate 4 obtain ⟨_, -, reads⟩ := Option.bind_eq_some_iff.mp reads
    obtain ⟨_, finalizers, reads⟩ := Option.bind_eq_some_iff.mp reads
    iterate 7 obtain ⟨_, -, reads⟩ := Option.bind_eq_some_iff.mp reads
    obtain ⟨_, version, reads⟩ := Option.bind_eq_some_iff.mp reads
    iterate 2 obtain ⟨_, -, reads⟩ := Option.bind_eq_some_iff.mp reads
    obtain rfl := Option.some.inj reads
    rw [optional_ofObject] at finalizers version
    exact ⟨finalizers, version⟩
  | _ => cases reads

/-- Where only the finalizers and the version are others, only these are read otherwise. -/
theorem Metadata.read?_edited {v v' : Json} {m : Metadata} {finalizers : Option (List String)} {version : Option String}
    (isObject : v'.isObject) (reads : read? (.known v) = some m)
    (others : ∀ name, name ≠ "finalizers" → name ≠ "resourceVersion" → v'.find? name = v.find? name)
    (listed : readOptional (list? string?) (v'.find? "finalizers") = some finalizers)
    (versioned : readOptional string? (v'.find? "resourceVersion") = some version) :
    read? (.known v') = some { m with finalizers := finalizers, resourceVersion := version } := by
  cases v with
  | obj ms =>
    cases v' with
    | obj ms' =>
      rw [read?, looseRecord?_obj] at reads ⊢
      obtain ⟨_, record, reads⟩ := Option.bind_eq_some_iff.mp reads
      obtain rfl := Option.some.inj record
      obtain ⟨_, annotations, reads⟩ := Option.bind_eq_some_iff.mp reads
      obtain ⟨_, created, reads⟩ := Option.bind_eq_some_iff.mp reads
      obtain ⟨_, grace, reads⟩ := Option.bind_eq_some_iff.mp reads
      obtain ⟨_, deleted, reads⟩ := Option.bind_eq_some_iff.mp reads
      obtain ⟨_, -, reads⟩ := Option.bind_eq_some_iff.mp reads
      obtain ⟨_, start, reads⟩ := Option.bind_eq_some_iff.mp reads
      obtain ⟨_, generation, reads⟩ := Option.bind_eq_some_iff.mp reads
      obtain ⟨_, labels, reads⟩ := Option.bind_eq_some_iff.mp reads
      obtain ⟨_, managed, reads⟩ := Option.bind_eq_some_iff.mp reads
      obtain ⟨_, name, reads⟩ := Option.bind_eq_some_iff.mp reads
      obtain ⟨_, home, reads⟩ := Option.bind_eq_some_iff.mp reads
      obtain ⟨_, owners, reads⟩ := Option.bind_eq_some_iff.mp reads
      obtain ⟨_, -, reads⟩ := Option.bind_eq_some_iff.mp reads
      obtain ⟨_, link, reads⟩ := Option.bind_eq_some_iff.mp reads
      obtain ⟨_, uid, made⟩ := Option.bind_eq_some_iff.mp reads
      obtain rfl := Option.some.inj made
      rw [optional_ofObject] at annotations created grace deleted start generation labels managed
      rw [optional_ofObject] at name home owners link uid
      have kept (name : String) (isOther : name ≠ "finalizers" ∧ name ≠ "resourceVersion") :
          (Json.obj ms').find? name = (Json.obj ms).find? name := others name isOther.1 isOther.2
      rw [Option.bind_eq_bind, Option.bind_some]
      dsimp only
      rw [optional_eq (kept "annotations" (by decide)) annotations,
        optional_eq (kept "creationTimestamp" (by decide)) created,
        optional_eq (kept "deletionGracePeriodSeconds" (by decide)) grace,
        optional_eq (kept "deletionTimestamp" (by decide)) deleted,
        optional_eq rfl listed,
        optional_eq (kept "generateName" (by decide)) start,
        optional_eq (kept "generation" (by decide)) generation,
        optional_eq (kept "labels" (by decide)) labels,
        optional_eq (kept "managedFields" (by decide)) managed,
        optional_eq (kept "name" (by decide)) name,
        optional_eq (kept "namespace" (by decide)) home,
        optional_eq (kept "ownerReferences" (by decide)) owners,
        optional_eq rfl versioned,
        optional_eq (kept "selfLink" (by decide)) link,
        optional_eq (kept "uid" (by decide)) uid]
      rfl
    | _ => cases isObject
  | _ => cases reads

namespace Deployment
variable {o o' : Json} {d : Deployment}

/-- A deployment that is not read by position is read from its members. -/
theorem read?_eq_some_iff (isObject : o.isObject) : read? (.known o) = some d ↔
    (o.find? "metadata").bind (fun v => Metadata.read? (.known v)) = some d.metadata ∧
      (o.find? "spec").bind (fun v => DeploymentSpec.read? (.known v)) = some d.spec ∧
      readOptional Status.read? (o.find? "status") = some d.status := by
  cases o with
  | obj ms =>
    rw [read?, record?_obj]
    simp only [Option.bind_eq_bind, Option.bind_some, required_ofObject, optional_ofObject]
    constructor
    · intro reads
      obtain ⟨metadata, readsMetadata, reads⟩ := Option.bind_eq_some_iff.mp reads
      obtain ⟨spec, readsSpec, reads⟩ := Option.bind_eq_some_iff.mp reads
      obtain ⟨status, readsStatus, made⟩ := Option.bind_eq_some_iff.mp reads
      obtain rfl := Option.some.inj made
      exact ⟨readsMetadata, readsSpec, readsStatus⟩
    · rintro ⟨metadata, spec, status⟩
      rw [metadata, spec, status]
      rfl
  | _ => cases isObject

theorem metadata_of_read? (isObject : o.isObject) (reads : read? (.known o) = some d) :
    ∃ v, o.find? "metadata" = some v ∧ Metadata.read? (.known v) = some d.metadata :=
  Option.bind_eq_some_iff.mp ((read?_eq_some_iff isObject).mp reads).1

/-- Where only the metadata is another, only the metadata is read otherwise. -/
theorem read?_edited {v : Json} {m : Metadata} (isObject : o.isObject) (isObject' : o'.isObject)
    (reads : read? (.known o) = some d) (others : ∀ name, name ≠ "metadata" → o'.find? name = o.find? name)
    (stands : o'.find? "metadata" = some v) (metadata : Metadata.read? (.known v) = some m) :
    read? (.known o') = some { d with metadata := m } := by
  obtain ⟨-, spec, status⟩ := (read?_eq_some_iff isObject).mp reads
  refine (read?_eq_some_iff isObject').mpr ⟨?_, ?_, ?_⟩
  · rw [stands, Option.bind_some, metadata]
  · rw [others "spec" (by decide), spec]
  · rw [others "status" (by decide), status]

/-- A patch of the metadata changes nothing else of a deployment. -/
theorem read?_metadataPatch {fields : Json} {m : Metadata} (isObject : o.isObject) (reads : read? (.known o) = some d)
    (present : fields ≠ .null) (metadata : ∀ v, Metadata.read? (.known v) = some d.metadata →
      Metadata.read? (.known (v.mergePatch fields)) = some m) :
    read? (.known (o.mergePatch (.ofFields [("metadata", some fields)]))) = some { d with metadata := m } := by
  obtain ⟨v, found, readsMetadata⟩ := metadata_of_read? isObject reads
  refine read?_edited isObject rfl reads (fun name other => Json.find?_mergePatch_single o _ other) ?_
    (metadata v readsMetadata)
  rw [Json.find?_mergePatch_ofFields _ (by simp), found]
  simp [Json.patched_of_ne_null _ present]

theorem version_of_read? (isObject : o.isObject) (reads : read? (.known o) = some d) :
    Server.patchVersion? o = d.metadata.resourceVersion := by
  obtain ⟨v, found, metadata⟩ := metadata_of_read? isObject reads
  obtain ⟨-, field⟩ := Metadata.fields_of_read? metadata
  have stands : Server.patchVersion? o = (v.find? "resourceVersion").bind Json.string? := by
    simp [Server.patchVersion?, Json.at?_cons, found]
  rw [stands]
  cases isVersion : v.find? "resourceVersion" with
  | none =>
    rw [isVersion] at field
    exact Option.some.inj field
  | some u =>
    by_cases isNull : u = .null
    · rw [isVersion, isNull] at field
      rw [isNull]
      exact Option.some.inj field
    · rw [isVersion, readOptional] at field
      · obtain ⟨version, isText, same⟩ := Option.map_eq_some_iff.mp field
        rw [← same, eq_str_of_string? isText]
        rfl
      · simpa using isNull

theorem finalizers_of_read? (isObject : o.isObject) (reads : read? (.known o) = some d) :
    d.metadata.finalizers.getD [] = o.finalizers := by
  obtain ⟨v, found, metadata⟩ := metadata_of_read? isObject reads
  obtain ⟨field, -⟩ := Metadata.fields_of_read? metadata
  have listed : o.at? ["metadata", "finalizers"] = v.find? "finalizers" := by
    simp [Json.at?_cons, found]
  cases stands : v.find? "finalizers" with
  | none =>
    rw [stands] at field
    simp [Json.finalizers, listed, stands, ← Option.some.inj field]
  | some u =>
    by_cases isNull : u = .null
    · rw [stands, isNull] at field
      simp [Json.finalizers, listed, stands, isNull, ← Option.some.inj field]
    · rw [stands, readOptional] at field
      · obtain ⟨fs, isList, same⟩ := Option.map_eq_some_iff.mp field
        obtain rfl := eq_arr_of_list? isList
        rw [← same, Option.getD_some, Json.finalizers_eq (listed.trans stands)]
      · simpa using isNull

end Deployment

/-! ### Patches of finalizers -/

namespace Exchange

theorem patchVersion?_finalizersPatch (m : Metadata) (fs : List String) :
    Server.patchVersion? (finalizersPatch m fs) = m.resourceVersion := by
  cases version : m.resourceVersion <;>
    simp [Server.patchVersion?, finalizersPatch, Json.at?_ofFields, version, Json.string?]

theorem at?_merged (o : Json) (m : Metadata) (fs : List String) :
    (o.mergePatch (finalizersPatch m fs)).at? ["metadata", "finalizers"] = some (.arr (fs.map .str)) := by
  simp [finalizersPatch, Json.at?_cons, Json.find?_mergePatch_ofFields, Json.patched_of_ne_null, List.lookup_cons,
    Json.ofFields_ne_null, Json.mergePatch_arr]

/-- After the patch a deployment is read as before, but with the finalizers and the version of the patch. -/
theorem read?_finalizersPatch {o : Json} {d : Deployment} (isObject : o.isObject)
    (reads : Deployment.read? (.known o) = some d) (m : Metadata) (fs : List String) :
    Deployment.read? (.known (o.mergePatch (finalizersPatch m fs))) =
      some { d with metadata := { d.metadata with finalizers := some fs, resourceVersion := m.resourceVersion } } := by
  refine Deployment.read?_metadataPatch isObject reads (Json.ofFields_ne_null _) fun v metadata =>
    Metadata.read?_edited rfl metadata (fun name other other' => ?_) ?_ ?_
  · rw [Json.find?_mergePatch_ofFields _ (by simp)]
    simp [List.lookup_cons, beq_false_of_ne other, beq_false_of_ne other']
  · rw [Json.find?_mergePatch_ofFields _ (by simp)]
    simp [List.lookup_cons, Json.patched_of_ne_null, Json.mergePatch_arr, readOptional, list?_arr_self string?_str]
  · rw [Json.find?_mergePatch_ofFields _ (by simp)]
    cases m.resourceVersion <;> simp [Json.patched, Json.mergePatch, readOptional]

/-- What follows on a value that was read. -/
def resume {α β : Type} (next : α → Exchange β) : Except HubError α → Program Wire Wire.Answer (Except HubError β)
  | .error err => .done (.error err)
  | .ok a => (next a).run

/-- A request is one query, unless it cannot be sent. -/
theorem run_request {α β : Type} (q : Request) (read? : Json.Written → Option α) (next : α → Exchange β) :
    (request q read? >>= next).run = match q.uri with
      | .error cause => .done (.error (.ofApi (.unsendable cause)))
      | .ok _ => .ask (.send q) fun r => resume next (r.read read?) := by
  rw [ExceptT.run_bind, request]
  cases q.uri with
  | error cause => rfl
  | ok uri =>
    refine congrArg (Program.ask (Wire.send q)) (funext fun r => ?_)
    change Program.bind (MonadExcept.ofExcept (r.read read?) : Exchange α).run _ = _
    cases r.read read? <;> rfl

theorem run_debug {α : Type} (message : String) (next : Exchange α) :
    (debug message >>= fun _ => next).run = .ask (.log ⟨.debug, message⟩) fun _ => next.run := rfl

end Exchange

/-! ### Calls -/

/-- A change to the finalizers of a deployment. -/
inductive Edit where
  | add (finalizer : String)
  | remove (finalizer : String)
  deriving DecidableEq, Repr

namespace Edit

def exchange (key : Key) : Edit → Exchange Unit
  | add finalizer => Exchange.addFinalizer key finalizer
  | remove finalizer => Exchange.removeFinalizer key finalizer

def IsDone : Edit → List String → Prop
  | add finalizer, fs => finalizer ∈ fs
  | remove finalizer, fs => finalizer ∉ fs

instance (e : Edit) (fs : List String) : Decidable (e.IsDone fs) :=
  match e with
  | add finalizer => inferInstanceAs (Decidable (finalizer ∈ fs))
  | remove finalizer => inferInstanceAs (Decidable (finalizer ∉ fs))

def apply : Edit → List String → List String
  | add finalizer, fs => fs ++ [finalizer]
  | remove finalizer, fs => fs.filter fun f => f ≠ finalizer

/-- What the log is told of it. -/
def notice (key : Key) : Edit → String
  | add finalizer => "Adding finalizer " ++ finalizer ++ " to HypershiftDeployment " ++ key.text
  | remove finalizer => "Removing finalizer " ++ finalizer ++ " from HypershiftDeployment " ++ key.text

def look (key : Key) : Request := ⟨.get, Exchange.address .deployments key, none⟩

/-- The request that writes the finalizers of a deployment as it was read. -/
def write (e : Edit) (key : Key) (d : Deployment) : Request :=
  ⟨.patch, Exchange.address .deployments key,
    some (Exchange.finalizersPatch d.metadata (e.apply (d.metadata.finalizers.getD [])))⟩

/-- What a call does when it has to write. -/
def writing (e : Edit) (key : Key) (d : Deployment) : Exchange Unit :=
  Exchange.patchDeployment (Exchange.address .deployments key)
    (Exchange.finalizersPatch d.metadata (e.apply (d.metadata.finalizers.getD [])))

/-- What a call does when it has read the deployment. -/
def deciding (e : Edit) (key : Key) (d : Deployment) : Exchange Unit :=
  if e.IsDone (d.metadata.finalizers.getD []) then pure ()
  else do
    Exchange.debug (e.notice key)
    e.writing key d

theorem deciding_of_isDone {e : Edit} {key : Key} {d : Deployment} (done : e.IsDone (d.metadata.finalizers.getD [])) :
    e.deciding key d = pure () := if_pos done

theorem deciding_of_not_isDone {e : Edit} {key : Key} {d : Deployment}
    (wanting : ¬ e.IsDone (d.metadata.finalizers.getD [])) :
    e.deciding key d = Exchange.debug (e.notice key) >>= fun _ => e.writing key d := if_neg wanting

/-- Both calls read the deployment, and write unless there is nothing to change. -/
theorem exchange_eq (e : Edit) (key : Key) :
    e.exchange key = Exchange.request (look key) Deployment.read? >>= e.deciding key := by
  cases e with
  | add finalizer =>
    refine congrArg (Exchange.request (look key) Deployment.read? >>= ·) (funext fun d => ?_)
    by_cases present : finalizer ∈ d.metadata.finalizers.getD []
    · have done : (add finalizer).IsDone (d.metadata.finalizers.getD []) := present
      exact (if_pos present).trans (deciding_of_isDone done).symm
    · have wanting : ¬ (add finalizer).IsDone (d.metadata.finalizers.getD []) := present
      rw [deciding_of_not_isDone wanting, writing, if_neg present, Finalizers.add, if_neg present]
      rfl
  | remove finalizer =>
    refine congrArg (Exchange.request (look key) Deployment.read? >>= ·) (funext fun d => ?_)
    by_cases present : finalizer ∈ d.metadata.finalizers.getD []
    · have wanting : ¬ (remove finalizer).IsDone (d.metadata.finalizers.getD []) := not_not.mpr present
      exact (if_neg wanting).trans (deciding_of_not_isDone wanting).symm
    · have done : (remove finalizer).IsDone (d.metadata.finalizers.getD []) := present
      exact (if_pos done).trans (deciding_of_isDone done).symm

/-- What a call ends in once its write is answered. -/
def outcome (r : Response) : Except HubError Unit := (r.read Deployment.read?).map fun _ => ()

/-- A write that is refused with a conflict is an error of the server. -/
theorem outcome_conflict {r : Response} (refused : r.isRefusal) (code : r.refusal.code = 409)
    (reason : r.refusal.reason = "Conflict") : outcome r = .error (.server (.refused r.refusal)) := by
  have kind : HubError.ofApi (.refused r.refusal) = .server (.refused r.refusal) := by
    simp [HubError.ofApi, code, reason]
  rw [outcome, Response.read, if_pos refused, kind]
  rfl

theorem run_writing (e : Edit) (key : Key) (d : Deployment) :
    (e.writing key d).run = match (e.write key d).uri with
      | .error cause => .done (.error (.ofApi (.unsendable cause)))
      | .ok _ => .ask (.send (e.write key d)) fun r => .done (outcome r) := by
  rw [writing, Exchange.patchDeployment, Exchange.run_request, write]
  split
  · rfl
  · refine congrArg (Program.ask (Wire.send _)) (funext fun r => ?_)
    simp only [outcome]
    cases r.read Deployment.read? <;> rfl

theorem run_exchange (e : Edit) (key : Key) :
    (e.exchange key).run = match (look key).uri with
      | .error cause => .done (.error (.ofApi (.unsendable cause)))
      | .ok _ => .ask (.send (look key)) fun r => Exchange.resume (e.deciding key) (r.read Deployment.read?) := by
  rw [exchange_eq, Exchange.run_request]

/-- What is left of a call all of whose requests can be sent. -/
def plainly (e : Edit) (key : Key) : Program Wire Wire.Answer (Except HubError Unit) :=
  .ask (.send (look key)) fun r => match r.read Deployment.read? with
    | .error err => .done (.error err)
    | .ok d =>
      if e.IsDone (d.metadata.finalizers.getD []) then .done (.ok ())
      else .ask (.log ⟨.debug, e.notice key⟩) fun _ => .ask (.send (e.write key d)) fun r => .done (outcome r)

theorem run_exchange_plainly {e : Edit} {key : Key} (looks : ∃ uri, (look key).uri = .ok uri)
    (writes : ∀ d, ∃ uri, (e.write key d).uri = .ok uri) : (e.exchange key).run = e.plainly key := by
  obtain ⟨uri, sendable⟩ := looks
  rw [run_exchange, sendable, plainly]
  refine congrArg (Program.ask (Wire.send _)) (funext fun r => ?_)
  cases r.read Deployment.read? with
  | error err => rfl
  | ok d =>
    obtain ⟨uri, sendable⟩ := writes d
    by_cases done : e.IsDone (d.metadata.finalizers.getD [])
    · rw [Exchange.resume, deciding_of_isDone done]
      exact (if_pos done).symm
    · rw [Exchange.resume, deciding_of_not_isDone done, Exchange.run_debug, run_writing, sendable]
      exact (if_neg done).symm

/-! ### Stages of a call -/

/-- The request that a query sends, with its answer. -/
def sent : (w : Wire) → w.Answer → List (Request × Response)
  | .send q, r => [(q, r)]
  | .clock, _ => []
  | .log _, _ => []

/-- A stage of a call: what is left of it after the requests that it has sent, each with its answer. -/
inductive Stage (e : Edit) (key : Key) :
    List (Request × Response) → Program Wire Wire.Answer (Except HubError Unit) → Prop
  | start : Stage e key [] (e.exchange key).run
  /-- It has ended in an error before it could write. -/
  | failed {past : List (Request × Response)} (unwritten : past = [] ∨ ∃ r, past = [(look key, r)]) (err : HubError) :
      Stage e key past (.done (.error err))
  /-- It has found nothing to change. -/
  | content {r : Response} {d : Deployment} (reads : r.read Deployment.read? = .ok d)
      (done : e.IsDone (d.metadata.finalizers.getD [])) : Stage e key [(look key, r)] (.done (.ok ()))
  /-- It has something to change, and is about to tell the log. -/
  | due {r : Response} {d : Deployment} (reads : r.read Deployment.read? = .ok d)
      (wanting : ¬ e.IsDone (d.metadata.finalizers.getD [])) :
      Stage e key [(look key, r)] (.ask (.log ⟨.debug, e.notice key⟩) fun _ => (e.writing key d).run)
  /-- It is about to write. -/
  | ready {r : Response} {d : Deployment} (reads : r.read Deployment.read? = .ok d)
      (wanting : ¬ e.IsDone (d.metadata.finalizers.getD [])) : Stage e key [(look key, r)] (e.writing key d).run
  /-- Its write was answered. -/
  | written (r r' : Response) (d : Deployment) :
      Stage e key [(look key, r), (e.write key d, r')] (.done (outcome r'))

namespace Stage
variable {e : Edit} {key : Key} {past : List (Request × Response)}
variable {rest : Program Wire Wire.Answer (Except HubError Unit)}

theorem of_look (e : Edit) (key : Key) (r : Response) :
    Stage e key [(look key, r)] (Exchange.resume (e.deciding key) (r.read Deployment.read?)) := by
  cases reads : r.read Deployment.read? with
  | error err => exact .failed (.inr ⟨r, rfl⟩) err
  | ok d =>
    by_cases done : e.IsDone (d.metadata.finalizers.getD [])
    · rw [Exchange.resume, deciding_of_isDone done]
      exact .content reads done
    · rw [Exchange.resume, deciding_of_not_isDone done]
      exact .due reads done

theorem answered {w : Wire} {next : w.Answer → Program Wire Wire.Answer (Except HubError Unit)}
    (stage : Stage e key past (.ask w next)) (answer : w.Answer) :
    Stage e key (past ++ sent w answer) (next answer) := by
  generalize left : Program.ask w next = rest at stage
  cases stage with
  | start =>
    rw [run_exchange] at left
    split at left
    · cases left
    · cases left
      exact of_look e key answer
  | failed | content | written => cases left
  | due reads wanting =>
    cases left
    exact .ready reads wanting
  | ready reads wanting =>
    rw [run_writing] at left
    split at left
    · cases left
    · cases left
      exact .written _ _ _

/-- A call reads the deployment first, and writes only what it has found to be different. -/
theorem sends {q : Request} {next : (Wire.send q).Answer → Program Wire Wire.Answer (Except HubError Unit)}
    (stage : Stage e key past (.ask (.send q) next)) : past = [] ∧ q = look key ∨
      ∃ r d, past = [(look key, r)] ∧ r.read Deployment.read? = .ok d ∧
        ¬ e.IsDone (d.metadata.finalizers.getD []) ∧ q = e.write key d := by
  generalize left : Program.ask (Wire.send q) next = rest at stage
  cases stage with
  | start =>
    rw [run_exchange] at left
    split at left
    · cases left
    · cases left
      exact .inl ⟨rfl, rfl⟩
  | failed | content | due | written => cases left
  | @ready r d reads wanting =>
    rw [run_writing] at left
    split at left
    · cases left
    · cases left
      exact .inr ⟨r, d, rfl, reads, wanting, rfl⟩

/-- Once a call has written, all that is left of it is its outcome. -/
theorem ends {q : Request} {r' : Response} (stage : Stage e key past rest) (made : (q, r') ∈ past)
    (isPatch : q.method = .patch) :
    ∃ r d, past = [(look key, r), (q, r')] ∧ q = e.write key d ∧ rest = .done (outcome r') := by
  cases stage with
  | start => cases made
  | failed unwritten =>
    obtain rfl | ⟨r, rfl⟩ := unwritten
    · cases made
    · obtain ⟨rfl, -⟩ := Prod.mk.inj (List.mem_singleton.mp made)
      cases isPatch
  | content | due | ready =>
    obtain ⟨rfl, -⟩ := Prod.mk.inj (List.mem_singleton.mp made)
    cases isPatch
  | written r r'' d =>
    obtain first | second := List.mem_cons.mp made
    · obtain ⟨rfl, -⟩ := Prod.mk.inj first
      cases isPatch
    · obtain ⟨rfl, rfl⟩ := Prod.mk.inj (List.mem_singleton.mp second)
      exact ⟨r, d, rfl, rfl, rfl⟩

/-- A call that has succeeded without a write has found nothing to change. -/
theorem found (stage : Stage e key past (.done (.ok ()))) (unwritten : ∀ x ∈ past, x.1.method ≠ .patch) :
    ∃ r d, (look key, r) ∈ past ∧ r.read Deployment.read? = .ok d ∧ e.IsDone (d.metadata.finalizers.getD []) := by
  generalize left : Program.done (Except.ok ()) = rest at stage
  cases stage with
  | start =>
    rw [run_exchange] at left
    split at left <;> cases left
  | failed | due => cases left
  | @content r d reads done => exact ⟨r, d, List.mem_singleton.mpr rfl, reads, done⟩
  | ready =>
    rw [run_writing] at left
    split at left <;> cases left
  | written r r' d => exact absurd rfl (unwritten (e.write key d, r') (by simp))

end Stage
end Edit

end HostedDelivery
