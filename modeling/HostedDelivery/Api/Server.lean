import HostedDelivery.Api.Request
import HostedDelivery.Api.Response
import HostedDelivery.Json.MergePatch
import HostedDelivery.Text

/-!
# A simulated API server

Holds objects as they were sent and gives each the next number of one counter as its version whenever it is written.
A patch that names another version than the stored one is refused. A deployment that waits to be removed goes as soon
as no finalizer holds it. Whoever watches is told of every change. The server finds the object of a request by the path
that was sent; `Server.serve` is a request to an object that is found already.
-/

namespace HostedDelivery

/-- Objects by namespace and name. -/
abbrev Shelf := Dict (Dict Json)

namespace Shelf

/-- The object under a key. -/
def find? (s : Shelf) (key : Key) : Option Json := (Dict.find? s key.namespace_).bind fun d => Dict.find? d key.name

/-- The shelf with an object under a key. -/
def put (s : Shelf) (key : Key) (object : Json) : Shelf :=
  Dict.insert s key.namespace_ (Dict.insert ((Dict.find? s key.namespace_).getD []) key.name object)

/-- The shelf without the object under a key. -/
def drop (s : Shelf) (key : Key) : Shelf :=
  match Dict.find? s key.namespace_ with
  | none => s
  | some d => Dict.insert s key.namespace_ (Dict.erase d key.name)

/-- All objects, by namespace and then by name. -/
def objects (s : Shelf) : List Json := s.flatMap fun d => d.2.map (·.2)

theorem find?_put (s : Shelf) (key : Key) (object : Json) (k : Key) :
    (s.put key object).find? k = if key = k then some object else s.find? k := by
  obtain ⟨ns, name⟩ := key
  obtain ⟨ns', name'⟩ := k
  simp only [find?, put, Dict.find?_insert, Key.mk.injEq]
  by_cases here : ns = ns'
  · subst here
    cases found : Dict.find? s ns <;> simp [Dict.find?_insert]
  · simp [here]

theorem find?_drop (s : Shelf) (key k : Key) :
    (s.drop key).find? k = if key = k then none else s.find? k := by
  obtain ⟨ns, name⟩ := key
  obtain ⟨ns', name'⟩ := k
  simp only [find?, drop, Key.mk.injEq]
  by_cases here : ns = ns'
  · subst here
    cases found : Dict.find? s ns <;> simp [found, Dict.find?_insert, Dict.find?_erase]
  · cases found : Dict.find? s ns <;> simp [here, Dict.find?_insert]

end Shelf

/-- Something that whoever watches is told: an object as it was stored or removed. -/
structure Notice where
  /-- The collection it belongs to. -/
  collection : String
  object : Json
  removed : Bool
  deriving DecidableEq, Repr, Inhabited

/-- Requests that are refused: those with a method to a collection. -/
structure Fault where
  method : String
  collection : String
  code : Nat
  deriving DecidableEq, Repr, Inhabited

/-- A simulated API server. -/
structure Server where
  /-- The objects of every collection. -/
  shelves : String → Shelf := fun _ => []
  /-- The last number given out. -/
  version : Nat := 0
  /-- Requests that are refused, oldest first. -/
  faults : List Fault := []
  /-- What was told so far, in order. -/
  notices : List Notice := []

namespace Server

/-! ### Objects -/

/-- The object under a key. -/
def find? (s : Server) (c : String) (key : Key) : Option Json := (s.shelves c).find? key

/-- The object with a version. -/
def versioned (object : Json) (version : Nat) : Json :=
  object.mergePatch (.ofFields [("metadata", some (.ofFields [("resourceVersion", some (.str (toString version)))]))])

/-- Whether an object waits to be removed. -/
def isDeleting (object : Json) : Bool :=
  match object.at? ["metadata", "deletionTimestamp"] with
  | none | some .null => false
  | some _ => true

/-- Whether a finalizer holds an object back. -/
def isHeld (object : Json) : Bool :=
  match object.at? ["metadata", "finalizers"] with
  | some (.arr (_ :: _)) => true
  | _ => false

/-- Whether nothing keeps an object from going. -/
def isReleased (c : String) (object : Json) : Bool :=
  c = Resource.deployments.plural && isDeleting object && !isHeld object

/-- The server with a shelf changed and the next version given out. -/
def change (s : Server) (c : String) (edit : Shelf → Shelf) (notice : Notice) : Server :=
  { s with
    shelves := fun c' => if c' = c then edit (s.shelves c) else s.shelves c'
    version := s.version + 1
    notices := s.notices ++ [notice] }

/-- The server without an object. -/
def remove (s : Server) (c : String) (key : Key) : Server :=
  match s.find? c key with
  | none => s
  | some object => s.change c (·.drop key) ⟨c, object, true⟩

/-- An object as it is stored next. -/
def stamped (s : Server) (object : Json) : Json := versioned object (s.version + 1)

/-- The server with an object stored, or gone if nothing keeps it. -/
def store (s : Server) (c : String) (key : Key) (object : Json) : Server :=
  if isReleased c object then s.change c (·.drop key) ⟨c, s.stamped object, true⟩
  else s.change c (·.put key (s.stamped object)) ⟨c, s.stamped object, false⟩

/-- The key that an object names itself. -/
def keyOf (object : Json) : Key :=
  let field (name : String) : String := ((object.at? ["metadata", name]).bind Json.string?).getD ""
  ⟨field "namespace", field "name"⟩

/-- An object that waits to be removed from now on. -/
def marked (object : Json) : Json :=
  object.mergePatch (.ofFields [("metadata",
    some (.ofFields [("deletionTimestamp", some (.str "2024-01-01T00:00:00Z"))]))])

/-- The server after an object was asked to go, the first time. -/
def delete (s : Server) (c : String) (key : Key) : Server :=
  match s.find? c key with
  | none => s
  | some object => if isDeleting object then s else s.store c key (marked object)

/-- The server with a patch merged into an object. -/
def patch (s : Server) (c : String) (key : Key) (patch : Json) : Server :=
  match s.find? c key with
  | none => s
  | some object => s.store c key (object.mergePatch patch)

/-! ### Requests -/

/-- An answer that holds an object. -/
def answer (status : Nat) (object : Json) : Response := ⟨status, .json object⟩

/-- An answer that refuses a request. -/
def refuse (code : Nat) (reason message : String) : Response :=
  answer code (.ofFields [
    ("kind", some (.str "Status")),
    ("apiVersion", some (.str "v1")),
    ("status", some (.str "Failure")),
    ("reason", some (.str reason)),
    ("message", some (.str message)),
    ("code", some (.int code))])

/-- The code that requests of a kind are refused with at the moment. -/
def faultCode? (s : Server) (m : Method) (c : String) : Option Nat :=
  (s.faults.find? fun f => f.method = m.word ∧ f.collection = c).map (·.code)

/-- The version that a patch names, if it names one. -/
def patchVersion? (patch : Json) : Option String :=
  (patch.at? ["metadata", "resourceVersion"]).bind Json.string?

/-- Whether a patch was made for another version of an object. -/
def conflicts (object patch : Json) : Bool :=
  match patchVersion? patch with
  | none => false
  | some version => patchVersion? object ≠ some version

/-- The answer to a request about the object under a key, and the server after it. -/
def serve (s : Server) (m : Method) (c : String) (key : Key) (body : Json) : Response × Server :=
  let name := c ++ " " ++ key.text
  match s.faultCode? m c with
  | some code => (refuse code "Injected" (m.word ++ " " ++ c ++ " refused"), s)
  | none =>
    match m, s.find? c key with
    | .post, some _ => (refuse 409 "AlreadyExists" (name ++ " already exists"), s)
    | .post, none => (answer 201 (s.stamped body), s.store c key body)
    | _, none => (refuse 404 "NotFound" (name ++ " not found"), s)
    | .get, some object => (answer 200 object, s)
    | .delete, some object =>
      if isDeleting object then (answer 200 object, s)
      else (answer 200 (s.stamped (marked object)), s.store c key (marked object))
    | .put, some _ => (answer 200 (s.stamped body), s.store c key body)
    | .patch, some object =>
      if conflicts object body then (refuse 409 "Conflict" (name ++ " was modified"), s)
      else (answer 200 (s.stamped (object.mergePatch body)), s.store c key (object.mergePatch body))

/-- What the path of a target names: a namespace, a collection in it, and perhaps an object of the collection. Parts
that are missing count as empty, and what follows the object is left alone. -/
def placeOf (target : String) : String × String × Option String :=
  let path := target.toList.takeWhile fun c => c ≠ '?'
  let steps := ((Text.parts '/' path).map String.ofList).dropWhile fun step => step ≠ "namespaces"
  (steps[1]?.getD "", steps[2]?.getD "", steps[3]?)

/-- The answer to a request and the server after it. A new object is stored under the name that it has itself. -/
def handle (s : Server) (q : Request) : Response × Server :=
  let (ns, collection, name?) := placeOf (q.uri.toOption.getD "")
  let body := q.body.getD .null
  s.serve q.method collection ⟨ns, name?.getD (keyOf body).name⟩ body

end Server
end HostedDelivery
