import HostedDelivery.Error
import HostedDelivery.Metadata

/-!
# Requests to the API server

A request reads or writes one object, or creates one in a collection. Where it goes follows from the resource, the
namespace and the name. Every write says who makes it when an object is stored whole.
-/

namespace HostedDelivery

/-! ### Request targets

The path and query of a request, as they may stand in an HTTP request line. Nothing is escaped: a target is either
fit to be sent as it is or not at all, and what follows a `#` is not sent. -/

namespace Uri

/-- The number of octets that a target may have. -/
def maxLength : Nat := 65534

/-- Whether a character may stand in a path. -/
def isPathChar (c : Char) : Bool :=
  let n := c.toNat
  n = 0x21 || n = 0x22 || (0x24 ≤ n && n ≤ 0x3B) || n = 0x3D || (0x40 ≤ n && n ≤ 0x5F) || (0x61 ≤ n && n ≠ 0x7F)

/-- Whether a character may stand in a query. -/
def isQueryChar (c : Char) : Bool :=
  let n := c.toNat
  n = 0x21 || (0x24 ≤ n && n ≤ 0x3B) || n = 0x3D || (0x3F ≤ n && n ≠ 0x7F)

/-- What is sent of a target, if it can be sent. -/
def ofTarget (target : String) : Except UnsendableCause String :=
  let sent := target.toList.takeWhile fun c => c ≠ '#'
  let path := sent.takeWhile fun c => c ≠ '?'
  let query := (sent.dropWhile fun c => c ≠ '?').drop 1
  if maxLength < target.utf8ByteSize then .error .tooLong
  else if path.all isPathChar && query.all isQueryChar then .ok (String.ofList sent)
  else .error .invalidCharacter

end Uri

/-! ### Requests -/

/-- The kinds of objects that the API server holds. -/
inductive Resource where
  | deployments
  | works
  | secrets
  deriving DecidableEq, Repr, Inhabited

namespace Resource

/-- All kinds of objects. -/
def all : List Resource := [.deployments, .works, .secrets]

/-- The word for a collection of objects. -/
def plural : Resource → String
  | .deployments => "hypershiftdeployments"
  | .works => "manifestworks"
  | .secrets => "secrets"

/-- The kind of objects that a word stands for. -/
def ofPlural? (s : String) : Option Resource := all.find? fun r => r.plural = s

/-- Where the namespaces of a kind of objects begin. -/
def root : Resource → String
  | .deployments => "/apis/cluster.open-cluster-management.io/v1alpha1"
  | .works => "/apis/work.open-cluster-management.io/v1"
  | .secrets => "/api/v1"

end Resource

/-- What a request does. -/
inductive Method where
  | get
  | post
  | put
  | patch
  | delete
  deriving DecidableEq, Repr, Inhabited

namespace Method

/-- The word for a method. -/
def word : Method → String
  | .get => "GET"
  | .post => "POST"
  | .put => "PUT"
  | .patch => "PATCH"
  | .delete => "DELETE"

end Method

/-- What a request is about. -/
structure Address where
  resource : Resource
  namespace_ : String
  /-- None for the collection in the namespace. -/
  name : Option String
  /-- Whether only the status is meant. -/
  ofStatus : Bool := false
  deriving DecidableEq, Repr, Inhabited

namespace Address

/-- The path of an address. -/
def path (a : Address) : String :=
  a.resource.root ++ "/namespaces/" ++ a.namespace_ ++ "/" ++ a.resource.plural
    ++ (a.name.elim "" fun name => "/" ++ name) ++ (if a.ofStatus then "/status" else "")

end Address

/-- A request to the API server. -/
structure Request where
  method : Method
  address : Address
  body : Option Json
  deriving DecidableEq, Repr, Inhabited

namespace Request

/-- Who makes a write. -/
def fieldManager : String := "hypershift-deployment-controller"

/-- What follows the path. -/
def query (r : Request) : String :=
  match r.method with
  | .get => ""
  | .post | .put => "?&fieldManager=" ++ fieldManager
  | .patch | .delete => "?"

/-- Path and query. -/
def target (r : Request) : String := r.address.path ++ r.query

/-- Path and query as they are sent. A request about an object without a name cannot be sent. -/
def uri (r : Request) : Except UnsendableCause String :=
  if r.address.name = some "" then .error .nameless else Uri.ofTarget r.target

/-- The media type of the body, if there is one. -/
def contentType? (r : Request) : Option String :=
  r.body.map fun _ => match r.method with
    | .patch => "application/merge-patch+json"
    | _ => "application/json"

end Request

end HostedDelivery
