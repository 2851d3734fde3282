import HostedDelivery.Text

/-!
# Errors

Errors pass through three layers. A request to the API server fails because it cannot be sent, because the server
refuses it, or because its answer cannot be read (`ApiError`). Of the refusals `HubError.ofApi` tells those two from all
others that callers of the hub act on: that an object is absent and that it is there already. A `PassError` is why the
controller could not do its work; only an invalid spec is permanent, since nothing but an edit of the deployment can
help it.
-/

namespace HostedDelivery

/-! ### The API server -/

/-- Why a request cannot be sent. -/
inductive UnsendableCause where
  /-- It is about an object without a name. -/
  | nameless
  /-- A character of the target would have to be escaped. -/
  | invalidCharacter
  | tooLong
  deriving DecidableEq, Repr, Inhabited

/-- The wording of a cause. -/
def UnsendableCause.text : UnsendableCause → String
  | .nameless => "failed to validate request: A non-empty name is required"
  | .invalidCharacter => "failed to build request: invalid uri character"
  | .tooLong => "failed to build request: uri too long"

/-- A request that the API server refused, in the words of its answer. -/
structure Refusal where
  status : String
  message : String
  reason : String
  code : Nat
  deriving DecidableEq, Repr, Inhabited

namespace Refusal

/-- The refusal with all its fields. -/
def text (r : Refusal) : String :=
  "ApiError: " ++ r.message ++ ": " ++ r.reason ++ " (ErrorResponse \x7b status: " ++ Text.quoted r.status
    ++ ", message: " ++ Text.quoted r.message ++ ", reason: " ++ Text.quoted r.reason ++ ", code: "
    ++ toString r.code ++ " \x7d)"

end Refusal

/-- Why a request to the API server failed. -/
inductive ApiError where
  /-- The server refused it. -/
  | refused (refusal : Refusal)
  /-- The answer could not be read. -/
  | unreadable
  /-- It could not be sent. -/
  | unsendable (cause : UnsendableCause)
  /-- No cluster is configured. -/
  | unconfigured
  deriving DecidableEq, Repr, Inhabited

namespace ApiError

/-- The wording of an error in a line of the log. -/
def text : ApiError → String
  | .refused r => r.text
  | .unreadable => "Error deserializing response"
  | .unsendable cause => "Failed to build request: " ++ cause.text
  | .unconfigured => "Failed to infer configuration"

/-- Whether the wording is part of the answer to a call. -/
def isWorded : ApiError → Bool
  | .refused _ => true
  | _ => false

end ApiError

/-! ### The hub -/

/-- Why a call to the hub failed. -/
inductive HubError where
  /-- The request to the API server failed. -/
  | server (cause : ApiError)
  /-- The hub refused, for a reason that it gives in words. -/
  | api (message : String)
  /-- An object could not be read back from its JSON form. -/
  | serialization
  | notFound (message : String)
  | alreadyExists (message : String)
  | invalidRequest (message : String)
  deriving DecidableEq, Repr, Inhabited

namespace HubError

/-- Whether the object that was asked for does not exist. -/
def isNotFound : HubError → Bool
  | .notFound _ => true
  | _ => false

/-- The error of a call whose request failed. -/
def ofApi : ApiError → HubError
  | .refused r =>
    if r.code = 404 then .notFound r.message
    else if r.code = 409 ∧ r.reason = "AlreadyExists" then .alreadyExists r.message
    else .server (.refused r)
  | cause => .server cause

/-- The wording of an error in a line of the log. -/
def text : HubError → String
  | .server cause => "Kubernetes error: " ++ cause.text
  | .api m => "Hub API error: " ++ m
  | .serialization => "Serialization error"
  | .notFound m => "Not found: " ++ m
  | .alreadyExists m => "Already exists: " ++ m
  | .invalidRequest m => "Invalid request: " ++ m

/-- Whether the wording is part of the answer to a call. -/
def isWorded : HubError → Bool
  | .server cause => cause.isWorded
  | .serialization => false
  | _ => true

/-- The wording of an error in the answer to a call, if it is part of it. -/
def message? (e : HubError) : Option String := if e.isWorded then some e.text else none

end HubError

/-! ### The controller -/

/-- Why the controller could not do its work. -/
inductive PassError where
  /-- No bundle can be built from the deployment as it is written. -/
  | invalidSpec (message : String)
  /-- The pull secret that the deployment refers to does not exist. -/
  | pullSecretNotFound (message : String)
  /-- Something could not be read from the hub. -/
  | fetch (what : String) (source : HubError)
  /-- Something could not be done on the hub. -/
  | store (action : String) (source : HubError)
  /-- The status of a deployment could not be patched. -/
  | statusPatch (resource : String) (source : HubError)
  /-- A manifest could not be written as JSON. -/
  | serialization
  /-- A request to the API server failed. -/
  | server (cause : ApiError)
  | invalidConfig (message : String)
  | watch (message : String)
  deriving DecidableEq, Repr, Inhabited

namespace PassError

/-- Whether trying again is of no use until the spec of the deployment changes. -/
def isPermanent : PassError → Bool
  | .invalidSpec _ => true
  | _ => false

/-- The hub error behind the error. -/
def source? : PassError → Option HubError
  | .fetch _ source | .store _ source | .statusPatch _ source => some source
  | _ => none

/-- The wording of an error in a line of the log. -/
def text : PassError → String
  | .invalidSpec m => "Invalid HypershiftDeployment spec: " ++ m
  | .pullSecretNotFound m => "Pull secret not found: " ++ m
  | .fetch what source => "Failed to fetch " ++ what ++ ": " ++ source.text
  | .store action source => "Failed to " ++ action ++ ": " ++ source.text
  | .statusPatch resource source =>
    "Failed to patch status of HypershiftDeployment " ++ resource ++ ": " ++ source.text
  | .serialization => "Failed to serialize manifest"
  | .server cause => "Kubernetes error: " ++ cause.text
  | .invalidConfig m => "Invalid configuration: " ++ m
  | .watch m => "Resource watch failed: " ++ m

/-- Whether the wording is part of the outcome of a pass. -/
def isWorded : PassError → Bool
  | .fetch _ source | .store _ source | .statusPatch _ source => source.isWorded
  | .serialization => false
  | .server cause => cause.isWorded
  | _ => true

/-- The wording of an error in the outcome of a pass, if it is part of it. -/
def message? (e : PassError) : Option String := if e.isWorded then some e.text else none

end PassError

end HostedDelivery
