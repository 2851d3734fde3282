import HostedDelivery.Json.MergePatch
import HostedDelivery.Json.Record
import HostedDelivery.Time

/-!
# Conditions

A condition is a typed observation on an object: whether something holds, with a reason and a message, and since
when. A status is a list of them. Looking one up by type gives the first of that type.

A condition that is reported replaces the first one of its type, or comes last (`Condition.merge`). What has to be
written to bring a stored status to the one that is wanted is nothing when it is there already, or else a merge patch,
in which lists are replaced whole (`Status.patch?`).
-/

namespace HostedDelivery

/-- Whether a condition holds. -/
inductive Truth where
  | true
  | false
  | unknown
  deriving DecidableEq, Repr, Inhabited

namespace Truth

/-- The word for it. -/
def word : Truth → String
  | .true => "True"
  | .false => "False"
  | .unknown => "Unknown"

/-- The meaning of a word. -/
def ofWord? (s : String) : Option Truth :=
  if s = "True" then some .true
  else if s = "False" then some .false
  else if s = "Unknown" then some .unknown
  else none

def toJson (t : Truth) : Json := .str t.word

def read? (w : Json.Written) : Option Truth := w.case?.bind ofWord?

def ofJson? (v : Json) : Option Truth := read? (.known v)

end Truth

/-- A typed observation on an object. -/
structure Condition where
  type : String
  status : Truth
  reason : String
  message : String
  /-- When the status last changed, if that is known. -/
  lastTransitionTime : Option Time
  deriving DecidableEq, Repr, Inhabited

namespace Condition

/-- The first condition of a type. -/
def find? (conditions : List Condition) (type : String) : Option Condition :=
  conditions.find? fun c => c.type = type

def toJson (c : Condition) : Json :=
  .ofFields [
    ("type", some (.str c.type)),
    ("status", some c.status.toJson),
    ("reason", some (.str c.reason)),
    ("message", some (.str c.message)),
    ("lastTransitionTime", c.lastTransitionTime.map fun t => .str t.text)]

def read? (w : Json.Written) : Option Condition := do
  let r ← w.record? ["type", "status", "reason", "message", "lastTransitionTime"] 0
  return {
    type := ← r.required "type" Json.Written.string?
    status := ← r.required "status" Truth.read?
    reason := ← r.defaulted "reason" "" Json.Written.string?
    message := ← r.defaulted "message" "" Json.Written.string?
    lastTransitionTime := ← r.optional "lastTransitionTime" fun t => t.string?.bind Time.parse? }

def ofJson? (v : Json) : Option Condition := read? (.known v)

end Condition

/-- The conditions reported on an object. -/
structure Status where
  conditions : List Condition := []
  deriving DecidableEq, Repr, Inhabited

namespace Status

def toJson (s : Status) : Json :=
  .ofFields [("conditions", some (.arr (s.conditions.map Condition.toJson)))]

def read? (w : Json.Written) : Option Status := do
  let r ← w.record? ["conditions"] 0
  return { conditions := ← r.defaulted "conditions" [] (Json.Written.list? Condition.read?) }

def ofJson? (v : Json) : Option Status := read? (.known v)

end Status

/-! ### Merging conditions

The time of the last transition moves only when the status does: then it becomes the reported time, or else the time of
the clock. -/

namespace Condition

/-- A condition that has not been stamped. -/
def unstamped (type : String) (status : Truth) (reason message : String) : Condition :=
  ⟨type, status, reason, message, none⟩

/-- What becomes of a condition when another of its type is reported at the time `now`. -/
def updated (existing reported : Condition) (now : Time) : Condition where
  type := existing.type
  status := reported.status
  reason := reported.reason
  message := reported.message
  lastTransitionTime :=
    if existing.status = reported.status then existing.lastTransitionTime <|> reported.lastTransitionTime
    else some (reported.lastTransitionTime.getD now)

/-- The conditions after one is reported at the time `now`. -/
def upsert (now : Time) : List Condition → Condition → List Condition
  | [], reported => [{ reported with lastTransitionTime := some (reported.lastTransitionTime.getD now) }]
  | c :: rest, reported =>
    if c.type = reported.type then c.updated reported now :: rest else c :: upsert now rest reported

/-- The conditions after several are reported, each at its own time. -/
def merge (conditions : List Condition) (reported : List (Time × Condition)) : List Condition :=
  reported.foldl (fun cs report => upsert report.1 cs report.2) conditions

end Condition

/-! ### Status patches -/

/-- The merge patch from the stored status to the one that is wanted. -/
def Status.patch? (current : Option Status) (desired : Status) : Option Json :=
  (Json.mergePatchDelta (current.elim (.obj []) Status.toJson) desired.toJson).map fun delta =>
    .ofFields [("status", some delta)]

end HostedDelivery
