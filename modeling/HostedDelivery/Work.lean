import HostedDelivery.Condition
import HostedDelivery.Metadata

/-!
# Bundles of manifests

A work is a bundle of manifests for a managed cluster, stored on the hub in that cluster's namespace. An agent
applies the manifests there and reports conditions.
-/

namespace HostedDelivery

/-- What happens to applied resources when the bundle is deleted. -/
inductive Propagation where
  /-- They are deleted with it. -/
  | foreground
  /-- They stay. -/
  | orphan
  /-- Some of them stay. -/
  | selectivelyOrphan
  deriving DecidableEq, Repr, Inhabited

namespace Propagation

def word : Propagation → String
  | .foreground => "Foreground"
  | .orphan => "Orphan"
  | .selectivelyOrphan => "SelectivelyOrphan"

def ofWord? (s : String) : Option Propagation :=
  if s = "Foreground" then some .foreground
  else if s = "Orphan" then some .orphan
  else if s = "SelectivelyOrphan" then some .selectivelyOrphan
  else none

def toJson (x : Propagation) : Json := .str x.word

def read? (w : Json.Written) : Option Propagation := w.case?.bind ofWord?

def ofJson? (v : Json) : Option Propagation := read? (.known v)

end Propagation

/-- How deletion treats applied resources. -/
structure DeleteOption where
  propagationPolicy : Propagation
  deriving DecidableEq, Repr, Inhabited

namespace DeleteOption

def toJson (x : DeleteOption) : Json :=
  .ofFields [("propagationPolicy", some x.propagationPolicy.toJson)]

def read? (w : Json.Written) : Option DeleteOption := do
  let r ← w.record? ["propagationPolicy"] 0
  return { propagationPolicy := ← r.required "propagationPolicy" Propagation.read? }

def ofJson? (v : Json) : Option DeleteOption := read? (.known v)

end DeleteOption

/-- The manifests of a bundle, each an object as it is to be applied. -/
structure Workload where
  manifests : List Json := []
  deriving DecidableEq, Repr, Inhabited

namespace Workload

def toJson (x : Workload) : Json := .ofFields [("manifests", some (.arr x.manifests))]

def read? (w : Json.Written) : Option Workload := do
  let r ← w.record? ["manifests"] 0
  return { manifests := ← r.defaulted "manifests" [] (Json.Written.list? Json.Written.value?) }

def ofJson? (v : Json) : Option Workload := read? (.known v)

end Workload

/-- What a bundle asks the agent to do. -/
structure WorkSpec where
  workload : Workload := {}
  deleteOption : Option DeleteOption := none
  deriving DecidableEq, Repr, Inhabited

namespace WorkSpec

def toJson (x : WorkSpec) : Json :=
  .ofFields [("workload", some x.workload.toJson), ("deleteOption", x.deleteOption.map DeleteOption.toJson)]

def read? (w : Json.Written) : Option WorkSpec := do
  let r ← w.record? ["workload", "deleteOption"] 0
  return {
    workload := ← r.defaulted "workload" {} Workload.read?
    deleteOption := ← r.optional "deleteOption" DeleteOption.read? }

def ofJson? (v : Json) : Option WorkSpec := read? (.known v)

end WorkSpec

/-- A bundle of manifests for a managed cluster. -/
structure Work where
  metadata : Metadata
  spec : WorkSpec
  status : Option Status
  deriving DecidableEq, Repr, Inhabited

namespace Work

/-- The group and version that bundles belong to. -/
def apiVersion : String := "work.open-cluster-management.io/v1"

/-- The kind that bundles call themselves. -/
def kind : String := "ManifestWork"

def toJson (w : Work) : Json :=
  .ofFields [
    ("apiVersion", some (.str apiVersion)),
    ("kind", some (.str kind)),
    ("metadata", some w.metadata.toJson),
    ("spec", some w.spec.toJson),
    ("status", w.status.map Status.toJson)]

def read? (w : Json.Written) : Option Work := do
  let r ← w.record? ["metadata", "spec", "status"] 3
  return {
    metadata := ← r.required "metadata" Metadata.read?
    spec := ← r.required "spec" WorkSpec.read?
    status := ← r.optional "status" Status.read? }

def ofJson? (v : Json) : Option Work := read? (.known v)

/-- Where the bundle is stored, when it has both a namespace and a name. -/
def key? (w : Work) : Option Key :=
  match w.metadata.namespace_, w.metadata.name with
  | some ns, some n => some ⟨ns, n⟩
  | _, _ => none

/-- The bundle without the signs of zeros. -/
def plainZeros (w : Work) : Work :=
  { w with
    metadata := w.metadata.plainZeros
    spec := { w.spec with workload := ⟨w.spec.workload.manifests.map Json.plainZeros⟩ } }

/-- Two bundles are the same when they differ at most in the signs of zeros. -/
def Same (v w : Work) : Prop := v.plainZeros = w.plainZeros

instance (v w : Work) : Decidable (Same v w) := inferInstanceAs (Decidable (_ = _))

end Work
end HostedDelivery
