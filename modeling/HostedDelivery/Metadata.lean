import HostedDelivery.Json.Record
import HostedDelivery.Time

/-!
# Object metadata

What every stored object carries beside its own content: its name and namespace, labels and annotations, finalizers
that hold it back from removal, and what the server keeps about it. Every field may be absent. Times are written to
the second.
-/

namespace HostedDelivery

/-- Where an object is stored: a namespace, and a name that is unique in it. -/
structure Key where
  namespace_ : String
  name : String
  deriving DecidableEq, Repr, Inhabited

namespace Key

/-- Namespace and name with a slash between them. -/
def text (k : Key) : String := k.namespace_ ++ "/" ++ k.name

end Key

/-- An object that another one belongs to. -/
structure OwnerReference where
  apiVersion : String
  blockOwnerDeletion : Option Bool
  controller : Option Bool
  kind : String
  name : String
  uid : String
  deriving DecidableEq, Repr, Inhabited

namespace OwnerReference

def toJson (o : OwnerReference) : Json :=
  .ofFields [
    ("apiVersion", some (.str o.apiVersion)),
    ("blockOwnerDeletion", o.blockOwnerDeletion.map .bool),
    ("controller", o.controller.map .bool),
    ("kind", some (.str o.kind)),
    ("name", some (.str o.name)),
    ("uid", some (.str o.uid))]

def read? (w : Json.Written) : Option OwnerReference := do
  let r ← w.looseRecord?
  return {
    apiVersion := (← r.optional "apiVersion" Json.Written.string?).getD ""
    blockOwnerDeletion := ← r.optional "blockOwnerDeletion" Json.Written.bool?
    controller := ← r.optional "controller" Json.Written.bool?
    kind := (← r.optional "kind" Json.Written.string?).getD ""
    name := (← r.optional "name" Json.Written.string?).getD ""
    uid := (← r.optional "uid" Json.Written.string?).getD "" }

def ofJson? (v : Json) : Option OwnerReference := read? (.known v)

end OwnerReference

/-- The fields of an object that one manager has set. Fields that are null are read as absent, so none are held. -/
structure ManagedFields where
  apiVersion : Option String
  fieldsType : Option String
  fieldsV1 : Option Json.NonNull
  manager : Option String
  operation : Option String
  subresource : Option String
  time : Option Time
  deriving DecidableEq, Repr, Inhabited

namespace ManagedFields

def toJson (m : ManagedFields) : Json :=
  .ofFields [
    ("apiVersion", m.apiVersion.map .str),
    ("fieldsType", m.fieldsType.map .str),
    ("fieldsV1", m.fieldsV1.map (·.1)),
    ("manager", m.manager.map .str),
    ("operation", m.operation.map .str),
    ("subresource", m.subresource.map .str),
    ("time", m.time.map fun t => .str t.wholeText)]

def read? (w : Json.Written) : Option ManagedFields := do
  let r ← w.looseRecord?
  return {
    apiVersion := ← r.optional "apiVersion" Json.Written.string?
    fieldsType := ← r.optional "fieldsType" Json.Written.string?
    fieldsV1 := (← r.optional "fieldsV1" Json.Written.value?).bind Json.nonNull?
    manager := ← r.optional "manager" Json.Written.string?
    operation := ← r.optional "operation" Json.Written.string?
    subresource := ← r.optional "subresource" Json.Written.string?
    time := ← r.optional "time" fun t => t.string?.bind Time.parse? }

def ofJson? (v : Json) : Option ManagedFields := read? (.known v)

/-- The entry without the signs of zeros. -/
def plainZeros (m : ManagedFields) : ManagedFields :=
  { m with fieldsV1 := m.fieldsV1.map Json.NonNull.plainZeros }

end ManagedFields

/-- What every stored object carries beside its own content. -/
structure Metadata where
  annotations : Option (Dict String) := none
  creationTimestamp : Option Time := none
  deletionGracePeriodSeconds : Option Int64 := none
  /-- Since when the object waits to be removed. -/
  deletionTimestamp : Option Time := none
  /-- Names of those who hold the object back from removal. -/
  finalizers : Option (List String) := none
  generateName : Option String := none
  generation : Option Int64 := none
  labels : Option (Dict String) := none
  managedFields : Option (List ManagedFields) := none
  name : Option String := none
  namespace_ : Option String := none
  ownerReferences : Option (List OwnerReference) := none
  resourceVersion : Option String := none
  selfLink : Option String := none
  uid : Option String := none
  deriving DecidableEq, Repr, Inhabited

namespace Metadata

def toJson (m : Metadata) : Json :=
  .ofFields [
    ("annotations", m.annotations.map (.ofDict .str)),
    ("creationTimestamp", m.creationTimestamp.map fun t => .str t.wholeText),
    ("deletionGracePeriodSeconds", m.deletionGracePeriodSeconds.map fun n => .int n.toInt),
    ("deletionTimestamp", m.deletionTimestamp.map fun t => .str t.wholeText),
    ("finalizers", m.finalizers.map fun fs => .arr (fs.map .str)),
    ("generateName", m.generateName.map .str),
    ("generation", m.generation.map fun n => .int n.toInt),
    ("labels", m.labels.map (.ofDict .str)),
    ("managedFields", m.managedFields.map fun fs => .arr (fs.map ManagedFields.toJson)),
    ("name", m.name.map .str),
    ("namespace", m.namespace_.map .str),
    ("ownerReferences", m.ownerReferences.map fun os => .arr (os.map OwnerReference.toJson)),
    ("resourceVersion", m.resourceVersion.map .str),
    ("selfLink", m.selfLink.map .str),
    ("uid", m.uid.map .str)]

def read? (w : Json.Written) : Option Metadata := do
  let r ← w.looseRecord?
  let time (t : Json.Written) : Option Time := t.string?.bind Time.parse?
  return {
    annotations := ← r.optional "annotations" (Json.Written.dict? Json.Written.string?)
    creationTimestamp := ← r.optional "creationTimestamp" time
    deletionGracePeriodSeconds := ← r.optional "deletionGracePeriodSeconds" Json.Written.int64?
    deletionTimestamp := ← r.optional "deletionTimestamp" time
    finalizers := ← r.optional "finalizers" (Json.Written.list? Json.Written.string?)
    generateName := ← r.optional "generateName" Json.Written.string?
    generation := ← r.optional "generation" Json.Written.int64?
    labels := ← r.optional "labels" (Json.Written.dict? Json.Written.string?)
    managedFields := ← r.optional "managedFields" (Json.Written.list? ManagedFields.read?)
    name := ← r.optional "name" Json.Written.string?
    namespace_ := ← r.optional "namespace" Json.Written.string?
    ownerReferences := ← r.optional "ownerReferences" (Json.Written.list? OwnerReference.read?)
    resourceVersion := ← r.optional "resourceVersion" Json.Written.string?
    selfLink := ← r.optional "selfLink" Json.Written.string?
    uid := ← r.optional "uid" Json.Written.string? }

def ofJson? (v : Json) : Option Metadata := read? (.known v)

/-- Where the object is stored; a missing name or namespace counts as empty. -/
def key (m : Metadata) : Key := ⟨m.namespace_.getD "", m.name.getD ""⟩

/-- The name, or the start of the name that the server would choose, or nothing. -/
def anyName (m : Metadata) : String := (m.name <|> m.generateName).getD ""

/-- The metadata without the signs of zeros. -/
def plainZeros (m : Metadata) : Metadata :=
  { m with managedFields := m.managedFields.map (·.map ManagedFields.plainZeros) }

end Metadata

/-! ### Finalizers

A finalizer on an object is the name of someone who holds it back from removal. -/

namespace Finalizers

/-- The list with a finalizer at its end, unless it is there already. -/
def add (finalizer : String) (fs : List String) : List String :=
  if finalizer ∈ fs then fs else fs ++ [finalizer]

/-- The list without a finalizer. -/
def remove (finalizer : String) (fs : List String) : List String :=
  fs.filter fun f => f ≠ finalizer

theorem mem_add (f g : String) (fs : List String) : g ∈ add f fs ↔ g ∈ fs ∨ g = f := by
  by_cases present : f ∈ fs
  · simp only [add, present, if_true]
    exact ⟨.inl, fun h => h.elim id fun same => same ▸ present⟩
  · simp [add, present]

theorem mem_remove (f g : String) (fs : List String) : g ∈ remove f fs ↔ g ∈ fs ∧ g ≠ f := by
  simp [remove]

end Finalizers
end HostedDelivery
