import HostedDelivery.Proofs.RoundTrip

/-!
# Typed documents written back

A document is accepted in one of the forms in which parts of deployments and bundles are described (`Form`), read into
a value and written again. What is written is accepted in the same form and read into the same value, so a second
rewriting changes nothing, and it holds null nowhere but inside of raw manifests (`rewritten_once`).

Documents come as they are written: fields may stand in any order, or by position in an array, missing fields may be
null, and a word may be the only key of an object. The written form has none of this.
-/

namespace HostedDelivery

namespace Json

/-- Where a value holds parts that are kept in whatever shape they have. -/
inductive Raw where
  | nowhere
  /-- The value itself is such a part. -/
  | whole
  | inItems (inner : Raw)
  | under (name : String) (inner : Raw)

namespace Raw

/-- Where the items of an array hold raw parts. -/
def item : Raw → Raw
  | .inItems inner => inner
  | _ => .nowhere

/-- Where the member of a name holds raw parts. -/
def member : Raw → String → Raw
  | .under key inner, name => if name = key then inner else .nowhere
  | _, _ => .nowhere

@[simp] theorem nowhere_item : nowhere.item = nowhere := rfl

@[simp] theorem nowhere_member (name : String) : nowhere.member name = nowhere := rfl

end Raw

/-- Null stands nowhere in the value but inside of its raw parts. -/
inductive NullFree : Raw → Json → Prop where
  | whole (v : Json) : NullFree .whole v
  | bool (raw : Raw) (b : Bool) : NullFree raw (.bool b)
  | int (raw : Raw) (n : Int) : NullFree raw (.int n)
  | double (raw : Raw) (x : Binary64) : NullFree raw (.double x)
  | str (raw : Raw) (s : String) : NullFree raw (.str s)
  | arr {raw : Raw} {items : List Json} (each : ∀ v ∈ items, NullFree raw.item v) : NullFree raw (.arr items)
  | obj {raw : Raw} {ms : List (String × Json)} (each : ∀ m ∈ ms, NullFree (raw.member m.1) m.2) :
      NullFree raw (.obj ms)

end Json

namespace Dict

theorem mem_foldl_insert {α : Type} {entries : List (String × α)} {d : Dict α} {entry : String × α}
    (member : entry ∈ entries.foldl (fun d entry => Dict.insert d entry.1 entry.2) d) :
    entry ∈ entries ∨ entry ∈ d := by
  induction entries generalizing d with
  | nil => exact .inr member
  | cons first rest ih =>
    obtain later | before := ih member
    · exact .inl (List.mem_cons_of_mem _ later)
    · obtain same | kept := mem_insert before
      · exact .inl (List.mem_cons.mpr (.inl same))
      · exact .inr kept

end Dict

namespace Json.NullFree

/-- An object is free of null when the fields that are present in it are. -/
theorem ofFields {raw : Raw} {fields : List (String × Option Json)}
    (each : ∀ field ∈ fields, ∀ v ∈ field.2, NullFree (raw.member field.1) v) : NullFree raw (.ofFields fields) := by
  refine .obj fun m member => ?_
  have isField : m ∈ fields.filterMap fun field => field.2.map (field.1, ·) := by
    simpa using Dict.mem_foldl_insert member
  obtain ⟨field, stands, shown⟩ := List.mem_filterMap.mp isField
  obtain ⟨v, value, rfl⟩ := Option.map_eq_some_iff.mp shown
  exact each field stands v value

theorem map {α : Type} {raw : Raw} {write : α → Json} (each : ∀ a, NullFree raw.item (write a)) (items : List α) :
    NullFree raw (.arr (items.map write)) :=
  .arr fun _ member => by
    obtain ⟨a, -, rfl⟩ := List.mem_map.mp member
    exact each a

end Json.NullFree

/-! ### Values of each type -/

open Json

attribute [local simp] NullFree.str NullFree.int

theorem Release.nullFree_toJson (x : Release) : NullFree .nowhere x.toJson := .ofFields (by simp)

theorem SecretReference.nullFree_toJson (x : SecretReference) : NullFree .nowhere x.toJson := .ofFields (by simp)

theorem Platform.nullFree_toJson (x : Platform) : NullFree .nowhere x.toJson := .ofFields (by simp)

theorem Dns.nullFree_toJson (x : Dns) : NullFree .nowhere x.toJson := .ofFields (by simp)

theorem InfraOverride.nullFree_toJson (x : InfraOverride) : NullFree .nowhere x.toJson := .str _ _

theorem HostedClusterSpec.nullFree_toJson (x : HostedClusterSpec) : NullFree .nowhere x.toJson :=
  .ofFields (by simp +contextual [Release.nullFree_toJson, SecretReference.nullFree_toJson, Platform.nullFree_toJson,
    Dns.nullFree_toJson])

theorem NodePoolSpec.nullFree_toJson (x : NodePoolSpec) : NullFree .nowhere x.toJson :=
  .ofFields (by simp +contextual [Release.nullFree_toJson, Platform.nullFree_toJson])

theorem NodePool.nullFree_toJson (x : NodePool) : NullFree .nowhere x.toJson :=
  .ofFields (by simp [NodePoolSpec.nullFree_toJson])

theorem DeploymentSpec.nullFree_toJson (x : DeploymentSpec) : NullFree .nowhere x.toJson := by
  have pools : NullFree .nowhere (.arr (x.nodePools.map NodePool.toJson)) := .map NodePool.nullFree_toJson _
  exact .ofFields (by simp [InfraOverride.nullFree_toJson, HostedClusterSpec.nullFree_toJson, pools])

theorem Truth.nullFree_toJson (t : Truth) : NullFree .nowhere t.toJson := .str _ _

theorem Condition.nullFree_toJson (c : Condition) : NullFree .nowhere c.toJson :=
  .ofFields (by simp [Truth.nullFree_toJson])

theorem Status.nullFree_toJson (s : Status) : NullFree .nowhere s.toJson := by
  have conditions : NullFree .nowhere (.arr (s.conditions.map Condition.toJson)) := .map Condition.nullFree_toJson _
  exact .ofFields (by simp [conditions])

theorem Propagation.nullFree_toJson (x : Propagation) : NullFree .nowhere x.toJson := .str _ _

theorem DeleteOption.nullFree_toJson (x : DeleteOption) : NullFree .nowhere x.toJson :=
  .ofFields (by simp [Propagation.nullFree_toJson])

/-- Where a workload holds raw parts: each of its manifests is one. -/
def Workload.raw : Raw := .under "manifests" (.inItems .whole)

theorem Workload.nullFree_toJson (x : Workload) : NullFree raw x.toJson := by
  have manifests : NullFree (.inItems .whole) (.arr x.manifests) := .arr fun v _ => .whole v
  exact .ofFields (by simpa [raw, Raw.member] using manifests)

/-- Where the spec of a bundle holds raw parts. -/
def WorkSpec.raw : Raw := .under "workload" Workload.raw

theorem WorkSpec.nullFree_toJson (x : WorkSpec) : NullFree raw x.toJson :=
  .ofFields (by simp [raw, Raw.member, Workload.nullFree_toJson, DeleteOption.nullFree_toJson])

/-! ### Forms of documents -/

/-- What parts of deployments and bundles are described in. -/
inductive Form where
  | text
  | number
  | time
  | release
  | secretReference
  | platform
  | dns
  | hostedClusterSpec
  | nodePoolSpec
  | nodePool
  | infraOverride
  | deploymentSpec
  | truth
  | condition
  | status
  | propagation
  | deleteOption
  | manifest
  | workload
  | workSpec
  | list (item : Form)

namespace Form

/-- What documents of the form are read into. -/
def Value : Form → Type
  | text => String
  | number => Int32
  | time => Time
  | release => Release
  | secretReference => SecretReference
  | platform => Platform
  | dns => Dns
  | hostedClusterSpec => HostedClusterSpec
  | nodePoolSpec => NodePoolSpec
  | nodePool => NodePool
  | infraOverride => InfraOverride
  | deploymentSpec => DeploymentSpec
  | truth => Truth
  | condition => Condition
  | status => Status
  | propagation => Propagation
  | deleteOption => DeleteOption
  | manifest => Json
  | workload => Workload
  | workSpec => WorkSpec
  | list item => List item.Value

/-- The value of a document, if it is accepted in the form. -/
def read? : (f : Form) → Json.Written → Option f.Value
  | text => Json.Written.string?
  | number => Json.Written.int32?
  | time => fun w => w.string?.bind Time.parse?
  | release => Release.read?
  | secretReference => SecretReference.read?
  | platform => Platform.read?
  | dns => Dns.read?
  | hostedClusterSpec => HostedClusterSpec.read?
  | nodePoolSpec => NodePoolSpec.read?
  | nodePool => NodePool.read?
  | infraOverride => InfraOverride.read?
  | deploymentSpec => DeploymentSpec.read?
  | truth => Truth.read?
  | condition => Condition.read?
  | status => Status.read?
  | propagation => Propagation.read?
  | deleteOption => DeleteOption.read?
  | manifest => Json.Written.value?
  | workload => Workload.read?
  | workSpec => WorkSpec.read?
  | list item => Json.Written.list? item.read?

/-- How a value is written. -/
def toJson : (f : Form) → f.Value → Json
  | text => .str
  | number => fun n : Int32 => .int n.toInt
  | time => fun t : Time => .str t.text
  | release => Release.toJson
  | secretReference => SecretReference.toJson
  | platform => Platform.toJson
  | dns => Dns.toJson
  | hostedClusterSpec => HostedClusterSpec.toJson
  | nodePoolSpec => NodePoolSpec.toJson
  | nodePool => NodePool.toJson
  | infraOverride => InfraOverride.toJson
  | deploymentSpec => DeploymentSpec.toJson
  | truth => Truth.toJson
  | condition => Condition.toJson
  | status => Status.toJson
  | propagation => Propagation.toJson
  | deleteOption => DeleteOption.toJson
  | manifest => fun v => v
  | workload => Workload.toJson
  | workSpec => WorkSpec.toJson
  | list item => fun xs : List item.Value => .arr (xs.map item.toJson)

/-- Where documents of the form hold raw manifests. -/
def raw : Form → Raw
  | manifest => .whole
  | workload => Workload.raw
  | workSpec => WorkSpec.raw
  | list item => .inItems item.raw
  | _ => .nowhere

/-- The document, read and written again. -/
def rewritten? (f : Form) (w : Json.Written) : Option Json :=
  (f.read? w).map f.toJson

theorem read?_toJson (f : Form) (x : f.Value) : f.read? (.known (f.toJson x)) = some x := by
  induction f with
  | text => exact Json.Written.string?_str x
  | number => exact Json.Written.int32?_int x
  | time => exact (congrArg (·.bind Time.parse?) (Json.Written.string?_str _)).trans (Time.parse?_text x)
  | release => exact Release.read?_toJson x
  | secretReference => exact SecretReference.read?_toJson x
  | platform => exact Platform.read?_toJson x
  | dns => exact Dns.read?_toJson x
  | hostedClusterSpec => exact HostedClusterSpec.read?_toJson x
  | nodePoolSpec => exact NodePoolSpec.read?_toJson x
  | nodePool => exact NodePool.read?_toJson x
  | infraOverride => exact InfraOverride.read?_toJson x
  | deploymentSpec => exact DeploymentSpec.read?_toJson x
  | truth => exact Truth.read?_toJson x
  | condition => exact Condition.read?_toJson x
  | status => exact Status.read?_toJson x
  | propagation => exact Propagation.read?_toJson x
  | deleteOption => exact DeleteOption.read?_toJson x
  | manifest => exact Json.Written.value?_known x
  | workload => exact Workload.read?_toJson x
  | workSpec => exact WorkSpec.read?_toJson x
  | list item ih => exact Json.Written.list?_arr_self ih x

theorem nullFree_toJson (f : Form) (x : f.Value) : NullFree f.raw (f.toJson x) := by
  induction f with
  | text | time => exact .str _ _
  | number => exact .int _ _
  | release => exact Release.nullFree_toJson x
  | secretReference => exact SecretReference.nullFree_toJson x
  | platform => exact Platform.nullFree_toJson x
  | dns => exact Dns.nullFree_toJson x
  | hostedClusterSpec => exact HostedClusterSpec.nullFree_toJson x
  | nodePoolSpec => exact NodePoolSpec.nullFree_toJson x
  | nodePool => exact NodePool.nullFree_toJson x
  | infraOverride => exact InfraOverride.nullFree_toJson x
  | deploymentSpec => exact DeploymentSpec.nullFree_toJson x
  | truth => exact Truth.nullFree_toJson x
  | condition => exact Condition.nullFree_toJson x
  | status => exact Status.nullFree_toJson x
  | propagation => exact Propagation.nullFree_toJson x
  | deleteOption => exact DeleteOption.nullFree_toJson x
  | manifest => exact .whole x
  | workload => exact Workload.nullFree_toJson x
  | workSpec => exact WorkSpec.nullFree_toJson x
  | list item ih => exact .map ih x

end Form

/-- A document that is accepted in some form is written back as one that is accepted in the same form and has the same
value, so writing it back once more changes nothing; and null stands nowhere in it but inside of raw manifests. -/
theorem rewritten_once (f : Form) (w : Json.Written) (x : f.Value) (accepted : f.read? w = some x) :
    f.rewritten? w = some (f.toJson x) ∧ f.read? (.known (f.toJson x)) = some x
      ∧ f.rewritten? (.known (f.toJson x)) = f.rewritten? w ∧ NullFree f.raw (f.toJson x) := by
  have written : f.rewritten? w = some (f.toJson x) := by rw [Form.rewritten?, accepted, Option.map_some]
  have again : f.rewritten? (.known (f.toJson x)) = some (f.toJson x) := by
    rw [Form.rewritten?, f.read?_toJson, Option.map_some]
  exact ⟨written, f.read?_toJson x, again.trans written.symm, f.nullFree_toJson x⟩

/-- The spec of a bundle by position, with a manifest that holds null and a policy that is the key of an object. -/
def WorkSpec.byPosition : Json :=
  .arr [.obj [("manifests", .arr [.obj [("data", .null)]])], .obj [("propagationPolicy", .obj [("Orphan", .null)])]]

theorem rewritten_once_by_position :
    Form.rewritten? .workSpec (.known WorkSpec.byPosition) =
        some (.obj [("deleteOption", .obj [("propagationPolicy", .str "Orphan")]),
          ("workload", .obj [("manifests", .arr [.obj [("data", .null)]])])])
      ∧ NullFree WorkSpec.raw (.obj [("deleteOption", .obj [("propagationPolicy", .str "Orphan")]),
          ("workload", .obj [("manifests", .arr [.obj [("data", .null)]])])]) :=
  have accepted : Form.read? .workSpec (.known WorkSpec.byPosition) =
      some (⟨⟨[.obj [("data", .null)]]⟩, some ⟨.orphan⟩⟩ : WorkSpec) := by rfl
  ⟨(rewritten_once .workSpec _ _ accepted).1, (rewritten_once .workSpec _ _ accepted).2.2.2⟩

end HostedDelivery
