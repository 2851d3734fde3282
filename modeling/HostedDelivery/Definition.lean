import HostedDelivery.Deployment

/-!
# The definition of deployments

What an API server has to know to store deployments: their names, and a schema of what a deployment may hold.
-/

namespace HostedDelivery

/-- A schema, as the fields of its JSON form. -/
abbrev Schema := List (String × Option Json)

namespace Schema

/-- The JSON form of a schema. -/
def toJson (s : Schema) : Json := .ofFields s

/-- A text. -/
def text : Schema := [("type", some (.str "string"))]

/-- A text of a given format. -/
def formatted (format : String) : Schema := ("format", some (.str format)) :: text

/-- A whole number that fits a signed word of 32 bits. -/
def int32 : Schema := [("type", some (.str "integer")), ("format", some (.str "int32"))]

/-- One of some words. -/
def oneOf (words : List String) : Schema := ("enum", some (.arr (words.map .str))) :: text

/-- A list. -/
def list (item : Schema) : Schema := [("type", some (.str "array")), ("items", some item.toJson)]

/-- An object with some properties, of which some are required. -/
def object (properties : List (String × Schema)) (required : List String) : Schema := [
  ("type", some (.str "object")),
  ("properties", some (.ofFields (properties.map fun p => (p.1, some p.2.toJson)))),
  ("required", if required = [] then none else some (.arr (required.map .str)))]

/-- What meets one of several schemas. -/
def anyOf (schemas : List Schema) : Schema := [("anyOf", some (.arr (schemas.map toJson)))]

/-- Nothing but null. -/
def onlyNull : Schema := [("enum", some (.arr [.null])), ("nullable", some (.bool true))]

/-- The schema with a description. -/
def described (s : Schema) (description : String) : Schema := ("description", some (.str description)) :: s

/-- The schema that admits null as well. -/
def nullable (s : Schema) : Schema := ("nullable", some (.bool true)) :: s

/-- The schema with a default. -/
def defaulting (s : Schema) (value : Json) : Schema := ("default", some value) :: s

/-- The schema of a release payload. -/
def release : Schema := object [("image", text.described "Release image pull spec")] ["image"]

/-- The schema of a reference to a secret. -/
def secretReference : Schema := object [("name", text)] ["name"]

/-- The schema of a platform. -/
def platform (description : String) : Schema :=
  let type := (text.defaulting (.str "")).described "Platform type (e.g. \"AWS\", \"Azure\", \"None\")"
  ((object [("type", type)] []).defaulting (Platform.toJson {})).described description

/-- The schema of a hosted cluster. -/
def hostedCluster : Schema :=
  object [
    ("release", release.described "OCP release payload"),
    ("pullSecret",
      secretReference.described "Pull secret used to fetch release images (same namespace as the deployment)"),
    ("sshKey", secretReference.nullable.described "SSH key secret for node access"),
    ("platform", platform "Infrastructure platform"),
    ("dns", (object [("baseDomain", text)] ["baseDomain"]).nullable.described "DNS configuration")]
    ["pullSecret", "release"]

/-- The schema of a node pool under its name. -/
def nodePool : Schema :=
  object [
    ("name", text),
    ("spec", object [
      ("nodeCount", int32.nullable.described "Desired node count"),
      ("release", release.nullable.described "Release override (defaults to the HostedCluster release)"),
      ("platform", platform "Infrastructure platform for the nodes")] [])]
    ["name", "spec"]

/-- The schema of what a deployment asks for. -/
def deploymentSpec : Schema :=
  object [
    ("infraID", (text.defaulting (.str "")).described ("Infrastructure identifier; part of the generated ManifestWork"
      ++ " name.\nMust be set (or rendered by the infrastructure step) before any\nManifestWork can be built.")),
    ("targetManagedCluster", text.nullable.described
      "Managed cluster the ManifestWork is delivered to\n(defaults to the HypershiftDeployment namespace)"),
    ("override", (anyOf [
      (oneOf ["ORPHAN", "DESTROY"]).described "How infrastructure owned by the deployment is treated on removal.",
      onlyNull]).described "Infrastructure override mode"),
    ("hostedClusterSpec", hostedCluster.nullable.described "HostedCluster specification"),
    ("nodePools", ((list (nodePool.described "A named NodePool entry")).defaulting (.arr [])).described
      "NodePools to create alongside the HostedCluster, in order"),
    ("sshPublicKey", text.nullable.described
      "Optional SSH public key; rendered into a Secret shipped with the cluster")] []

/-- The schema of a condition. -/
def condition : Schema :=
  object [
    ("type", text.described "Type of condition (e.g. \"Applied\", \"Available\", \"PlatformConfigured\")"),
    ("status", (oneOf ["True", "False", "Unknown"]).described "Status of the condition"),
    ("reason", (text.defaulting (.str "")).described "Machine-readable reason for the last transition"),
    ("message", (text.defaulting (.str "")).described "Human-readable message"),
    ("lastTransitionTime", (formatted "date-time").nullable.described "Last time the status changed")]
    ["status", "type"]

/-- The schema of a status. -/
def status : Schema :=
  object [("conditions",
    ((list (condition.described "A typed observation about a resource.")).defaulting (.arr [])).described
      "Conditions mirrored from the ManifestWork plus controller-owned ones")] []

/-- The schema of a deployment. -/
def deployment : Schema :=
  ("title", some (.str Deployment.kind)) ::
    (object [("spec", deploymentSpec), ("status", status.nullable)] ["spec"]).described
      "Auto-generated derived type for HypershiftDeploymentSpec via `CustomResource`"

end Schema

namespace Deployment

/-- The group that deployments belong to. -/
def group : String := "cluster.open-cluster-management.io"

/-- The word for the collection of deployments. -/
def plural : String := "hypershiftdeployments"

/-- The only version of deployments. -/
def definitionVersion : Json :=
  .ofFields [
    ("name", some (.str "v1alpha1")),
    ("served", some (.bool true)),
    ("storage", some (.bool true)),
    ("additionalPrinterColumns", some (.arr [])),
    ("subresources", some (.ofFields [("status", some (.obj []))])),
    ("schema", some (.ofFields [("openAPIV3Schema", some Schema.deployment.toJson)]))]

/-- The definition of deployments for an API server. -/
def definition : Json :=
  .ofFields [
    ("apiVersion", some (.str "apiextensions.k8s.io/v1")),
    ("kind", some (.str "CustomResourceDefinition")),
    ("metadata", some (.ofFields [("name", some (.str (plural ++ "." ++ group)))])),
    ("spec", some (.ofFields [
      ("group", some (.str group)),
      ("scope", some (.str "Namespaced")),
      ("names", some (.ofFields [
        ("kind", some (.str kind)),
        ("plural", some (.str plural)),
        ("singular", some (.str "hypershiftdeployment")),
        ("shortNames", some (.arr [.str "hd"])),
        ("categories", some (.arr []))])),
      ("versions", some (.arr [definitionVersion]))]))]

end Deployment
end HostedDelivery
