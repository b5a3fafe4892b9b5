import KagentiWebhook.Cluster.Object
import KagentiWebhook.Injector.PodSpec

/-! # The MCPServer webhook's objects and pure helpers

From `v1alpha1/mcpserver_webhook.go`, everything that does not talk to the API server:

* **`MCPServer`** — the ToolHive `MCPServer` under admission: metadata, finalizers, deletion
  timestamp, the raw `PodTemplateSpec` and the proxy port.
* **`buildHTTPRoute`**, **`buildGatewayMCPServer`** — the two gateway objects generated for a
  server, labelled as managed and with their parent server and namespace.
* **`mapsEqual`**, **`needsUpdate`** — the change check in front of every update.
* **`containsString`**, **`removeString`** — the finalizer list operations, with the lemmas on
  occurrence counts and on the other finalizers that the run invariant needs. -/

namespace KagentiWebhook.V1alpha1

open Injector (PodSpec)

/-! ## (1) Names, labels and the gateway location -/

/-- `ManagedByLabel`: marks the objects the webhook manages. -/
def managedByLabel : String := "toolhive.kagenti.com/managed"
/-- `AutoGatewayAnnotation`: `"false"` opts a server out of gateway objects. -/
def autoGatewayAnnotation : String := "toolhive.kagenti.com/auto-gateway"
/-- The finalizer `Default` adds before it creates gateway objects. -/
def gatewayCleanupFinalizer : String := "toolhive.kagenti.com/gateway-cleanup"
/-- The label naming a gateway object's parent server. -/
def parentServerLabel : String := "toolhive.kagenti.com/parent-server"
/-- The label naming a gateway object's parent namespace. -/
def parentNamespaceLabel : String := "toolhive.kagenti.com/parent-namespace"
/-- The annotation overriding the gateway tool prefix. -/
def toolPrefixAnnotation : String := "toolhive.kagenti.com/tool-prefix"

/-- `getEnvOrDefault`: the variable's value, or the default when it is unset or empty. -/
def getEnvOrDefault (getenv : String → String) (key defaultValue : String) : String :=
  if getenv key ≠ "" then getenv key else defaultValue

/-- `MCPGatewayNamespace`. -/
def mcpGatewayNamespace (getenv : String → String) : String :=
  getEnvOrDefault getenv "MCP_GATEWAY_NAMESPACE" "gateway-system"

/-- `MCPGatewayName`. -/
def mcpGatewayName (getenv : String → String) : String :=
  getEnvOrDefault getenv "MCP_GATEWAY_NAME" "mcp-gateway"

/-! ## (2) The ToolHive `MCPServer` -/

/-- `runtime.RawExtension`: the raw JSON, nil when absent. -/
structure RawExtension where
  raw : Option String
  deriving DecidableEq, Repr

/-- `corev1.PodTemplateSpec`, reduced to the pod spec the mutator edits. -/
structure PodTemplateSpec where
  spec : PodSpec
  deriving DecidableEq, Repr

/-- The ToolHive `MCPServer` as `Default` reads and writes it. `deletionTimestamp = none` is
Go's zero timestamp. -/
structure MCPServer where
  name : String
  «namespace» : String
  annotations : StrMap
  finalizers : List String
  deletionTimestamp : Option Nat
  podTemplateSpec : Option RawExtension
  proxyPort : Int

/-- `generateGatewayCRs`: on unless `auto-gateway` is exactly `"false"`. -/
def generateGatewayCRs (m : MCPServer) : Bool :=
  !(m.annotations.lookup autoGatewayAnnotation == some "false")

/-! ## (3) The generated gateway objects -/

/-- The labels `cleanupGatewayResources` selects a server's gateway objects by. -/
def parentSelector (m : MCPServer) : StrMap :=
  StrMap.ofList [(parentServerLabel, m.name), (parentNamespaceLabel, m.namespace)]

/-- `buildHTTPRoute`: `<name>-route`, host `<name>.mcp.local`, every path to the ToolHive proxy
service `mcp-<name>-proxy` on the server's proxy port (8000 when unset). -/
def buildHTTPRoute (getenv : String → String) (m : MCPServer) : Object where
  name := m.name ++ "-route"
  «namespace» := m.namespace
  labels := StrMap.ofList [("mcp-server", "true"), (managedByLabel, "true"),
    (parentServerLabel, m.name), (parentNamespaceLabel, m.namespace)]
  annotations := ∅
  resourceVersion := ""
  spec := .httpRoute
    { parentRefs := [⟨mcpGatewayName getenv, some (mcpGatewayNamespace getenv)⟩]
      hostnames := [m.name ++ ".mcp.local"]
      rules := [⟨[⟨some ⟨some "PathPrefix", some "/"⟩⟩],
        [⟨"mcp-" ++ m.name ++ "-proxy", some (if m.proxyPort ≠ 0 then m.proxyPort else 8000)⟩]⟩] }

/-- `buildGatewayMCPServer`: `<name>-gateway`, targeting the route, with the annotated tool
prefix or `<name>_`. -/
def buildGatewayMCPServer (m : MCPServer) : Object where
  name := m.name ++ "-gateway"
  «namespace» := m.namespace
  labels := StrMap.ofList [(managedByLabel, "true"), (parentServerLabel, m.name),
    (parentNamespaceLabel, m.namespace)]
  annotations := ∅
  resourceVersion := ""
  spec := .gatewayMCPServer
    { toolPrefix := (m.annotations.lookup toolPrefixAnnotation).getD (m.name ++ "_")
      targetRef := ⟨"gateway.networking.k8s.io", "HTTPRoute", m.name ++ "-route", m.namespace⟩ }

/-- Where a server's route is stored. -/
def routeKey (m : MCPServer) : ObjectKey := ⟨.httpRoute, m.namespace, m.name ++ "-route"⟩

/-- The built route sits under the route key. -/
@[simp] theorem buildHTTPRoute_key (getenv : String → String) (m : MCPServer) :
    (buildHTTPRoute getenv m).key = routeKey m := rfl

/-- Where a server's gateway `MCPServer` is stored. -/
def gatewayKey (m : MCPServer) : ObjectKey := ⟨.gatewayMCPServer, m.namespace, m.name ++ "-gateway"⟩

/-- The built gateway `MCPServer` sits under the gateway key. -/
@[simp] theorem buildGatewayMCPServer_key (m : MCPServer) :
    (buildGatewayMCPServer m).key = gatewayKey m := rfl

/-- The labels every generated gateway object carries: managed, with its parent server and
namespace. -/
def ParentLabelled (m : MCPServer) (labels : StrMap) : Prop :=
  labels.lookup managedByLabel = some "true" ∧ labels.lookup parentServerLabel = some m.name ∧
    labels.lookup parentNamespaceLabel = some m.namespace

/-- The built route carries the managed and parent labels. -/
theorem buildHTTPRoute_parentLabelled (getenv : String → String) (m : MCPServer) :
    ParentLabelled m (buildHTTPRoute getenv m).labels := by
  simp [ParentLabelled, buildHTTPRoute, StrMap.ofList, AList.lookup_to_alist, managedByLabel,
    parentServerLabel, parentNamespaceLabel]

/-- The built gateway `MCPServer` carries the managed and parent labels. -/
theorem buildGatewayMCPServer_parentLabelled (m : MCPServer) :
    ParentLabelled m (buildGatewayMCPServer m).labels := by
  simp [ParentLabelled, buildGatewayMCPServer, StrMap.ofList, AList.lookup_to_alist,
    managedByLabel, parentServerLabel, parentNamespaceLabel]

/-! ## (4) The change check -/

/-- `mapsEqual`: equal sizes, and every entry of `a` reads the same in `b`. -/
def mapsEqual (a b : StrMap) : Bool :=
  a.entries.length == b.entries.length && a.entries.all fun e => b.index e.1 == e.2

/-- `needsUpdate`: labels, then annotations, then — for two objects of the same gateway kind —
the JSON of their specs; anything else needs an update. -/
def needsUpdate (marshal : ObjectSpec → String) (existing desired : Object) : Bool :=
  if !mapsEqual existing.labels desired.labels then true
  else if !mapsEqual existing.annotations desired.annotations then true
  else
    match existing.spec, desired.spec with
    | .httpRoute _, .httpRoute _ => marshal existing.spec != marshal desired.spec
    | .gatewayMCPServer _, .gatewayMCPServer _ => marshal existing.spec != marshal desired.spec
    | _, _ => true

/-! ## (5) Finalizer lists -/

/-- `containsString`. -/
def containsString (slice : List String) (s : String) : Bool := slice.any (· == s)

/-- `removeString`: every occurrence of `s` dropped, the rest in order. -/
def removeString (slice : List String) (s : String) : List String := slice.filter (· != s)

/-- `containsString` is membership. -/
@[simp] theorem containsString_iff (slice : List String) (s : String) :
    containsString slice s = true ↔ s ∈ slice := by
  simp [containsString]

/-- `removeString` leaves no copy of the string. -/
@[simp] theorem count_removeString (slice : List String) (s : String) :
    (removeString slice s).count s = 0 := by
  simp [removeString, List.count_eq_zero]

/-- Removing `s` leaves the other entries, in order and with multiplicity. -/
@[simp] theorem filter_removeString (slice : List String) (s : String) :
    (removeString slice s).filter (· != s) = slice.filter (· != s) := by
  simp [removeString, List.filter_filter]

end KagentiWebhook.V1alpha1
