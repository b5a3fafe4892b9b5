import Mathlib.Data.List.AList

/-! # Kubernetes objects as the webhooks see them

The admission webhooks of `kagenti-webhook` read and write a few Kubernetes object kinds through
the controller-runtime client. This file fixes the data they exchange:

* **`StrMap`** — Go's `map[string]string` (labels, annotations), an association list with unique
  keys; `StrMap.index m k` is Go's `m[k]`, the empty string for a missing key.
* **Gateway specs** — the fields of the Gateway API `HTTPRouteSpec` and of the MCP gateway
  `MCPServerSpec` that `buildHTTPRoute` and `buildGatewayMCPServer` fill in.
* **`Object`** — name, namespace, labels, annotations, resource version and a kind-tagged spec;
  `Object.key` is the `(kind, namespace, name)` the API server stores it under.
* **`Error`** — a Go `error`: its text and the API status reason that `apierrors.IsNotFound`,
  `IsForbidden` and `IsAlreadyExists` test, which `fmt.Errorf("...: %w", err)` keeps. -/

namespace KagentiWebhook

/-! ## (1) String maps -/

/-- Go's `map[string]string`: unique keys, no observable order. -/
abbrev StrMap := AList (fun _ : String => String)

namespace StrMap

/-- The map written by a Go map literal with these entries. -/
def ofList (l : List (String × String)) : StrMap :=
  List.toAList (l.map fun p => ⟨p.1, p.2⟩)

/-- Go's `m[k]`: the value stored at `k`, or `""` when `k` is absent. -/
def index (m : StrMap) (k : String) : String := (m.lookup k).getD ""

/-- Reading a present key returns its value. -/
theorem index_of_lookup {m : StrMap} {k v : String} (h : m.lookup k = some v) :
    m.index k = v := by
  simp [index, h]

/-- Every entry of a map literal is one of its pairs. -/
theorem mem_of_lookup_ofList {l : List (String × String)} {k v : String}
    (h : (ofList l).lookup k = some v) : (k, v) ∈ l := by
  have hmem := List.of_mem_dlookup (by
    simpa only [ofList, AList.lookup_to_alist, List.dlookup_dedupKeys] using h)
  simpa using hmem

end StrMap

/-! ## (2) Gateway API and MCP gateway specs

Only the fields the webhook sets are modelled; `json.Marshal` of a spec is a parameter of the
code that compares specs, so the nesting here only has to keep the data apart. -/

/-- `gatewayv1.ParentReference`: the gateway a route attaches to. -/
structure ParentReference where
  name : String
  «namespace» : Option String
  deriving DecidableEq, Repr

/-- `gatewayv1.HTTPPathMatch`: the match type (`PathPrefix`) and the path. -/
structure HTTPPathMatch where
  type : Option String
  value : Option String
  deriving DecidableEq, Repr

/-- `gatewayv1.HTTPRouteMatch`, reduced to its path match. -/
structure HTTPRouteMatch where
  path : Option HTTPPathMatch
  deriving DecidableEq, Repr

/-- `gatewayv1.HTTPBackendRef`: the backing service and its port. -/
structure HTTPBackendRef where
  name : String
  port : Option Int
  deriving DecidableEq, Repr

/-- `gatewayv1.HTTPRouteRule`: path matches and the backends they route to. -/
structure HTTPRouteRule where
  «matches» : List HTTPRouteMatch
  backendRefs : List HTTPBackendRef
  deriving DecidableEq, Repr

/-- `gatewayv1.HTTPRouteSpec`. -/
structure HTTPRouteSpec where
  parentRefs : List ParentReference
  hostnames : List String
  rules : List HTTPRouteRule
  deriving DecidableEq, Repr

/-- `mcpv1alpha1.TargetReference`: the route a gateway `MCPServer` points at. -/
structure TargetReference where
  group : String
  kind : String
  name : String
  «namespace» : String
  deriving DecidableEq, Repr

/-- The MCP gateway's `MCPServerSpec` (not the ToolHive `MCPServer` the webhook admits). -/
structure MCPServerSpec where
  toolPrefix : String
  targetRef : TargetReference
  deriving DecidableEq, Repr

/-! ## (3) Objects and keys -/

/-- The object kinds the webhooks touch. -/
inductive Kind where
  /-- `corev1.Namespace`, read for its labels. -/
  | «namespace»
  /-- `corev1.ServiceAccount`, created for SPIRE workloads. -/
  | serviceAccount
  /-- `gatewayv1.HTTPRoute`. -/
  | httpRoute
  /-- The MCP gateway's `MCPServer`. -/
  | gatewayMCPServer
  deriving DecidableEq, Repr

/-- `gvk.Kind`, as messages print it. -/
def Kind.gvkKind : Kind → String
  | .namespace => "Namespace"
  | .serviceAccount => "ServiceAccount"
  | .httpRoute => "HTTPRoute"
  | .gatewayMCPServer => "MCPServer"

/-- The typed body of an object: what Go's type switch on the object distinguishes. -/
inductive ObjectSpec where
  | «namespace»
  | serviceAccount
  | httpRoute (spec : HTTPRouteSpec)
  | gatewayMCPServer (spec : MCPServerSpec)
  deriving DecidableEq, Repr

/-- The kind an object's Go type stands for. -/
def ObjectSpec.kind : ObjectSpec → Kind
  | .namespace => .namespace
  | .serviceAccount => .serviceAccount
  | .httpRoute _ => .httpRoute
  | .gatewayMCPServer _ => .gatewayMCPServer

/-- Where the API server stores an object: kind, namespace (`""` for cluster-scoped kinds), name. -/
structure ObjectKey where
  kind : Kind
  «namespace» : String
  name : String
  deriving DecidableEq, Repr

/-- A stored object, with the metadata the webhooks read or write. -/
structure Object where
  name : String
  «namespace» : String
  labels : StrMap
  annotations : StrMap
  resourceVersion : String
  spec : ObjectSpec

/-- The key an object is stored under. -/
def Object.key (o : Object) : ObjectKey := ⟨o.spec.kind, o.namespace, o.name⟩

/-- An object's key carries its kind. -/
@[simp] theorem Object.key_kind (o : Object) : o.key.kind = o.spec.kind := rfl

/-! ## (4) Errors -/

/-- The API status reasons the webhooks test for; `unknown` is any other error. -/
inductive StatusReason where
  | notFound
  | alreadyExists
  | forbidden
  | conflict
  | unknown
  deriving DecidableEq, Repr

/-- A Go `error` value: what `Error()` prints and the status reason `errors.As` finds in it. -/
structure Error where
  reason : StatusReason
  message : String
  deriving DecidableEq, Repr

/-- `fmt.Errorf(context + "%w", err)`: the text gets a prefix, the wrapped reason survives. -/
def Error.wrap (context : String) (e : Error) : Error := { e with message := context ++ e.message }

/-- `fmt.Errorf` without `%w` of an API error: a plain error carrying only text. -/
def Error.plain (message : String) : Error := ⟨.unknown, message⟩

/-- Wrapping keeps the status reason, as `errors.As` sees through `%w`. -/
@[simp] theorem Error.wrap_reason (context : String) (e : Error) :
    (e.wrap context).reason = e.reason := rfl

end KagentiWebhook
