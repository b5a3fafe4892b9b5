import KagentiWebhook.Cluster.Store
import KagentiWebhook.MCPServer.Resources

/-! # `MCPServerCustomDefaulter.Default`

The API-facing half of `v1alpha1/mcpserver_webhook.go`, over the store of `Cluster.Store`:

* **`createOrUpdateResource`** — `Get`; create on `NotFound` (with the RBAC message on
  `Forbidden`); skip an unmanaged or unchanged object; otherwise `Update` with the stored
  resource version. `createOrUpdateResource_cases` says once everything it can do.
* **`createGatewayCRs`** — the route, then the gateway `MCPServer`; no rollback between them.
* **`cleanupGatewayResources`** — list each kind by the parent labels and delete what is listed,
  ignoring `NotFound`.
* **`default`** — the deletion path (cleanup, then drop the finalizer) and the admission path
  (mutate the pod template, add the finalizer, create the gateway objects), each a named helper
  with its own inversion lemma; `default_finalizers` says what a call does to the finalizers. -/

namespace KagentiWebhook.V1alpha1

open Injector (PodSpec)

/-- The defaulter's collaborators that are not in the sources: the pod mutator's
`MutatePodSpec`, the JSON codec, the client's scheme and the process environment. -/
structure MCPServerCustomDefaulter where
  /-- `Mutator.MutatePodSpec(ctx, &spec, namespace, name, annotations)`. The method is not in
  the sources (`pod_mutator.go` has `InjectAuthBridge` only), so it is a parameter: any pure
  function of the pod spec, namespace, name and annotations, which writes nothing to the cluster.
  The README describes it as the legacy SPIRE sidecar injection, whose path in `pod_mutator.go`
  (`ensureServiceAccount`) creates a ServiceAccount; such a write is outside this model of
  `Default`. -/
  mutatePodSpec : PodSpec → String → String → StrMap → Except Error PodSpec
  /-- `json.Unmarshal` into a `corev1.PodTemplateSpec`. -/
  unmarshalPodTemplate : String → Except Error PodTemplateSpec
  /-- `json.Marshal` of a `corev1.PodTemplateSpec`. -/
  marshalPodTemplate : PodTemplateSpec → Except Error String
  /-- `json.Marshal` of a gateway spec, as `needsUpdate` compares it. -/
  marshalSpec : ObjectSpec → String
  /-- Whether the client's scheme knows a kind (`Scheme().ObjectKinds`). -/
  registered : Kind → Bool
  /-- `os.Getenv`, read for `MCPGatewayNamespace` and `MCPGatewayName`. -/
  getenv : String → String

/-- An object carrying `toolhive.kagenti.com/managed=true`. -/
def Managed (o : Object) : Prop := o.labels.index managedByLabel = "true"

/-- Whether an object is managed is decided by reading its label. -/
instance : DecidablePred Managed := fun o =>
  inferInstanceAs (Decidable (o.labels.index managedByLabel = "true"))

/-- Parent-labelled objects are exactly what `cleanupGatewayResources` selects. -/
theorem matchesLabels_parentSelector {m : MCPServer} {labels : StrMap}
    (h : ParentLabelled m labels) : matchesLabels (parentSelector m) labels = true := by
  rw [matchesLabels_iff]
  intro k v hk
  rcases List.mem_pair.mp (StrMap.mem_of_lookup_ofList hk) with hkv | hkv <;>
    obtain ⟨rfl, rfl⟩ := Prod.mk.inj hkv
  · exact h.2.1
  · exact h.2.2

namespace MCPServerCustomDefaulter

variable (d : MCPServerCustomDefaulter)

/-! ## (1) `createOrUpdateResource` -/

/-- `createOrUpdateResource`. -/
def createOrUpdateResource (f : Faults) (s : Store) (obj : Object) : Except Error Unit × Store :=
  if !d.registered obj.spec.kind then
    (.error (Error.plain
      ("failed to get GVK for object: no kind is registered for " ++ obj.spec.kind.gvkKind)), s)
  else
    match s.get f obj.key with
    | .error e =>
      if e.reason = .notFound then
        match s.create f obj with
        | .ok s' => (.ok (), s')
        | .error ce =>
          if ce.reason = .forbidden then
            (.error (ce.wrap ("RBAC: permission denied when creating resource " ++ obj.namespace ++
              "/" ++ obj.name ++ " of kind " ++ obj.spec.kind.gvkKind ++
              ". Please check the webhook\x27s RBAC permissions: ")), s)
          else (.error ce, s)
      else (.error (e.wrap "failed to get existing resource: "), s)
    | .ok existing =>
      if existing.labels.index managedByLabel != "true" then (.ok (), s)
      else if !needsUpdate d.marshalSpec existing obj then (.ok (), s)
      else
        match s.update f { obj with resourceVersion := existing.resourceVersion } with
        | .ok s' => (.ok (), s')
        | .error e => (.error e, s)

variable {d} {f : Faults} {s : Store} {obj : Object}

/-- **Everything `createOrUpdateResource` can do.** Fail having written nothing; skip an
unmanaged object, or a managed one that `needsUpdate` finds current; create `obj` where nothing
was stored; or overwrite a managed object that `needsUpdate` finds out of date. -/
theorem createOrUpdateResource_cases (d : MCPServerCustomDefaulter) (f : Faults) (s : Store)
    (obj : Object) :
    (∃ e, d.createOrUpdateResource f s obj = (.error e, s)) ∨
    (∃ existing, s.lookup obj.key = some existing ∧
      (¬ Managed existing ∨ needsUpdate d.marshalSpec existing obj = false) ∧
      d.createOrUpdateResource f s obj = (.ok (), s)) ∨
    (s.lookup obj.key = none ∧ d.createOrUpdateResource f s obj = (.ok (), s.put obj)) ∨
    ∃ existing, s.lookup obj.key = some existing ∧ Managed existing ∧
      needsUpdate d.marshalSpec existing obj = true ∧
      d.createOrUpdateResource f s obj
        = (.ok (), s.put { obj with resourceVersion := existing.resourceVersion }) := by
  unfold createOrUpdateResource
  split; · exact .inl ⟨_, rfl⟩
  rcases hg : s.get f obj.key with e | existing
  · simp only
    split
    · rcases hc : s.create f obj with ce | s'
      · simp only; split <;> exact .inl ⟨_, rfl⟩
      · obtain ⟨hnone, rfl⟩ := Store.create_ok hc
        exact .inr (.inr (.inl ⟨hnone, rfl⟩))
    · exact .inl ⟨_, rfl⟩
  · have he := Store.get_ok hg
    simp only
    by_cases hm : Managed existing
    · have hm' : (existing.labels.index managedByLabel != "true") = false := by
        simpa [Managed] using hm
      simp only [hm', Bool.false_eq_true, if_false]
      cases hn : needsUpdate d.marshalSpec existing obj
      · exact .inr (.inl ⟨existing, he, .inr hn, by simp [hn]⟩)
      · simp only [Bool.not_true, Bool.false_eq_true, if_false]
        rcases hu : s.update f { obj with resourceVersion := existing.resourceVersion } with e | s'
        · exact .inl ⟨e, rfl⟩
        · obtain ⟨-, rfl⟩ := Store.update_ok hu
          exact .inr (.inr (.inr ⟨existing, he, hm, hn, rfl⟩))
    · have hm' : (existing.labels.index managedByLabel != "true") = true := by
        simpa [Managed] using hm
      exact .inr (.inl ⟨existing, he, .inl hm, by simp [hm']⟩)

/-- A failed `createOrUpdateResource` wrote nothing: its one write is its last step. -/
theorem createOrUpdateResource_error {e : Error}
    (h : (d.createOrUpdateResource f s obj).1 = .error e) : (d.createOrUpdateResource f s obj).2 = s := by
  rcases createOrUpdateResource_cases d f s obj with ⟨_, h'⟩ | ⟨_, -, -, h'⟩ | ⟨-, h'⟩ | ⟨_, -, -, -, h'⟩ <;>
    rw [h'] at h ⊢
  all_goals cases h

/-- `createOrUpdateResource` writes nothing but `obj`'s key. -/
theorem createOrUpdateResource_agreeOff :
    Store.AgreeOff (· = obj.key) s (d.createOrUpdateResource f s obj).2 := by
  rcases createOrUpdateResource_cases d f s obj with ⟨_, h⟩ | ⟨_, -, -, h⟩ | ⟨-, h⟩ | ⟨_, -, -, -, h⟩ <;>
    rw [h]
  · exact .refl _ _
  · exact .refl _ _
  · exact Store.AgreeOff.put s obj rfl
  · exact Store.AgreeOff.put s _ rfl

/-- `createOrUpdateResource` never overwrites an unmanaged object. -/
theorem createOrUpdateResource_keeps_unmanaged :
    Store.Keeps (¬ Managed ·) s (d.createOrUpdateResource f s obj).2 := by
  rcases createOrUpdateResource_cases d f s obj with
    ⟨_, h⟩ | ⟨_, -, -, h⟩ | ⟨hn, h⟩ | ⟨existing, he, hm, -, h⟩ <;> rw [h]
  · exact .refl _ _
  · exact .refl _ _
  · exact Store.Keeps.put s obj fun o' ho => by simp [hn] at ho
  · exact Store.Keeps.put s _ fun o' ho hn =>
      hn (Option.some.inj ((show s.lookup obj.key = some o' from ho).symm.trans he) ▸ hm)

/-! ## (2) `createGatewayCRs` -/

/-- `createGatewayCRs`: the route, then the gateway `MCPServer`. -/
def createGatewayCRs (f : Faults) (s : Store) (m : MCPServer) : Except Error Unit × Store :=
  match d.createOrUpdateResource f s (buildHTTPRoute d.getenv m) with
  | (.error e, s') => (.error (e.wrap "failed to create/update HTTPRoute: "), s')
  | (.ok (), s') =>
    match d.createOrUpdateResource f s' (buildGatewayMCPServer m) with
    | (.error e, s'') => (.error (e.wrap "failed to create/update Gateway MCPServer: "), s'')
    | (.ok (), s'') => (.ok (), s'')

variable (m : MCPServer)

/-- A transitive store relation that each of the two writes establishes holds across
`createGatewayCRs`, whichever write fails. -/
theorem createGatewayCRs_rel {R : Store → Store → Prop} (htrans : ∀ {a b c}, R a b → R b c → R a c)
    (hroute : R s (d.createOrUpdateResource f s (buildHTTPRoute d.getenv m)).2)
    (hgw : ∀ s', R s' (d.createOrUpdateResource f s' (buildGatewayMCPServer m)).2) :
    R s (d.createGatewayCRs f s m).2 := by
  unfold createGatewayCRs
  rcases hr : d.createOrUpdateResource f s (buildHTTPRoute d.getenv m) with ⟨_ | _, s'⟩
  all_goals rw [hr] at hroute; dsimp only
  · exact hroute
  · have h₂ := hgw s'
    rcases hg : d.createOrUpdateResource f s' (buildGatewayMCPServer m) with ⟨_ | _, s''⟩
    all_goals rw [hg] at h₂; exact htrans hroute h₂

/-- Creating a server's gateway objects never overwrites an unmanaged object. -/
theorem createGatewayCRs_keeps_unmanaged :
    Store.Keeps (¬ Managed ·) s (d.createGatewayCRs f s m).2 :=
  createGatewayCRs_rel m Store.Keeps.trans createOrUpdateResource_keeps_unmanaged
    fun _ => createOrUpdateResource_keeps_unmanaged

/-- The delete loop of `cleanupGatewayResources` over the listed items; `NotFound` is skipped,
any other error ends the loop. -/
def deleteItems (f : Faults) (what : String) : List Object → Store → Except Error Unit × Store
  | [], s => (.ok (), s)
  | o :: os, s =>
    match s.delete f o.key with
    | .ok s' => deleteItems f what os s'
    | .error e =>
      if e.reason = .notFound then deleteItems f what os s
      else (.error (e.wrap ("failed to delete " ++ what ++ " " ++ o.name ++ ": ")), s)

/-- `cleanupGatewayResources`: delete the routes, then the gateway `MCPServer`s, that carry the
server's parent labels, in any namespace. -/
def cleanupGatewayResources (f : Faults) (s : Store) (m : MCPServer) : Except Error Unit × Store :=
  match s.list f .httpRoute (parentSelector m) with
  | .error e => (.error (e.wrap "failed to list HTTPRoutes: "), s)
  | .ok routes =>
    match deleteItems f "HTTPRoute" routes s with
    | (.error e, s') => (.error e, s')
    | (.ok (), s') =>
      match s'.list f .gatewayMCPServer (parentSelector m) with
      | .error e => (.error (e.wrap "failed to list Gateway MCPServers: "), s')
      | .ok servers => deleteItems f "Gateway MCPServer" servers s'

/-! ## (4) `Default` -/

/-- The deletion path: if our finalizer is present, clean up and, only on success, drop it. -/
def deletionPath (f : Faults) (m : MCPServer) (s : Store) : Except Error Unit × MCPServer × Store :=
  if containsString m.finalizers gatewayCleanupFinalizer then
    match cleanupGatewayResources f s m with
    | (.error e, s') => (.error e, m, s')
    | (.ok (), s') =>
      (.ok (), { m with finalizers := removeString m.finalizers gatewayCleanupFinalizer }, s')
  else (.ok (), m, s)

/-- Decode the raw `PodTemplateSpec`, or start from an empty one when there is none. -/
def decodePodTemplate (m : MCPServer) : Except Error PodTemplateSpec :=
  match m.podTemplateSpec with
  | some ⟨some raw⟩ =>
    match d.unmarshalPodTemplate raw with
    | .ok pt => .ok pt
    | .error e => .error (e.wrap "failed to unmarshal PodTemplateSpec: ")
  | _ => .ok ⟨⟨none, none, none, "", []⟩⟩

/-- Decode, mutate through `MutatePodSpec`, and store the re-encoded `PodTemplateSpec`. -/
def injectPodTemplate (m : MCPServer) : Except Error MCPServer :=
  match d.decodePodTemplate m with
  | .error e => .error e
  | .ok pt =>
    match d.mutatePodSpec pt.spec m.namespace m.name m.annotations with
    | .error e => .error e
    | .ok spec =>
      match d.marshalPodTemplate { pt with spec := spec } with
      | .error e => .error (e.wrap "failed to marshal PodTemplateSpec: ")
      | .ok raw => .ok { m with podTemplateSpec := some ⟨some raw⟩ }

/-- Add our finalizer unless it is already there. -/
def addFinalizer (m : MCPServer) : MCPServer :=
  if containsString m.finalizers gatewayCleanupFinalizer then m
  else { m with finalizers := m.finalizers ++ [gatewayCleanupFinalizer] }

/-- The admission path: mutate the pod template, then — unless opted out — add the finalizer and
create or update the gateway objects. -/
def admissionPath (f : Faults) (m : MCPServer) (s : Store) : Except Error Unit × MCPServer × Store :=
  match d.injectPodTemplate m with
  | .error e => (.error e, m, s)
  | .ok m' =>
    if generateGatewayCRs m' then
      ((d.createGatewayCRs f s (addFinalizer m')).1, addFinalizer m',
        (d.createGatewayCRs f s (addFinalizer m')).2)
    else (.ok (), m', s)

/-- `Default`: the result, the `MCPServer` as the webhook leaves it (Go mutates it in place,
also on an error), and the store. -/
def default (f : Faults) (m : MCPServer) (s : Store) : Except Error Unit × MCPServer × Store :=
  if m.deletionTimestamp.isSome then deletionPath f m s else d.admissionPath f m s

/-! ## (5) What each path can do -/

/-- A mutated pod template changes the server only in its `PodTemplateSpec`. -/
theorem injectPodTemplate_ok {m m' : MCPServer} (h : d.injectPodTemplate m = .ok m') :
    ∃ pts, m' = { m with podTemplateSpec := pts } := by
  unfold injectPodTemplate at h
  split at h; · cases h
  split at h; · cases h
  split at h
  · cases h
  · cases h; exact ⟨_, rfl⟩

/-- Adding the finalizer keeps the route key. -/
@[simp] theorem routeKey_addFinalizer (m : MCPServer) : routeKey (addFinalizer m) = routeKey m := by
  unfold addFinalizer; split <;> rfl

/-- **Everything the admission path can do.** Fail before any write, or — with the server
changed only in its pod template — stop, or run `createGatewayCRs` under the finalizer. -/
theorem admissionPath_cases (f : Faults) (m : MCPServer) (s : Store) :
    (∃ e, d.admissionPath f m s = (.error e, m, s)) ∨
    ∃ pts, (generateGatewayCRs m = false ∧
        d.admissionPath f m s = (.ok (), { m with podTemplateSpec := pts }, s)) ∨
      (generateGatewayCRs m = true ∧ d.admissionPath f m s =
        ((d.createGatewayCRs f s (addFinalizer { m with podTemplateSpec := pts })).1,
          addFinalizer { m with podTemplateSpec := pts },
          (d.createGatewayCRs f s (addFinalizer { m with podTemplateSpec := pts })).2)) := by
  unfold admissionPath
  rcases hi : d.injectPodTemplate m with e | m'
  · exact .inl ⟨e, rfl⟩
  · obtain ⟨pts, rfl⟩ := injectPodTemplate_ok hi
    dsimp only
    refine .inr ⟨pts, ?_⟩
    split
    · exact .inr ⟨‹_›, rfl⟩
    · rename_i hgen
      exact .inl ⟨Bool.eq_false_iff.mpr hgen, rfl⟩

/-- The admission path never overwrites or deletes an unmanaged object. -/
theorem admissionPath_keeps_unmanaged (f : Faults) (m : MCPServer) (s : Store) :
    Store.Keeps (¬ Managed ·) s (d.admissionPath f m s).2.2 := by
  rcases admissionPath_cases (d := d) f m s with ⟨e, h⟩ | ⟨pts, ⟨-, h⟩ | ⟨-, h⟩⟩ <;> rw [h]
  · exact .refl _ _
  · exact .refl _ _
  · exact createGatewayCRs_keeps_unmanaged _

/-- **The finalizers after one `Default` call.** Unchanged; our finalizer appended where it was
missing; or — on deletion, after a cleanup that returned nil — every copy of it removed. -/
theorem default_finalizers (f : Faults) (m : MCPServer) (s : Store) :
    (d.default f m s).2.1.finalizers = m.finalizers ∨
    (gatewayCleanupFinalizer ∉ m.finalizers ∧
      (d.default f m s).2.1.finalizers = m.finalizers ++ [gatewayCleanupFinalizer]) ∨
    (m.deletionTimestamp.isSome ∧ (cleanupGatewayResources f s m).1 = .ok () ∧
      (d.default f m s).2.1.finalizers = removeString m.finalizers gatewayCleanupFinalizer) := by
  unfold default
  split
  · rename_i hdel
    unfold deletionPath
    split
    · rcases hc : cleanupGatewayResources f s m with ⟨e | u, s'⟩
      · exact .inl rfl
      · exact .inr (.inr ⟨hdel, rfl, rfl⟩)
    · exact .inl rfl
  · rcases admissionPath_cases (d := d) f m s with ⟨e, h⟩ | ⟨pts, ⟨-, h⟩ | ⟨-, h⟩⟩ <;> rw [h]
    · exact .inl rfl
    · exact .inl rfl
    · unfold addFinalizer
      split
      · exact .inl rfl
      · rename_i hc
        exact .inr (.inl ⟨by simpa using hc, rfl⟩)

end MCPServerCustomDefaulter

end KagentiWebhook.V1alpha1
