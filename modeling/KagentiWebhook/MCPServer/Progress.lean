import KagentiWebhook.MCPServer.Writes

/-! # What `Default` achieves when the API server answers normally

`MCPServer.Writes` bounds what a call may write under any API failures. Here the API server
answers every request normally (`Faults.none`) and the calls reach their goal:

* **`deleteItems_none`**, **`cleanupGatewayResources_none`** — the delete loop and the cleanup
  return nil and leave no listed, respectively selected, object behind.
* **`default_deletion_cleans_selection`** — a deleting call with our finalizer returns nil, drops
  the finalizer, and leaves the store exactly the old one without the objects the cleanup
  selects.
* **`createOrUpdateResource_fresh`**, **`createGatewayCRs_fresh`**, **`admissionPath_fresh`** —
  under free keys both gateway objects are created as built.
* **`default_admission_creates_gateway_objects`** — a live call whose pod template mutates
  cleanly returns nil, adds the finalizer and stores both objects.

An occupied key is left out: there the call keeps an unmanaged object and skips a managed one
that `needsUpdate` finds current, which `MCPServer.ChangeCheck` shows can differ from the
desired object; `MCPServer.Reconcile` shows the call still returns nil there. -/

namespace KagentiWebhook.V1alpha1

namespace MCPServerCustomDefaulter

/-! ## (1) Deletion -/

/-- With no failures the delete loop returns nil and no listed item is left. -/
theorem deleteItems_none (what : String) (items : List Object) (s : Store) :
    ∃ s', deleteItems Faults.none what items s = (.ok (), s') ∧
      ∀ o ∈ items, s'.lookup o.key = none := by
  induction items generalizing s with
  | nil => exact ⟨s, rfl, by simp⟩
  | cons o os ih =>
    -- the first delete empties `o`'s key, whether it held something or not
    obtain ⟨s₁, hstep, hempty⟩ : ∃ s₁, deleteItems Faults.none what (o :: os) s
        = deleteItems Faults.none what os s₁ ∧ s₁.lookup o.key = none := by
      by_cases hm : o.key ∈ s.objects
      · exact ⟨s.erase o.key, by simp [deleteItems, Store.delete_none, hm], by
          simp [Store.lookup_erase]⟩
      · exact ⟨s, by simp [deleteItems, Store.delete_none, hm, notFoundError],
          AList.lookup_eq_none.mpr hm⟩
    obtain ⟨s', hd, hgone⟩ := ih s₁
    have hkeep : Store.OnlyDeletes _ s₁ s' := hd ▸ deleteItems_onlyDeletes Faults.none what os s₁
    refine ⟨s', hstep.trans hd, fun o' ho' => ?_⟩
    rcases List.mem_cons.mp ho' with rfl | ho'
    · exact hkeep.lookup_none hempty
    · exact hgone o' ho'

/-- With no failures the cleanup returns nil and no object it selects is left. -/
theorem cleanupGatewayResources_none (s : Store) (m : MCPServer) :
    ∃ s', cleanupGatewayResources Faults.none s m = (.ok (), s') ∧
      ∀ k o, s.lookup k = some o → CleanupSelected m o → s'.lookup k = none := by
  obtain ⟨routes, hr, hroutes⟩ := s.list_none .httpRoute (parentSelector m)
  obtain ⟨s₁, hd₁, hgone₁⟩ := deleteItems_none "HTTPRoute" routes s
  obtain ⟨servers, hg, hservers⟩ := s₁.list_none .gatewayMCPServer (parentSelector m)
  obtain ⟨s₂, hd₂, hgone₂⟩ := deleteItems_none "Gateway MCPServer" servers s₁
  have hkeep₁ : Store.OnlyDeletes _ s s₁ := hd₁ ▸ deleteItems_onlyDeletes Faults.none _ routes s
  have hkeep₂ : Store.OnlyDeletes _ s₁ s₂ :=
    hd₂ ▸ deleteItems_onlyDeletes Faults.none _ servers s₁
  refine ⟨s₂, by simp only [cleanupGatewayResources, hr, hd₁, hg, hd₂], ?_⟩
  rintro k o hk ⟨hkind | hkind, hsel⟩ <;> obtain rfl := Store.key_of_lookup hk
  · -- a route was listed and deleted by the first loop
    exact hkeep₂.lookup_none (hgone₁ o (hroutes _ o hk hkind hsel))
  · -- a gateway `MCPServer` survived the first loop, then was listed and deleted
    rcases hkeep₁ o.key with h₁ | ⟨-, h₁⟩
    · exact hgone₂ o (hservers _ o (h₁.trans hk) hkind hsel)
    · exact hkeep₂.lookup_none h₁

/-- **With no failures, deletion removes exactly what the cleanup selects.** A call on a
server with a deletion timestamp and our finalizer returns nil and drops the finalizer; the
store it leaves has lost every route and gateway `MCPServer` that carries the server's parent
labels, and nothing else. -/
theorem default_deletion_cleans_selection (d : MCPServerCustomDefaulter) (m : MCPServer)
    (s : Store) (hdel : m.deletionTimestamp.isSome = true)
    (hfin : gatewayCleanupFinalizer ∈ m.finalizers) :
    (d.default Faults.none m s).1 = .ok () ∧
      gatewayCleanupFinalizer ∉ (d.default Faults.none m s).2.1.finalizers ∧
      Store.OnlyDeletes (fun k => ∃ o, s.lookup k = some o ∧ CleanupSelected m o) s
        (d.default Faults.none m s).2.2 ∧
      ∀ k o, s.lookup k = some o → CleanupSelected m o →
        (d.default Faults.none m s).2.2.lookup k = none := by
  have hpath : d.default Faults.none m s = deletionPath Faults.none m s := if_pos hdel
  have hkeep := deletionPath_onlyDeletes Faults.none m s
  obtain ⟨s', hc, hgone⟩ := cleanupGatewayResources_none s m
  have hrun : deletionPath Faults.none m s
      = (.ok (), { m with finalizers := removeString m.finalizers gatewayCleanupFinalizer }, s') := by
    simp only [deletionPath, (containsString_iff _ _).mpr hfin, if_true, hc]
  rw [hrun] at hkeep
  rw [hpath, hrun]
  exact ⟨rfl, by simp [removeString], hkeep, hgone⟩

/-- Deleting `weather` with no failures removes the user's route and succeeds. -/
theorem default_deletion_cleans_selection_weather :
    deletingWeather.deletionTimestamp.isSome = true ∧
      gatewayCleanupFinalizer ∈ deletingWeather.finalizers ∧
      (plainDefaulter.default Faults.none deletingWeather (Store.empty.put userRoute)).1 = .ok () ∧
      gatewayCleanupFinalizer ∉
        (plainDefaulter.default Faults.none deletingWeather (Store.empty.put userRoute)).2.1.finalizers ∧
      Store.OnlyDeletes
        (fun k => ∃ o, (Store.empty.put userRoute).lookup k = some o ∧
          CleanupSelected deletingWeather o)
        (Store.empty.put userRoute)
        (plainDefaulter.default Faults.none deletingWeather (Store.empty.put userRoute)).2.2 ∧
      ∀ k o, (Store.empty.put userRoute).lookup k = some o → CleanupSelected deletingWeather o →
        (plainDefaulter.default Faults.none deletingWeather (Store.empty.put userRoute)).2.2.lookup k
          = none :=
  ⟨rfl, List.mem_singleton_self _,
    default_deletion_cleans_selection plainDefaulter deletingWeather _ rfl
      (List.mem_singleton_self _)⟩

/-! ## (2) Admission -/

variable {d : MCPServerCustomDefaulter} {s : Store}

/-- With no failures, an object of a registered kind is created under a free key. -/
theorem createOrUpdateResource_fresh (obj : Object) (hreg : d.registered obj.spec.kind = true)
    (hfree : s.lookup obj.key = none) :
    d.createOrUpdateResource Faults.none s obj = (.ok (), s.put obj) := by
  have hm : obj.key ∉ s.objects := AList.lookup_eq_none.mp hfree
  simp [createOrUpdateResource, hreg, Store.get, Store.create, Faults.none, hfree, hm, notFoundError]

/-- With no failures and both keys free, `createGatewayCRs` creates the route, then the gateway
`MCPServer`, as built. -/
theorem createGatewayCRs_fresh (m : MCPServer)
    (hreg : d.registered .httpRoute = true ∧ d.registered .gatewayMCPServer = true)
    (hroute : s.lookup (routeKey m) = none) (hgw : s.lookup (gatewayKey m) = none) :
    d.createGatewayCRs Faults.none s m
      = (.ok (), (s.put (buildHTTPRoute d.getenv m)).put (buildGatewayMCPServer m)) := by
  have hgw' : (s.put (buildHTTPRoute d.getenv m)).lookup (gatewayKey m) = none := by
    rw [Store.lookup_put, if_neg (by simp [routeKey, gatewayKey])]
    exact hgw
  simp only [createGatewayCRs, createOrUpdateResource_fresh (buildHTTPRoute d.getenv m) hreg.1 hroute,
    createOrUpdateResource_fresh (buildGatewayMCPServer m) hreg.2 hgw']

/-- With no failures and both keys free, an admission whose pod template mutates cleanly, with
gateway objects on, adds our finalizer and creates the route, then the gateway `MCPServer`. -/
theorem admissionPath_fresh {m m' : MCPServer} (hinj : d.injectPodTemplate m = .ok m')
    (hgen : generateGatewayCRs m = true)
    (hreg : d.registered .httpRoute = true ∧ d.registered .gatewayMCPServer = true)
    (hroute : s.lookup (routeKey m) = none) (hgw : s.lookup (gatewayKey m) = none) :
    d.admissionPath Faults.none m s
      = (.ok (), addFinalizer m', (s.put (buildHTTPRoute d.getenv m)).put (buildGatewayMCPServer m)) := by
  obtain ⟨pts, rfl⟩ := injectPodTemplate_ok hinj
  have hcr : d.createGatewayCRs Faults.none s (addFinalizer { m with podTemplateSpec := pts })
      = (.ok (), (s.put (buildHTTPRoute d.getenv m)).put (buildGatewayMCPServer m)) := by
    have h := createGatewayCRs_fresh (d := d) (s := s) (addFinalizer { m with podTemplateSpec := pts })
      hreg (by rw [routeKey_addFinalizer]; exact hroute) (by rw [gatewayKey_addFinalizer]; exact hgw)
    rwa [buildHTTPRoute_addFinalizer, buildGatewayMCPServer_addFinalizer] at h
  simp only [admissionPath, hinj, show generateGatewayCRs { m with podTemplateSpec := pts } from hgen,
    if_true, hcr]

/-- After the two creates, each key holds what was created under it. -/
theorem lookup_gatewayObjects (getenv : String → String) (m : MCPServer) :
    ((s.put (buildHTTPRoute getenv m)).put (buildGatewayMCPServer m)).lookup (routeKey m)
        = some (buildHTTPRoute getenv m) ∧
      ((s.put (buildHTTPRoute getenv m)).put (buildGatewayMCPServer m)).lookup (gatewayKey m)
        = some (buildGatewayMCPServer m) := by
  refine ⟨?_, ?_⟩
  · rw [Store.lookup_put, if_neg (by simp [routeKey, gatewayKey]), Store.lookup_put,
      if_pos (buildHTTPRoute_key _ _).symm]
  · rw [Store.lookup_put, if_pos (buildGatewayMCPServer_key _).symm]

/-- **With no failures, a live call creates both gateway objects.** When the pod template
mutates cleanly, gateway objects are on and neither key is taken, the call returns nil, adds
our finalizer, and the store holds the route and the gateway `MCPServer` as built. -/
theorem default_admission_creates_gateway_objects (d : MCPServerCustomDefaulter) (m m' : MCPServer)
    (s : Store) (hlive : m.deletionTimestamp = none) (hinj : d.injectPodTemplate m = .ok m')
    (hgen : generateGatewayCRs m = true)
    (hreg : d.registered .httpRoute = true ∧ d.registered .gatewayMCPServer = true)
    (hroute : s.lookup (routeKey m) = none) (hgw : s.lookup (gatewayKey m) = none) :
    (d.default Faults.none m s).1 = .ok () ∧
      gatewayCleanupFinalizer ∈ (d.default Faults.none m s).2.1.finalizers ∧
      (d.default Faults.none m s).2.2.lookup (routeKey m) = some (buildHTTPRoute d.getenv m) ∧
      (d.default Faults.none m s).2.2.lookup (gatewayKey m) = some (buildGatewayMCPServer m) := by
  rw [default_of_live hlive, admissionPath_fresh hinj hgen hreg hroute hgw]
  exact ⟨rfl, mem_addFinalizer _, lookup_gatewayObjects _ m⟩

/-- The admission of `weather` into an empty store creates its route and gateway `MCPServer`. -/
theorem default_admission_creates_gateway_objects_weather :
    (plainDefaulter.default Faults.none weatherServer Store.empty).1 = .ok () ∧
      gatewayCleanupFinalizer ∈
        (plainDefaulter.default Faults.none weatherServer Store.empty).2.1.finalizers ∧
      (plainDefaulter.default Faults.none weatherServer Store.empty).2.2.lookup
        (routeKey weatherServer) = some (buildHTTPRoute plainDefaulter.getenv weatherServer) ∧
      (plainDefaulter.default Faults.none weatherServer Store.empty).2.2.lookup
        (gatewayKey weatherServer) = some (buildGatewayMCPServer weatherServer) :=
  default_admission_creates_gateway_objects plainDefaulter weatherServer
    { weatherServer with podTemplateSpec := some ⟨some "{}"⟩ } Store.empty rfl rfl rfl ⟨rfl, rfl⟩
    rfl rfl

end MCPServerCustomDefaulter

end KagentiWebhook.V1alpha1
