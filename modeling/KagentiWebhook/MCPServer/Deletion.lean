import KagentiWebhook.MCPServer.Writes

/-! # Deletion under honest failures

The deletion path drops our finalizer only after `cleanupGatewayResources` returned nil; once it
is gone the API server may remove the `MCPServer`, and no later call cleans up after it. This
file shows that the cleanup was complete by then, under every pattern of API failures that does
not make up a `NotFound` (`Faults.Honest`): the delete loop skips `NotFound`, so a made-up one
would leave its object behind while the loop returns nil.

* **`deleteItems_ok_honest`**, **`cleanupGatewayResources_ok_honest`** — a delete loop,
  respectively a cleanup, that returns nil leaves none of its items, respectively nothing it
  selects.
* **`default_finalizer_removed_clears`** — a call that drops our finalizer leaves no object the
  cleanup selects.
* **`runDefault_deletion_clears`** — over every run of deleting calls, if the finalizer the server
  started with is gone at the end, so is every object its cleanup selects.

Without honest failures the finalizer can go while a selected route stays (the example at the
end). -/

namespace KagentiWebhook.V1alpha1

namespace MCPServerCustomDefaulter

variable {f : Faults}

/-! ## (1) The delete loop and the cleanup -/

/-- Under honest failures, a delete loop that returns nil leaves none of its items stored. -/
theorem deleteItems_ok_honest (hf : f.Honest) (what : String) (items : List Object) (s : Store)
    (h : (deleteItems f what items s).1 = .ok ()) :
    ∀ o ∈ items, (deleteItems f what items s).2.lookup o.key = none := by
  induction items generalizing s with
  | nil => simp
  | cons o os ih =>
    -- the first delete empties `o`'s key, or finds it empty, and the loop goes on
    obtain ⟨s₁, hstep, hempty⟩ : ∃ s₁, deleteItems f what (o :: os) s = deleteItems f what os s₁ ∧
        s₁.lookup o.key = none := by
      rcases hd : s.delete f o.key with e | s₁
      · by_cases hnf : e.reason = .notFound
        · exact ⟨s, by simp [deleteItems, hd, hnf], Store.delete_notFound hf hd hnf⟩
        · simp [deleteItems, hd, hnf] at h
      · obtain ⟨-, rfl⟩ := Store.delete_ok hd
        exact ⟨s.erase o.key, by simp [deleteItems, hd], by simp [Store.lookup_erase]⟩
    rw [hstep] at h ⊢
    intro o' ho'
    rcases List.mem_cons.mp ho' with rfl | ho'
    · exact (deleteItems_onlyDeletes f what os s₁).lookup_none hempty
    · exact ih s₁ h o' ho'

/-- Under honest failures, a cleanup that returns nil leaves no object it selects: each route was
listed and deleted by the first loop, each gateway `MCPServer` by the second. -/
theorem cleanupGatewayResources_ok_honest (hf : f.Honest) (s : Store) (m : MCPServer)
    (h : (cleanupGatewayResources f s m).1 = .ok ()) :
    ∀ k o, (cleanupGatewayResources f s m).2.lookup k = some o → ¬ CleanupSelected m o := by
  unfold cleanupGatewayResources at h ⊢
  rcases hr : s.list f .httpRoute (parentSelector m) with e | routes
  · simp [hr] at h
  rcases hd : deleteItems f "HTTPRoute" routes s with ⟨_ | _, s₁⟩
  · simp [hr, hd] at h
  rcases hg : s₁.list f .gatewayMCPServer (parentSelector m) with e | servers
  · simp [hr, hd, hg] at h
  simp only [hr, hd, hg] at h ⊢
  have hgone₁ := deleteItems_ok_honest hf _ routes s (by rw [hd])
  have hkeep₁ := deleteItems_onlyDeletes f "HTTPRoute" routes s
  rw [hd] at hgone₁ hkeep₁
  have hkeep₂ := deleteItems_onlyDeletes f "Gateway MCPServer" servers s₁
  rintro k o hk ⟨hkind | hkind, hsel⟩ <;> obtain rfl := Store.key_of_lookup hk
  · have h₁ := hkeep₂.lookup_of_some hk
    rw [hgone₁ o (Store.mem_list_of_ok hr (hkeep₁.lookup_of_some h₁) hkind hsel)] at h₁
    cases h₁
  · rw [deleteItems_ok_honest hf _ servers s₁ h o
      (Store.mem_list_of_ok hg (hkeep₂.lookup_of_some hk) hkind hsel)] at hk
    cases hk

/-! ## (2) Dropping the finalizer -/

/-- With our finalizer present, the deletion path leaves the store the cleanup leaves. -/
theorem deletionPath_store {m : MCPServer} {s : Store} (h : gatewayCleanupFinalizer ∈ m.finalizers) :
    (deletionPath f m s).2.2 = (cleanupGatewayResources f s m).2 := by
  unfold deletionPath
  rw [if_pos ((containsString_iff _ _).mpr h)]
  rcases cleanupGatewayResources f s m with ⟨_ | _, _⟩ <;> rfl

/-- Under honest failures, a call that drops our finalizer leaves no object the cleanup selects. -/
theorem default_finalizer_removed_clears (d : MCPServerCustomDefaulter) (m : MCPServer) (s : Store)
    (hf : f.Honest) (hin : gatewayCleanupFinalizer ∈ m.finalizers)
    (hout : gatewayCleanupFinalizer ∉ (d.default f m s).2.1.finalizers) :
    ∀ k o, (d.default f m s).2.2.lookup k = some o → ¬ CleanupSelected m o := by
  obtain ⟨hdel, hok⟩ := finalizer_removed d f m s hin hout
  rw [show d.default f m s = deletionPath f m s from if_pos hdel, deletionPath_store hin]
  exact cleanupGatewayResources_ok_honest hf s m hok

/-- A run of deleting calls only deletes: what it leaves was there before. -/
theorem runDefault_deleting_lookup (d : MCPServerCustomDefaulter) (cs : List DefaultCall)
    (hcalls : ∀ c ∈ cs, c.deletionTimestamp.isSome) (m : MCPServer) (s : Store) {k : ObjectKey}
    {o : Object} (h : (d.runDefault cs m s).2.lookup k = some o) : s.lookup k = some o := by
  induction cs generalizing m s with
  | nil => exact h
  | cons c cs ih =>
    have hdel : (c.apply m).deletionTimestamp.isSome = true := hcalls c (List.mem_cons_self _ _)
    have hk := ih (fun c' hc' => hcalls c' (List.mem_cons_of_mem _ hc'))
      (d.default c.faults (c.apply m) s).2.1 (d.default c.faults (c.apply m) s).2.2 h
    rw [show d.default c.faults (c.apply m) s = deletionPath c.faults (c.apply m) s from
      if_pos hdel] at hk
    exact (deletionPath_onlyDeletes c.faults (c.apply m) s).lookup_of_some hk

/-- **Once our finalizer is gone, so is everything the cleanup selects.** Over every run of
deleting calls (each with a deletion timestamp, as the API server keeps sending a server it is
deleting) under honest failures: if the server starts with our finalizer and ends without it,
the store the run leaves holds no route or gateway `MCPServer` carrying the server's parent
labels, whatever the calls after the one that dropped it do. -/
theorem runDefault_deletion_clears (d : MCPServerCustomDefaulter) (cs : List DefaultCall)
    (m : MCPServer) (s : Store) (hcalls : ∀ c ∈ cs, c.deletionTimestamp.isSome ∧ c.faults.Honest)
    (hin : gatewayCleanupFinalizer ∈ m.finalizers)
    (hout : gatewayCleanupFinalizer ∉ (d.runDefault cs m s).1.finalizers) :
    ∀ k o, (d.runDefault cs m s).2.lookup k = some o → ¬ CleanupSelected m o := by
  induction cs generalizing m s with
  | nil => exact absurd hin hout
  | cons c cs ih =>
    have hc := hcalls c (List.mem_cons_self _ _)
    have htail : ∀ c' ∈ cs, c'.deletionTimestamp.isSome ∧ c'.faults.Honest :=
      fun c' hc' => hcalls c' (List.mem_cons_of_mem _ hc')
    by_cases h₁ : gatewayCleanupFinalizer ∈ (d.default c.faults (c.apply m) s).2.1.finalizers
    · -- the finalizer survives this call: the rest of the run drops it, for the same selector
      have hsel : ∀ o, CleanupSelected (d.default c.faults (c.apply m) s).2.1 o ↔
          CleanupSelected m o := fun o => by
        simp only [CleanupSelected, parentSelector_default]; rfl
      exact fun k o hk hs => ih _ _ htail h₁ hout k o hk ((hsel o).mpr hs)
    · -- this call drops it, and the later calls only delete
      exact fun k o hk => default_finalizer_removed_clears d (c.apply m) s hc.2 hin h₁ k o
        (runDefault_deleting_lookup d cs (fun c' hc' => (htail c' hc').1) _ _ hk)

/-- One deleting call for `weather`, with no failures. -/
def weatherDeletion : DefaultCall :=
  ⟨some 1, deletingWeather.annotations, Faults.none⟩

/-- Deleting `weather` with the user's route in the store drops the finalizer and leaves nothing
its cleanup selects. -/
theorem runDefault_deletion_clears_weather :
    (∀ c ∈ [weatherDeletion], c.deletionTimestamp.isSome ∧ c.faults.Honest) ∧
      gatewayCleanupFinalizer ∈ deletingWeather.finalizers ∧
      gatewayCleanupFinalizer ∉ (plainDefaulter.runDefault [weatherDeletion] deletingWeather
        (Store.empty.put userRoute)).1.finalizers ∧
      ∀ k o, (plainDefaulter.runDefault [weatherDeletion] deletingWeather
        (Store.empty.put userRoute)).2.lookup k = some o → ¬ CleanupSelected deletingWeather o :=
  have hcalls : ∀ c ∈ [weatherDeletion], c.deletionTimestamp.isSome ∧ c.faults.Honest :=
    fun c hc => List.mem_singleton.mp hc ▸ ⟨rfl, Faults.honest_none⟩
  have hout : gatewayCleanupFinalizer ∉ (plainDefaulter.runDefault [weatherDeletion] deletingWeather
      (Store.empty.put userRoute)).1.finalizers := by decide
  ⟨hcalls, List.mem_singleton_self _, hout,
    runDefault_deletion_clears plainDefaulter _ _ _ hcalls (List.mem_singleton_self _) hout⟩

/-- The API server answers the delete of the user's route with a `NotFound` it made up. -/
def routeDeleteFakeNotFound : Faults := fun r =>
  if r = .delete userRoute.key then some (notFoundError userRoute.key) else none

-- Without honest failures the finalizer can go while a selected object stays: a made-up
-- `NotFound` for the route's delete is skipped like a real one.
example :
    gatewayCleanupFinalizer ∉ (plainDefaulter.default routeDeleteFakeNotFound deletingWeather
      (Store.empty.put userRoute)).2.1.finalizers ∧
    (plainDefaulter.default routeDeleteFakeNotFound deletingWeather
      (Store.empty.put userRoute)).2.2.lookup userRoute.key = some userRoute ∧
    CleanupSelected deletingWeather userRoute :=
  ⟨by decide, rfl, .inl rfl, rfl⟩

end MCPServerCustomDefaulter

end KagentiWebhook.V1alpha1
