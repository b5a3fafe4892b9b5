import KagentiWebhook.MCPServer.Defaulter

/-! # The change check in front of every update

`createOrUpdateResource` skips the update of a managed object when `needsUpdate` says the stored
object already matches the desired one. `needsUpdate` compares labels and annotations with
`mapsEqual`, then the JSON of the specs.

* **`mapsEqual_iff`** — `mapsEqual` is map equality when the first map holds no empty value.
* **`needsUpdate_eq_false_iff`** — so, for a stored object with no empty label or annotation,
  an update is skipped exactly when both objects have the same labels and annotations, are of the
  same gateway kind, and their specs encode to the same JSON.
* **`needsUpdate_skips_missing_parent_label`** — and not otherwise: `b[k]` reads `""` for a
  missing key, so a stored route that lost its parent-namespace label and gained an empty-valued
  one is "equal" to the route the webhook wants, and the update is skipped. -/

namespace KagentiWebhook.V1alpha1

/-- The server `weather` in `team1`, with no annotations, finalizers or pod template: the input
the concrete cases of this module and of `MCPServer.Writes` run on. -/
def weatherServer : MCPServer :=
  ⟨"weather", "team1", ∅, [], none, none, 0⟩

/-! ## (1) `mapsEqual` against map equality -/

/-- `m[k]` equals a non-empty `v` exactly when `k` is stored with `v`. -/
theorem StrMap.index_eq_iff {m : StrMap} {k v : String} (hv : v ≠ "") :
    m.index k = v ↔ m.lookup k = some v := by
  unfold StrMap.index
  cases m.lookup k <;> simp [hv, Ne.symm hv]

/-- Two maps with the same lookups have their keys in the same multiset. -/
theorem keys_perm_of_lookup {a b : StrMap} (h : ∀ k, a.lookup k = b.lookup k) :
    a.keys.Perm b.keys :=
  (List.perm_ext_iff_of_nodup a.keys_nodup b.keys_nodup).mpr fun k => by
    rw [← AList.mem_keys, ← AList.mem_keys, ← AList.lookup_isSome, ← AList.lookup_isSome, h]

/-- Equal maps pass `mapsEqual`: the sizes agree and every entry reads back. -/
theorem mapsEqual_of_lookup_eq {a b : StrMap} (h : ∀ k, a.lookup k = b.lookup k) :
    mapsEqual a b = true := by
  simp only [mapsEqual, Bool.and_eq_true, beq_iff_eq, List.all_eq_true]
  refine ⟨by simpa [AList.keys, List.keys] using (keys_perm_of_lookup h).length_eq, ?_⟩
  rintro ⟨k, v⟩ he
  simp [StrMap.index, ← h, Option.mem_def.mp (AList.mem_lookup_iff.mpr he)]

/-- When `a` holds no empty value, `mapsEqual a b` makes the maps equal: every entry of `a` is
in `b`, so `a`'s keys are among `b`'s, and equal sizes leave `b` no other key. -/
theorem lookup_eq_of_mapsEqual {a b : StrMap} (ha : ∀ k v, a.lookup k = some v → v ≠ "")
    (h : mapsEqual a b = true) : ∀ k, a.lookup k = b.lookup k := by
  simp only [mapsEqual, Bool.and_eq_true, beq_iff_eq, List.all_eq_true] at h
  obtain ⟨hlen, hall⟩ := h
  have hsub : ∀ k v, a.lookup k = some v → b.lookup k = some v := fun k v hk =>
    (StrMap.index_eq_iff (ha k v hk)).mp (by simpa using hall ⟨k, v⟩ (AList.mem_lookup_iff.mp hk))
  have hkeys : a.keys ⊆ b.keys := fun k hk => by
    obtain ⟨v, hv⟩ := Option.isSome_iff_exists.mp (AList.lookup_isSome.mpr (AList.mem_keys.mpr hk))
    exact AList.mem_keys.mp (AList.lookup_isSome.mp (by simp [hsub k v hv]))
  have hperm : a.keys.Perm b.keys := (List.subperm_of_subset a.keys_nodup hkeys).perm_of_length_le
    (by simp [AList.keys, List.keys, hlen])
  intro k
  cases hk : a.lookup k with
  | some v => exact (hsub k v hk).symm
  | none =>
    have hb : k ∉ b := fun hb => AList.lookup_eq_none.mp hk
      (AList.mem_keys.mpr (hperm.mem_iff.mpr (AList.mem_keys.mp hb)))
    exact (AList.lookup_eq_none.mpr hb).symm

/-- **`mapsEqual` is map equality when the first map holds no empty value.** -/
theorem mapsEqual_iff {a b : StrMap} (ha : ∀ k v, a.lookup k = some v → v ≠ "") :
    mapsEqual a b = true ↔ ∀ k, a.lookup k = b.lookup k :=
  ⟨lookup_eq_of_mapsEqual ha, mapsEqual_of_lookup_eq⟩

/-- A map literal whose values are all non-empty holds no empty value. -/
theorem StrMap.ofList_nonempty {l : List (String × String)} (hl : ∀ p ∈ l, p.2 ≠ "") :
    ∀ k v, (StrMap.ofList l).lookup k = some v → v ≠ "" :=
  fun _ _ h => hl _ (StrMap.mem_of_lookup_ofList h)

/-- The parent selector of `weather` in the other order. -/
def swappedSelector : StrMap :=
  StrMap.ofList [(parentNamespaceLabel, "team1"), (parentServerLabel, "weather")]

/-- The parent selector of `weather` holds no empty value, so `mapsEqual` against it is map
equality: against the route's labels, two keys more, both fail; against the same selector
written in the other order, both hold. -/
theorem mapsEqual_iff_parentSelector :
    (∀ k v, (parentSelector weatherServer).lookup k = some v → v ≠ "") ∧
      (mapsEqual (parentSelector weatherServer) (buildHTTPRoute (fun _ => "") weatherServer).labels
          = true ↔
        ∀ k, (parentSelector weatherServer).lookup k
          = (buildHTTPRoute (fun _ => "") weatherServer).labels.lookup k) ∧
      mapsEqual (parentSelector weatherServer) (buildHTTPRoute (fun _ => "") weatherServer).labels
        = false ∧
      (mapsEqual (parentSelector weatherServer) swappedSelector = true ↔
        ∀ k, (parentSelector weatherServer).lookup k = swappedSelector.lookup k) ∧
      mapsEqual (parentSelector weatherServer) swappedSelector = true :=
  have ha : ∀ k v, (parentSelector weatherServer).lookup k = some v → v ≠ "" :=
    StrMap.ofList_nonempty (by decide)
  ⟨ha, mapsEqual_iff ha, rfl, mapsEqual_iff ha, rfl⟩

/-! ## (2) What a skipped update means -/

/-- `needsUpdate` answers `false` exactly when both maps pass `mapsEqual`, the objects are of the
same gateway kind, and their specs encode alike. -/
theorem needsUpdate_eq_false_iff_mapsEqual {marshal : ObjectSpec → String}
    {existing desired : Object} :
    needsUpdate marshal existing desired = false ↔
      mapsEqual existing.labels desired.labels = true ∧
        mapsEqual existing.annotations desired.annotations = true ∧
        existing.spec.kind = desired.spec.kind ∧
        (existing.spec.kind = .httpRoute ∨ existing.spec.kind = .gatewayMCPServer) ∧
        marshal existing.spec = marshal desired.spec := by
  unfold needsUpdate
  generalize existing.spec = a
  generalize desired.spec = b
  cases a <;> cases b <;> simp [ObjectSpec.kind]

/-- **A skipped update, exactly.** When the stored object's labels and annotations hold no empty
value, `needsUpdate` answers `false` exactly when the two objects have the same labels and the
same annotations, are of the same gateway kind, and their specs encode alike. -/
theorem needsUpdate_eq_false_iff {marshal : ObjectSpec → String} {existing desired : Object}
    (hl : ∀ k v, existing.labels.lookup k = some v → v ≠ "")
    (ha : ∀ k v, existing.annotations.lookup k = some v → v ≠ "") :
    needsUpdate marshal existing desired = false ↔
      (∀ k, existing.labels.lookup k = desired.labels.lookup k) ∧
        (∀ k, existing.annotations.lookup k = desired.annotations.lookup k) ∧
        existing.spec.kind = desired.spec.kind ∧
        (existing.spec.kind = .httpRoute ∨ existing.spec.kind = .gatewayMCPServer) ∧
        marshal existing.spec = marshal desired.spec := by
  rw [needsUpdate_eq_false_iff_mapsEqual]
  exact ⟨fun ⟨hle, hae, h⟩ => ⟨lookup_eq_of_mapsEqual hl hle, lookup_eq_of_mapsEqual ha hae, h⟩,
    fun ⟨hle, hae, h⟩ => ⟨mapsEqual_of_lookup_eq hle, mapsEqual_of_lookup_eq hae, h⟩⟩

/-- `weather`'s route as the API server returns it: another resource version, its labels
serialised in another order. -/
def storedWeatherRoute : Object :=
  { buildHTTPRoute (fun _ => "") weatherServer with
    labels := StrMap.ofList [(parentNamespaceLabel, "team1"), (parentServerLabel, "weather"),
      (managedByLabel, "true"), ("mcp-server", "true")]
    resourceVersion := "7" }

/-- The stored route holds no empty label or annotation, and it is not updated: the order of its
labels and its resource version are no change. -/
theorem needsUpdate_eq_false_iff_storedWeatherRoute :
    (∀ k v, storedWeatherRoute.labels.lookup k = some v → v ≠ "") ∧
      (∀ k v, storedWeatherRoute.annotations.lookup k = some v → v ≠ "") ∧
      (needsUpdate reprStr storedWeatherRoute (buildHTTPRoute (fun _ => "") weatherServer) = false ↔
        (∀ k, storedWeatherRoute.labels.lookup k
          = (buildHTTPRoute (fun _ => "") weatherServer).labels.lookup k) ∧
        (∀ k, storedWeatherRoute.annotations.lookup k
          = (buildHTTPRoute (fun _ => "") weatherServer).annotations.lookup k) ∧
        storedWeatherRoute.spec.kind = (buildHTTPRoute (fun _ => "") weatherServer).spec.kind ∧
        (storedWeatherRoute.spec.kind = .httpRoute ∨
          storedWeatherRoute.spec.kind = .gatewayMCPServer) ∧
        reprStr storedWeatherRoute.spec = reprStr (buildHTTPRoute (fun _ => "") weatherServer).spec) ∧
      needsUpdate reprStr storedWeatherRoute (buildHTTPRoute (fun _ => "") weatherServer) = false :=
  have hl : ∀ k v, storedWeatherRoute.labels.lookup k = some v → v ≠ "" :=
    StrMap.ofList_nonempty (by decide)
  have ha : ∀ k v, storedWeatherRoute.annotations.lookup k = some v → v ≠ "" :=
    fun _ _ h => nomatch h
  have hiff := @needsUpdate_eq_false_iff reprStr _ _ hl ha
  ⟨hl, ha, hiff, hiff.mpr ⟨lookup_eq_of_mapsEqual hl rfl, fun _ => rfl, rfl, .inl rfl, rfl⟩⟩

/-! ## (3) Where the check goes wrong -/

/-- The route's labels after a user edit: the parent-namespace label removed, an empty-valued
label added. -/
def editedRouteLabels : StrMap :=
  StrMap.ofList [("mcp-server", "true"), (managedByLabel, "true"), (parentServerLabel, "weather"),
    ("note", "")]

/-- The stored route with the edited labels. -/
def editedWeatherRoute (getenv : String → String) : Object :=
  { buildHTTPRoute getenv weatherServer with labels := editedRouteLabels }

/-- **`needsUpdate` skips a needed update.** For every JSON encoder, the edited route and the
desired one get `needsUpdate = false`, yet the stored route lacks the parent-namespace label the
desired one has — the label cleanup selects by. -/
theorem needsUpdate_skips_missing_parent_label (getenv : String → String)
    (marshal : ObjectSpec → String) :
    needsUpdate marshal (editedWeatherRoute getenv) (buildHTTPRoute getenv weatherServer) = false ∧
      (editedWeatherRoute getenv).labels.lookup parentNamespaceLabel = none ∧
      (buildHTTPRoute getenv weatherServer).labels.lookup parentNamespaceLabel = some "team1" := by
  have hl : mapsEqual (editedWeatherRoute getenv).labels
      (buildHTTPRoute getenv weatherServer).labels = true := rfl
  have ha : mapsEqual (editedWeatherRoute getenv).annotations
      (buildHTTPRoute getenv weatherServer).annotations = true := rfl
  refine ⟨?_, rfl, rfl⟩
  unfold needsUpdate
  rw [hl, ha]
  simp [editedWeatherRoute, buildHTTPRoute]

end KagentiWebhook.V1alpha1
