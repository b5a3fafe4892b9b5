import KagentiWebhook.MCPServer.Progress

/-! # Re-admission: what a successful `Default` leaves, and why the next one changes nothing

`createOrUpdateResource` is the webhook's reconcile step for one object, and the API server sends
every update of an `MCPServer` through `Default` again. This file shows that the step converges:
what a successful call leaves at an object's key is a fixed point of every later call.

* **`Settled`** — what `createOrUpdateResource` leaves at an object's key when it returns nil: the
  object as built (under any resource version), an object it may not touch (unmanaged), or a
  managed one that `needsUpdate` finds current.
* **`createOrUpdateResource_settles`**, **`createOrUpdateResource_settled`** — a successful call
  settles its object, and on a settled object every call, under any API failures, leaves every
  key as it was.
* **`default_admission_settles`** — a successful live call with gateway generation on returns the
  server with our finalizer and leaves both gateway objects settled.
* **`default_keeps_current_gateway_objects`** — a live call on a server whose gateway objects are
  stored as built leaves the store reading as before.
* **`runDefault_after_admission_stable`** — after one successful admission, every run of live
  calls that keeps the annotations leaves the store as the admission left it.
* **`runDefault_opted_out`** — a server opted out of gateway objects, without our finalizer,
  leaves the store as it was over every run of calls.
* **`default_admission_succeeds`** — with no failures, a live call whose pod template mutates
  cleanly returns nil from every store, occupied keys included, and settles both objects.
* **`createGatewayCRs_error_store`** — when the gateway `MCPServer`'s key is spared,
  `createGatewayCRs` is all or nothing. -/

namespace KagentiWebhook.V1alpha1

namespace MCPServerCustomDefaulter

/-! ## (1) Settled objects -/

/-- What `createOrUpdateResource` leaves under `obj`'s key when it returns nil: `obj` under some
resource version, an unmanaged object, or a managed one that `needsUpdate` finds current. -/
def Settled (d : MCPServerCustomDefaulter) (obj : Object) (s : Store) : Prop :=
  ∃ o, s.lookup obj.key = some o ∧
    (o = { obj with resourceVersion := o.resourceVersion } ∨ ¬ Managed o ∨
      needsUpdate d.marshalSpec o obj = false)

variable {d : MCPServerCustomDefaulter} {f : Faults} {s s' : Store} {obj : Object}

/-- Being settled depends only on what the object's key holds. -/
theorem Settled.of_lookup_eq (h : Settled d obj s) (heq : s'.lookup obj.key = s.lookup obj.key) :
    Settled d obj s' :=
  let ⟨o, ho, hs⟩ := h
  ⟨o, heq.trans ho, hs⟩

/-- A call that returns nil leaves its object settled. -/
theorem createOrUpdateResource_settles (h : d.createOrUpdateResource f s obj = (.ok (), s')) :
    Settled d obj s' := by
  rcases createOrUpdateResource_cases d f s obj with
    ⟨_, h'⟩ | ⟨o, ho, hskip, h'⟩ | ⟨-, h'⟩ | ⟨_, -, -, -, h'⟩ <;> rw [h'] at h <;> cases h
  · exact ⟨o, ho, .inr hskip⟩
  · exact ⟨obj, Store.lookup_put_self s obj, .inl rfl⟩
  · exact ⟨_, Store.lookup_put_self s _, .inl rfl⟩

/-- **A settled object is left alone.** On a settled object a call, under any API failures,
leaves every key as it was: it fails before writing, skips the object, or writes back what is
stored. -/
theorem createOrUpdateResource_settled (h : Settled d obj s) (k : ObjectKey) :
    (d.createOrUpdateResource f s obj).2.lookup k = s.lookup k := by
  obtain ⟨o, ho, hs⟩ := h
  rcases createOrUpdateResource_cases d f s obj with
    ⟨_, h'⟩ | ⟨_, -, -, h'⟩ | ⟨hn, -⟩ | ⟨e, he, hm, hu, h'⟩
  · rw [h']
  · rw [h']
  · rw [ho] at hn; cases hn
  · obtain rfl := Option.some.inj (ho.symm.trans he)
    rcases hs with hs | hs | hs
    · rw [h', ← hs]; exact Store.lookup_put_of_lookup ho k
    · exact absurd hm hs
    · rw [hs] at hu; cases hu

/-! ## (2) Both gateway objects -/

variable (m : MCPServer)

/-- A successful `createGatewayCRs` is two successful writes in a row. -/
theorem createGatewayCRs_ok (h : (d.createGatewayCRs f s m).1 = .ok ()) :
    ∃ s', d.createOrUpdateResource f s (buildHTTPRoute d.getenv m) = (.ok (), s') ∧
      d.createOrUpdateResource f s' (buildGatewayMCPServer m) = (.ok (), (d.createGatewayCRs f s m).2) := by
  unfold createGatewayCRs at *
  rcases hr : d.createOrUpdateResource f s (buildHTTPRoute d.getenv m) with ⟨_ | _, s'⟩ <;>
    simp only [hr] at h ⊢
  · cases h
  · rcases hg : d.createOrUpdateResource f s' (buildGatewayMCPServer m) with ⟨_ | _, s''⟩ <;>
      simp only [hg] at h ⊢
    · cases h
    · exact ⟨s', rfl, hg⟩

/-- Both of a server's gateway objects are settled. -/
def GatewaySettled (d : MCPServerCustomDefaulter) (m : MCPServer) (s : Store) : Prop :=
  Settled d (buildHTTPRoute d.getenv m) s ∧ Settled d (buildGatewayMCPServer m) s

/-- A successful `createGatewayCRs` settles both objects: the gateway write leaves the route's
key alone. -/
theorem createGatewayCRs_settles (h : (d.createGatewayCRs f s m).1 = .ok ()) :
    GatewaySettled d m (d.createGatewayCRs f s m).2 := by
  obtain ⟨s', hr, hg⟩ := createGatewayCRs_ok m h
  have hoff : Store.AgreeOff (· = (buildGatewayMCPServer m).key) s'
      (d.createOrUpdateResource f s' (buildGatewayMCPServer m)).2 := createOrUpdateResource_agreeOff
  rw [hg] at hoff
  exact ⟨(createOrUpdateResource_settles hr).of_lookup_eq (hoff _ (by simp [routeKey, gatewayKey])),
    createOrUpdateResource_settles hg⟩

/-- On settled gateway objects `createGatewayCRs` leaves every key as it was. -/
theorem createGatewayCRs_settled (h : GatewaySettled d m s) (k : ObjectKey) :
    (d.createGatewayCRs f s m).2.lookup k = s.lookup k :=
  createGatewayCRs_rel (R := fun a b => (∀ k, a.lookup k = s.lookup k) → ∀ k, b.lookup k = s.lookup k)
    m (fun hab hbc ha => hbc (hab ha)) (fun _ => createOrUpdateResource_settled h.1)
    (fun _ hs' k => (createOrUpdateResource_settled (h.2.of_lookup_eq (hs' _)) k).trans (hs' k))
    (fun _ => rfl) k

/-- Adding the finalizer changes neither gateway object. -/
@[simp] theorem gatewaySettled_addFinalizer :
    GatewaySettled d (addFinalizer m) s ↔ GatewaySettled d m s := by
  simp only [GatewaySettled, buildHTTPRoute_addFinalizer, buildGatewayMCPServer_addFinalizer]

/-! ## (3) One admission -/

/-- The admission path returns the server with at most its pod template and finalizers changed. -/
theorem admissionPath_server (f : Faults) (s : Store) :
    ∃ pts fins, (d.admissionPath f m s).2.1 = { m with podTemplateSpec := pts, finalizers := fins } := by
  rcases admissionPath_cases (d := d) f m s with ⟨e, h⟩ | ⟨pts, ⟨-, h⟩ | ⟨-, h⟩⟩ <;> rw [h]
  · exact ⟨_, _, rfl⟩
  · exact ⟨_, _, rfl⟩
  · unfold addFinalizer
    split <;> exact ⟨pts, _, rfl⟩

/-- A successful admission with gateway generation on leaves our finalizer on the server and both
gateway objects settled. -/
theorem admissionPath_settles (hgen : generateGatewayCRs m = true)
    (hok : (d.admissionPath f m s).1 = .ok ()) :
    gatewayCleanupFinalizer ∈ (d.admissionPath f m s).2.1.finalizers ∧
      GatewaySettled d m (d.admissionPath f m s).2.2 := by
  rcases admissionPath_cases (d := d) f m s with ⟨e, h⟩ | ⟨pts, ⟨hg, h⟩ | ⟨-, h⟩⟩ <;>
    rw [h] at hok ⊢
  · cases hok
  · exact absurd hg (by simp [hgen])
  · exact ⟨mem_addFinalizer _,
      (gatewaySettled_addFinalizer { m with podTemplateSpec := pts }).mp (createGatewayCRs_settles _ hok)⟩

/-- An admission on a server whose gateway objects are settled leaves every key as it was. -/
theorem admissionPath_settled (h : GatewaySettled d m s) (k : ObjectKey) :
    (d.admissionPath f m s).2.2.lookup k = s.lookup k := by
  rcases admissionPath_cases (d := d) f m s with ⟨e, h'⟩ | ⟨pts, ⟨-, h'⟩ | ⟨-, h'⟩⟩ <;> rw [h']
  · exact createGatewayCRs_settled (addFinalizer { m with podTemplateSpec := pts })
      ((gatewaySettled_addFinalizer _).mpr h) k

/-- **A successful admission settles the gateway objects.** For every defaulter, store and
pattern of API failures: a live call on a server with gateway generation on that returns nil
returns the server with our finalizer, and leaves each of its two gateway objects as built, or
unmanaged, or managed and current by `needsUpdate`. -/
theorem default_admission_settles (d : MCPServerCustomDefaulter) (f : Faults) (m : MCPServer)
    (s : Store) (hlive : m.deletionTimestamp = none) (hgen : generateGatewayCRs m = true)
    (hok : (d.default f m s).1 = .ok ()) :
    gatewayCleanupFinalizer ∈ (d.default f m s).2.1.finalizers ∧
      GatewaySettled d m (d.default f m s).2.2 := by
  rw [default_of_live hlive] at hok ⊢
  exact admissionPath_settles m hgen hok

/-- Admitting `weather` into an empty store settles both gateway objects. -/
theorem default_admission_settles_weather :
    weatherServer.deletionTimestamp = none ∧ generateGatewayCRs weatherServer = true ∧
      (plainDefaulter.default Faults.none weatherServer Store.empty).1 = .ok () ∧
      gatewayCleanupFinalizer ∈
        (plainDefaulter.default Faults.none weatherServer Store.empty).2.1.finalizers ∧
      GatewaySettled plainDefaulter weatherServer
        (plainDefaulter.default Faults.none weatherServer Store.empty).2.2 :=
  ⟨rfl, rfl, rfl, default_admission_settles plainDefaulter Faults.none weatherServer Store.empty
    rfl rfl rfl⟩

/-- **A live call leaves current gateway objects alone.** When the server's route and gateway
`MCPServer` are stored as the webhook builds them, under any resource versions, a live call —
under any API failures — leaves every key of the store reading as before. -/
theorem default_keeps_current_gateway_objects (d : MCPServerCustomDefaulter) (f : Faults)
    (m : MCPServer) (s : Store) (hlive : m.deletionTimestamp = none) {rv₁ rv₂ : String}
    (hroute : s.lookup (routeKey m) = some { buildHTTPRoute d.getenv m with resourceVersion := rv₁ })
    (hgw : s.lookup (gatewayKey m) = some { buildGatewayMCPServer m with resourceVersion := rv₂ }) :
    ∀ k, (d.default f m s).2.2.lookup k = s.lookup k := by
  rw [default_of_live hlive]
  exact admissionPath_settled m ⟨⟨_, hroute, .inl rfl⟩, ⟨_, hgw, .inl rfl⟩⟩

/-- The store after admitting `weather` into an empty store: its two gateway objects. -/
def weatherAdmitted : Store :=
  (Store.empty.put (buildHTTPRoute plainDefaulter.getenv weatherServer)).put
    (buildGatewayMCPServer weatherServer)

/-- Admitting `weather` again leaves its gateway objects as they are. -/
theorem default_keeps_current_gateway_objects_weather :
    weatherServer.deletionTimestamp = none ∧
      weatherAdmitted.lookup (routeKey weatherServer)
        = some { buildHTTPRoute plainDefaulter.getenv weatherServer with resourceVersion := "" } ∧
      weatherAdmitted.lookup (gatewayKey weatherServer)
        = some { buildGatewayMCPServer weatherServer with resourceVersion := "" } ∧
      ∀ k, (plainDefaulter.default Faults.none weatherServer weatherAdmitted).2.2.lookup k
        = weatherAdmitted.lookup k :=
  ⟨rfl, rfl, rfl, default_keeps_current_gateway_objects plainDefaulter Faults.none weatherServer
    weatherAdmitted rfl rfl rfl⟩

/-! ## (4) Runs of live calls

A live call that keeps the annotations sends the server as the previous call returned it, with no
deletion timestamp; it builds the same gateway objects. -/

/-- A live call that keeps the annotations only clears the deletion timestamp. -/
theorem DefaultCall.apply_live {c : DefaultCall}
    (hc : c.deletionTimestamp = none ∧ c.annotations = m.annotations) :
    c.apply m = { m with deletionTimestamp := none } := by
  unfold DefaultCall.apply; rw [hc.1, hc.2]

/-- From settled gateway objects, a run of live calls that keep the annotations leaves every key
as it was. -/
theorem runDefault_live_stable (cs : List DefaultCall)
    (hcalls : ∀ c ∈ cs, c.deletionTimestamp = none ∧ c.annotations = m.annotations)
    (h : GatewaySettled d m s) (k : ObjectKey) : (d.runDefault cs m s).2.lookup k = s.lookup k := by
  induction cs generalizing m s with
  | nil => rfl
  | cons c cs ih =>
    have hc := hcalls c (List.mem_cons_self _ _)
    have hstep : d.runDefault (c :: cs) m s = d.runDefault cs
        (d.admissionPath c.faults { m with deletionTimestamp := none } s).2.1
        (d.admissionPath c.faults { m with deletionTimestamp := none } s).2.2 := by
      rw [runDefault, DefaultCall.apply_live m hc, default_of_live rfl]
    have hs₁ := admissionPath_settled (d := d) (f := c.faults) { m with deletionTimestamp := none } h
    obtain ⟨pts, fins, hm₁⟩ := admissionPath_server (d := d) { m with deletionTimestamp := none }
      c.faults s
    rw [hstep, ← hs₁ k, hm₁]
    exact ih _ (fun c' hc' => hcalls c' (List.mem_cons_of_mem _ hc'))
      ⟨h.1.of_lookup_eq (hs₁ _), h.2.of_lookup_eq (hs₁ _)⟩

/-- **After one successful admission, re-admissions change nothing.** For every defaulter, store
and patterns of API failures: once a live call on a server with gateway generation on returns
nil, every run of further live calls that keeps the server's annotations — whatever the API
server refuses during them — leaves every key of the store as that call left it. -/
theorem runDefault_after_admission_stable (d : MCPServerCustomDefaulter) (f : Faults)
    (m : MCPServer) (s : Store) (cs : List DefaultCall) (hlive : m.deletionTimestamp = none)
    (hgen : generateGatewayCRs m = true) (hok : (d.default f m s).1 = .ok ())
    (hcalls : ∀ c ∈ cs, c.deletionTimestamp = none ∧ c.annotations = m.annotations) (k : ObjectKey) :
    (d.runDefault cs (d.default f m s).2.1 (d.default f m s).2.2).2.lookup k
      = (d.default f m s).2.2.lookup k := by
  rw [default_of_live hlive] at hok ⊢
  obtain ⟨pts, fins, hm₁⟩ := admissionPath_server (d := d) m f s
  have hset := (admissionPath_settles m hgen hok).2
  rw [hm₁]
  exact runDefault_live_stable { m with podTemplateSpec := pts, finalizers := fins } cs hcalls hset k

/-- Admitting `weather`, then again while the API server refuses every gateway create. -/
def weatherReadmission : DefaultCall := ⟨none, weatherServer.annotations, gatewayCreateForbidden⟩

/-- After `weather` is admitted, a re-admission leaves its route where it was. -/
theorem runDefault_after_admission_stable_weather :
    weatherServer.deletionTimestamp = none ∧ generateGatewayCRs weatherServer = true ∧
      (plainDefaulter.default Faults.none weatherServer Store.empty).1 = .ok () ∧
      (∀ c ∈ [weatherReadmission],
        c.deletionTimestamp = none ∧ c.annotations = weatherServer.annotations) ∧
      (plainDefaulter.runDefault [weatherReadmission]
          (plainDefaulter.default Faults.none weatherServer Store.empty).2.1
          (plainDefaulter.default Faults.none weatherServer Store.empty).2.2).2.lookup
          (routeKey weatherServer)
        = (plainDefaulter.default Faults.none weatherServer Store.empty).2.2.lookup
          (routeKey weatherServer) :=
  have hcalls : ∀ c ∈ [weatherReadmission],
      c.deletionTimestamp = none ∧ c.annotations = weatherServer.annotations :=
    fun _ hc => List.mem_singleton.mp hc ▸ ⟨rfl, rfl⟩
  ⟨rfl, rfl, rfl, hcalls, runDefault_after_admission_stable plainDefaulter Faults.none weatherServer
    Store.empty [weatherReadmission] rfl rfl rfl hcalls (routeKey weatherServer)⟩

/-! ## (5) Opted-out servers

`auto-gateway: "false"` turns the gateway objects off. A server that never carried our finalizer
then never reaches the cluster: its live calls skip `createGatewayCRs`, and its deleting calls
find no finalizer to clean up for. -/

/-- A call for an opted-out server without our finalizer writes and deletes nothing, and returns
the server still without it. -/
theorem default_opted_out {f : Faults} {m : MCPServer} {s : Store}
    (hgen : generateGatewayCRs m = false) (hfin : gatewayCleanupFinalizer ∉ m.finalizers) :
    (d.default f m s).2.2 = s ∧ gatewayCleanupFinalizer ∉ (d.default f m s).2.1.finalizers := by
  unfold default
  split
  · unfold deletionPath
    rw [if_neg (by simpa using hfin)]
    exact ⟨rfl, hfin⟩
  · rcases admissionPath_cases (d := d) f m s with ⟨e, h⟩ | ⟨pts, ⟨-, h⟩ | ⟨hg, -⟩⟩
    · rw [h]; exact ⟨rfl, hfin⟩
    · rw [h]; exact ⟨rfl, hfin⟩
    · rw [hgen] at hg; cases hg

/-- **An opted-out server never reaches the cluster.** For every defaulter, store and run of
calls — live or deleting, under any API failures — that all send `auto-gateway: "false"`, a
server that starts without our finalizer leaves the store exactly as it was and never gains the
finalizer. -/
theorem runDefault_opted_out (d : MCPServerCustomDefaulter) (cs : List DefaultCall) (m : MCPServer)
    (s : Store) (hcalls : ∀ c ∈ cs, c.annotations.lookup autoGatewayAnnotation = some "false")
    (hfin : gatewayCleanupFinalizer ∉ m.finalizers) :
    (d.runDefault cs m s).2 = s ∧ gatewayCleanupFinalizer ∉ (d.runDefault cs m s).1.finalizers := by
  induction cs generalizing m with
  | nil => exact ⟨rfl, hfin⟩
  | cons c cs ih =>
    have hgen : generateGatewayCRs (c.apply m) = false := by
      simp [generateGatewayCRs, DefaultCall.apply, hcalls c (List.mem_cons_self _ _)]
    obtain ⟨hs, hf⟩ := default_opted_out (d := d) (f := c.faults) (s := s) hgen hfin
    rw [runDefault, hs]
    exact ih _ (fun c' hc' => hcalls c' (List.mem_cons_of_mem _ hc')) hf

/-- The annotations that opt a server out of gateway objects. -/
def optedOut : StrMap := StrMap.ofList [( autoGatewayAnnotation, "false")]

/-- An opted-out admission of `weather`, then its deletion. -/
def weatherOptedOut : List DefaultCall :=
  [⟨none, optedOut, Faults.none⟩, ⟨some 1, optedOut, Faults.none⟩]

/-- Admitting and deleting an opted-out `weather` leaves the user's route, and everything else,
where it was. -/
theorem runDefault_opted_out_weather :
    (∀ c ∈ weatherOptedOut, c.annotations.lookup autoGatewayAnnotation = some "false") ∧
      gatewayCleanupFinalizer ∉ weatherServer.finalizers ∧
      (plainDefaulter.runDefault weatherOptedOut weatherServer (Store.empty.put userRoute)).2
        = Store.empty.put userRoute ∧
      gatewayCleanupFinalizer ∉
        (plainDefaulter.runDefault weatherOptedOut weatherServer (Store.empty.put userRoute)).1.finalizers :=
  have hcalls : ∀ c ∈ weatherOptedOut, c.annotations.lookup autoGatewayAnnotation = some "false" := by
    intro c hc
    rcases List.mem_pair.mp hc with rfl | rfl <;> rfl
  ⟨hcalls, List.not_mem_nil _, runDefault_opted_out plainDefaulter _ _ _ hcalls (List.not_mem_nil _)⟩

/-! ## (6) Admission without failures, from any store

`MCPServer.Progress` has the call create both objects under free keys. Under occupied keys it
keeps an unmanaged object or skips a current one instead, and `Update` finds the key it read:
the call still returns nil. It is enough that the API server answers the requests on the
object's own key (`Faults.Spares`); when it does so for the gateway `MCPServer`,
`createGatewayCRs` fails only on the route, before any write. -/

/-- When the API server answers every request on its key, a write of a registered kind returns
nil from every store: it creates under a free key, and under a taken one it skips or updates the
key it read. -/
theorem createOrUpdateResource_ok_of_spares (obj : Object) (hreg : d.registered obj.spec.kind = true)
    (hsp : f.Spares obj.key) : ∃ s', d.createOrUpdateResource f s obj = (.ok (), s') := by
  obtain ⟨hg, hc, hu⟩ := hsp
  cases hl : s.lookup obj.key with
  | none =>
    have hm : obj.key ∉ s.objects := AList.lookup_eq_none.mp hl
    exact ⟨s.put obj, by
      simp [createOrUpdateResource, hreg, Store.get, Store.create, hg, hc, hl, hm, notFoundError]⟩
  | some o =>
    have hm : obj.key ∈ s.objects := (Store.mem_iff_lookup_isSome s _).mpr (by simp [hl])
    refine ⟨_, Prod.ext ?_ rfl⟩
    simp only [createOrUpdateResource, hreg, Bool.not_true, Bool.false_eq_true, ↓reduceIte, Store.get,
      hg, hl, bne_iff_ne, ne_eq, Bool.not_eq_eq_eq_not, Store.update, hu, hm, ite_not,
      show Object.key { obj with resourceVersion := o.resourceVersion } = obj.key from rfl]
    split_ifs <;> rfl

/-- With no failures and both kinds registered, `createGatewayCRs` returns nil from every store. -/
theorem createGatewayCRs_none_ok
    (hreg : d.registered .httpRoute = true ∧ d.registered .gatewayMCPServer = true) :
    (d.createGatewayCRs Faults.none s m).1 = .ok () := by
  obtain ⟨s₁, hr⟩ := createOrUpdateResource_ok_of_spares (s := s) (buildHTTPRoute d.getenv m) hreg.1
    (Faults.spares_none _)
  obtain ⟨s₂, hg⟩ := createOrUpdateResource_ok_of_spares (s := s₁) (buildGatewayMCPServer m) hreg.2
    (Faults.spares_none _)
  simp only [createGatewayCRs, hr, hg]

/-- When the gateway `MCPServer` write cannot fail, `createGatewayCRs` is all or nothing: a failed
call failed on the route, before any write. -/
theorem createGatewayCRs_error_store (hreg : d.registered .gatewayMCPServer = true)
    (hsp : f.Spares (gatewayKey m)) (h : (d.createGatewayCRs f s m).1 ≠ .ok ()) :
    (d.createGatewayCRs f s m).2 = s := by
  unfold createGatewayCRs at *
  rcases hr : d.createOrUpdateResource f s (buildHTTPRoute d.getenv m) with ⟨e | ⟨⟨⟩⟩, s₁⟩
  · exact (congrArg Prod.snd hr).symm.trans (createOrUpdateResource_error (e := e) (by rw [hr]))
  · obtain ⟨s₂, hg⟩ := createOrUpdateResource_ok_of_spares (s := s₁) (buildGatewayMCPServer m) hreg
      (by rwa [buildGatewayMCPServer_key])
    simp only [hr, hg] at h
    exact absurd rfl h

/-- **Without failures, admission always succeeds.** For every defaulter with both gateway kinds
registered and every store, whatever it holds under the server's keys: a live call whose pod
template mutates cleanly, with gateway generation on, returns nil, returns the server with our
finalizer, and leaves both gateway objects settled. -/
theorem default_admission_succeeds (d : MCPServerCustomDefaulter) (m m' : MCPServer) (s : Store)
    (hlive : m.deletionTimestamp = none) (hinj : d.injectPodTemplate m = .ok m')
    (hgen : generateGatewayCRs m = true)
    (hreg : d.registered .httpRoute = true ∧ d.registered .gatewayMCPServer = true) :
    (d.default Faults.none m s).1 = .ok () ∧
      gatewayCleanupFinalizer ∈ (d.default Faults.none m s).2.1.finalizers ∧
      GatewaySettled d m (d.default Faults.none m s).2.2 := by
  rw [default_of_live hlive]
  have hok : (d.admissionPath Faults.none m s).1 = .ok () := by
    obtain ⟨pts, rfl⟩ := injectPodTemplate_ok hinj
    simp only [admissionPath, hinj, show generateGatewayCRs { m with podTemplateSpec := pts } from hgen,
      if_true]
    exact createGatewayCRs_none_ok _ hreg
  exact ⟨hok, admissionPath_settles m hgen hok⟩

/-- Admitting `weather` again, over its own gateway objects, returns nil and keeps them settled. -/
theorem default_admission_succeeds_weather :
    weatherServer.deletionTimestamp = none ∧
      plainDefaulter.injectPodTemplate weatherServer
        = .ok { weatherServer with podTemplateSpec := some ⟨some "{}"⟩ } ∧
      generateGatewayCRs weatherServer = true ∧
      (plainDefaulter.registered .httpRoute = true ∧ plainDefaulter.registered .gatewayMCPServer = true) ∧
      (plainDefaulter.default Faults.none weatherServer weatherAdmitted).1 = .ok () ∧
      gatewayCleanupFinalizer ∈
        (plainDefaulter.default Faults.none weatherServer weatherAdmitted).2.1.finalizers ∧
      GatewaySettled plainDefaulter weatherServer
        (plainDefaulter.default Faults.none weatherServer weatherAdmitted).2.2 :=
  ⟨rfl, rfl, rfl, ⟨rfl, rfl⟩, default_admission_succeeds plainDefaulter weatherServer
    { weatherServer with podTemplateSpec := some ⟨some "{}"⟩ } weatherAdmitted rfl rfl rfl ⟨rfl, rfl⟩⟩

end MCPServerCustomDefaulter

end KagentiWebhook.V1alpha1
