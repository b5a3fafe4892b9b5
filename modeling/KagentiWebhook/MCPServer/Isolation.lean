import KagentiWebhook.MCPServer.Reconcile

/-! # Isolation between `MCPServer`s

The webhook serves admission requests for every `MCPServer` in the cluster, in whatever order the
API server sends them. A server's gateway objects live under keys derived from its name and
namespace, and its cleanup selects by labels carrying the same two values, so the calls for
one server stay off another's objects.

* **`admissionPath_agreeOff`** — the admission path writes only under the server's own two keys.
* **`default_keeps_other_gateway_objects`** — a call for a server with another name or namespace
  keeps every object that carries this server's parent labels and sits under one of its keys.
* **`runCalls`** — any sequence of calls, each with the object the API server sends.
* **`runCalls_keeps_gateway_objects`** — over every interleaving, a server whose gateway objects
  are stored as built keeps them, through live calls for it and every call for another server,
  under any API failures. -/

namespace KagentiWebhook.V1alpha1

/-! ## (1) Distinct servers, distinct keys and selectors -/

/-- Two strings with one suffix are equal when their concatenations are. -/
theorem append_right_cancel {a b c : String} (h : a ++ c = b ++ c) : a = b := by
  have h' := congrArg String.data h
  simp only [String.data_append] at h'
  exact String.ext (List.append_cancel_right h')

/-- Two servers share a route key only if they share name and namespace. -/
theorem routeKey_inj {m m' : MCPServer} (h : routeKey m' = routeKey m) :
    m'.name = m.name ∧ m'.namespace = m.namespace := by
  simp only [routeKey, ObjectKey.mk.injEq, true_and] at h
  exact ⟨append_right_cancel h.2, h.1⟩

/-- Two servers share a gateway key only if they share name and namespace. -/
theorem gatewayKey_inj {m m' : MCPServer} (h : gatewayKey m' = gatewayKey m) :
    m'.name = m.name ∧ m'.namespace = m.namespace := by
  simp only [gatewayKey, ObjectKey.mk.injEq, true_and] at h
  exact ⟨append_right_cancel h.2, h.1⟩

/-- A route key is never a gateway key: the kinds differ. -/
theorem routeKey_ne_gatewayKey (m m' : MCPServer) : routeKey m ≠ gatewayKey m' := by
  simp [routeKey, gatewayKey]

namespace MCPServerCustomDefaulter

/-- Two cleanups select a common object only if the servers share name and namespace: the
object's two parent labels name one server. -/
theorem cleanupSelected_inj {m m' : MCPServer} {o : Object} (h : CleanupSelected m o)
    (h' : CleanupSelected m' o) : m'.name = m.name ∧ m'.namespace = m.namespace := by
  have hl := (matchesLabels_iff _ _).mp h.2
  have hl' := (matchesLabels_iff _ _).mp h'.2
  have hs : some m'.name = some m.name :=
    (hl' parentServerLabel _ rfl).symm.trans (hl parentServerLabel _ rfl)
  have hn : some m'.namespace = some m.namespace :=
    (hl' parentNamespaceLabel _ rfl).symm.trans (hl parentNamespaceLabel _ rfl)
  exact ⟨Option.some.inj hs, Option.some.inj hn⟩

/-- A server's own gateway object: it carries the server's parent labels and sits under one of
the server's two keys. -/
def OwnGatewayObject (m : MCPServer) (o : Object) : Prop :=
  CleanupSelected m o ∧ (o.key = routeKey m ∨ o.key = gatewayKey m)

/-- A server's built route, at any resource version, is its own. -/
theorem ownGatewayObject_route (getenv : String → String) (m : MCPServer) (rv : String) :
    OwnGatewayObject m { buildHTTPRoute getenv m with resourceVersion := rv } :=
  ⟨(cleanable_of_generated (buildHTTPRoute_parentLabelled _ m) (.inl rfl) ⟨rfl, rfl⟩).2, .inl rfl⟩

/-- A server's built gateway `MCPServer`, at any resource version, is its own. -/
theorem ownGatewayObject_gateway (m : MCPServer) (rv : String) :
    OwnGatewayObject m { buildGatewayMCPServer m with resourceVersion := rv } :=
  ⟨(cleanable_of_generated (buildGatewayMCPServer_parentLabelled m) (.inr rfl) ⟨rfl, rfl⟩).2, .inr rfl⟩

/-- An object of `m`'s sits under neither key of a server with another name or namespace. -/
theorem key_ne_of_own {m m' : MCPServer} {o : Object} (hne : m'.name ≠ m.name ∨ m'.namespace ≠ m.namespace)
    (ho : OwnGatewayObject m o) : ¬ (o.key = routeKey m' ∨ o.key = gatewayKey m') := by
  have hid : ¬ (m'.name = m.name ∧ m'.namespace = m.namespace) := fun ⟨h₁, h₂⟩ => hne.elim (· h₁) (· h₂)
  rintro (h | h) <;> rcases ho.2 with h' | h' <;> rw [h'] at h
  · exact hid (routeKey_inj h.symm)
  · exact routeKey_ne_gatewayKey _ _ h.symm
  · exact routeKey_ne_gatewayKey _ _ h
  · exact hid (gatewayKey_inj h.symm)

/-! ## (2) One call for another server -/

variable {d : MCPServerCustomDefaulter} {f : Faults} {s : Store}

/-- The admission path writes only under the server's route and gateway keys. -/
theorem admissionPath_agreeOff (m : MCPServer) :
    Store.AgreeOff (fun k => k = routeKey m ∨ k = gatewayKey m) s (d.admissionPath f m s).2.2 := by
  rcases admissionPath_cases (d := d) f m s with ⟨e, h⟩ | ⟨pts, ⟨-, h⟩ | ⟨-, h⟩⟩ <;> rw [h]
  · exact .refl _ _
  · exact .refl _ _
  · refine createGatewayCRs_rel _ Store.AgreeOff.trans (createOrUpdateResource_agreeOff.mono ?_)
      fun _ => createOrUpdateResource_agreeOff.mono ?_
    · rintro k rfl; exact .inl (by simp only [buildHTTPRoute_key, routeKey_addFinalizer]; rfl)
    · rintro k rfl; exact .inr (by simp only [buildGatewayMCPServer_key, gatewayKey_addFinalizer]; rfl)

/-- **A call for another server keeps this server's gateway objects.** A call for a server with
another name or namespace, live or deleting, under any API failures, keeps every object carrying
this server's parent labels under this server's keys: it writes only under its own keys and
deletes only what its own labels select. -/
theorem default_keeps_other_gateway_objects (d : MCPServerCustomDefaulter) (f : Faults)
    {m m' : MCPServer} (s : Store) (hne : m'.name ≠ m.name ∨ m'.namespace ≠ m.namespace) :
    Store.Keeps (OwnGatewayObject m) s (d.default f m' s).2.2 := by
  unfold default
  split
  · refine (deletionPath_onlyDeletes f m' s).keeps fun k o ho hown ⟨o', ho', hsel⟩ => ?_
    cases Option.some.inj (ho.symm.trans ho')
    exact hne.elim (· (cleanupSelected_inj hown.1 hsel).1) (· (cleanupSelected_inj hown.1 hsel).2)
  · refine (admissionPath_agreeOff m').keeps fun k o ho hown hk => key_ne_of_own hne hown ?_
    rwa [Store.key_of_lookup ho]

/-! ## (3) Interleavings

The webhook keeps no state between requests: each call gets the object the API server sends,
and calls share only the cluster. A run is any sequence of calls, each with its object and the
API server's refusals, on the store the previous call left. -/

/-- A run of calls, each on the store the previous one left. -/
def runCalls (d : MCPServerCustomDefaulter) : List (MCPServer × Faults) → Store → Store
  | [], s => s
  | (m, f) :: cs, s => d.runCalls cs (d.default f m s).2.2

/-- The calls the theorem below ranges over, for a server `m`: live calls with an object that
builds `m`'s two gateway objects (with any pod template and finalizers, and annotations that keep
the tool prefix), and calls of any kind for a server of another name or namespace. -/
def GatewayNeutral (d : MCPServerCustomDefaulter) (m : MCPServer) (c : MCPServer × Faults) : Prop :=
  (c.1.deletionTimestamp = none ∧ buildHTTPRoute d.getenv c.1 = buildHTTPRoute d.getenv m ∧
      buildGatewayMCPServer c.1 = buildGatewayMCPServer m) ∨
    c.1.name ≠ m.name ∨ c.1.namespace ≠ m.namespace

/-- **Gateway objects survive every interleaving.** For every defaulter and every sequence of
calls — live calls whose object builds the server's two gateway objects, and calls of any kind,
live or deleting, for servers of another name or namespace, all under any API failures — if
the server's route and gateway `MCPServer` are stored as the webhook builds them, under any
resource versions, they are stored so, under the same resource versions, after the run. -/
theorem runCalls_keeps_gateway_objects (d : MCPServerCustomDefaulter) (cs : List (MCPServer × Faults))
    (m : MCPServer) (s : Store) {rv₁ rv₂ : String} (hcalls : ∀ c ∈ cs, d.GatewayNeutral m c)
    (hroute : s.lookup (routeKey m) = some { buildHTTPRoute d.getenv m with resourceVersion := rv₁ })
    (hgw : s.lookup (gatewayKey m) = some { buildGatewayMCPServer m with resourceVersion := rv₂ }) :
    (d.runCalls cs s).lookup (routeKey m)
        = some { buildHTTPRoute d.getenv m with resourceVersion := rv₁ } ∧
      (d.runCalls cs s).lookup (gatewayKey m)
        = some { buildGatewayMCPServer m with resourceVersion := rv₂ } := by
  induction cs generalizing s with
  | nil => exact ⟨hroute, hgw⟩
  | cons c cs ih =>
    obtain ⟨m', f⟩ := c
    have htail : ∀ c' ∈ cs, d.GatewayNeutral m c' := fun c' hc' => hcalls c' (List.mem_cons_of_mem _ hc')
    rcases hcalls _ (List.mem_cons_self _ _) with ⟨hlive, hb₁, hb₂⟩ | hne
    · -- an object that builds the same two finds them settled, and the call writes nothing
      have hset : GatewaySettled d m' s := by
        rw [GatewaySettled, hb₁, hb₂]
        exact ⟨⟨_, hroute, .inl rfl⟩, ⟨_, hgw, .inl rfl⟩⟩
      have hs₁ := admissionPath_settled (f := f) m' hset
      rw [← default_of_live hlive] at hs₁
      exact ih _ htail ((hs₁ _).trans hroute) ((hs₁ _).trans hgw)
    · -- another server's call keeps both objects, which carry this server's labels
      have hkeep := default_keeps_other_gateway_objects d f s hne
      exact ih _ htail (hkeep _ _ hroute (ownGatewayObject_route _ m _))
        (hkeep _ _ hgw (ownGatewayObject_gateway m _))

/-- `calendar`, another server of `team1`, being deleted with our finalizer. -/
def deletingCalendar : MCPServer :=
  { weatherServer with
    name := "calendar"
    finalizers := [gatewayCleanupFinalizer]
    deletionTimestamp := some 1 }

/-- The deletion of `calendar`, then a call for `weather` while the API server refuses gateway
creates. -/
def weatherAndCalendar : List (MCPServer × Faults) :=
  [(deletingCalendar, Faults.none), (weatherServer, gatewayCreateForbidden)]

/-- `weather`'s gateway objects survive the deletion of `calendar` and a re-admission. -/
theorem runCalls_keeps_gateway_objects_weather :
    (∀ c ∈ weatherAndCalendar, plainDefaulter.GatewayNeutral weatherServer c) ∧
      weatherAdmitted.lookup (routeKey weatherServer)
        = some { buildHTTPRoute plainDefaulter.getenv weatherServer with resourceVersion := "" } ∧
      weatherAdmitted.lookup (gatewayKey weatherServer)
        = some { buildGatewayMCPServer weatherServer with resourceVersion := "" } ∧
      (plainDefaulter.runCalls weatherAndCalendar weatherAdmitted).lookup (routeKey weatherServer)
        = some { buildHTTPRoute plainDefaulter.getenv weatherServer with resourceVersion := "" } ∧
      (plainDefaulter.runCalls weatherAndCalendar weatherAdmitted).lookup (gatewayKey weatherServer)
        = some { buildGatewayMCPServer weatherServer with resourceVersion := "" } :=
  have hcalls : ∀ c ∈ weatherAndCalendar, plainDefaulter.GatewayNeutral weatherServer c := by
    intro c hc
    rcases List.mem_pair.mp hc with rfl | rfl
    · exact .inr (.inl (by decide))
    · exact .inl ⟨rfl, rfl, rfl⟩
  ⟨hcalls, rfl, rfl, runCalls_keeps_gateway_objects plainDefaulter _ weatherServer weatherAdmitted
    hcalls rfl rfl⟩

end MCPServerCustomDefaulter

end KagentiWebhook.V1alpha1
