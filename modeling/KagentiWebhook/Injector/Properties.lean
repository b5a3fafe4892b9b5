import KagentiWebhook.Injector.PodMutator

/-! # What `InjectAuthBridge` guarantees

Derived from the two inversion lemmas of `Injector.PodMutator` and the append-if-absent lemmas of
`Injector.PodSpec`, for every evaluator, every builder that names its containers as its guard
expects, every store and every pattern of API failures:

* **`injectAuthBridge_append_only`** — the call only appends to the three lists, touches no other
  field, and a declined or failed call leaves the PodSpec and the store exactly as they were.
* **`injectAuthBridge_creates_only_serviceAccount`** — the call keeps every stored object and
  can add only the workload's ServiceAccount.
* **`injectAuthBridge_sidecars_present`** — a call that returns `true` leaves every sidecar and
  volume it decided on in the pod.
* **`injectAuthBridge_idempotent`** — a second call on the mutated PodSpec that sees the same
  namespace labels changes nothing: every guard now finds its sidecar, every volume is present.
* **`injectAuthBridge_preserves_unique_names`** — distinct names stay distinct, provided no
  sidecar's name is already taken in the *other* list; each guard looks only at the list it
  appends to, and `injectAuthBridge_duplicates_native_sidecar_name` shows what happens otherwise.
* **`injectAuthBridge_serviceAccount_exists`** — a pod is moved only to a ServiceAccount that is
  stored, when the API server makes up no `AlreadyExists`. -/

namespace KagentiWebhook.Injector

/-! ## (1) Fixtures: a namespace opted into injection -/

/-- A namespace carrying `kagenti-enabled=true`. -/
def enabledNamespace (ns : String) : Object :=
  ⟨ns, "", StrMap.ofList [("kagenti-enabled", "true")], ∅, "1", .namespace⟩

/-- A store holding only that namespace. -/
def enabledStore (ns : String) : Store := Store.empty.put (enabledNamespace ns)

/-- The labels of an agent that opts into AuthBridge. -/
def optedInAgent : StrMap :=
  StrMap.ofList [(kagentiTypeLabel, kagentiTypeAgent), (authBridgeInjectLabel, authBridgeInjectValue)]

/-! ## (2) Only appends; nothing on decline or failure -/

/-- The lists `injectSidecars` extends after the ServiceAccount switch start with the old ones. -/
theorem prefixes_of_ok_true {m : PodMutator} {f : Faults} {s : Store} {p : PodSpec}
    {ns crName : String} {labels : StrMap}
    (h : (m.injectAuthBridge f s p ns crName labels).1 = .ok true) :
    p.containers.getD [] <+: (m.injectAuthBridge f s p ns crName labels).2.1.containers.getD [] ∧
    p.initContainers.getD [] <+:
      (m.injectAuthBridge f s p ns crName labels).2.1.initContainers.getD [] ∧
    p.volumes.getD [] <+: (m.injectAuthBridge f s p ns crName labels).2.1.volumes.getD [] ∧
    (m.injectAuthBridge f s p ns crName labels).2.1.otherFields = p.otherFields := by
  obtain ⟨nsObj, -, -, -, -, hp⟩ := injectAuthBridge_ok_true h
  rw [hp]
  refine ⟨?_, ?_, ?_, by simp⟩
  · simpa using prefix_injectSidecars_containers m.builder _ ns crName _
      (assignServiceAccount _ crName p)
  · simpa using prefix_injectSidecars_initContainers m.builder _ ns crName _
      (assignServiceAccount _ crName p)
  · simpa using prefix_injectSidecars_volumes m.builder _ ns crName _
      (assignServiceAccount _ crName p)

/-- **`InjectAuthBridge` only appends, and changes nothing when it declines or fails.**
(a) no PodSpec field besides the three lists and the ServiceAccount name changes; (b) each list
on exit starts with its value on entry; (c) unless the call returns `true`, the PodSpec (nil
slices and ServiceAccount name included) and the store are exactly as before, so no ServiceAccount
was created; and a workload that is not an agent or tool, or whose `kagenti.io/inject` is not
`enabled`, gets `(false, nil)` whatever the store and the API server would answer. -/
theorem injectAuthBridge_append_only (m : PodMutator) (f : Faults) (s : Store) (p : PodSpec)
    (ns crName : String) (labels : StrMap) :
    (m.injectAuthBridge f s p ns crName labels).2.1.otherFields = p.otherFields ∧
    p.containers.getD [] <+: (m.injectAuthBridge f s p ns crName labels).2.1.containers.getD [] ∧
    p.initContainers.getD [] <+:
      (m.injectAuthBridge f s p ns crName labels).2.1.initContainers.getD [] ∧
    p.volumes.getD [] <+: (m.injectAuthBridge f s p ns crName labels).2.1.volumes.getD [] ∧
    ((m.injectAuthBridge f s p ns crName labels).1 ≠ .ok true →
      (m.injectAuthBridge f s p ns crName labels).2.1 = p ∧
      (m.injectAuthBridge f s p ns crName labels).2.2 = s) ∧
    ((labels.lookup kagentiTypeLabel ∉ [some kagentiTypeAgent, some kagentiTypeTool] ∨
        labels.index authBridgeInjectLabel ≠ authBridgeInjectValue) →
      ∀ f' s', m.injectAuthBridge f' s' p ns crName labels = (.ok false, p, s')) := by
  have hdecline : (labels.lookup kagentiTypeLabel ∉ [some kagentiTypeAgent, some kagentiTypeTool] ∨
      labels.index authBridgeInjectLabel ≠ authBridgeInjectValue) →
      ∀ f' s', m.injectAuthBridge f' s' p ns crName labels = (.ok false, p, s') := by
    intro hl f' s'
    refine injectAuthBridge_of_not_requested ?_ f' s'
    rcases hl with hl | hl
    · unfold isAgentOrTool
      split <;> simp_all
    · simp [injectionRequested, hl]
  have hfail : (m.injectAuthBridge f s p ns crName labels).1 ≠ .ok true →
      (m.injectAuthBridge f s p ns crName labels).2.1 = p ∧
      (m.injectAuthBridge f s p ns crName labels).2.2 = s := fun h => by
    simp [injectAuthBridge_not_true h]
  by_cases h : (m.injectAuthBridge f s p ns crName labels).1 = .ok true
  · obtain ⟨hc, hi, hv, ho⟩ := prefixes_of_ok_true h
    exact ⟨ho, hc, hi, hv, hfail, hdecline⟩
  · have hp := (hfail h).1
    exact ⟨by rw [hp], by simp [hp], by simp [hp], by simp [hp], hfail, hdecline⟩

/-- **A successful call leaves every sidecar it decided on in the pod.** For the decision on
the stored namespace's labels, each container asked for is present in the list its guard checks,
and every volume the sidecars mount is present. -/
theorem injectAuthBridge_sidecars_present (m : PodMutator) (f : Faults) (s : Store) (p : PodSpec)
    (ns crName : String) (labels : StrMap)
    (h : (m.injectAuthBridge f s p ns crName labels).1 = .ok true) :
    ∃ nsObj, s.lookup (namespaceKey ns) = some nsObj ∧
      SidecarsPresent m.builder (m.evaluate nsObj.labels labels)
        (m.evaluate nsObj.labels labels).spiffeHelper.inject
        (m.injectAuthBridge f s p ns crName labels).2.1 := by
  obtain ⟨nsObj, hl, -, -, -, hp⟩ := injectAuthBridge_ok_true h
  exact ⟨nsObj, hl, hp ▸ sidecarsPresent_injectSidecars _ _ _ _ _ _⟩

/-- The documented mutator's call on a fresh agent pod succeeds and leaves its sidecars. -/
theorem injectAuthBridge_sidecars_present_documented :
    (documentedMutator.injectAuthBridge Faults.none (enabledStore "team1")
        ⟨some [⟨"app", []⟩], none, none, "", []⟩ "team1" "weather" optedInAgent).1 = .ok true ∧
    ∃ nsObj, (enabledStore "team1").lookup (namespaceKey "team1") = some nsObj ∧
      SidecarsPresent documentedMutator.builder (documentedMutator.evaluate nsObj.labels optedInAgent)
        (documentedMutator.evaluate nsObj.labels optedInAgent).spiffeHelper.inject
        (documentedMutator.injectAuthBridge Faults.none (enabledStore "team1")
          ⟨some [⟨"app", []⟩], none, none, "", []⟩ "team1" "weather" optedInAgent).2.1 :=
  ⟨rfl, injectAuthBridge_sidecars_present documentedMutator Faults.none (enabledStore "team1") _
    "team1" "weather" optedInAgent rfl⟩

/-- **`InjectAuthBridge`'s only write to the cluster is the ServiceAccount.** Every stored
object is still there, unchanged, and the only object the call can add is the ServiceAccount
`crName` in the namespace, labelled as managed by the webhook. -/
theorem injectAuthBridge_creates_only_serviceAccount (m : PodMutator) (f : Faults) (s : Store)
    (p : PodSpec) (ns crName : String) (labels : StrMap) :
    Store.Keeps (fun _ => True) s (m.injectAuthBridge f s p ns crName labels).2.2 ∧
      Store.WritesOnly (· = serviceAccountFor ns crName) s
        (m.injectAuthBridge f s p ns crName labels).2.2 := by
  rcases injectAuthBridge_cases m f s p ns crName labels with hr | ⟨e, hr⟩ | ⟨_, -, -, -, -, hr⟩ <;>
    rw [hr]
  · exact ⟨.refl _ _, .refl _ _⟩
  · exact ⟨.refl _ _, .refl _ _⟩
  · exact injectDecided_adds_only _

/-! ## (3) Idempotence -/

/-- **Re-invoking `InjectAuthBridge` is a no-op on the PodSpec.** If a first call returned `true`
and left `P₁`, a second call on `P₁` — against any store whose namespace has the labels the
first call saw, under any API failures — leaves `P₁` as it is, and it returns `true` or an
error, never a decline. -/
theorem injectAuthBridge_idempotent (m : PodMutator) (f₁ f₂ : Faults) (s₁ s₂ : Store)
    (p : PodSpec) (ns crName : String) (labels : StrMap)
    (hfirst : (m.injectAuthBridge f₁ s₁ p ns crName labels).1 = .ok true)
    (hns : (s₂.lookup (namespaceKey ns)).map Object.labels
      = (s₁.lookup (namespaceKey ns)).map Object.labels) :
    (m.injectAuthBridge f₂ s₂ (m.injectAuthBridge f₁ s₁ p ns crName labels).2.1 ns crName
        labels).2.1 = (m.injectAuthBridge f₁ s₁ p ns crName labels).2.1 ∧
    ((m.injectAuthBridge f₂ s₂ (m.injectAuthBridge f₁ s₁ p ns crName labels).2.1 ns crName
        labels).1 = .ok true ∨
      ∃ e, (m.injectAuthBridge f₂ s₂ (m.injectAuthBridge f₁ s₁ p ns crName labels).2.1 ns crName
        labels).1 = .error e) := by
  obtain ⟨nsObj, hl, hA, hR, hAny, hp₁⟩ := injectAuthBridge_ok_true hfirst
  generalize (m.injectAuthBridge f₁ s₁ p ns crName labels).2.1 = p₁ at hp₁ ⊢
  rw [injectAuthBridge_of_requested hA hR]
  unfold PodMutator.injectRequested
  rcases hG : s₂.get f₂ (namespaceKey ns) with e | nsObj₂
  · simp
  · have hlab : nsObj₂.labels = nsObj.labels := by simpa [hl, Store.get_ok hG] using hns
    simp only [hlab, hAny, Bool.not_true, Bool.false_eq_true, if_false]
    set d := m.evaluate nsObj.labels labels
    have hsa : assignServiceAccount d.spiffeHelper.inject crName p₁ = p₁ :=
      assignServiceAccount_eq_self fun hn => by
        rw [hp₁, injectSidecars_serviceAccountName]
        exact serviceAccountName_of_needs (by simpa [needsServiceAccount, hp₁] using hn)
    rcases injectDecided_cases m f₂ s₂ p₁ ns crName d with ⟨hok, hp₂⟩ | ⟨e, he⟩
    · refine ⟨?_, .inl hok⟩
      rw [hp₂, hsa, hp₁, injectSidecars_idem]
    · simp [he]

/-- The documented mutator injects into a fresh pod of an opted-in agent, and a second call
against the same namespace leaves the result as it is. -/
theorem injectAuthBridge_idempotent_documented :
    (documentedMutator.injectAuthBridge Faults.none (enabledStore "team1")
        ⟨some [⟨"app", []⟩], none, none, "", []⟩ "team1" "weather" optedInAgent).1 = .ok true ∧
    (documentedMutator.injectAuthBridge Faults.none (enabledStore "team1")
      (documentedMutator.injectAuthBridge Faults.none (enabledStore "team1")
        ⟨some [⟨"app", []⟩], none, none, "", []⟩ "team1" "weather" optedInAgent).2.1
      "team1" "weather" optedInAgent).2.1
      = (documentedMutator.injectAuthBridge Faults.none (enabledStore "team1")
        ⟨some [⟨"app", []⟩], none, none, "", []⟩ "team1" "weather" optedInAgent).2.1 :=
  ⟨rfl, (injectAuthBridge_idempotent documentedMutator Faults.none Faults.none
    (enabledStore "team1") (enabledStore "team1") _ "team1" "weather" optedInAgent rfl rfl).1⟩

/-! ## (4) Name uniqueness -/

/-- The container names after `injectSidecars`: the old ones, then only sidecar names. -/
theorem mem_containerNames_injectSidecars {b : ContainerBuilder} {d : InjectionDecision}
    {ns crName x : String} {spire : Bool} {p : PodSpec}
    (h : x ∈ ((injectSidecars b d ns crName spire p).containers.getD []).map Container.name) :
    x ∈ (p.containers.getD []).map Container.name ∨
      x ∈ [envoyProxyContainerName, spiffeHelperContainerName, clientRegistrationContainerName] := by
  simp only [injectSidecars, Option.getD_some] at h
  rcases mem_map_injectContainer (b.clientRegistration_name _ _ _) h with h | rfl
  · rcases mem_map_injectContainer b.spiffeHelper_name h with h | rfl
    · rcases mem_map_injectContainer (b.envoyProxy_name _) h with h | rfl
      · exact .inl h
      · simp
    · simp
  · simp

/-- `injectSidecars` keeps container names pairwise distinct across both lists, and volume
names distinct, when no sidecar's name is taken in the list it is not appended to. -/
theorem nodup_names_injectSidecars (b : ContainerBuilder) (d : InjectionDecision)
    (ns crName : String) (spire : Bool) (p : PodSpec)
    (hnames : p.containerNames.Nodup) (hvols : p.volumeNames.Nodup)
    (hinit : ∀ c ∈ p.initContainers.getD [], c.name ∉
      [envoyProxyContainerName, spiffeHelperContainerName, clientRegistrationContainerName])
    (hcont : ∀ c ∈ p.containers.getD [], c.name ≠ proxyInitContainerName) :
    (injectSidecars b d ns crName spire p).containerNames.Nodup ∧
      (injectSidecars b d ns crName spire p).volumeNames.Nodup := by
  rw [PodSpec.containerNames, List.nodup_append] at hnames
  obtain ⟨hc, hi, hdis⟩ := hnames
  refine ⟨List.nodup_append.mpr ⟨?_, ?_, fun x hx hy => ?_⟩, nodup_injectVolumes _ hvols⟩
  · simp only [injectSidecars, Option.getD_some]
    exact nodup_map_injectContainer (b.clientRegistration_name _ _ _)
      (nodup_map_injectContainer b.spiffeHelper_name
        (nodup_map_injectContainer (b.envoyProxy_name _) hc))
  · exact nodup_map_injectContainer b.proxyInit_name hi
  · rcases mem_map_injectContainer b.proxyInit_name hy with hy | rfl
    · obtain ⟨c, hcm, rfl⟩ := List.mem_map.mp hy
      rcases mem_containerNames_injectSidecars hx with hx | hx
      · exact hdis hx hy
      · exact hinit c hcm hx
    · rcases mem_containerNames_injectSidecars hx with hx | hx
      · obtain ⟨c, hcm, hn⟩ := List.mem_map.mp hx
        exact hcont c hcm hn
      · revert hx; decide

/-- **`InjectAuthBridge` keeps names unique when no sidecar name is taken in the other list.**
For a PodSpec whose container and init container names are pairwise distinct across both lists
and whose volume names are distinct, in which no init container is named `envoy-proxy`,
`spiffe-helper` or `kagenti-client-registration` and no container `proxy-init`, a call that
returns `true` leaves both properties in place. -/
theorem injectAuthBridge_preserves_unique_names (m : PodMutator) (f : Faults) (s : Store)
    (p : PodSpec) (ns crName : String) (labels : StrMap)
    (hnames : p.containerNames.Nodup) (hvols : p.volumeNames.Nodup)
    (hinit : ∀ c ∈ p.initContainers.getD [], c.name ∉
      [envoyProxyContainerName, spiffeHelperContainerName, clientRegistrationContainerName])
    (hcont : ∀ c ∈ p.containers.getD [], c.name ≠ proxyInitContainerName)
    (hok : (m.injectAuthBridge f s p ns crName labels).1 = .ok true) :
    (m.injectAuthBridge f s p ns crName labels).2.1.containerNames.Nodup ∧
      (m.injectAuthBridge f s p ns crName labels).2.1.volumeNames.Nodup := by
  obtain ⟨nsObj, -, -, -, -, hp⟩ := injectAuthBridge_ok_true hok
  rw [hp]
  exact nodup_names_injectSidecars _ _ _ _ _ _ (by simpa [PodSpec.containerNames] using hnames)
    (by simpa [PodSpec.volumeNames] using hvols) (by simpa using hinit) (by simpa using hcont)

/-- The documented mutator on a pod with an app container and an init container keeps the
names unique. -/
theorem injectAuthBridge_preserves_unique_names_documented :
    (documentedMutator.injectAuthBridge Faults.none (enabledStore "team1")
        ⟨some [⟨"app", []⟩], some [⟨"setup", []⟩], none, "", []⟩ "team1" "weather"
        optedInAgent).1 = .ok true ∧
    (documentedMutator.injectAuthBridge Faults.none (enabledStore "team1")
        ⟨some [⟨"app", []⟩], some [⟨"setup", []⟩], none, "", []⟩ "team1" "weather"
        optedInAgent).2.1.containerNames.Nodup ∧
    (documentedMutator.injectAuthBridge Faults.none (enabledStore "team1")
        ⟨some [⟨"app", []⟩], some [⟨"setup", []⟩], none, "", []⟩ "team1" "weather"
        optedInAgent).2.1.volumeNames.Nodup :=
  ⟨rfl, injectAuthBridge_preserves_unique_names documentedMutator Faults.none (enabledStore "team1")
    ⟨some [⟨"app", []⟩], some [⟨"setup", []⟩], none, "", []⟩ "team1" "weather" optedInAgent
    (by decide) (by decide) (by decide) (by decide) rfl⟩

/-- **A native-sidecar `envoy-proxy` is injected a second time.** An opted-in agent whose pod
already runs `envoy-proxy` as an init container (a native sidecar) satisfies Kubernetes' name
uniqueness; `InjectAuthBridge` returns `true` and leaves `envoy-proxy` in both lists, because the
guard looks only at `Containers`. -/
theorem injectAuthBridge_duplicates_native_sidecar_name :
    (⟨some [⟨"app", []⟩], some [⟨"envoy-proxy", []⟩], none, "", []⟩ : PodSpec).containerNames.Nodup ∧
    (documentedMutator.injectAuthBridge Faults.none (enabledStore "team1")
        ⟨some [⟨"app", []⟩], some [⟨"envoy-proxy", []⟩], none, "", []⟩ "team1" "weather"
        optedInAgent).1 = .ok true ∧
    ¬ (documentedMutator.injectAuthBridge Faults.none (enabledStore "team1")
        ⟨some [⟨"app", []⟩], some [⟨"envoy-proxy", []⟩], none, "", []⟩ "team1" "weather"
        optedInAgent).2.1.containerNames.Nodup :=
  ⟨by decide, rfl, by decide⟩

/-! ## (5) The ServiceAccount -/

/-- **A pod is moved only to a ServiceAccount that exists.** When the API server makes up no
`AlreadyExists` (any other refusal may happen), when `InjectAuthBridge` returns `true` with the pod on
another ServiceAccount than before, that ServiceAccount is `crName` and is stored in the
workload's namespace, created by this call or found already there. -/
theorem injectAuthBridge_serviceAccount_exists (m : PodMutator) (f : Faults) (s : Store)
    (p : PodSpec) (ns crName : String) (labels : StrMap) (hf : f.NoFalseAlreadyExists)
    (h : (m.injectAuthBridge f s p ns crName labels).1 = .ok true)
    (hsa : (m.injectAuthBridge f s p ns crName labels).2.1.serviceAccountName ≠ p.serviceAccountName) :
    (m.injectAuthBridge f s p ns crName labels).2.1.serviceAccountName = crName ∧
      ((m.injectAuthBridge f s p ns crName labels).2.2.lookup
        (serviceAccountFor ns crName).key).isSome := by
  rcases injectAuthBridge_cases m f s p ns crName labels with hr | ⟨e, hr⟩ | ⟨_, -, -, -, -, hr⟩ <;>
    rw [hr] at h hsa ⊢
  · cases h
  · cases h
  · exact injectDecided_serviceAccount hf _ h hsa

/-- The labels of an agent that opts into AuthBridge and into SPIRE. -/
def spireAgent : StrMap :=
  StrMap.ofList [(kagentiTypeLabel, kagentiTypeAgent), (authBridgeInjectLabel, authBridgeInjectValue),
    (spireEnableLabel, spireEnabledValue)]

/-- A SPIRE agent on the default ServiceAccount is moved to `weather`, which the call creates. -/
theorem injectAuthBridge_serviceAccount_exists_documented :
    Faults.none.NoFalseAlreadyExists ∧
      (documentedMutator.injectAuthBridge Faults.none (enabledStore "team1")
        ⟨some [⟨"app", []⟩], none, none, "", []⟩ "team1" "weather" spireAgent).1 = .ok true ∧
      (documentedMutator.injectAuthBridge Faults.none (enabledStore "team1")
        ⟨some [⟨"app", []⟩], none, none, "", []⟩ "team1" "weather" spireAgent).2.1.serviceAccountName
        ≠ "" ∧
      (documentedMutator.injectAuthBridge Faults.none (enabledStore "team1")
        ⟨some [⟨"app", []⟩], none, none, "", []⟩ "team1" "weather" spireAgent).2.1.serviceAccountName
        = "weather" ∧
      ((documentedMutator.injectAuthBridge Faults.none (enabledStore "team1")
        ⟨some [⟨"app", []⟩], none, none, "", []⟩ "team1" "weather" spireAgent).2.2.lookup
        (serviceAccountFor "team1" "weather").key).isSome :=
  have hsa : (documentedMutator.injectAuthBridge Faults.none (enabledStore "team1")
      ⟨some [⟨"app", []⟩], none, none, "", []⟩ "team1" "weather" spireAgent).2.1.serviceAccountName
      ≠ "" := by decide
  ⟨Faults.honest_none.noFalseAlreadyExists, rfl, hsa, injectAuthBridge_serviceAccount_exists
    documentedMutator Faults.none (enabledStore "team1") ⟨some [⟨"app", []⟩], none, none, "", []⟩
    "team1" "weather" spireAgent Faults.honest_none.noFalseAlreadyExists rfl hsa⟩

end KagentiWebhook.Injector
