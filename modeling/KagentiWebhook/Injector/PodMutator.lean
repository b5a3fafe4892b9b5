import KagentiWebhook.Cluster.Store
import KagentiWebhook.Injector.PodSpec

/-! # `InjectAuthBridge`

The AuthBridge mutator of `injector/pod_mutator.go`, step for step:

1. the pre-filter on `kagenti.io/type` (agent or tool) and the opt-in `kagenti.io/inject=enabled`,
   both answered `(false, nil)` before any API call;
2. the namespace `Get`, whose labels feed the precedence evaluator;
3. `(false, nil)` when no sidecar is to be injected;
4. for SPIRE workloads on the `""`/`"default"` ServiceAccount, `ensureServiceAccount` and the
   switch to a dedicated ServiceAccount named after the workload;
5. **`injectSidecars`** — nil slices initialised, the four guarded sidecar appends, then the
   volume loop.

A call returns the result, the PodSpec it leaves behind (Go mutates it through the pointer) and
the store. **`injectAuthBridge_ok_true`** and **`injectAuthBridge_not_true`** say once what a
call can do; the properties in `Injector.Properties` are derived from them. -/

namespace KagentiWebhook.Injector

/-- The request-scoped part of `PodMutator`: the precedence evaluator built from this request's
feature gates and platform config (`Evaluate(ns.Labels, labels, nil)`), and the container
builder for the same config. Both come from files that are not in the sources. -/
structure PodMutator where
  evaluate : StrMap → StrMap → InjectionDecision
  builder : ContainerBuilder

/-- The key of `client.ObjectKey{Name: namespace}`: namespaces are cluster-scoped. -/
def namespaceKey (ns : String) : ObjectKey := ⟨.namespace, "", ns⟩

/-! ## (1) `ensureServiceAccount` -/

/-- The ServiceAccount `ensureServiceAccount` creates, labelled as managed by the webhook. -/
def serviceAccountFor (ns name : String) : Object where
  name := name
  «namespace» := ns
  labels := StrMap.ofList [(managedByLabel, managedByValue)]
  annotations := ∅
  resourceVersion := ""
  spec := .serviceAccount

/-- `ensureServiceAccount`: create the ServiceAccount; `AlreadyExists` counts as success (the
follow-up `Get` only chooses a log line, and the function returns nil either way). -/
def ensureServiceAccount (f : Faults) (s : Store) (ns name : String) : Except Error Unit × Store :=
  match s.create f (serviceAccountFor ns name) with
  | .ok s' => (.ok (), s')
  | .error e => if e.reason = .alreadyExists then (.ok (), s) else (.error e, s)

/-- A failed `ensureServiceAccount` created nothing. -/
theorem ensureServiceAccount_error {f : Faults} {s s' : Store} {ns name : String} {e : Error}
    (h : ensureServiceAccount f s ns name = (.error e, s')) : s' = s := by
  unfold ensureServiceAccount at h
  split at h
  · cases h
  · split at h <;> cases h; rfl

/-- `ensureServiceAccount` keeps every stored object and writes only the ServiceAccount. -/
theorem ensureServiceAccount_adds_only (f : Faults) (s : Store) (ns name : String) :
    Store.Keeps (fun _ => True) s (ensureServiceAccount f s ns name).2 ∧
      Store.WritesOnly (· = serviceAccountFor ns name) s (ensureServiceAccount f s ns name).2 := by
  unfold ensureServiceAccount
  rcases hc : s.create f (serviceAccountFor ns name) with e | s'
  · dsimp only
    split <;> exact ⟨.refl _ _, .refl _ _⟩
  · obtain ⟨hnone, rfl⟩ := Store.create_ok hc
    exact ⟨.put s _ fun o h => (by rw [hnone] at h; cases h), .put s _ rfl⟩

/-- When the API server makes up no `AlreadyExists`, a successful `ensureServiceAccount` leaves the
ServiceAccount stored: created now, or found by the `AlreadyExists` answer. -/
theorem ensureServiceAccount_ok_honest {f : Faults} {s s' : Store} {ns name : String}
    (hf : f.NoFalseAlreadyExists) (h : ensureServiceAccount f s ns name = (.ok (), s')) :
    (s'.lookup (serviceAccountFor ns name).key).isSome := by
  unfold ensureServiceAccount at h
  rcases hc : s.create f (serviceAccountFor ns name) with e | s₁ <;> simp only [hc] at h
  · split at h
    · cases h; exact Store.create_alreadyExists hf hc ‹_›
    · cases h
  · cases h
    obtain ⟨-, rfl⟩ := Store.create_ok hc
    simp

/-! ## (2) The pre-filter and the ServiceAccount switch -/

/-- `kagenti.io/type` is present and is `agent` or `tool`. -/
def isAgentOrTool (labels : StrMap) : Bool :=
  match labels.lookup kagentiTypeLabel with
  | some t => t == kagentiTypeAgent || t == kagentiTypeTool
  | none => false

/-- `labels[kagenti.io/inject] == "enabled"`. -/
def injectionRequested (labels : StrMap) : Bool :=
  labels.index authBridgeInjectLabel == authBridgeInjectValue

/-- A SPIRE workload still on the `""` or `"default"` ServiceAccount needs its own. -/
def needsServiceAccount (spireEnabled : Bool) (p : PodSpec) : Bool :=
  spireEnabled && (p.serviceAccountName == "" || p.serviceAccountName == "default")

/-- The PodSpec after the ServiceAccount step, when that step succeeds. -/
def assignServiceAccount (spireEnabled : Bool) (crName : String) (p : PodSpec) : PodSpec :=
  if needsServiceAccount spireEnabled p then { p with serviceAccountName := crName } else p

/-- After the switch, a PodSpec that would still need a ServiceAccount already has `crName`. -/
theorem serviceAccountName_of_needs {spire : Bool} {crName : String} {p : PodSpec}
    (h : needsServiceAccount spire (assignServiceAccount spire crName p) = true) :
    (assignServiceAccount spire crName p).serviceAccountName = crName := by
  unfold assignServiceAccount at *
  split
  · rfl
  · rename_i hn; rw [if_neg hn] at h; exact absurd h hn

/-- The switch is void on a PodSpec that either needs no ServiceAccount or already has `crName`. -/
theorem assignServiceAccount_eq_self {spire : Bool} {crName : String} {p : PodSpec}
    (h : needsServiceAccount spire p = true → p.serviceAccountName = crName) :
    assignServiceAccount spire crName p = p := by
  unfold assignServiceAccount
  split
  · rename_i hn; rw [← h hn]
  · rfl

/-- The ServiceAccount switch leaves the containers alone. -/
@[simp] theorem assignServiceAccount_containers (spire : Bool) (crName : String) (p : PodSpec) :
    (assignServiceAccount spire crName p).containers = p.containers := by
  unfold assignServiceAccount; split <;> rfl

/-- The ServiceAccount switch leaves the init containers alone. -/
@[simp] theorem assignServiceAccount_initContainers (spire : Bool) (crName : String) (p : PodSpec) :
    (assignServiceAccount spire crName p).initContainers = p.initContainers := by
  unfold assignServiceAccount; split <;> rfl

/-- The ServiceAccount switch leaves the volumes alone. -/
@[simp] theorem assignServiceAccount_volumes (spire : Bool) (crName : String) (p : PodSpec) :
    (assignServiceAccount spire crName p).volumes = p.volumes := by
  unfold assignServiceAccount; split <;> rfl

/-- The ServiceAccount switch leaves the other fields alone. -/
@[simp] theorem assignServiceAccount_otherFields (spire : Bool) (crName : String) (p : PodSpec) :
    (assignServiceAccount spire crName p).otherFields = p.otherFields := by
  unfold assignServiceAccount; split <;> rfl

/-! ## (3) `injectSidecars`: the appends -/

/-- The slice initialisation, the four guarded appends and the volume loop of
`InjectAuthBridge`, in the source's order. -/
def injectSidecars (b : ContainerBuilder) (d : InjectionDecision) (ns crName : String)
    (spireEnabled : Bool) (p : PodSpec) : PodSpec :=
  let containers := p.containers.getD []
  let initContainers := p.initContainers.getD []
  let containers := injectContainer d.envoyProxy.inject containers envoyProxyContainerName
    (b.buildEnvoyProxyContainerWithSpireOption spireEnabled)
  let initContainers := injectContainer d.proxyInit.inject initContainers proxyInitContainerName
    b.buildProxyInitContainer
  let containers := injectContainer d.spiffeHelper.inject containers spiffeHelperContainerName
    b.buildSpiffeHelperContainer
  let containers := injectContainer d.clientRegistration.inject containers
    clientRegistrationContainerName
    (b.buildClientRegistrationContainerWithSpireOption crName ns spireEnabled)
  { p with
    containers := some containers
    initContainers := some initContainers
    volumes := some (injectVolumes (p.volumes.getD []) (b.requiredVolumes spireEnabled)) }

/-- Injecting sidecars leaves the ServiceAccount alone. -/
@[simp] theorem injectSidecars_serviceAccountName (b : ContainerBuilder) (d : InjectionDecision)
    (ns crName : String) (spire : Bool) (p : PodSpec) :
    (injectSidecars b d ns crName spire p).serviceAccountName = p.serviceAccountName := rfl

/-- Injecting sidecars leaves the other fields alone. -/
@[simp] theorem injectSidecars_otherFields (b : ContainerBuilder) (d : InjectionDecision)
    (ns crName : String) (spire : Bool) (p : PodSpec) :
    (injectSidecars b d ns crName spire p).otherFields = p.otherFields := rfl

/-- Every sidecar the decision asks for, and every required volume, is present by name, and no
slice is nil: the state `injectSidecars` leaves and on which it is void. -/
def SidecarsPresent (b : ContainerBuilder) (d : InjectionDecision) (spireEnabled : Bool)
    (p : PodSpec) : Prop :=
  ∃ cs ics vs, p.containers = some cs ∧ p.initContainers = some ics ∧ p.volumes = some vs ∧
    (d.envoyProxy.inject = true → containerExists cs envoyProxyContainerName = true) ∧
    (d.proxyInit.inject = true → containerExists ics proxyInitContainerName = true) ∧
    (d.spiffeHelper.inject = true → containerExists cs spiffeHelperContainerName = true) ∧
    (d.clientRegistration.inject = true →
      containerExists cs clientRegistrationContainerName = true) ∧
    ∀ v ∈ b.requiredVolumes spireEnabled, volumeExists vs v.name = true

/-- `injectSidecars` establishes `SidecarsPresent`: an asked-for sidecar is present after its own
append, and the later appends only extend the list. -/
theorem sidecarsPresent_injectSidecars (b : ContainerBuilder) (d : InjectionDecision)
    (ns crName : String) (spire : Bool) (p : PodSpec) :
    SidecarsPresent b d spire (injectSidecars b d ns crName spire p) := by
  refine ⟨_, _, _, rfl, rfl, rfl, fun hi => ?_, fun hi => ?_, fun hi => ?_, fun hi => ?_,
    volumeExists_injectVolumes _ _⟩
  · exact nameExists_of_prefix ((prefix_injectContainer _ _ _ _).trans
      (prefix_injectContainer _ _ _ _)) (containerExists_injectContainer (b.envoyProxy_name _) hi)
  · exact containerExists_injectContainer b.proxyInit_name hi
  · exact nameExists_of_prefix (prefix_injectContainer _ _ _ _)
      (containerExists_injectContainer b.spiffeHelper_name hi)
  · exact containerExists_injectContainer (b.clientRegistration_name _ _ _) hi

/-- On a PodSpec where everything asked for is present, `injectSidecars` changes nothing. -/
theorem injectSidecars_of_present {b : ContainerBuilder} {d : InjectionDecision} {spire : Bool}
    {p : PodSpec} (ns crName : String) (h : SidecarsPresent b d spire p) :
    injectSidecars b d ns crName spire p = p := by
  obtain ⟨cs, ics, vs, hc, hi, hv, he, hp, hs, hr, hvol⟩ := h
  obtain ⟨c, i, v, sa, o⟩ := p
  simp only at hc hi hv
  subst hc hi hv
  simp only [injectSidecars, Option.getD_some, injectContainer_eq_self _ he,
    injectContainer_eq_self _ hp, injectContainer_eq_self _ hs, injectContainer_eq_self _ hr,
    injectVolumes_of_exists hvol]

/-- With the same decision, a second `injectSidecars` adds nothing. -/
theorem injectSidecars_idem (b : ContainerBuilder) (d : InjectionDecision) (ns crName : String)
    (spire : Bool) (p : PodSpec) :
    injectSidecars b d ns crName spire (injectSidecars b d ns crName spire p)
      = injectSidecars b d ns crName spire p :=
  injectSidecars_of_present ns crName (sidecarsPresent_injectSidecars b d ns crName spire p)

/-- Injecting sidecars only appends to the containers. -/
theorem prefix_injectSidecars_containers (b : ContainerBuilder) (d : InjectionDecision)
    (ns crName : String) (spire : Bool) (p : PodSpec) :
    p.containers.getD [] <+: (injectSidecars b d ns crName spire p).containers.getD [] :=
  ((prefix_injectContainer _ _ _ _).trans (prefix_injectContainer _ _ _ _)).trans
    (prefix_injectContainer _ _ _ _)

/-- Injecting sidecars only appends to the init containers. -/
theorem prefix_injectSidecars_initContainers (b : ContainerBuilder) (d : InjectionDecision)
    (ns crName : String) (spire : Bool) (p : PodSpec) :
    p.initContainers.getD [] <+: (injectSidecars b d ns crName spire p).initContainers.getD [] :=
  prefix_injectContainer _ _ _ _

/-- Injecting sidecars only appends to the volumes. -/
theorem prefix_injectSidecars_volumes (b : ContainerBuilder) (d : InjectionDecision)
    (ns crName : String) (spire : Bool) (p : PodSpec) :
    p.volumes.getD [] <+: (injectSidecars b d ns crName spire p).volumes.getD [] :=
  prefix_injectVolumes _ _

/-! ## (4) `injectAuthBridge` -/

/-- Steps 4 and 5, once the decision injects something: the ServiceAccount step, then the
appends. -/
def PodMutator.injectDecided (m : PodMutator) (f : Faults) (s : Store) (podSpec : PodSpec)
    (ns crName : String) (decision : InjectionDecision) : Except Error Bool × PodSpec × Store :=
  let spireEnabled := decision.spiffeHelper.inject
  if needsServiceAccount spireEnabled podSpec then
    match ensureServiceAccount f s ns crName with
    | (.error e, s') => (.error (e.wrap "failed to ensure service account: "), podSpec, s')
    | (.ok (), s') =>
      (.ok true, injectSidecars m.builder decision ns crName spireEnabled
        { podSpec with serviceAccountName := crName }, s')
  else (.ok true, injectSidecars m.builder decision ns crName spireEnabled podSpec, s)

/-- Steps 2–5 for an opted-in agent or tool: read the namespace, evaluate, decline when nothing
is to be injected, else steps 4–5. -/
def PodMutator.injectRequested (m : PodMutator) (f : Faults) (s : Store) (podSpec : PodSpec)
    (ns crName : String) (labels : StrMap) : Except Error Bool × PodSpec × Store :=
  match s.get f (namespaceKey ns) with
  | .error e => (.error (e.wrap "failed to fetch namespace: "), podSpec, s)
  | .ok nsObj =>
    let decision := m.evaluate nsObj.labels labels
    if !decision.anyInjected then (.ok false, podSpec, s)
    else m.injectDecided f s podSpec ns crName decision

/-- `InjectAuthBridge(ctx, podSpec, namespace, crName, labels)`: the result, the PodSpec after
the call, and the store. -/
def PodMutator.injectAuthBridge (m : PodMutator) (f : Faults) (s : Store) (podSpec : PodSpec)
    (ns crName : String) (labels : StrMap) : Except Error Bool × PodSpec × Store :=
  if !isAgentOrTool labels then (.ok false, podSpec, s)
  else if !injectionRequested labels then (.ok false, podSpec, s)
  else m.injectRequested f s podSpec ns crName labels

variable {m : PodMutator} {f : Faults} {s : Store} {p : PodSpec} {ns crName : String}
  {labels : StrMap}

/-- Steps 4–5 either succeed with the switched, appended PodSpec or fail having changed nothing. -/
theorem injectDecided_cases (m : PodMutator) (f : Faults) (s : Store) (p : PodSpec)
    (ns crName : String) (d : InjectionDecision) :
    ((m.injectDecided f s p ns crName d).1 = .ok true ∧
      (m.injectDecided f s p ns crName d).2.1 = injectSidecars m.builder d ns crName
        d.spiffeHelper.inject (assignServiceAccount d.spiffeHelper.inject crName p)) ∨
    ∃ e, m.injectDecided f s p ns crName d = (.error e, p, s) := by
  unfold PodMutator.injectDecided assignServiceAccount
  by_cases hn : needsServiceAccount d.spiffeHelper.inject p = true
  · rcases hE : ensureServiceAccount f s ns crName with ⟨_ | _, s'⟩
    · simp [hn, ensureServiceAccount_error hE]
    · simp [hn]
  · simp [hn]

/-- Steps 4–5 keep every stored object and write only the ServiceAccount. -/
theorem injectDecided_adds_only (d : InjectionDecision) :
    Store.Keeps (fun _ => True) s (m.injectDecided f s p ns crName d).2.2 ∧
      Store.WritesOnly (· = serviceAccountFor ns crName) s (m.injectDecided f s p ns crName d).2.2 := by
  unfold PodMutator.injectDecided
  dsimp only
  split
  · have h := ensureServiceAccount_adds_only f s ns crName
    rcases hE : ensureServiceAccount f s ns crName with ⟨_ | _, s'⟩ <;> rw [hE] at h <;> exact h
  · exact ⟨.refl _ _, .refl _ _⟩

/-- When the API server makes up no `AlreadyExists`, steps 4–5 that succeed having switched the
ServiceAccount switched it to `crName`, which is then stored. -/
theorem injectDecided_serviceAccount (hf : f.NoFalseAlreadyExists) (d : InjectionDecision)
    (h : (m.injectDecided f s p ns crName d).1 = .ok true)
    (hsa : (m.injectDecided f s p ns crName d).2.1.serviceAccountName ≠ p.serviceAccountName) :
    (m.injectDecided f s p ns crName d).2.1.serviceAccountName = crName ∧
      ((m.injectDecided f s p ns crName d).2.2.lookup (serviceAccountFor ns crName).key).isSome := by
  unfold PodMutator.injectDecided at *
  by_cases hn : needsServiceAccount d.spiffeHelper.inject p = true
  · simp only [hn, if_true] at h hsa ⊢
    rcases hE : ensureServiceAccount f s ns crName with ⟨_ | _, s'⟩
    · simp [hE] at h
    · exact ⟨rfl, ensureServiceAccount_ok_honest hf hE⟩
  · simp only [hn, if_false] at hsa
    exact (hsa rfl).elim

/-- **Everything a call can do.** Decline, fail before any write, or — for an opted-in agent or
tool whose stored namespace yields a decision that injects something — run steps 4–5. -/
theorem injectAuthBridge_cases (m : PodMutator) (f : Faults) (s : Store) (p : PodSpec)
    (ns crName : String) (labels : StrMap) :
    m.injectAuthBridge f s p ns crName labels = (.ok false, p, s) ∨
    (∃ e, m.injectAuthBridge f s p ns crName labels = (.error e, p, s)) ∨
    ∃ nsObj, s.lookup (namespaceKey ns) = some nsObj ∧
      isAgentOrTool labels = true ∧ injectionRequested labels = true ∧
      (m.evaluate nsObj.labels labels).anyInjected = true ∧
      m.injectAuthBridge f s p ns crName labels
        = m.injectDecided f s p ns crName (m.evaluate nsObj.labels labels) := by
  unfold PodMutator.injectAuthBridge PodMutator.injectRequested
  cases hA : isAgentOrTool labels; · simp
  cases hR : injectionRequested labels; · simp
  rcases hG : s.get f (namespaceKey ns) with e | nsObj
  · simp
  · by_cases hAny : (m.evaluate nsObj.labels labels).anyInjected = true
    · exact .inr (.inr ⟨nsObj, Store.get_ok hG, rfl, rfl, hAny, by simp [hAny]⟩)
    · simp [hAny]

/-- Past the pre-filter, the call is `injectRequested`. -/
theorem injectAuthBridge_of_requested (hA : isAgentOrTool labels = true)
    (hR : injectionRequested labels = true) :
    m.injectAuthBridge f s p ns crName labels = m.injectRequested f s p ns crName labels := by
  simp [PodMutator.injectAuthBridge, hA, hR]

/-- A workload that is not an opted-in agent or tool is answered `(false, nil)`, whatever the
store and the API server do: no call is made. -/
theorem injectAuthBridge_of_not_requested
    (h : (isAgentOrTool labels && injectionRequested labels) = false) (f : Faults) (s : Store) :
    m.injectAuthBridge f s p ns crName labels = (.ok false, p, s) := by
  unfold PodMutator.injectAuthBridge
  cases hA : isAgentOrTool labels <;> cases hR : injectionRequested labels <;> simp_all

/-- **A declined or failed call changes nothing.** Unless the result is `true`, the PodSpec and
the store are as before. -/
theorem injectAuthBridge_not_true
    (h : (m.injectAuthBridge f s p ns crName labels).1 ≠ .ok true) :
    (m.injectAuthBridge f s p ns crName labels).2 = (p, s) := by
  rcases injectAuthBridge_cases m f s p ns crName labels with hr | ⟨e, hr⟩ | ⟨nsObj, -, -, -, -, hr⟩
  · rw [hr]
  · rw [hr]
  · rw [hr] at h ⊢
    rcases injectDecided_cases m f s p ns crName (m.evaluate nsObj.labels labels) with ⟨hok, -⟩ | ⟨e, he⟩
    · exact absurd hok h
    · rw [he]

/-- **What a successful call does.** The namespace was found, the workload is an opted-in agent
or tool, some sidecar is to be injected, and the PodSpec is the ServiceAccount switch followed by
`injectSidecars`, all for the decision on the stored namespace's labels. -/
theorem injectAuthBridge_ok_true
    (h : (m.injectAuthBridge f s p ns crName labels).1 = .ok true) :
    ∃ nsObj, s.lookup (namespaceKey ns) = some nsObj ∧
      isAgentOrTool labels = true ∧ injectionRequested labels = true ∧
      (m.evaluate nsObj.labels labels).anyInjected = true ∧
      (m.injectAuthBridge f s p ns crName labels).2.1 =
        injectSidecars m.builder (m.evaluate nsObj.labels labels) ns crName
          (m.evaluate nsObj.labels labels).spiffeHelper.inject
          (assignServiceAccount (m.evaluate nsObj.labels labels).spiffeHelper.inject crName p) := by
  rcases injectAuthBridge_cases m f s p ns crName labels with hr | ⟨e, hr⟩ | ⟨nsObj, hl, hA, hR, hAny, hr⟩
  · rw [hr] at h; cases h
  · rw [hr] at h; cases h
  · rw [hr] at h ⊢
    refine ⟨nsObj, hl, hA, hR, hAny, ?_⟩
    rcases injectDecided_cases m f s p ns crName (m.evaluate nsObj.labels labels) with ⟨-, hp⟩ | ⟨e, he⟩
    · exact hp
    · rw [he] at h; cases h

/-! ## (5) The documented defaults

The evaluator and the builders are not in the sources; every theorem above holds for all of
them. To run the model on concrete pods we fix the ones the README documents for the compiled
defaults (all feature gates and platform defaults on). -/

/-- Modelled from the spec: the README's precedence chain under the default feature gates and
platform defaults. A sidecar is injected when the namespace carries `kagenti-enabled=true` and
the workload does not set the sidecar's `kagenti.io/<sidecar>-inject` label to `"false"`;
`proxy-init` follows `envoy-proxy`; `spiffe-helper` also needs `kagenti.io/spire=enabled`. -/
def documentedEvaluate (nsLabels labels : StrMap) : InjectionDecision :=
  let enabled := nsLabels.index "kagenti-enabled" == "true"
  let envoy := enabled && labels.index "kagenti.io/envoy-proxy-inject" != "false"
  { envoyProxy := ⟨envoy⟩
    proxyInit := ⟨envoy⟩
    spiffeHelper := ⟨enabled && labels.index "kagenti.io/spiffe-helper-inject" != "false" &&
      labels.index spireEnableLabel == spireEnabledValue⟩
    clientRegistration := ⟨enabled &&
      labels.index "kagenti.io/client-registration-inject" != "false"⟩ }

/-- Modelled from the spec: the builders as the README and the builder tests describe them —
containers named after their sidecars, `envoy-proxy` mounting `envoy-config`, `shared-data` and,
with SPIRE, a read-only `svid-output` at `/opt`; the volumes the README lists as injected. -/
def documentedBuilder : ContainerBuilder where
  buildEnvoyProxyContainerWithSpireOption spire :=
    ⟨envoyProxyContainerName, [⟨"envoy-config", "/etc/envoy", false⟩, ⟨"shared-data", "/shared", false⟩] ++
      if spire then [⟨"svid-output", "/opt", true⟩] else []⟩
  buildProxyInitContainer := ⟨proxyInitContainerName, []⟩
  buildSpiffeHelperContainer := ⟨spiffeHelperContainerName, []⟩
  buildClientRegistrationContainerWithSpireOption _ _ _ := ⟨clientRegistrationContainerName, []⟩
  buildRequiredVolumes := [⟨"envoy-config"⟩, ⟨"shared-data"⟩, ⟨"svid-output"⟩,
    ⟨"spire-agent-socket"⟩, ⟨"spiffe-helper-config"⟩, ⟨"authbridge-config"⟩]
  buildRequiredVolumesNoSpire := [⟨"envoy-config"⟩, ⟨"shared-data"⟩, ⟨"authbridge-config"⟩]
  envoyProxy_name _ := rfl
  proxyInit_name := rfl
  spiffeHelper_name := rfl
  clientRegistration_name _ _ _ := rfl

/-- The mutator under the documented defaults. -/
def documentedMutator : PodMutator := ⟨documentedEvaluate, documentedBuilder⟩

end KagentiWebhook.Injector
