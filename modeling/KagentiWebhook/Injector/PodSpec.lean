import KagentiWebhook.Cluster.Object

/-! # Pod specs, sidecar names and the append-if-absent step

The data `InjectAuthBridge` (`injector/pod_mutator.go`) works on, and the one list operation it
repeats: append an element unless one of that name is already there.

* **`Container`**, **`Volume`**, **`PodSpec`** — a nil Go slice is `none`, so "nil stays nil" is
  observable; the PodSpec fields the mutator never reads are one opaque field, `otherFields`.
* **Sidecar names and labels** — the constants of `pod_mutator.go`; `envoy-proxy` and `proxy-init`
  come from the README, their Go constants live in a file not in the sources.
* **`nameExists`**, **`appendUnlessNamed`** — one definition for the two guards
  `containerExists` / `volumeExists` and for their append-if-absent uses, with the lemmas
  (prefix, presence, identity, uniqueness) every later proof cites.
* **`ContainerBuilder`** — the builders (not in the sources) as parameters, carrying as fields
  that each returns a container named as its guard expects. -/

namespace KagentiWebhook.Injector

/-! ## (1) Pod specs -/

/-- `corev1.VolumeMount`. -/
structure VolumeMount where
  name : String
  mountPath : String
  readOnly : Bool
  deriving DecidableEq, Repr

/-- `corev1.Container`: its name (all the mutator reads) and its volume mounts. -/
structure Container where
  name : String
  volumeMounts : List VolumeMount
  deriving DecidableEq, Repr

/-- `corev1.Volume`; the mutator reads only the name. -/
structure Volume where
  name : String
  deriving DecidableEq, Repr

/-- `corev1.PodSpec`. A slice is `none` when Go's is nil. `otherFields` stands for every field the
mutator never reads (restartPolicy, nodeSelector, securityContext, ...). -/
structure PodSpec where
  containers : Option (List Container)
  initContainers : Option (List Container)
  volumes : Option (List Volume)
  serviceAccountName : String
  otherFields : List (String × String)
  deriving DecidableEq, Repr

/-- The names of all containers and init containers, in order; a valid pod has them pairwise
distinct. -/
def PodSpec.containerNames (p : PodSpec) : List String :=
  (p.containers.getD []).map Container.name ++ (p.initContainers.getD []).map Container.name

/-- The volume names, in order; a valid pod has them pairwise distinct. -/
def PodSpec.volumeNames (p : PodSpec) : List String := (p.volumes.getD []).map Volume.name

/-! ## (2) Names and labels -/

/-- `SpiffeHelperContainerName`. -/
def spiffeHelperContainerName : String := "spiffe-helper"
/-- `ClientRegistrationContainerName`. -/
def clientRegistrationContainerName : String := "kagenti-client-registration"
/-- Modelled from the spec: `EnvoyProxyContainerName`, declared outside the sources; the README
and the decision log of `InjectAuthBridge` name the sidecar `envoy-proxy`. -/
def envoyProxyContainerName : String := "envoy-proxy"
/-- Modelled from the spec: `ProxyInitContainerName`, declared outside the sources; the README
names the init container `proxy-init`. -/
def proxyInitContainerName : String := "proxy-init"

/-- `AuthBridgeInjectLabel`. -/
def authBridgeInjectLabel : String := "kagenti.io/inject"
/-- `AuthBridgeInjectValue`: the only value that opts a workload in. -/
def authBridgeInjectValue : String := "enabled"
/-- `KagentiTypeLabel`. -/
def kagentiTypeLabel : String := "kagenti.io/type"
/-- `KagentiTypeAgent`. -/
def kagentiTypeAgent : String := "agent"
/-- `KagentiTypeTool`. -/
def kagentiTypeTool : String := "tool"
/-- `SpireEnableLabel`. -/
def spireEnableLabel : String := "kagenti.io/spire"
/-- `SpireEnabledValue`. -/
def spireEnabledValue : String := "enabled"
/-- `managedByLabel`, set on the ServiceAccounts the webhook creates. -/
def managedByLabel : String := "kagenti.io/managed-by"
/-- `managedByValue`. -/
def managedByValue : String := "webhook"

/-! ## (3) Append unless a same-named element is present

`containerExists` and `volumeExists` are one loop over two element types, and every append of
`InjectAuthBridge` is guarded by one of them; we state both once, over a name projection. -/

section AppendUnlessNamed

variable {α : Type} (nameOf : α → String)

/-- Some element of `l` is named `n` (the loop of `containerExists` / `volumeExists`). -/
def nameExists (l : List α) (n : String) : Bool := l.any fun x => nameOf x == n

/-- Append `x` unless some element is already named `n`. -/
def appendUnlessNamed (l : List α) (n : String) (x : α) : List α :=
  if nameExists nameOf l n then l else l ++ [x]

variable {nameOf}

/-- `nameExists` is membership among the names. -/
theorem nameExists_iff {l : List α} {n : String} :
    nameExists nameOf l n = true ↔ n ∈ l.map nameOf := by
  simp only [nameExists, List.any_eq_true, beq_iff_eq, List.mem_map]

/-- Looking for a name among the elements or among their names is the same. -/
theorem nameExists_id_map (l : List α) (n : String) :
    nameExists id (l.map nameOf) n = nameExists nameOf l n := by
  induction l <;> simp_all [nameExists]

/-- A name already present leaves the list as it is. -/
theorem appendUnlessNamed_of_exists {l : List α} {n : String} (x : α)
    (h : nameExists nameOf l n = true) : appendUnlessNamed nameOf l n x = l := by
  simp [appendUnlessNamed, h]

/-- The guarded append only appends: the old list is a prefix. -/
theorem prefix_appendUnlessNamed (l : List α) (n : String) (x : α) :
    l <+: appendUnlessNamed nameOf l n x := by
  unfold appendUnlessNamed
  split
  · exact List.prefix_refl l
  · exact List.prefix_append l [x]

/-- The names after the step: the old ones, then `n` if it was missing (`x` named `n`). -/
theorem map_appendUnlessNamed {l : List α} {n : String} {x : α} (hx : nameOf x = n) :
    (appendUnlessNamed nameOf l n x).map nameOf
      = appendUnlessNamed id (l.map nameOf) n n := by
  unfold appendUnlessNamed
  rw [nameExists_id_map]
  split <;> simp [hx]

/-- After the guarded append, the name is present. -/
theorem nameExists_append_self {l : List α} {n : String} {x : α} (hx : nameOf x = n) :
    nameExists nameOf (appendUnlessNamed nameOf l n x) n = true := by
  rw [nameExists_iff, map_appendUnlessNamed hx]
  unfold appendUnlessNamed nameExists
  split <;> simp_all

/-- A name present in a list is present in every list it is a prefix of. -/
theorem nameExists_of_prefix {l l' : List α} {n : String} (hp : l <+: l')
    (h : nameExists nameOf l n = true) : nameExists nameOf l' n = true := by
  rw [nameExists_iff] at *
  exact (hp.map nameOf).subset h

/-- A name list stays duplicate-free when a missing name is appended. -/
theorem nodup_appendUnlessNamed {l : List String} {n : String} (h : l.Nodup) :
    (appendUnlessNamed id l n n).Nodup := by
  unfold appendUnlessNamed
  split
  · exact h
  · rename_i hn
    rw [nameExists_iff, List.map_id] at hn
    exact List.nodup_append.mpr ⟨h, List.nodup_singleton n, by simpa using hn⟩

/-- A name after the guarded append was there before or is the appended one. -/
theorem mem_appendUnlessNamed {l : List String} {n m : String}
    (h : m ∈ appendUnlessNamed id l n n) : m ∈ l ∨ m = n := by
  unfold appendUnlessNamed at h
  split at h <;> simp_all

end AppendUnlessNamed

/-- `containerExists`. -/
def containerExists (containers : List Container) (name : String) : Bool :=
  nameExists Container.name containers name

/-- `volumeExists`. -/
def volumeExists (volumes : List Volume) (name : String) : Bool :=
  nameExists Volume.name volumes name

/-- One guarded sidecar append of `InjectAuthBridge`:
`if inject && !containerExists(list, name) { list = append(list, c) }`. -/
def injectContainer (inject : Bool) (containers : List Container) (name : String)
    (c : Container) : List Container :=
  if inject then appendUnlessNamed Container.name containers name c else containers

/-- The volume loop of `InjectAuthBridge`: each required volume is appended unless the current
list already holds one of its name. -/
def injectVolumes (volumes : List Volume) : List Volume → List Volume
  | [] => volumes
  | vol :: rest => injectVolumes (appendUnlessNamed Volume.name volumes vol.name vol) rest

/-- A sidecar not asked for is not appended. -/
@[simp] theorem injectContainer_false (cs : List Container) (n : String) (c : Container) :
    injectContainer false cs n c = cs := rfl

/-- A sidecar asked for is appended unless its name is taken. -/
@[simp] theorem injectContainer_true (cs : List Container) (n : String) (c : Container) :
    injectContainer true cs n c = appendUnlessNamed Container.name cs n c := rfl

/-- A guarded sidecar append only appends. -/
theorem prefix_injectContainer (i : Bool) (cs : List Container) (n : String) (c : Container) :
    cs <+: injectContainer i cs n c := by
  cases i
  · exact List.prefix_refl cs
  · exact prefix_appendUnlessNamed cs n c

/-- A guarded append whose sidecar is already present (when asked for) changes nothing. -/
theorem injectContainer_eq_self {i : Bool} {cs : List Container} {n : String} (c : Container)
    (h : i = true → containerExists cs n = true) : injectContainer i cs n c = cs := by
  cases i
  · rfl
  · exact appendUnlessNamed_of_exists c (h rfl)

/-- After a guarded append that was asked for, a container of that name is present. -/
theorem containerExists_injectContainer {i : Bool} {cs : List Container} {n : String}
    {c : Container} (hc : c.name = n) (hi : i = true) :
    containerExists (injectContainer i cs n c) n = true := by
  subst hi
  exact nameExists_append_self hc

/-- The names after a guarded append: duplicate-free if they were. -/
theorem nodup_map_injectContainer {i : Bool} {cs : List Container} {n : String} {c : Container}
    (hc : c.name = n) (h : (cs.map Container.name).Nodup) :
    ((injectContainer i cs n c).map Container.name).Nodup := by
  cases i
  · exact h
  · rw [injectContainer_true, map_appendUnlessNamed hc]
    exact nodup_appendUnlessNamed h

/-- The names after a guarded append: the old ones and possibly `n`. -/
theorem mem_map_injectContainer {i : Bool} {cs : List Container} {n x : String} {c : Container}
    (hc : c.name = n) (h : x ∈ (injectContainer i cs n c).map Container.name) :
    x ∈ cs.map Container.name ∨ x = n := by
  cases i
  · exact .inl h
  · rw [injectContainer_true, map_appendUnlessNamed hc] at h
    exact mem_appendUnlessNamed h

/-- The volume loop only appends. -/
theorem prefix_injectVolumes (vs req : List Volume) : vs <+: injectVolumes vs req := by
  induction req generalizing vs with
  | nil => exact List.prefix_refl vs
  | cons v rest ih => exact (prefix_appendUnlessNamed vs v.name v).trans (ih _)

/-- After the loop every required volume's name is present. -/
theorem volumeExists_injectVolumes (vs req : List Volume) :
    ∀ v ∈ req, volumeExists (injectVolumes vs req) v.name = true := by
  induction req generalizing vs with
  | nil => simp
  | cons v rest ih =>
    intro w hw
    rcases List.mem_cons.mp hw with rfl | hw
    · exact nameExists_of_prefix (prefix_injectVolumes _ rest) (nameExists_append_self rfl)
    · exact ih _ w hw

/-- When every required name is already present the loop changes nothing. -/
theorem injectVolumes_of_exists {vs : List Volume} {req : List Volume}
    (h : ∀ v ∈ req, volumeExists vs v.name = true) : injectVolumes vs req = vs := by
  induction req with
  | nil => rfl
  | cons v rest ih =>
    simp only [List.mem_cons, forall_eq_or_imp] at h
    simp only [injectVolumes, appendUnlessNamed_of_exists v h.1, ih h.2]

/-- The loop keeps volume names duplicate-free. -/
theorem nodup_injectVolumes {vs : List Volume} (req : List Volume) (h : (vs.map Volume.name).Nodup) :
    ((injectVolumes vs req).map Volume.name).Nodup := by
  induction req generalizing vs with
  | nil => exact h
  | cons v rest ih =>
    exact ih (by rw [map_appendUnlessNamed rfl]; exact nodup_appendUnlessNamed h)

/-! ## (4) Decisions and builders -/

/-- `SidecarDecision`; its `Reason` and `Layer` only feed log lines. -/
structure SidecarDecision where
  inject : Bool
  deriving DecidableEq, Repr

/-- The precedence evaluator's verdict for the four sidecars. -/
structure InjectionDecision where
  envoyProxy : SidecarDecision
  proxyInit : SidecarDecision
  spiffeHelper : SidecarDecision
  clientRegistration : SidecarDecision
  deriving DecidableEq, Repr

/-- Modelled from the spec: `AnyInjected` (precedence.go, not in the sources): some sidecar is
to be injected. -/
def InjectionDecision.anyInjected (d : InjectionDecision) : Bool :=
  d.envoyProxy.inject || d.proxyInit.inject || d.spiffeHelper.inject || d.clientRegistration.inject

/-- The container and volume builders of one request (`NewContainerBuilder(currentConfig)` and
the package's `BuildRequiredVolumes*`; their files are not in the sources). The proof fields say
what the builder tests check: each builder names its container as the guard in front of it
expects. -/
structure ContainerBuilder where
  buildEnvoyProxyContainerWithSpireOption : Bool → Container
  buildProxyInitContainer : Container
  buildSpiffeHelperContainer : Container
  buildClientRegistrationContainerWithSpireOption : String → String → Bool → Container
  buildRequiredVolumes : List Volume
  buildRequiredVolumesNoSpire : List Volume
  envoyProxy_name : ∀ spire,
    (buildEnvoyProxyContainerWithSpireOption spire).name = envoyProxyContainerName
  proxyInit_name : buildProxyInitContainer.name = proxyInitContainerName
  spiffeHelper_name : buildSpiffeHelperContainer.name = spiffeHelperContainerName
  clientRegistration_name : ∀ crName ns spire,
    (buildClientRegistrationContainerWithSpireOption crName ns spire).name
      = clientRegistrationContainerName

/-- `BuildRequiredVolumes()` or `BuildRequiredVolumesNoSpire()`, as SPIRE is on or off. -/
def ContainerBuilder.requiredVolumes (b : ContainerBuilder) (spireEnabled : Bool) : List Volume :=
  if spireEnabled then b.buildRequiredVolumes else b.buildRequiredVolumesNoSpire

end KagentiWebhook.Injector
