import KagentiWebhook.Injector.Properties

/-! # `InjectAuthBridge` over runs

A pod's spec goes through the mutating webhook more than once: when its workload is created, on
every update of the template, and again when the API server reinvokes the webhook after another
one changed the pod. Each call may come with another configuration, other labels and other API
failures, and between calls other actors change the cluster, so each call sees its own store.

* **`InjectCall`**, **`injectRun`** — a run: each call's mutator, failures, store and arguments,
  applied to the PodSpec the previous call left.
* **`WellNamed`** — the naming invariant a call keeps: names distinct, no sidecar's name taken in
  the list it is not appended to. **`Extends`** — the old lists are prefixes, the other fields
  unchanged.
* **`injectRun_wellNamed`** — over every run, a well-named PodSpec stays well named and is only
  appended to.
* **`injectRun_serviceAccount`** — over every run, the ServiceAccount moves at most once, off
  the default one to a call's workload name.
* **`Injected`** — what a successful call leaves for its own parameters, a fixed point of every
  later call with them.
* **`injectRun_after_success`** — after one successful call, every run of calls with the same
  parameters, under any failures, leaves the PodSpec as that call left it, as long as the
  namespace keeps its labels.
* **`PodRequest`**, **`admitPods`** — pods admitted one after another into one shared cluster.
* **`admitPods_serviceAccounts_stored`** — when the API server makes up no `AlreadyExists`,
  every ServiceAccount a call moved a pod to is stored in the cluster the run leaves. -/

namespace KagentiWebhook.Injector

/-! ## (1) Runs -/

/-- One call of a run: the mutator the request builds, the API server's refusals, the cluster as
the call sees it, and the call's namespace, workload name and labels. -/
structure InjectCall where
  mutator : PodMutator
  faults : Faults
  store : Store
  ns : String
  crName : String
  labels : StrMap

/-- The call on a PodSpec. -/
def InjectCall.run (c : InjectCall) (p : PodSpec) : Except Error Bool × PodSpec × Store :=
  c.mutator.injectAuthBridge c.faults c.store p c.ns c.crName c.labels

/-- A run of calls, each on the PodSpec the previous one left. -/
def injectRun : List InjectCall → PodSpec → PodSpec
  | [], p => p
  | c :: cs, p => injectRun cs (c.run p).2.1

/-- An invariant every call of a run keeps, and a reflexive, transitive relation every call
establishes between the PodSpec it is given and the one it leaves, hold across the run. -/
theorem injectRun_induction {I : PodSpec → Prop} {R : PodSpec → PodSpec → Prop}
    (cs : List InjectCall) (hrefl : ∀ p, R p p)
    (htrans : ∀ {p₁ p₂ p₃}, R p₁ p₂ → R p₂ p₃ → R p₁ p₃)
    (hstep : ∀ c ∈ cs, ∀ p, I p → I (c.run p).2.1 ∧ R p (c.run p).2.1) (p : PodSpec) (h : I p) :
    I (injectRun cs p) ∧ R p (injectRun cs p) := by
  induction cs generalizing p with
  | nil => exact ⟨h, hrefl p⟩
  | cons c cs ih =>
    obtain ⟨hI, hR⟩ := hstep c (List.mem_cons_self _ _) p h
    obtain ⟨hI', hR'⟩ := ih (fun c' hc' => hstep c' (List.mem_cons_of_mem _ hc')) _ hI
    exact ⟨hI', htrans hR hR'⟩

/-! ## (2) Names stay unique -/

/-- The naming invariant `InjectAuthBridge` keeps. -/
structure WellNamed (p : PodSpec) : Prop where
  /-- Container and init container names are pairwise distinct. -/
  names_nodup : p.containerNames.Nodup
  /-- Volume names are distinct. -/
  volumes_nodup : p.volumeNames.Nodup
  /-- No init container carries the name of a sidecar appended to the containers. -/
  init_free : ∀ c ∈ p.initContainers.getD [], c.name ∉
    [envoyProxyContainerName, spiffeHelperContainerName, clientRegistrationContainerName]
  /-- No container is named `proxy-init`, the sidecar appended to the init containers. -/
  containers_free : ∀ c ∈ p.containers.getD [], c.name ≠ proxyInitContainerName

/-- `p'` keeps `p`'s three lists as prefixes and its other fields. -/
def Extends (p p' : PodSpec) : Prop :=
  p.containers.getD [] <+: p'.containers.getD [] ∧
    p.initContainers.getD [] <+: p'.initContainers.getD [] ∧
    p.volumes.getD [] <+: p'.volumes.getD [] ∧ p'.otherFields = p.otherFields

/-- A PodSpec extends itself. -/
theorem Extends.refl (p : PodSpec) : Extends p p :=
  ⟨List.prefix_refl _, List.prefix_refl _, List.prefix_refl _, rfl⟩

/-- Extension composes along a run. -/
theorem Extends.trans {p₁ p₂ p₃ : PodSpec} (h₁ : Extends p₁ p₂) (h₂ : Extends p₂ p₃) :
    Extends p₁ p₃ :=
  ⟨h₁.1.trans h₂.1, h₁.2.1.trans h₂.2.1, h₁.2.2.1.trans h₂.2.2.1, h₂.2.2.2.trans h₁.2.2.2⟩

variable {p : PodSpec}

/-- The ServiceAccount switch keeps a PodSpec well named. -/
theorem wellNamed_assignServiceAccount (spire : Bool) (crName : String) (h : WellNamed p) :
    WellNamed (assignServiceAccount spire crName p) where
  names_nodup := by simpa [PodSpec.containerNames] using h.names_nodup
  volumes_nodup := by simpa [PodSpec.volumeNames] using h.volumes_nodup
  init_free := by simpa using h.init_free
  containers_free := by simpa using h.containers_free

/-- The appends keep the invariant: the new init container is `proxy-init`, the new containers
are the other three sidecars, and the names were free. -/
theorem wellNamed_injectSidecars (b : ContainerBuilder) (d : InjectionDecision) (ns crName : String)
    (spire : Bool) (h : WellNamed p) : WellNamed (injectSidecars b d ns crName spire p) where
  names_nodup := (nodup_names_injectSidecars b d ns crName spire p h.1 h.2 h.3 h.4).1
  volumes_nodup := (nodup_names_injectSidecars b d ns crName spire p h.1 h.2 h.3 h.4).2
  init_free c hc := by
    rcases mem_map_injectContainer b.proxyInit_name (List.mem_map_of_mem Container.name hc) with
      h' | h'
    · obtain ⟨c', hc', hn⟩ := List.mem_map.mp h'
      exact hn ▸ h.init_free c' hc'
    · rw [h']; decide
  containers_free c hc := by
    rcases mem_containerNames_injectSidecars (List.mem_map_of_mem Container.name hc) with h' | h'
    · obtain ⟨c', hc', hn⟩ := List.mem_map.mp h'
      exact hn ▸ h.containers_free c' hc'
    · intro hn; rw [hn] at h'; revert h'; decide

/-- One call keeps a PodSpec well named and only appends to it. -/
theorem wellNamed_run (c : InjectCall) (h : WellNamed p) :
    WellNamed (c.run p).2.1 ∧ Extends p (c.run p).2.1 := by
  unfold InjectCall.run
  by_cases hok : (c.mutator.injectAuthBridge c.faults c.store p c.ns c.crName c.labels).1 = .ok true
  · obtain ⟨_, -, -, -, -, hp⟩ := injectAuthBridge_ok_true hok
    refine ⟨?_, prefixes_of_ok_true hok⟩
    rw [hp]
    exact wellNamed_injectSidecars _ _ _ _ _ (wellNamed_assignServiceAccount _ _ h)
  · rw [congrArg Prod.fst (injectAuthBridge_not_true hok)]
    exact ⟨h, .refl p⟩

/-- **Over every run, a well-named pod stays well named and is only appended to.** For every
sequence of calls — each with its own evaluator, builder, labels, namespace, workload name,
store and API failures — a PodSpec whose names are distinct and whose sidecar names are free in
the other list keeps both properties; every list it started with stays a prefix, and no other
field changes. -/
theorem injectRun_wellNamed (cs : List InjectCall) (p : PodSpec) (h : WellNamed p) :
    WellNamed (injectRun cs p) ∧ Extends p (injectRun cs p) :=
  injectRun_induction cs Extends.refl Extends.trans (fun c _ _ => wellNamed_run c) p h

/-- A call of the documented mutator for `weather` in `team1`, with no failures. -/
def weatherCall (labels : StrMap) : InjectCall :=
  ⟨documentedMutator, Faults.none, enabledStore "team1", "team1", "weather", labels⟩

/-- A pod with an app container and an init container, through an AuthBridge call and then a
SPIRE one, stays well named. -/
theorem injectRun_wellNamed_documented :
    WellNamed ⟨some [⟨"app", []⟩], some [⟨"setup", []⟩], none, "", []⟩ ∧
      WellNamed (injectRun [weatherCall optedInAgent, weatherCall spireAgent]
        ⟨some [⟨"app", []⟩], some [⟨"setup", []⟩], none, "", []⟩) ∧
      Extends ⟨some [⟨"app", []⟩], some [⟨"setup", []⟩], none, "", []⟩
        (injectRun [weatherCall optedInAgent, weatherCall spireAgent]
          ⟨some [⟨"app", []⟩], some [⟨"setup", []⟩], none, "", []⟩) :=
  have h : WellNamed ⟨some [⟨"app", []⟩], some [⟨"setup", []⟩], none, "", []⟩ :=
    ⟨by decide, by decide, by decide, by decide⟩
  ⟨h, injectRun_wellNamed _ _ h⟩

/-! ## (3) The ServiceAccount moves at most once -/

/-- `p'` has `p`'s ServiceAccount, or `p` was on the default one and `p'` is on the workload name
of one of the calls `cs`. -/
def ServiceAccountMoved (cs : List InjectCall) (p p' : PodSpec) : Prop :=
  p'.serviceAccountName = p.serviceAccountName ∨
    ((p.serviceAccountName = "" ∨ p.serviceAccountName = "default") ∧
      ∃ c ∈ cs, p'.serviceAccountName = c.crName)

/-- ServiceAccount moves compose along a run. -/
theorem ServiceAccountMoved.trans {cs : List InjectCall} {p₁ p₂ p₃ : PodSpec}
    (h₁ : ServiceAccountMoved cs p₁ p₂) (h₂ : ServiceAccountMoved cs p₂ p₃) :
    ServiceAccountMoved cs p₁ p₃ := by
  rcases h₁ with h₁ | ⟨hd, c, hc, h₁⟩ <;> rcases h₂ with h₂ | ⟨hd', c', hc', h₂⟩
  · exact .inl (h₂.trans h₁)
  · exact .inr ⟨h₁ ▸ hd', c', hc', h₂⟩
  · exact .inr ⟨hd, c, hc, h₂.trans h₁⟩
  · exact .inr ⟨hd, c', hc', h₂⟩

/-- One call keeps the ServiceAccount, or moves a pod on the default one to its workload name. -/
theorem serviceAccountMoved_run {cs : List InjectCall} {c : InjectCall} (hc : c ∈ cs) (p : PodSpec) :
    ServiceAccountMoved cs p (c.run p).2.1 := by
  unfold InjectCall.run
  by_cases hok : (c.mutator.injectAuthBridge c.faults c.store p c.ns c.crName c.labels).1 = .ok true
  · obtain ⟨_, -, -, -, -, hp⟩ := injectAuthBridge_ok_true hok
    rw [hp]
    unfold ServiceAccountMoved
    rw [injectSidecars_serviceAccountName]
    unfold assignServiceAccount
    split
    · rename_i hn
      simp only [needsServiceAccount, Bool.and_eq_true, Bool.or_eq_true, beq_iff_eq] at hn
      exact .inr ⟨hn.2, c, hc, rfl⟩
    · exact .inl rfl
  · rw [congrArg Prod.fst (injectAuthBridge_not_true hok)]
    exact .inl rfl

/-- **A pod's ServiceAccount moves at most once.** Over every run of calls, the PodSpec ends on
the ServiceAccount it started on, or it started on `""` or `"default"` and ends on the workload
name of one of the calls: a pod moved to a dedicated ServiceAccount stays on it, so its SPIFFE
identity does not change on re-invocation. -/
theorem injectRun_serviceAccount (cs : List InjectCall) (p : PodSpec) :
    ServiceAccountMoved cs p (injectRun cs p) :=
  (injectRun_induction (I := fun _ => True) (R := ServiceAccountMoved cs) cs (fun _ => .inl rfl)
    ServiceAccountMoved.trans
    (fun _ hc p _ => ⟨trivial, serviceAccountMoved_run hc p⟩) p trivial).2

/-! ## (4) Re-invocation reaches a fixed point -/

/-- What a successful call leaves, for its mutator, workload name, labels and the labels `L` of
its namespace: every sidecar and volume the decision asks for is present, and a PodSpec that
would still need a ServiceAccount has `crName`. -/
def Injected (m : PodMutator) (crName : String) (labels L : StrMap) (p : PodSpec) : Prop :=
  SidecarsPresent m.builder (m.evaluate L labels) (m.evaluate L labels).spiffeHelper.inject p ∧
    (needsServiceAccount (m.evaluate L labels).spiffeHelper.inject p = true →
      p.serviceAccountName = crName)

variable {m : PodMutator} {f : Faults} {s : Store} {ns crName : String} {labels L : StrMap}

/-- A successful call on a namespace labelled `L` leaves its PodSpec injected. -/
theorem injected_of_ok_true (hL : ∀ o, s.lookup (namespaceKey ns) = some o → o.labels = L)
    (h : (m.injectAuthBridge f s p ns crName labels).1 = .ok true) :
    Injected m crName labels L (m.injectAuthBridge f s p ns crName labels).2.1 := by
  obtain ⟨nsObj, hl, -, -, -, hp⟩ := injectAuthBridge_ok_true h
  rw [hp, hL nsObj hl]
  refine ⟨sidecarsPresent_injectSidecars _ _ _ _ _ _, fun hn => ?_⟩
  rw [injectSidecars_serviceAccountName]
  exact serviceAccountName_of_needs (by simpa [needsServiceAccount] using hn)

/-- On an injected PodSpec a call with the same parameters, on a store whose namespace carries
the same labels, leaves the PodSpec as it is: it declines, fails, or finds every sidecar and the
ServiceAccount in place. -/
theorem injectAuthBridge_of_injected (hL : ∀ o, s.lookup (namespaceKey ns) = some o → o.labels = L)
    (h : Injected m crName labels L p) : (m.injectAuthBridge f s p ns crName labels).2.1 = p := by
  rcases injectAuthBridge_cases m f s p ns crName labels with hr | ⟨e, hr⟩ | ⟨o, hl, -, -, -, hr⟩
  · rw [hr]
  · rw [hr]
  · rw [hr, hL o hl]
    rcases injectDecided_cases m f s p ns crName (m.evaluate L labels) with ⟨-, hp⟩ | ⟨e, he⟩
    · rw [hp, assignServiceAccount_eq_self h.2, injectSidecars_of_present ns crName h.1]
    · rw [he]

/-- The call of a run with fixed mutator, namespace, workload name and labels. -/
def InjectCall.repeat (m : PodMutator) (ns crName : String) (labels : StrMap) (x : Faults × Store) :
    InjectCall :=
  ⟨m, x.1, x.2, ns, crName, labels⟩

/-- **After one successful call, re-invocations never change the pod.** For every mutator,
PodSpec and pattern of API failures: once `InjectAuthBridge` has returned `true` on a namespace
labelled `L`, every run of further calls with the same mutator, namespace, workload name and
labels — each under its own failures and on its own store — leaves the PodSpec exactly as that
call left it, as long as the namespace, wherever it is found, still carries `L`. -/
theorem injectRun_after_success (m : PodMutator) (f : Faults) (s : Store) (p : PodSpec)
    (ns crName : String) (labels L : StrMap) (runs : List (Faults × Store))
    (hL : ∀ o, s.lookup (namespaceKey ns) = some o → o.labels = L)
    (hruns : ∀ x ∈ runs, ∀ o, x.2.lookup (namespaceKey ns) = some o → o.labels = L)
    (hok : (m.injectAuthBridge f s p ns crName labels).1 = .ok true) :
    injectRun (runs.map (InjectCall.repeat m ns crName labels))
      (m.injectAuthBridge f s p ns crName labels).2.1 = (m.injectAuthBridge f s p ns crName labels).2.1 :=
  (injectRun_induction (R := fun p p' => p' = p) _ (fun _ => rfl) (fun h₁ h₂ => h₂.trans h₁)
    (fun c hc p' h => by
      obtain ⟨x, hx, rfl⟩ := List.mem_map.mp hc
      have hfix : ((InjectCall.repeat m ns crName labels x).run p').2.1 = p' :=
        injectAuthBridge_of_injected (hruns x hx) h
      exact ⟨by rw [hfix]; exact h, hfix⟩)
    _ (injected_of_ok_true hL hok)).2

/-- After the documented mutator's call on an agent pod, two more calls, one on a store that lost
the namespace, leave the pod as it is. -/
theorem injectRun_after_success_documented :
    (∀ o, (enabledStore "team1").lookup (namespaceKey "team1") = some o →
        o.labels = (enabledNamespace "team1").labels) ∧
      (∀ x ∈ [(Faults.none, enabledStore "team1"), (Faults.none, Store.empty)],
        ∀ o, x.2.lookup (namespaceKey "team1") = some o → o.labels = (enabledNamespace "team1").labels) ∧
      (documentedMutator.injectAuthBridge Faults.none (enabledStore "team1")
        ⟨some [⟨"app", []⟩], none, none, "", []⟩ "team1" "weather" optedInAgent).1 = .ok true ∧
      injectRun ([(Faults.none, enabledStore "team1"), (Faults.none, Store.empty)].map
          (InjectCall.repeat documentedMutator "team1" "weather" optedInAgent))
        (documentedMutator.injectAuthBridge Faults.none (enabledStore "team1")
          ⟨some [⟨"app", []⟩], none, none, "", []⟩ "team1" "weather" optedInAgent).2.1
        = (documentedMutator.injectAuthBridge Faults.none (enabledStore "team1")
          ⟨some [⟨"app", []⟩], none, none, "", []⟩ "team1" "weather" optedInAgent).2.1 :=
  have hL : ∀ o, (enabledStore "team1").lookup (namespaceKey "team1") = some o →
      o.labels = (enabledNamespace "team1").labels := fun o h => by
    cases (show (enabledStore "team1").lookup (namespaceKey "team1") = some (enabledNamespace "team1")
      from rfl).symm.trans h
    rfl
  have hruns : ∀ x ∈ [(Faults.none, enabledStore "team1"), (Faults.none, Store.empty)],
      ∀ o, x.2.lookup (namespaceKey "team1") = some o → o.labels = (enabledNamespace "team1").labels := by
    intro x hx o ho
    rcases List.mem_pair.mp hx with rfl | rfl
    · exact hL o ho
    · cases ho
  ⟨hL, hruns, rfl, injectRun_after_success documentedMutator Faults.none (enabledStore "team1") _
    "team1" "weather" optedInAgent _ _ hL hruns rfl⟩


/-! ## (5) Pods admitted into one cluster

Here the calls share the cluster: each sees the store the previous one left, and nothing else
deletes. `InjectAuthBridge` never deletes either, so a ServiceAccount it created or found for a
pod stays. -/

/-- One pod admission: the mutator the request builds, the API server's refusals, and the pod's
spec, namespace, workload name and labels. -/
structure PodRequest where
  mutator : PodMutator
  faults : Faults
  podSpec : PodSpec
  ns : String
  crName : String
  labels : StrMap

namespace PodRequest

/-- The admission's call on the cluster it meets. -/
def call (r : PodRequest) (s : Store) : Except Error Bool × PodSpec × Store :=
  r.mutator.injectAuthBridge r.faults s r.podSpec r.ns r.crName r.labels

/-- Whether the call returned `true` with the pod on another ServiceAccount. -/
def moves (r : PodRequest) (s : Store) : Bool :=
  match (r.call s).1 with
  | .ok true => (r.call s).2.1.serviceAccountName != r.podSpec.serviceAccountName
  | _ => false

/-- A call keeps every stored object. -/
theorem call_keeps (r : PodRequest) (s : Store) : Store.Keeps (fun _ => True) s (r.call s).2.2 := by
  rcases injectAuthBridge_cases r.mutator r.faults s r.podSpec r.ns r.crName r.labels with
    hr | ⟨e, hr⟩ | ⟨_, -, -, -, -, hr⟩ <;> rw [call, hr]
  · exact .refl _ _
  · exact .refl _ _
  · exact (injectDecided_adds_only _).1

/-- When the API server makes up no `AlreadyExists`, a call that moves the pod leaves the
ServiceAccount it moved it to stored. -/
theorem moves_stored (r : PodRequest) (s : Store) (hf : r.faults.NoFalseAlreadyExists) (h : r.moves s = true) :
    ((r.call s).2.2.lookup (serviceAccountFor r.ns (r.call s).2.1.serviceAccountName).key).isSome := by
  unfold moves at h
  split at h
  · rename_i hok
    have hsa : (r.call s).2.1.serviceAccountName ≠ r.podSpec.serviceAccountName := by simpa using h
    rcases injectAuthBridge_cases r.mutator r.faults s r.podSpec r.ns r.crName r.labels with
      hr | ⟨e, hr⟩ | ⟨_, -, -, -, -, hr⟩ <;> rw [call, hr] at hok hsa ⊢
    · cases hok
    · cases hok
    · obtain ⟨hname, hstored⟩ := injectDecided_serviceAccount hf _ hok hsa
      rw [hname]
      exact hstored
  · cases h

end PodRequest

/-- Pods admitted one after another into one cluster: the keys of the ServiceAccounts the calls
moved pods to, and the store the last call leaves. -/
def admitPods : List PodRequest → Store → List ObjectKey × Store
  | [], s => ([], s)
  | r :: rs, s =>
    ((if r.moves s then [(serviceAccountFor r.ns (r.call s).2.1.serviceAccountName).key] else []) ++
        (admitPods rs (r.call s).2.2).1,
      (admitPods rs (r.call s).2.2).2)

/-- A run of admissions keeps every stored object. -/
theorem admitPods_keeps (rs : List PodRequest) (s : Store) :
    Store.Keeps (fun _ => True) s (admitPods rs s).2 := by
  induction rs generalizing s with
  | nil => exact .refl _ _
  | cons r rs ih => exact (r.call_keeps s).trans (ih _)

/-- **No pod is moved to a ServiceAccount that goes missing.** Over every run of pod admissions
into one cluster — each with its own mutator, pod, namespace, workload name and labels, under
failures that never make up an `AlreadyExists` — every ServiceAccount a call moved a pod to is stored in the cluster the run
leaves: the call created or found it, and no later call deletes. -/
theorem admitPods_serviceAccounts_stored (rs : List PodRequest) (s : Store)
    (hf : ∀ r ∈ rs, r.faults.NoFalseAlreadyExists) : ∀ k ∈ (admitPods rs s).1, ((admitPods rs s).2.lookup k).isSome := by
  induction rs generalizing s with
  | nil => exact fun _ hk => nomatch hk
  | cons r rs ih =>
    intro k hk
    rcases List.mem_append.mp hk with hk | hk
    · -- the key this call recorded: stored by the call, kept by the rest of the run
      split at hk
      · rename_i hmv
        rw [List.mem_singleton.mp hk]
        obtain ⟨o, ho⟩ := Option.isSome_iff_exists.mp (r.moves_stored s (hf r (List.mem_cons_self _ _)) hmv)
        rw [show (admitPods (r :: rs) s).2 = (admitPods rs (r.call s).2.2).2 from rfl,
          admitPods_keeps rs _ _ o ho trivial]
        rfl
      · cases hk
    · exact ih _ (fun r' hr' => hf r' (List.mem_cons_of_mem _ hr')) k hk

/-- A SPIRE agent pod of the workload `name` in `team1`, on the default ServiceAccount. -/
def spireAgentPod (name : String) : PodRequest :=
  ⟨documentedMutator, Faults.none, ⟨some [⟨"app", []⟩], none, none, "", []⟩, "team1", name, spireAgent⟩

/-- Admitting the pods of `weather` and `calendar` moves each to its own ServiceAccount, and both
are stored. -/
theorem admitPods_serviceAccounts_stored_documented :
    (∀ r ∈ [spireAgentPod "weather", spireAgentPod "calendar"], r.faults.NoFalseAlreadyExists) ∧
      (admitPods [spireAgentPod "weather", spireAgentPod "calendar"] (enabledStore "team1")).1 =
        [(serviceAccountFor "team1" "weather").key, (serviceAccountFor "team1" "calendar").key] ∧
      ∀ k ∈ (admitPods [spireAgentPod "weather", spireAgentPod "calendar"] (enabledStore "team1")).1,
        ((admitPods [spireAgentPod "weather", spireAgentPod "calendar"]
          (enabledStore "team1")).2.lookup k).isSome :=
  have hf : ∀ r ∈ [spireAgentPod "weather", spireAgentPod "calendar"], r.faults.NoFalseAlreadyExists :=
    fun _ hr => by rcases List.mem_pair.mp hr with rfl | rfl <;> exact Faults.honest_none.noFalseAlreadyExists
  ⟨hf, rfl, admitPods_serviceAccounts_stored _ _ hf⟩

end KagentiWebhook.Injector
