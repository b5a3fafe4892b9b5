import KagentiWebhook.MCPServer.Deletion
import KagentiWebhook.MCPServer.Isolation

/-! # The webhook inside the API server: an `MCPServer`'s lifecycle

`Default` is a mutating admission webhook (`verbs=create;update`, `failurePolicy=fail`). The API
server sends it every create and update of an `MCPServer`, stores the object it returns when it
returns nil and its own checks pass, and refuses the request otherwise. The webhook's writes to
routes and gateway `MCPServer`s are made during the call and stand whatever the API server then
does with the request. A dry-run create or update is sent to `Default` too, since the marker
declares `sideEffects=None`; `Default` never looks at the request's dry-run flag, so its writes
stand while the API server stores nothing. A delete is not sent to the webhook: it marks an
object that has finalizers, which the API server removes once an update leaves it with none.

This file models that loop for one server, interleaved with requests for servers of other names
or namespaces, and shows that the finalizer protocol leaves no orphans.

* **`Cluster`**, **`Event`**, **`Cluster.step`**, **`Cluster.run`** — the API server's state and
  its answer to each request.
* **`Guarded`**, **`default_ok_guarded`** — an admitted call leaves every object its cleanup
  selects covered by our finalizer on the object it returns.
* **`Clean`**, **`Covered`**, **`Covered.step`**, **`Covered.run`** — the invariant: every object
  the server's cleanup selects sits in a cluster whose stored server carries our finalizer.
* **`run_leaves_no_orphans`** — over every clean run from a cluster without the server or its
  objects, the cluster holds an object the cleanup selects only while the stored server carries
  our finalizer: once it is removed, nothing of it is left. A clean request is one the API server
  answers honestly, on which the gateway `MCPServer` write cannot fail, and which the API server
  then stores; a dry run of a live request for the server is clean only while the stored server
  carries our finalizer.
* **`delete_then_update_removes`** — a delete followed by one update without failures removes a
  server whose only finalizer is ours, and everything its cleanup selects.
* **`Confined`**, **`Contained`**, **`run_leaves_only_own_objects`** — over every run, clean or
  not, every object the cleanup selects is a managed object under one of the server's two keys:
  what a run that is not clean can leave behind is at most the server's route and gateway
  `MCPServer`.
* **`dryRunCreate_writes_gateway_objects`** — a dry-run create writes both gateway objects and
  stores no server: from a cluster without the server it breaks the cover.

Three requests that are not clean each leave an orphan (the end of the file). A dry run keeps the
objects the webhook wrote and stores nothing; a create or update that the webhook admits and the
API server then refuses (a taken name, a conflict, another webhook) keeps them while the finalizer
it added is dropped; a live call refused after its route was written
(`default_error_leaves_route`) keeps the route. -/

namespace KagentiWebhook.V1alpha1

open MCPServerCustomDefaulter

/-! ## (1) The API server around the webhook -/

/-- What the API server holds: the `MCPServer` under one name and namespace, if it exists, and
every other object. -/
structure Cluster where
  server : Option MCPServer
  store : Store

/-- A request to the API server. `accepted` is the verdict of the API server's own checks after
admission (schema, conflicts, other webhooks). -/
inductive Event where
  /-- A create from the user's object, sent to `Default`. -/
  | create (m : MCPServer) (f : Faults) (accepted : Bool)
  /-- An update of the stored server from the user's object, sent to `Default`. -/
  | update (m : MCPServer) (f : Faults) (accepted : Bool)
  /-- A delete of the stored server at time `t`. -/
  | delete (t : Nat)
  /-- A create or update of another `MCPServer`, sent to `Default`. -/
  | other (m : MCPServer) (f : Faults)
  /-- A dry-run create from the user's object, sent to `Default`; nothing is stored. -/
  | dryRunCreate (m : MCPServer) (f : Faults)
  /-- A dry-run update of the stored server from the user's object, sent to `Default`; nothing
  is stored. -/
  | dryRunUpdate (m : MCPServer) (f : Faults)

/-- The object an update sends to `Default`: the user's, under the stored name, namespace and
deletion timestamp, which an update cannot change. -/
def updateRequest (stored m : MCPServer) : MCPServer :=
  { m with
    name := stored.name
    «namespace» := stored.namespace
    deletionTimestamp := stored.deletionTimestamp }

/-- What the API server keeps of an object it stores: nothing once a deleting object has no
finalizers left, the object otherwise. -/
def persist (m : MCPServer) : Option MCPServer :=
  if m.deletionTimestamp.isSome ∧ m.finalizers = [] then none else some m

/-- What the API server keeps is the object it was given. -/
theorem eq_of_persist_eq_some {m m' : MCPServer} (h : persist m = some m') : m = m' := by
  unfold persist at h
  split at h
  · cases h
  · exact Option.some.inj h

namespace Cluster

/-- The stored server's finalizers; none without a server. -/
def finalizers (c : Cluster) : List String :=
  match c.server with
  | none => []
  | some m => m.finalizers

/-- The API server's answer to `Default`'s result: with nil and its own checks passed it stores
the object the webhook returned; otherwise it keeps what it had. The store is the webhook's
either way. -/
def answer (c : Cluster) (r : Except Error Unit × MCPServer × Store) (accepted : Bool) : Cluster :=
  match r.1, accepted with
  | .ok (), true => ⟨persist r.2.1, r.2.2⟩
  | _, _ => ⟨c.server, r.2.2⟩

variable (d : MCPServerCustomDefaulter)

/-- One request. A create runs `Default` even when the name is taken, and is then refused; a new
object is stored without a deletion timestamp. An update or delete of a server that does not
exist is refused before admission. A dry run keeps `Default`'s writes and stores nothing. -/
def step (c : Cluster) : Event → Cluster
  | .create m f accepted =>
    let r := d.default f m c.store
    c.answer (r.1, { r.2.1 with deletionTimestamp := none }, r.2.2) (accepted && c.server.isNone)
  | .update m f accepted =>
    match c.server with
    | none => c
    | some stored => c.answer (d.default f (updateRequest stored m) c.store) accepted
  | .delete t =>
    match c.server with
    | none => c
    | some stored =>
      ⟨if stored.finalizers = [] then none
        else some { stored with deletionTimestamp := some (stored.deletionTimestamp.getD t) },
        c.store⟩
  | .other m f => ⟨c.server, (d.default f m c.store).2.2⟩
  | .dryRunCreate m f => ⟨c.server, (d.default f m c.store).2.2⟩
  | .dryRunUpdate m f =>
    match c.server with
    | none => c
    | some stored => ⟨c.server, (d.default f (updateRequest stored m) c.store).2.2⟩

/-- A run of requests, each on the cluster the previous one left. -/
def run : List Event → Cluster → Cluster
  | [], c => c
  | e :: es, c => run es (c.step d e)

/-- The finalizers of a stored object are the object's, also when it is removed. -/
@[simp] theorem finalizers_persist (m : MCPServer) (s : Store) :
    (⟨persist m, s⟩ : Cluster).finalizers = m.finalizers := by
  unfold persist
  split
  · rename_i h; exact h.2.symm
  · rfl

/-- Without a server there are no finalizers. -/
theorem finalizers_of_none {c : Cluster} (h : c.server = none) : c.finalizers = [] := by
  simp [finalizers, h]

/-- With a server, the finalizers are its own. -/
theorem finalizers_of_some {c : Cluster} {m : MCPServer} (h : c.server = some m) :
    c.finalizers = m.finalizers := by
  simp [finalizers, h]

end Cluster

/-! ## (2) One call against our finalizer -/

/-- Every object in `s` that `m`'s cleanup selects is covered by our finalizer in `fins`. -/
def Guarded (m : MCPServer) (fins : List String) (s : Store) : Prop :=
  ∀ k o, s.lookup k = some o → CleanupSelected m o → gatewayCleanupFinalizer ∈ fins

variable {d : MCPServerCustomDefaulter} {f : Faults} {m m₀ : MCPServer} {s s' : Store}
  {fins : List String}

/-- Servers with one parent selector have one cleanup selection. -/
theorem cleanupSelected_congr (h : parentSelector m = parentSelector m₀) {o : Object} :
    CleanupSelected m o ↔ CleanupSelected m₀ o := by
  simp only [CleanupSelected, h]

/-- A guard carries over between servers with one parent selector. -/
theorem Guarded.congr (h : Guarded m fins s) (hsel : parentSelector m = parentSelector m₀) :
    Guarded m₀ fins s := fun k o hk hs => h k o hk ((cleanupSelected_congr hsel).mpr hs)

/-- With nothing selected, every guard holds. -/
theorem Guarded.of_nil (h : Guarded m [] s) : Guarded m fins s :=
  fun k o hk hs => absurd (h k o hk hs) (List.not_mem_nil _)

/-- With our finalizer present, every guard holds. -/
theorem Guarded.of_mem (h : gatewayCleanupFinalizer ∈ fins) : Guarded m fins s :=
  fun _ _ _ _ => h

/-- A deleting call takes the deletion path. -/
theorem default_of_deleting (hdel : m.deletionTimestamp.isSome) :
    d.default f m s = deletionPath f m s := if_pos hdel

/-- Servers with one parent selector share their name and namespace. -/
theorem parentSelector_inj (h : parentSelector m = parentSelector m₀) :
    m.name = m₀.name ∧ m.namespace = m₀.namespace :=
  ⟨Option.some.inj (congrArg (·.lookup parentServerLabel) h),
    Option.some.inj (congrArg (·.lookup parentNamespaceLabel) h)⟩

/-- Servers of another name or namespace have another parent selector. -/
theorem ne_of_parentSelector_ne (h : parentSelector m ≠ parentSelector m₀) :
    m.name ≠ m₀.name ∨ m.namespace ≠ m₀.namespace :=
  not_and_or.mp fun ⟨hn, hns⟩ => h (by simp only [parentSelector, hn, hns])

/-- Servers with one parent selector have one gateway key. -/
theorem gatewayKey_congr (h : parentSelector m = parentSelector m₀) : gatewayKey m = gatewayKey m₀ := by
  obtain ⟨hn, hns⟩ := parentSelector_inj h
  simp only [gatewayKey, hn, hns]

/-- A store that only lost objects keeps every guard. -/
theorem Guarded.onlyDeletes {K : ObjectKey → Prop} (h : Guarded m fins s) (hd : Store.OnlyDeletes K s s') :
    Guarded m fins s' := fun k o hk => h k o (hd.lookup_of_some hk)

/-- A guard on the finalizers the call is sent with carries over to those it returns: a deleting
call drops our finalizer only after an honest cleanup emptied the selection, a live call with
gateway generation on adds it, and one with it off writes nothing. -/
theorem default_ok_guarded (hf : f.Honest) (h : Guarded m m.finalizers s)
    (hok : (d.default f m s).1 = .ok ()) :
    Guarded m (d.default f m s).2.1.finalizers (d.default f m s).2.2 := by
  cases hdel : m.deletionTimestamp with
  | none =>
    rw [default_of_live hdel] at hok ⊢
    rcases admissionPath_cases (d := d) f m s with ⟨e, h'⟩ | ⟨pts, ⟨-, h'⟩ | ⟨-, h'⟩⟩ <;>
      rw [h'] at hok ⊢
    · cases hok
    · exact h
    · exact fun _ _ _ _ => mem_addFinalizer _
  | some t =>
    rw [default_of_deleting (by simp [hdel])] at hok ⊢
    unfold deletionPath at hok ⊢
    by_cases hin : containsString m.finalizers gatewayCleanupFinalizer = true
    · rw [if_pos hin] at hok ⊢
      rcases hc : cleanupGatewayResources f s m with ⟨_ | ⟨⟨⟩⟩, s₁⟩
      · rw [hc] at hok; cases hok
      · have hclear := cleanupGatewayResources_ok_honest hf s m (by rw [hc])
        rw [hc] at hclear
        exact fun k o hk hs => absurd hs (hclear k o hk)
    · rw [if_neg hin]
      exact h

/-- A deleting call keeps every guard: it only deletes. -/
theorem default_deleting_guarded (hdel : m.deletionTimestamp.isSome) (h : Guarded m₀ fins s) :
    Guarded m₀ fins (d.default f m s).2.2 := by
  rw [default_of_deleting hdel]
  exact h.onlyDeletes (deletionPath_onlyDeletes f m s)

/-- A live call on which the gateway `MCPServer` write cannot fail is all or nothing: when it
returns an error, it failed before any write. -/
theorem default_refused_store (hreg : d.registered .gatewayMCPServer = true)
    (hsp : f.Spares (gatewayKey m)) (hlive : m.deletionTimestamp = none)
    (hok : (d.default f m s).1 ≠ .ok ()) : (d.default f m s).2.2 = s := by
  rw [default_of_live hlive] at hok ⊢
  -- failing before any write, or stopping with nil, leaves the store as it was
  rcases admissionPath_cases (d := d) f m s with ⟨e, h⟩ | ⟨pts, ⟨-, h⟩ | ⟨-, h⟩⟩ <;> rw [h] at hok ⊢
  exact createGatewayCRs_error_store _ hreg (by rw [gatewayKey_addFinalizer]; exact hsp) hok

/-- A refused call on which the gateway `MCPServer` write cannot fail keeps every guard: a
deleting call only deletes, and a live one writes nothing. -/
theorem default_refused_guarded (hreg : d.registered .gatewayMCPServer = true)
    (hsp : f.Spares (gatewayKey m)) (hok : (d.default f m s).1 ≠ .ok ())
    (h : Guarded m₀ fins s) : Guarded m₀ fins (d.default f m s).2.2 := by
  cases hdel : m.deletionTimestamp with
  | none => rw [default_refused_store hreg hsp hdel hok]; exact h
  | some t => exact default_deleting_guarded (by simp [hdel]) h

/-- After a call for a server of another name or namespace, every object `m₀`'s cleanup selects
was there before: the call writes only objects its own cleanup selects. -/
theorem default_other_lookup (hne : m.name ≠ m₀.name ∨ m.namespace ≠ m₀.namespace) {k : ObjectKey}
    {o : Object} (hk : (d.default f m s).2.2.lookup k = some o) (hs : CleanupSelected m₀ o) :
    s.lookup k = some o :=
  by_contra fun hold => absurd (cleanupSelected_inj hs (default_writes_cleanable d f m s k o hk hold).2)
    fun ⟨h₁, h₂⟩ => hne.elim (· h₁) (· h₂)

/-- A call for a server of another name or namespace keeps every guard. -/
theorem default_other_guarded (hne : m.name ≠ m₀.name ∨ m.namespace ≠ m₀.namespace)
    (h : Guarded m₀ fins s) : Guarded m₀ fins (d.default f m s).2.2 :=
  fun k o hk hs => h k o (default_other_lookup hne hk hs) hs

/-- A dry run keeps every guard when a live call for the server is made only under our
finalizer: a call for another server writes nothing the cleanup selects, a deleting one only
deletes, and our finalizer guards whatever a live one writes. -/
theorem default_dryRun_guarded
    (hfin : m.name = m₀.name → m.namespace = m₀.namespace → m.deletionTimestamp = none →
      gatewayCleanupFinalizer ∈ fins)
    (h : Guarded m₀ fins s) : Guarded m₀ fins (d.default f m s).2.2 := by
  by_cases hsel : parentSelector m = parentSelector m₀
  · obtain ⟨hn, hns⟩ := parentSelector_inj hsel
    cases hdel : m.deletionTimestamp with
    | none => exact .of_mem (hfin hn hns hdel)
    | some t => exact default_deleting_guarded (by simp [hdel]) h
  · exact default_other_guarded (ne_of_parentSelector_ne hsel) h

/-! ## (3) Clean runs keep the cluster covered -/

/-- A request for the server of `m₀`'s name and namespace (or for another server) that is admitted
or refused whole. A create or update: honest failures, none on the requests for the gateway
`MCPServer`'s key (so the write after the route cannot fail), the API server's own checks passed,
a create only of a name that is free, and an update that keeps our finalizer where the stored
server has it. A dry run of a live request for the server: only while the stored server carries
our finalizer. -/
def Clean (m₀ : MCPServer) (c : Cluster) : Event → Prop
  | .create m f accepted =>
    parentSelector m = parentSelector m₀ ∧ c.server = none ∧ accepted = true ∧ f.Honest ∧
      f.Spares (gatewayKey m₀)
  | .update m f accepted =>
    accepted = true ∧ f.Honest ∧ f.Spares (gatewayKey m₀) ∧ ∀ stored, c.server = some stored →
      gatewayCleanupFinalizer ∈ stored.finalizers → gatewayCleanupFinalizer ∈ m.finalizers
  | .delete _ => True
  | .other m _ => m.name ≠ m₀.name ∨ m.namespace ≠ m₀.namespace
  | .dryRunCreate m _ => m.name = m₀.name → m.namespace = m₀.namespace →
      m.deletionTimestamp = none → gatewayCleanupFinalizer ∈ c.finalizers
  | .dryRunUpdate _ _ => ∀ stored, c.server = some stored →
      stored.deletionTimestamp = none → gatewayCleanupFinalizer ∈ stored.finalizers

/-- Every request of a run is clean on the cluster it meets. -/
def CleanRun (d : MCPServerCustomDefaulter) (m₀ : MCPServer) : Cluster → List Event → Prop
  | _, [] => True
  | c, e :: es => Clean m₀ c e ∧ CleanRun d m₀ (c.step d e) es

/-- The invariant: the stored server is `m₀`'s, and every object `m₀`'s cleanup selects is
covered by our finalizer on it. -/
structure Covered (m₀ : MCPServer) (c : Cluster) : Prop where
  identity : ∀ m, c.server = some m → parentSelector m = parentSelector m₀
  guarded : Guarded m₀ c.finalizers c.store

/-- The API server's answer keeps the cover: an accepted nil stores the returned object, whose
finalizers guard the store, and anything else keeps the stored server. -/
theorem Covered.answer {c : Cluster} {r : Except Error Unit × MCPServer × Store} {accepted : Bool}
    (hc : Covered m₀ c) (hid : parentSelector r.2.1 = parentSelector m₀)
    (hok : r.1 = .ok () → accepted = true → Guarded m₀ r.2.1.finalizers r.2.2)
    (hrefused : ¬ (r.1 = .ok () ∧ accepted = true) → Guarded m₀ c.finalizers r.2.2) :
    Covered m₀ (c.answer r accepted) := by
  obtain ⟨res, m', s'⟩ := r
  rcases res with e | ⟨⟨⟩⟩
  · exact ⟨hc.identity, hrefused fun ⟨h, _⟩ => nomatch h⟩
  cases accepted
  · exact ⟨hc.identity, hrefused fun ⟨_, h⟩ => nomatch h⟩
  refine ⟨fun m hm => ?_, ?_⟩
  · rw [← eq_of_persist_eq_some hm]; exact hid
  · show Guarded m₀ (⟨persist m', s'⟩ : Cluster).finalizers s'
    rw [Cluster.finalizers_persist]
    exact hok rfl rfl

variable {c : Cluster}

/-- The stored server's finalizers guard the store. -/
theorem Covered.guarded_of_some (hc : Covered m₀ c) (hs : c.server = some m) :
    Guarded m₀ m.finalizers c.store :=
  Cluster.finalizers_of_some hs ▸ hc.guarded

/-- **One clean request keeps the cluster covered.** -/
theorem Covered.step (hreg : d.registered .gatewayMCPServer = true) (hc : Covered m₀ c) {e : Event}
    (he : Clean m₀ c e) : Covered m₀ (c.step d e) := by
  cases e with
  | create m f accepted =>
    obtain ⟨hid, hnone, hacc, hf, hsp⟩ := he
    -- with no server stored, the cleanup selects nothing
    have hempty : Guarded m₀ [] c.store := Cluster.finalizers_of_none hnone ▸ hc.guarded
    dsimp only [Cluster.step]
    refine hc.answer ((parentSelector_default d f m c.store).trans hid) (fun hok _ => ?_) (fun hnot => ?_)
    · exact (default_ok_guarded hf (hempty.congr hid.symm).of_nil hok).congr hid
    · have hok : (d.default f m c.store).1 ≠ .ok () := fun hok => hnot ⟨hok, by simp [hacc, hnone]⟩
      rw [Cluster.finalizers_of_none hnone]
      exact default_refused_guarded hreg (by rwa [gatewayKey_congr hid]) hok hempty
  | update m f accepted =>
    obtain ⟨hacc, hf, hsp, hkeep⟩ := he
    dsimp only [Cluster.step]
    split
    · exact hc
    · rename_i stored hs
      have hsel : parentSelector (updateRequest stored m) = parentSelector m₀ := hc.identity stored hs
      have hguard := hc.guarded_of_some hs
      refine hc.answer ((parentSelector_default _ _ _ _).trans hsel) (fun hok _ => ?_) (fun hnot => ?_)
      · refine (default_ok_guarded (m := updateRequest stored m) hf
          (fun k o hk hs' => hkeep stored hs ?_) hok).congr hsel
        exact hguard k o hk ((cleanupSelected_congr hsel).mp hs')
      · exact default_refused_guarded hreg (by rwa [gatewayKey_congr hsel])
          (fun hok => hnot ⟨hok, hacc⟩) hc.guarded
  | delete t =>
    dsimp only [Cluster.step]
    split
    · exact hc
    · rename_i stored hs
      have hguard := hc.guarded_of_some hs
      split
      · rename_i hnil
        exact ⟨fun _ h => (nomatch h), show Guarded m₀ [] c.store from hnil ▸ hguard⟩
      · exact ⟨fun m hm => by cases hm; exact hc.identity stored hs, hguard⟩
  | other m f =>
    exact ⟨hc.identity, default_other_guarded he hc.guarded⟩
  | dryRunCreate m f =>
    exact ⟨hc.identity, default_dryRun_guarded he hc.guarded⟩
  | dryRunUpdate m f =>
    dsimp only [Cluster.step]
    split
    · exact hc
    · rename_i stored hs
      refine ⟨hc.identity, ?_⟩
      show Guarded m₀ c.finalizers _
      rw [Cluster.finalizers_of_some hs]
      exact default_dryRun_guarded (fun _ _ hlive => he stored hs hlive) (hc.guarded_of_some hs)

/-- Every clean run keeps the cluster covered. -/
theorem Covered.run (hreg : d.registered .gatewayMCPServer = true) (hc : Covered m₀ c) {es : List Event}
    (hrun : CleanRun d m₀ c es) : Covered m₀ (c.run d es) := by
  induction es generalizing c with
  | nil => exact hc
  | cons e es ih => exact ih (hc.step hreg hrun.1) hrun.2

/-- `weather` as its next update sends it: with our finalizer. -/
def weatherFinalized : MCPServer := { weatherServer with finalizers := [gatewayCleanupFinalizer] }

/-- Removing the only finalizer there is leaves none. -/
theorem removeString_eq_nil {fins : List String} {x : String} (h : ∀ y ∈ fins, y = x) :
    removeString fins x = [] :=
  List.filter_eq_nil_iff.mpr fun y hy => by simp [h y hy]

/-- **A delete completes.** From every covered cluster whose stored server has no finalizer but
ours: a delete, then one update without API failures that keeps the finalizers, removes the
server and leaves nothing its cleanup selects. -/
theorem delete_then_update_removes (d : MCPServerCustomDefaulter) (m₀ : MCPServer) (c : Cluster)
    (m u : MCPServer) (t : Nat) (hc : Covered m₀ c) (hs : c.server = some m)
    (hfin : ∀ x ∈ m.finalizers, x = gatewayCleanupFinalizer) (hu : u.finalizers = m.finalizers) :
    ((c.step d (.delete t)).step d (.update u Faults.none true)).server = none ∧
      ∀ k o, ((c.step d (.delete t)).step d (.update u Faults.none true)).store.lookup k = some o →
        ¬ CleanupSelected m₀ o := by
  have hguard := hc.guarded_of_some hs
  by_cases hnil : m.finalizers = []
  · -- removed at once: the guard says nothing is selected
    have hdel : c.step d (.delete t) = ⟨none, c.store⟩ := by simp [Cluster.step, hs, hnil]
    rw [hdel]
    exact ⟨rfl, fun k o hk hsel => List.not_mem_nil _ (hnil ▸ hguard k o hk hsel)⟩
  · -- marked, then cleaned up and released by the update
    obtain ⟨x, hx⟩ := List.exists_mem_of_ne_nil _ hnil
    have hin : gatewayCleanupFinalizer ∈ u.finalizers := hu ▸ hfin x hx ▸ hx
    have hdel : c.step d (.delete t) =
        ⟨some { m with deletionTimestamp := some (m.deletionTimestamp.getD t) }, c.store⟩ := by
      simp [Cluster.step, hs, hnil]
    rw [hdel]
    dsimp only [Cluster.step]
    generalize hreq : updateRequest { m with deletionTimestamp := some (m.deletionTimestamp.getD t) } u
      = req
    have hsel : parentSelector req = parentSelector m₀ := hreq ▸ hc.identity m hs
    have hreqfin : req.finalizers = u.finalizers := by rw [← hreq]; rfl
    obtain ⟨s', hcl, hgone⟩ := cleanupGatewayResources_none c.store req
    have hcall : d.default Faults.none req c.store = (.ok (), { req with finalizers := [] }, s') := by
      rw [default_of_deleting (by rw [← hreq]; rfl)]
      unfold deletionPath
      rw [if_pos ((containsString_iff _ _).mpr (by rw [hreqfin]; exact hin)), hcl, hreqfin,
        removeString_eq_nil fun y hy => hfin y (hu ▸ hy)]
    simp only [hcall, Cluster.answer]
    refine ⟨by simp [persist, ← hreq, updateRequest], fun k o hk hsel' => ?_⟩
    have hold := (cleanupGatewayResources_onlyDeletes Faults.none c.store req).lookup_of_some
      (by rw [hcl]; exact hk)
    rw [hgone k o hold ((cleanupSelected_congr hsel).mpr hsel')] at hk
    cases hk

/-- A deletion of `weather` with its gateway objects stored. -/
theorem delete_then_update_removes_weather :
    Covered weatherServer ⟨some weatherFinalized, weatherAdmitted⟩ ∧
      (∀ x ∈ weatherFinalized.finalizers, x = gatewayCleanupFinalizer) ∧
      (((⟨some weatherFinalized, weatherAdmitted⟩ : Cluster).step plainDefaulter (.delete 7)).step
        plainDefaulter (.update weatherFinalized Faults.none true)).server = none ∧
      ∀ k o, (((⟨some weatherFinalized, weatherAdmitted⟩ : Cluster).step plainDefaulter
          (.delete 7)).step plainDefaulter (.update weatherFinalized Faults.none true)).store.lookup k
          = some o → ¬ CleanupSelected weatherServer o :=
  have hc : Covered weatherServer ⟨some weatherFinalized, weatherAdmitted⟩ :=
    ⟨fun _ h => by cases h; rfl, fun _ _ _ _ => List.mem_singleton_self _⟩
  have hfin : ∀ x ∈ weatherFinalized.finalizers, x = gatewayCleanupFinalizer :=
    fun _ h => List.mem_singleton.mp h
  ⟨hc, hfin, delete_then_update_removes plainDefaulter weatherServer _ weatherFinalized weatherFinalized 7
    hc rfl hfin rfl⟩

/-! ## (5) What any run can leave behind

Without the clean-run conditions objects can be left behind, but only the webhook's own: every
object the cleanup selects is a managed route or gateway `MCPServer` under the server's two keys,
whatever the API server refuses, whatever failures it makes up and whatever finalizers the
updates send. -/

/-- Every object in `s` that `m₀`'s cleanup selects is managed and sits under `m₀`'s route or
gateway key. -/
def Confined (m₀ : MCPServer) (s : Store) : Prop :=
  ∀ k o, s.lookup k = some o → CleanupSelected m₀ o → Managed o ∧ (k = routeKey m₀ ∨ k = gatewayKey m₀)

/-- A call for the server keeps the store confined: it writes only managed objects, under its two
keys, and a deleting call writes nothing. -/
theorem default_confined (hid : parentSelector m = parentSelector m₀) (h : Confined m₀ s) :
    Confined m₀ (d.default f m s).2.2 := by
  intro k o hk hs
  by_cases hold : s.lookup k = some o
  · exact h k o hold hs
  obtain ⟨hn, hns⟩ := parentSelector_inj hid
  have hkeys : routeKey m = routeKey m₀ ∧ gatewayKey m = gatewayKey m₀ := by
    simp [routeKey, gatewayKey, hn, hns]
  refine ⟨(default_writes_cleanable d f m s k o hk hold).1, ?_⟩
  cases hdel : m.deletionTimestamp with
  | none =>
    rw [default_of_live hdel] at hk
    rw [← hkeys.1, ← hkeys.2]
    exact by_contra fun hk' => hold ((admissionPath_agreeOff m k hk').symm.trans hk)
  | some t =>
    rw [default_of_deleting (by simp [hdel])] at hk
    exact absurd ((deletionPath_onlyDeletes f m s).lookup_of_some hk) hold

/-- A call for a server of another name or namespace keeps the store confined. -/
theorem default_other_confined (hne : m.name ≠ m₀.name ∨ m.namespace ≠ m₀.namespace)
    (h : Confined m₀ s) : Confined m₀ (d.default f m s).2.2 :=
  fun k o hk hs => h k o (default_other_lookup hne hk hs) hs

/-- Every call keeps the store confined: it is for the server or for another one. -/
theorem default_any_confined (h : Confined m₀ s) : Confined m₀ (d.default f m s).2.2 :=
  if hsel : parentSelector m = parentSelector m₀ then default_confined hsel h
  else default_other_confined (ne_of_parentSelector_ne hsel) h

/-- The requests of a run for the server of `m₀`'s name and namespace: a create carries that name
and namespace, and a request for another server another name or namespace. -/
def Event.ForServer (m₀ : MCPServer) : Event → Prop
  | .create m _ _ => parentSelector m = parentSelector m₀
  | .other m _ => m.name ≠ m₀.name ∨ m.namespace ≠ m₀.namespace
  | _ => True

/-- The stored server is `m₀`'s, and the store is confined. -/
structure Contained (m₀ : MCPServer) (c : Cluster) : Prop where
  identity : ∀ m, c.server = some m → parentSelector m = parentSelector m₀
  confined : Confined m₀ c.store

/-- The store after an answer is the webhook's. -/
theorem Cluster.answer_store (c : Cluster) (r : Except Error Unit × MCPServer × Store) (b : Bool) :
    (c.answer r b).store = r.2.2 := by
  unfold Cluster.answer; split <;> rfl

/-- The API server's answer stores the returned object (or removes it), or keeps what it had. -/
theorem Cluster.answer_server (c : Cluster) (r : Except Error Unit × MCPServer × Store) (b : Bool) :
    (c.answer r b).server = c.server ∨ (c.answer r b).server = persist r.2.1 := by
  unfold Cluster.answer; split
  · exact .inr rfl
  · exact .inl rfl

/-- The answer to a call that returns `m₀`'s object and leaves a confined store is contained. -/
theorem Contained.answer {r : Except Error Unit × MCPServer × Store} {b : Bool}
    (hc : Contained m₀ c) (hid : parentSelector r.2.1 = parentSelector m₀)
    (hs : Confined m₀ r.2.2) : Contained m₀ (c.answer r b) := by
  refine ⟨fun m hm => ?_, (c.answer_store r b) ▸ hs⟩
  rcases c.answer_server r b with h | h <;> rw [h] at hm
  · exact hc.identity m hm
  · rw [← eq_of_persist_eq_some hm]; exact hid

/-- **Every request keeps the cluster contained.** -/
theorem Contained.step (hc : Contained m₀ c) {e : Event} (he : e.ForServer m₀) :
    Contained m₀ (c.step d e) := by
  cases e with
  | create m f accepted =>
    exact hc.answer ((parentSelector_default d f m c.store).trans he) (default_confined he hc.confined)
  | update m f accepted =>
    dsimp only [Cluster.step]
    split
    · exact hc
    · rename_i stored hs
      have hid : parentSelector (updateRequest stored m) = parentSelector m₀ := hc.identity stored hs
      exact hc.answer ((parentSelector_default _ _ _ _).trans hid) (default_confined hid hc.confined)
  | delete t =>
    dsimp only [Cluster.step]
    split
    · exact hc
    · rename_i stored hs
      refine ⟨fun m hm => ?_, hc.confined⟩
      split at hm
      · cases hm
      · cases hm; exact hc.identity stored hs
  | other m f => exact ⟨hc.identity, default_other_confined he hc.confined⟩
  | dryRunCreate m f => exact ⟨hc.identity, default_any_confined hc.confined⟩
  | dryRunUpdate m f =>
    dsimp only [Cluster.step]
    split
    · exact hc
    · exact ⟨hc.identity, default_any_confined hc.confined⟩

/-- Every run keeps the cluster contained. -/
theorem Contained.run (hc : Contained m₀ c) {es : List Event} (hes : ∀ e ∈ es, e.ForServer m₀) :
    Contained m₀ (c.run d es) := by
  induction es generalizing c with
  | nil => exact hc
  | cons e es ih =>
    exact ih (hc.step (hes e (List.mem_cons_self _ _))) fun e' he' => hes e' (List.mem_cons_of_mem _ he')

/-- **What any run leaves behind is the server's own two objects.** For every defaulter and every
run of creates and updates of the server, deletes, dry runs, and requests for servers of other
names or namespaces — under any API failures, honest or not, whatever the API server refuses after
admission and whatever finalizers the updates send — from a cluster without the server whose
store holds nothing its cleanup selects: every object the cleanup selects in the store the run
leaves is marked as managed by the webhook and sits under the server's route key or gateway
key. -/
theorem run_leaves_only_own_objects (d : MCPServerCustomDefaulter) (m₀ : MCPServer) (es : List Event)
    (s : Store) (hs : ∀ k o, s.lookup k = some o → ¬ CleanupSelected m₀ o)
    (hes : ∀ e ∈ es, e.ForServer m₀) :
    ∀ k o, ((⟨none, s⟩ : Cluster).run d es).store.lookup k = some o → CleanupSelected m₀ o →
      Managed o ∧ (k = routeKey m₀ ∨ k = gatewayKey m₀) :=
  (Contained.run (c := ⟨none, s⟩) ⟨fun _ h => (nomatch h), fun k o hk hsel => absurd hsel (hs k o hk)⟩
    hes).confined

/-- A create of `weather` refused after its route was written leaves the route, and nothing but
its own objects. -/
theorem run_leaves_only_own_objects_weather :
    (∀ k o, Store.empty.lookup k = some o → ¬ CleanupSelected weatherServer o) ∧
      (∀ e ∈ [Event.create weatherServer gatewayCreateForbidden true], e.ForServer weatherServer) ∧
      ((⟨none, Store.empty⟩ : Cluster).run plainDefaulter
        [.create weatherServer gatewayCreateForbidden true]).server = none ∧
      ((⟨none, Store.empty⟩ : Cluster).run plainDefaulter
        [.create weatherServer gatewayCreateForbidden true]).store.lookup (routeKey weatherServer)
        = some (buildHTTPRoute plainDefaulter.getenv weatherServer) ∧
      ∀ k o, ((⟨none, Store.empty⟩ : Cluster).run plainDefaulter
          [.create weatherServer gatewayCreateForbidden true]).store.lookup k = some o →
        CleanupSelected weatherServer o →
        Managed o ∧ (k = routeKey weatherServer ∨ k = gatewayKey weatherServer) :=
  have hs : ∀ k o, Store.empty.lookup k = some o → ¬ CleanupSelected weatherServer o :=
    fun _ _ h => nomatch h
  have hes : ∀ e ∈ [Event.create weatherServer gatewayCreateForbidden true],
      e.ForServer weatherServer := fun _ he => List.mem_singleton.mp he ▸ rfl
  ⟨hs, hes, rfl, rfl, run_leaves_only_own_objects plainDefaulter weatherServer _ Store.empty hs hes⟩

/-! ## (6) Outside clean runs -/

-- A create that the webhook admits and the API server then refuses leaves the route of a server
-- that does not exist.
example :
    ((⟨none, Store.empty⟩ : Cluster).step plainDefaulter
      (.create weatherServer Faults.none false)).server = none ∧
    ((⟨none, Store.empty⟩ : Cluster).step plainDefaulter
      (.create weatherServer Faults.none false)).store.lookup (routeKey weatherServer)
        = some (buildHTTPRoute plainDefaulter.getenv weatherServer) ∧
    CleanupSelected weatherServer (buildHTTPRoute plainDefaulter.getenv weatherServer) :=
  ⟨rfl, rfl, .inl rfl, rfl⟩

-- So does a create refused after its route was written, when the gateway `MCPServer`'s create is
-- forbidden.
example :
    ((⟨none, Store.empty⟩ : Cluster).step plainDefaulter
      (.create weatherServer gatewayCreateForbidden true)).server = none ∧
    ((⟨none, Store.empty⟩ : Cluster).step plainDefaulter
      (.create weatherServer gatewayCreateForbidden true)).store.lookup (routeKey weatherServer)
        = some (buildHTTPRoute plainDefaulter.getenv weatherServer) :=
  ⟨rfl, rfl⟩

end KagentiWebhook.V1alpha1
