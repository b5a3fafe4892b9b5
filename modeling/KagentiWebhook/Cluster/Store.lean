import KagentiWebhook.Cluster.Object

/-! # The API server's object store and the client calls on it

Both webhooks reach the cluster only through `client.Client`. We model the API server as a
store of objects keyed by `(kind, namespace, name)` and each client call as a function of the
store, with an explicit **fault oracle**: every request may be refused with an arbitrary error
(RBAC, a missing CRD, a conflict, a timeout), and a refused request changes nothing.

* **`Store`** — the stored objects, carrying as a field that each sits under its own key.
* **`Faults`** — which requests of one admission call the API server refuses, and how.
* **`Store.get` / `create` / `update` / `delete` / `list`** — the client calls, with the
  API server's own `NotFound` / `AlreadyExists` answers; one inversion lemma each.
* **`Store.Keeps`**, **`Store.AgreeOff`**, **`Store.WritesOnly`**, **`Store.OnlyDeletes`** —
  frame relations ("these objects are untouched"), reflexive and transitive, so a sequence of
  calls is framed call by call.

Three simplifications of the API server are made here, and every result about what a later read
sees rests on them:

* **No resource versions.** `create` stores the object as sent, assigning no `resourceVersion`,
  and `update` stores it as sent, bumping none; the webhook's own copy of the stored version (in
  `createOrUpdateResource`) is therefore what the store then holds.
* **Reads are the API server's.** `get` and `list` read the store itself: no informer cache
  stands between a write and the next read, so a call sees every earlier write.
* **Objects are stored verbatim.** No CRD defaulting, validation or pruning changes an object
  on its way in, so what is read back is what was written. -/

namespace KagentiWebhook

/-! ## (1) The store -/

/-- The API server's objects. `keyed`: every object is stored under its own key. -/
structure Store where
  objects : AList (fun _ : ObjectKey => Object)
  keyed : ∀ k o, objects.lookup k = some o → o.key = k

namespace Store

/-- The empty store. -/
def empty : Store := ⟨∅, fun _ _ h => by simp [AList.lookup_empty] at h⟩

/-- The object stored under `k`, if any. -/
def lookup (s : Store) (k : ObjectKey) : Option Object := s.objects.lookup k

/-- Store `o` under its key, replacing what was there. -/
def put (s : Store) (o : Object) : Store where
  objects := s.objects.insert o.key o
  keyed k o' h := by
    by_cases hk : k = o.key
    · subst hk
      rw [AList.lookup_insert] at h
      cases h
      rfl
    · rw [AList.lookup_insert_ne hk] at h
      exact s.keyed k o' h

/-- Remove the object stored under `k`. -/
def erase (s : Store) (k : ObjectKey) : Store where
  objects := s.objects.erase k
  keyed k' o h := by
    by_cases hk : k' = k
    · subst hk
      rw [AList.lookup_erase] at h
      cases h
    · rw [AList.lookup_erase_ne hk] at h
      exact s.keyed k' o h

/-- After `put o`, `o`'s key holds `o` and every other key what it held. -/
theorem lookup_put (s : Store) (o : Object) (k : ObjectKey) :
    (s.put o).lookup k = if k = o.key then some o else s.lookup k := by
  by_cases hk : k = o.key
  · subst hk; simp [lookup, put]
  · simp [lookup, put, hk, AList.lookup_insert_ne hk]

/-- After `erase k`, `k` holds nothing and every other key what it held. -/
theorem lookup_erase (s : Store) (k k' : ObjectKey) :
    (s.erase k).lookup k' = if k' = k then none else s.lookup k' := by
  by_cases hk : k' = k
  · subst hk; simp [lookup, erase]
  · simp [lookup, erase, hk, AList.lookup_erase_ne hk]

/-- An object is stored under its own key (the `keyed` field). -/
theorem key_of_lookup {s : Store} {k : ObjectKey} {o : Object} (h : s.lookup k = some o) :
    o.key = k :=
  s.keyed k o h

/-- After `put o`, `o`'s key holds `o`. -/
@[simp] theorem lookup_put_self (s : Store) (o : Object) : (s.put o).lookup o.key = some o := by
  simp [lookup_put]

/-- Writing back the object a key holds changes no lookup. -/
theorem lookup_put_of_lookup {s : Store} {k' : ObjectKey} {o : Object} (h : s.lookup k' = some o)
    (k : ObjectKey) : (s.put o).lookup k = s.lookup k := by
  obtain rfl := key_of_lookup h
  rw [lookup_put]
  split
  · rename_i hk; rw [hk, h]
  · rfl

/-- A key is in the store exactly when it holds an object. -/
theorem mem_iff_lookup_isSome (s : Store) (k : ObjectKey) :
    k ∈ s.objects ↔ (s.lookup k).isSome :=
  AList.lookup_isSome.symm

end Store

/-! ## (2) Requests and faults -/

/-- A request to the API server, as the fault oracle sees it. -/
inductive Request where
  | get (key : ObjectKey)
  | create (key : ObjectKey)
  | update (key : ObjectKey)
  | delete (key : ObjectKey)
  | list (kind : Kind)
  deriving DecidableEq, Repr

/-- The API server's refusals during one admission call: `some e` fails the request with `e`.
Within one call no request is sent twice, so this is as general as a per-call script. -/
def Faults := Request → Option Error

/-- The API server refuses nothing. -/
def Faults.none : Faults := fun _ => Option.none

/-- Refusals that never claim a missing or a taken key: `NotFound` and `AlreadyExists` then come
only from the store itself. -/
def Faults.Honest (f : Faults) : Prop :=
  ∀ r e, f r = some e → e.reason ≠ .notFound ∧ e.reason ≠ .alreadyExists

/-- Refusing nothing is honest. -/
theorem Faults.honest_none : Faults.none.Honest := fun _ _ h => nomatch h

/-- Refusals that never claim a taken key: `AlreadyExists` comes only from the store itself. -/
def Faults.NoFalseAlreadyExists (f : Faults) : Prop :=
  ∀ r e, f r = some e → e.reason ≠ .alreadyExists

/-- Honest refusals never claim a taken key. -/
theorem Faults.Honest.noFalseAlreadyExists {f : Faults} (hf : f.Honest) : f.NoFalseAlreadyExists :=
  fun r e h => (hf r e h).2

/-- The API server answers every `Get`, `Create` and `Update` of the key `k`: what
`createOrUpdateResource` sends for the object stored there. -/
def Faults.Spares (f : Faults) (k : ObjectKey) : Prop :=
  f (.get k) = Option.none ∧ f (.create k) = Option.none ∧ f (.update k) = Option.none

/-- Refusing nothing spares every key. -/
theorem Faults.spares_none (k : ObjectKey) : Faults.none.Spares k := ⟨rfl, rfl, rfl⟩

/-- `apierrors.NewNotFound`. -/
def notFoundError (k : ObjectKey) : Error := ⟨.notFound, k.name ++ " not found"⟩

/-- `apierrors.NewAlreadyExists`. -/
def alreadyExistsError (k : ObjectKey) : Error := ⟨.alreadyExists, k.name ++ " already exists"⟩

/-- `client.MatchingLabels`: every selector entry is a label of the object with that value. -/
def matchesLabels (selector labels : StrMap) : Bool :=
  selector.entries.all fun e => labels.lookup e.1 == some e.2

/-- `client.MatchingLabels` as lookups: every selector entry is a label with that value. -/
theorem matchesLabels_iff (selector labels : StrMap) :
    matchesLabels selector labels = true ↔
      ∀ k v, selector.lookup k = some v → labels.lookup k = some v := by
  simp only [matchesLabels, List.all_eq_true, beq_iff_eq]
  exact ⟨fun h k v hk => h ⟨k, v⟩ (AList.mem_lookup_iff.mp hk),
    fun h e he => h e.1 e.2 (AList.mem_lookup_iff.mpr he)⟩

namespace Store

/-- `Client.Get`. -/
def get (f : Faults) (s : Store) (k : ObjectKey) : Except Error Object :=
  match f (.get k) with
  | some e => .error e
  | none =>
    match s.lookup k with
    | some o => .ok o
    | none => .error (notFoundError k)

/-- `Client.Create`: refused when the key is taken. -/
def create (f : Faults) (s : Store) (o : Object) : Except Error Store :=
  match f (.create o.key) with
  | some e => .error e
  | none => if o.key ∈ s.objects then .error (alreadyExistsError o.key) else .ok (s.put o)

/-- `Client.Update`: replaces the object under the same key. -/
def update (f : Faults) (s : Store) (o : Object) : Except Error Store :=
  match f (.update o.key) with
  | some e => .error e
  | none => if o.key ∈ s.objects then .ok (s.put o) else .error (notFoundError o.key)

/-- `Client.Delete`. -/
def delete (f : Faults) (s : Store) (k : ObjectKey) : Except Error Store :=
  match f (.delete k) with
  | some e => .error e
  | none => if k ∈ s.objects then .ok (s.erase k) else .error (notFoundError k)

/-- `Client.List` of one kind across all namespaces, filtered by a label selector. -/
def list (f : Faults) (s : Store) (kind : Kind) (selector : StrMap) : Except Error (List Object) :=
  match f (.list kind) with
  | some e => .error e
  | none =>
    .ok ((s.objects.entries.map (·.2)).filter fun o =>
      decide (o.spec.kind = kind) && matchesLabels selector o.labels)

/-! ## (3) One inversion lemma per call -/

variable {f : Faults} {s s' : Store}

/-- A successful `Get` returns the stored object. -/
theorem get_ok {k : ObjectKey} {o : Object} (h : s.get f k = .ok o) : s.lookup k = some o := by
  unfold get at h
  split at h
  · cases h
  · split at h <;> cases h; assumption

/-- A successful `Create` stores the object under a key that was free. -/
theorem create_ok {o : Object} (h : s.create f o = .ok s') :
    s.lookup o.key = Option.none ∧ s' = s.put o := by
  unfold create at h
  split at h
  · cases h
  · split at h
    · cases h
    · cases h
      exact ⟨AList.lookup_eq_none.mpr ‹_›, rfl⟩

/-- A successful `Update` overwrites an object that was there. -/
theorem update_ok {o : Object} (h : s.update f o = .ok s') :
    (s.lookup o.key).isSome ∧ s' = s.put o := by
  unfold update at h
  split at h
  · cases h
  · split at h
    · cases h
      exact ⟨(mem_iff_lookup_isSome s _).mp ‹_›, rfl⟩
    · cases h

/-- A successful `Delete` removes an object that was there. -/
theorem delete_ok {k : ObjectKey} (h : s.delete f k = .ok s') :
    (s.lookup k).isSome ∧ s' = s.erase k := by
  unfold delete at h
  split at h
  · cases h
  · split at h
    · cases h
      exact ⟨(mem_iff_lookup_isSome s _).mp ‹_›, rfl⟩
    · cases h

/-- Every listed object is stored under its own key, has the kind and matches the selector. -/
theorem list_ok {kind : Kind} {selector : StrMap} {os : List Object}
    (h : s.list f kind selector = .ok os) {o : Object} (ho : o ∈ os) :
    s.lookup o.key = some o ∧ o.spec.kind = kind ∧ matchesLabels selector o.labels = true := by
  unfold list at h
  split at h
  · cases h
  · cases h
    simp only [List.mem_filter, List.mem_map, Bool.and_eq_true, decide_eq_true_eq] at ho
    obtain ⟨⟨⟨k, o'⟩, hmem, rfl⟩, hkind, hsel⟩ := ho
    have hl : s.lookup k = some o' := AList.mem_lookup_iff.mpr hmem
    exact ⟨by rw [key_of_lookup hl]; exact hl, hkind, hsel⟩

/-- A `List` that succeeds returns every stored object of the kind that matches. -/
theorem mem_list_of_ok {kind : Kind} {selector : StrMap} {os : List Object}
    (h : s.list f kind selector = .ok os) {k : ObjectKey} {o : Object} (hk : s.lookup k = some o)
    (hkind : o.spec.kind = kind) (hsel : matchesLabels selector o.labels = true) : o ∈ os := by
  unfold list at h
  split at h
  · cases h
  · cases h
    simp only [List.mem_filter, List.mem_map, Bool.and_eq_true, decide_eq_true_eq]
    exact ⟨⟨⟨k, o⟩, AList.mem_lookup_iff.mp hk, rfl⟩, hkind, hsel⟩

/-- With no failures, `List` returns every stored object of the kind that matches. -/
theorem list_none (s : Store) (kind : Kind) (selector : StrMap) :
    ∃ os, s.list Faults.none kind selector = .ok os ∧
      ∀ k o, s.lookup k = some o → o.spec.kind = kind → matchesLabels selector o.labels = true →
        o ∈ os :=
  ⟨_, rfl, fun _ _ => mem_list_of_ok (f := Faults.none) (s := s) rfl⟩

/-- Under honest failures, a `Delete` answered `NotFound` found nothing stored. -/
theorem delete_notFound (hf : f.Honest) {k : ObjectKey} {e : Error} (h : s.delete f k = .error e)
    (he : e.reason = .notFound) : s.lookup k = Option.none := by
  unfold delete at h
  split at h
  · cases h; exact absurd he (hf _ _ ‹_›).1
  · split at h
    · cases h
    · cases h; exact AList.lookup_eq_none.mpr ‹_›

/-- When the API server makes up no `AlreadyExists`, a `Create` answered `AlreadyExists` found
the key taken. -/
theorem create_alreadyExists (hf : f.NoFalseAlreadyExists) {o : Object} {e : Error}
    (h : s.create f o = .error e) (he : e.reason = .alreadyExists) : (s.lookup o.key).isSome := by
  unfold create at h
  split at h
  · cases h; exact absurd he (hf _ _ ‹_›)
  · split at h
    · cases h; exact (mem_iff_lookup_isSome s _).mp ‹_›
    · cases h

/-- With no failures, `Delete` removes a stored key and answers `NotFound` for a missing one. -/
theorem delete_none (s : Store) (k : ObjectKey) :
    s.delete Faults.none k = if k ∈ s.objects then .ok (s.erase k) else .error (notFoundError k) :=
  rfl

end Store

/-! ## (4) Frame relations -/

namespace Store

/-- `s'` still holds, unchanged, every object of `s` that satisfies `P`. -/
def Keeps (P : Object → Prop) (s s' : Store) : Prop :=
  ∀ k o, s.lookup k = some o → P o → s'.lookup k = some o

/-- `s` and `s'` hold the same objects at every key outside `K`. -/
def AgreeOff (K : ObjectKey → Prop) (s s' : Store) : Prop :=
  ∀ k, ¬ K k → s'.lookup k = s.lookup k

variable {P : Object → Prop} {K : ObjectKey → Prop} {s₁ s₂ s₃ : Store}

/-- A store keeps all of its own objects. -/
theorem Keeps.refl (P : Object → Prop) (s : Store) : Keeps P s s := fun _ _ h _ => h

/-- Keeping composes along a sequence of calls. -/
theorem Keeps.trans (h₁ : Keeps P s₁ s₂) (h₂ : Keeps P s₂ s₃) : Keeps P s₁ s₃ :=
  fun k o h hp => h₂ k o (h₁ k o h hp) hp

/-- What keeps more objects keeps fewer. -/
theorem Keeps.mono {Q : Object → Prop} (h : Keeps P s₁ s₂) (hQP : ∀ o, Q o → P o) :
    Keeps Q s₁ s₂ := fun k o h' hq => h k o h' (hQP o hq)

/-- A store agrees with itself everywhere. -/
theorem AgreeOff.refl (K : ObjectKey → Prop) (s : Store) : AgreeOff K s s := fun _ _ => rfl

/-- Agreement off `K` composes along a sequence of calls. -/
theorem AgreeOff.trans (h₁ : AgreeOff K s₁ s₂) (h₂ : AgreeOff K s₂ s₃) : AgreeOff K s₁ s₃ :=
  fun k hk => (h₂ k hk).trans (h₁ k hk)

/-- Agreement off `K` gives agreement off any larger set of keys. -/
theorem AgreeOff.mono {K' : ObjectKey → Prop} (h : AgreeOff K s₁ s₂) (hK : ∀ k, K k → K' k) :
    AgreeOff K' s₁ s₂ := fun k hk => h k fun h' => hk (hK k h')

/-- Writing only under keys that hold no protected object keeps every protected one. -/
theorem AgreeOff.keeps (h : AgreeOff K s₁ s₂) (hK : ∀ k o, s₁.lookup k = some o → P o → ¬ K k) :
    Keeps P s₁ s₂ := fun k o ho hp => (h k (hK k o ho hp)).trans ho

/-- Writing `o` keeps every object that `P` protects, provided what it overwrites is
unprotected. -/
theorem Keeps.put (s : Store) (o : Object)
    (h : ∀ o', s.lookup o.key = some o' → ¬ P o') : Keeps P s (s.put o) := by
  intro k o' hk hp
  rw [lookup_put]
  split
  · subst_vars; exact absurd hp (h o' hk)
  · exact hk

/-- Removing an object that `P` does not protect keeps every protected one. -/
theorem Keeps.erase (s : Store) (k : ObjectKey)
    (h : ∀ o', s.lookup k = some o' → ¬ P o') : Keeps P s (s.erase k) := by
  intro k' o' hk hp
  rw [lookup_erase]
  split
  · subst_vars; exact absurd hp (h o' hk)
  · exact hk

/-- Every object of `s'` that is not what `s` held under its key satisfies `P`. -/
def WritesOnly (P : Object → Prop) (s s' : Store) : Prop :=
  ∀ k o, s'.lookup k = some o → s.lookup k ≠ some o → P o

/-- `s'` is `s` with some objects under keys in `K` removed, and nothing written. -/
def OnlyDeletes (K : ObjectKey → Prop) (s s' : Store) : Prop :=
  ∀ k, s'.lookup k = s.lookup k ∨ (K k ∧ s'.lookup k = none)

/-- A store writes nothing over itself. -/
theorem WritesOnly.refl (P : Object → Prop) (s : Store) : WritesOnly P s s :=
  fun _ _ h hne => absurd h hne

/-- Writing only `P`-objects composes along a sequence of calls. -/
theorem WritesOnly.trans (h₁ : WritesOnly P s₁ s₂) (h₂ : WritesOnly P s₂ s₃) :
    WritesOnly P s₁ s₃ := fun k o h hne => by
  by_cases h' : s₂.lookup k = some o
  · exact h₁ k o h' hne
  · exact h₂ k o h h'

/-- What writes only `P`-objects writes only objects of any weaker property. -/
theorem WritesOnly.mono {Q : Object → Prop} (h : WritesOnly P s₁ s₂) (hPQ : ∀ o, P o → Q o) :
    WritesOnly Q s₁ s₂ := fun k o h' hne => hPQ o (h k o h' hne)

/-- A store deletes nothing from itself. -/
theorem OnlyDeletes.refl (K : ObjectKey → Prop) (s : Store) : OnlyDeletes K s s :=
  fun _ => .inl rfl

/-- Deleting only under `K` composes along a sequence of calls. -/
theorem OnlyDeletes.trans (h₁ : OnlyDeletes K s₁ s₂) (h₂ : OnlyDeletes K s₂ s₃) :
    OnlyDeletes K s₁ s₃ := fun k => by
  rcases h₂ k with h | h
  · rcases h₁ k with h' | h'
    · exact .inl (h.trans h')
    · exact .inr ⟨h'.1, h.trans h'.2⟩
  · exact .inr h

/-- Deleting only under `K` is deleting only under any larger set of keys. -/
theorem OnlyDeletes.mono {K' : ObjectKey → Prop} (h : OnlyDeletes K s₁ s₂) (hK : ∀ k, K k → K' k) :
    OnlyDeletes K' s₁ s₂ := fun k => (h k).imp_right fun h' => ⟨hK k h'.1, h'.2⟩

/-- Erasing a key in `K` only deletes under `K`. -/
theorem OnlyDeletes.erase (s : Store) {k : ObjectKey} (hk : K k) : OnlyDeletes K s (s.erase k) :=
  fun k' => by
    rw [lookup_erase]
    split
    · subst_vars; exact .inr ⟨hk, rfl⟩
    · exact .inl rfl

/-- What survives `OnlyDeletes` was there before. -/
theorem OnlyDeletes.lookup_of_some (h : OnlyDeletes K s₁ s₂) {k : ObjectKey} {o : Object}
    (hk : s₂.lookup k = some o) : s₁.lookup k = some o := by
  rcases h k with h' | ⟨-, h'⟩
  · rwa [h'] at hk
  · rw [h'] at hk; cases hk

/-- Deleting only under keys whose objects `P` does not protect keeps every protected one. -/
theorem OnlyDeletes.keeps (h : OnlyDeletes K s₁ s₂)
    (hK : ∀ k o, s₁.lookup k = some o → P o → ¬ K k) : Keeps P s₁ s₂ := fun k o ho hp => by
  rcases h k with h' | ⟨hk, -⟩
  · rw [h', ho]
  · exact absurd hk (hK k o ho hp)

/-- A key that was empty stays empty. -/
theorem OnlyDeletes.lookup_none (h : OnlyDeletes K s₁ s₂) {k : ObjectKey}
    (hk : s₁.lookup k = none) : s₂.lookup k = none := by
  rcases h k with h' | ⟨-, h'⟩ <;> rw [h']
  exact hk

/-- A store that only lost objects has written nothing. -/
theorem OnlyDeletes.writesOnly (h : OnlyDeletes K s₁ s₂) : WritesOnly P s₁ s₂ := fun k o ho hne => by
  rcases h k with h' | ⟨-, h'⟩
  · exact absurd (h' ▸ ho) hne
  · rw [h'] at ho; cases ho

/-- Writing `o` writes only an object with the properties `o` has. -/
theorem WritesOnly.put (s : Store) (o : Object) (h : P o) : WritesOnly P s (s.put o) :=
  fun k o' hk hne => by
    rw [lookup_put] at hk
    split at hk
    · cases hk; exact h
    · exact absurd hk hne

/-- Writing under a key inside `K` leaves everything outside `K` as it was. -/
theorem AgreeOff.put (s : Store) (o : Object) (h : K o.key) : AgreeOff K s (s.put o) := by
  intro k hk
  rw [lookup_put, if_neg (fun he : k = o.key => hk (he ▸ h))]

end Store

end KagentiWebhook
