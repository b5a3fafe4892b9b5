import KagentiWebhook.MCPServer.Defaulter

/-! # The gateway-cleanup finalizer over runs of `Default`

An `MCPServer` passes through `Default` again and again: on every create and update, and while
it is being deleted. Between calls the user may change its annotations and the API server may
set its deletion timestamp; the finalizers are carried from one call's output to the next call.

* **`DefaultCall`**, **`runDefault`** — a run: each call's deletion timestamp, annotations and
  API failures, applied to the previous call's output object and store.
* **`finalizer_step`** — what one call does to the finalizers, from `default_finalizers`.
* **`default_gateway_cleanup_finalizer`** — over every run: the finalizer never occurs twice if it
  did not initially, every other finalizer keeps its order and multiplicity, and every call that
  removes it had a deletion timestamp and a cleanup that returned nil. -/

namespace KagentiWebhook.V1alpha1

namespace MCPServerCustomDefaulter

/-! ## (1) Runs -/

/-- One admission call of a run: the deletion timestamp and annotations the object is sent with,
and the API server's refusals during the call. -/
structure DefaultCall where
  deletionTimestamp : Option Nat
  annotations : StrMap
  faults : Faults

/-- The object as the call sends it: the previous output with this call's timestamp and
annotations. -/
def DefaultCall.apply (c : DefaultCall) (m : MCPServer) : MCPServer :=
  { m with deletionTimestamp := c.deletionTimestamp, annotations := c.annotations }

/-- A call is sent the previous output's finalizers. -/
@[simp] theorem DefaultCall.apply_finalizers (c : DefaultCall) (m : MCPServer) :
    (c.apply m).finalizers = m.finalizers := rfl

/-- A run of `Default` calls, each on the previous call's output object and store. -/
def runDefault (d : MCPServerCustomDefaulter) : List DefaultCall → MCPServer → Store →
    MCPServer × Store
  | [], m, s => (m, s)
  | c :: cs, m, s =>
    d.runDefault cs (d.default c.faults (c.apply m) s).2.1 (d.default c.faults (c.apply m) s).2.2

/-! ## (2) One call -/

/-- The two facts a call preserves about the finalizer list: at most one copy of ours, and the
others in order. -/
def FinalizersAgree (before after : List String) : Prop :=
  (before.count gatewayCleanupFinalizer ≤ 1 → after.count gatewayCleanupFinalizer ≤ 1) ∧
    after.filter (· != gatewayCleanupFinalizer) = before.filter (· != gatewayCleanupFinalizer)

/-- A finalizer list agrees with itself. -/
theorem FinalizersAgree.refl (l : List String) : FinalizersAgree l l := ⟨id, rfl⟩

/-- Agreement of finalizer lists composes along a run. -/
theorem FinalizersAgree.trans {l₁ l₂ l₃ : List String} (h₁ : FinalizersAgree l₁ l₂)
    (h₂ : FinalizersAgree l₂ l₃) : FinalizersAgree l₁ l₃ :=
  ⟨h₂.1 ∘ h₁.1, h₂.2.trans h₁.2⟩

/-- One call keeps the finalizer list in agreement with the one it was given. -/
theorem finalizer_step (d : MCPServerCustomDefaulter) (f : Faults) (m : MCPServer) (s : Store) :
    FinalizersAgree m.finalizers (d.default f m s).2.1.finalizers := by
  rcases default_finalizers (d := d) f m s with h | ⟨hn, h⟩ | ⟨-, -, h⟩ <;> rw [h]
  · exact .refl _
  · refine ⟨fun _ => ?_, by simp⟩
    simp [List.count_append, List.count_eq_zero_of_not_mem hn]
  · exact ⟨fun _ => by simp, filter_removeString _ _⟩

/-- Only a deletion call whose cleanup returned nil removes our finalizer. -/
theorem finalizer_removed (d : MCPServerCustomDefaulter) (f : Faults) (m : MCPServer) (s : Store)
    (hin : gatewayCleanupFinalizer ∈ m.finalizers)
    (hout : gatewayCleanupFinalizer ∉ (d.default f m s).2.1.finalizers) :
    m.deletionTimestamp.isSome ∧ (cleanupGatewayResources f s m).1 = .ok () := by
  rcases default_finalizers (d := d) f m s with h | ⟨hn, -⟩ | ⟨hdel, hc, -⟩
  · rw [h] at hout; exact absurd hin hout
  · exact absurd hin hn
  · exact ⟨hdel, hc⟩

/-- A whole run keeps the finalizer list in agreement with the initial one. -/
theorem finalizer_run (d : MCPServerCustomDefaulter) (cs : List DefaultCall) (m : MCPServer)
    (s : Store) : FinalizersAgree m.finalizers (d.runDefault cs m s).1.finalizers := by
  induction cs generalizing m s with
  | nil => exact .refl _
  | cons c cs ih =>
    exact (finalizer_step d c.faults (c.apply m) s).trans (ih _ _)

/-! ## (3) The run invariant -/

/-- **The gateway-cleanup finalizer is kept consistent over any run of `Default`.** For every
object, store and run — any deletion timestamps, annotations and API failures — (a) if
`gateway-cleanup` occurred at most once initially it still does; (b) the other finalizers keep
their order and multiplicity; (c) any call of the run that removes `gateway-cleanup` had a
non-zero deletion timestamp and a `cleanupGatewayResources` that returned nil. -/
theorem default_gateway_cleanup_finalizer (d : MCPServerCustomDefaulter) (cs : List DefaultCall)
    (m : MCPServer) (s : Store) :
    (m.finalizers.count gatewayCleanupFinalizer ≤ 1 →
      (d.runDefault cs m s).1.finalizers.count gatewayCleanupFinalizer ≤ 1) ∧
    (d.runDefault cs m s).1.finalizers.filter (· != gatewayCleanupFinalizer)
      = m.finalizers.filter (· != gatewayCleanupFinalizer) ∧
    ∀ pre c post, cs = pre ++ c :: post →
      gatewayCleanupFinalizer ∈ (c.apply (d.runDefault pre m s).1).finalizers →
      gatewayCleanupFinalizer ∉
        (d.default c.faults (c.apply (d.runDefault pre m s).1) (d.runDefault pre m s).2).2.1.finalizers →
      (c.apply (d.runDefault pre m s).1).deletionTimestamp.isSome ∧
        (cleanupGatewayResources c.faults (d.runDefault pre m s).2
          (c.apply (d.runDefault pre m s).1)).1 = .ok () :=
  ⟨(finalizer_run d cs m s).1, (finalizer_run d cs m s).2,
    fun _ c _ _ hin hout => finalizer_removed d c.faults _ _ hin hout⟩

end MCPServerCustomDefaulter

end KagentiWebhook.V1alpha1
