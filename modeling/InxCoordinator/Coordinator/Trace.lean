import InxCoordinator.Coordinator.Model

/-! How a `do` block of `Trace` builds its effects and result, in a form `simp` pushes
through `bind` and the callback checks. -/
namespace InxCoordinator

namespace Trace

variable {α β : Type} {t : Trace α} {f : α → Trace β} {a : α} {b : β} {e : Error}
  {es : List Effect} {x : Effect}

@[simp] theorem mk_ok_bind : (⟨es, .ok a⟩ : Trace α) >>= f = ⟨es ++ (f a).effects, (f a).result⟩ :=
  rfl

@[simp] theorem mk_error_bind : (⟨es, .error e⟩ : Trace α) >>= f = ⟨es, .error e⟩ := rfl

@[simp] theorem pure_eq : (pure a : Trace α) = ⟨[], .ok a⟩ := rfl

@[simp] theorem emit_eq : emit x = ⟨[x], .ok ()⟩ := rfl

@[simp] theorem fail_eq : (fail e : Trace α) = ⟨[], .error e⟩ := rfl

@[simp] theorem check_ok {wrap : Error → Error} : check (.ok a) wrap = ⟨[], .ok a⟩ := rfl

@[simp] theorem check_error {wrap : Error → Error} :
    (check (.error e) wrap : Trace α) = ⟨[], .error (wrap e)⟩ := rfl

@[simp] theorem checkNil_none {wrap : Error → Error} : checkNil none wrap = ⟨[], .ok ()⟩ := rfl

@[simp] theorem checkNil_some {wrap : Error → Error} :
    checkNil (some e) wrap = ⟨[], .error (wrap e)⟩ := rfl

@[simp] theorem mapError_mk_ok {wrap : Error → Error} :
    mapError (⟨es, .ok a⟩ : Trace α) wrap = ⟨es, .ok a⟩ := rfl

@[simp] theorem mapError_mk_error {wrap : Error → Error} :
    mapError (⟨es, .error e⟩ : Trace α) wrap = ⟨es, .error (wrap e)⟩ := rfl

theorem eta (t : Trace α) : t = ⟨t.effects, t.result⟩ := rfl

theorem bind_of_ok (h : t.result = .ok a) : t >>= f = ⟨t.effects ++ (f a).effects, (f a).result⟩ := by
  rw [eta t, h]; rfl

theorem bind_of_error (h : t.result = .error e) : t >>= f = ⟨t.effects, .error e⟩ := by
  rw [eta t, h]; rfl

@[simp] theorem bind_pure_effects {g : α → β} :
    (t >>= fun a => (⟨[], .ok (g a)⟩ : Trace β)).effects = t.effects := by
  rcases ht : t.result with e | a
  · simp [bind_of_error ht]
  · simp [bind_of_ok ht]

@[simp] theorem bind_pure_isCritical {g : α → β} :
    (t >>= fun a => (⟨[], .ok (g a)⟩ : Trace β)).isCritical = t.isCritical := by
  rcases ht : t.result with e | a
  · simp [bind_of_error ht, isCritical, ht]
  · simp [bind_of_ok ht, isCritical, ht]

@[simp] theorem mem_bind_effects :
    x ∈ (t >>= f).effects ↔ x ∈ t.effects ∨ ∃ a, t.result = .ok a ∧ x ∈ (f a).effects := by
  rcases ht : t.result with e | a
  · simp [bind_of_error ht]
  · simp [bind_of_ok ht]

@[simp] theorem bind_result_ok :
    (t >>= f).result = .ok b ↔ ∃ a, t.result = .ok a ∧ (f a).result = .ok b := by
  rcases ht : t.result with e | a
  · simp [bind_of_error ht]
  · simp [bind_of_ok ht]

@[simp] theorem bind_result_error :
    (t >>= f).result = .error e ↔ t.result = .error e ∨ ∃ a, t.result = .ok a ∧ (f a).result = .error e := by
  rcases ht : t.result with e | a
  · simp [bind_of_error ht]
  · simp [bind_of_ok ht]

@[simp] theorem mapError_effects {wrap : Error → Error} : (t.mapError wrap).effects = t.effects := by
  unfold mapError; split <;> rfl

@[simp] theorem mapError_result_ok {wrap : Error → Error} :
    (t.mapError wrap).result = .ok a ↔ t.result = .ok a := by
  unfold mapError; split <;> simp_all

@[simp] theorem mapError_result_error {wrap : Error → Error} :
    (t.mapError wrap).result = .error e ↔ ∃ e', t.result = .error e' ∧ e = wrap e' := by
  unfold mapError; split <;> simp_all [eq_comm]

@[simp] theorem check_effects {answer : Except Error α} {wrap : Error → Error} :
    (check answer wrap).effects = [] := by
  cases answer <;> rfl

@[simp] theorem check_result_ok {answer : Except Error α} {wrap : Error → Error} :
    (check answer wrap).result = .ok a ↔ answer = .ok a := by
  cases answer <;> simp

@[simp] theorem check_result_error {answer : Except Error α} {wrap : Error → Error} :
    (check answer wrap).result = .error e ↔ ∃ e', answer = .error e' ∧ e = wrap e' := by
  cases answer <;> simp [eq_comm]

@[simp] theorem checkNil_effects {answer : Option Error} {wrap : Error → Error} :
    (checkNil answer wrap).effects = [] := by
  cases answer <;> rfl

@[simp] theorem checkNil_result_ok {answer : Option Error} {wrap : Error → Error} {u : Unit} :
    (checkNil answer wrap).result = .ok u ↔ answer = none := by
  cases answer <;> simp

@[simp] theorem checkNil_result_error {answer : Option Error} {wrap : Error → Error} :
    (checkNil answer wrap).result = .error e ↔ ∃ e', answer = some e' ∧ e = wrap e' := by
  cases answer <;> simp [eq_comm]

end Trace

/-- After a list of effects, `coo.state` is the last state set, or the one before. -/
theorem Coordinator.foldl_apply_state {P : State → Prop} (coo : Coordinator) (l : List Effect)
    (hBefore : P coo.state) (hSet : ∀ st, Effect.setState st ∈ l → P st) :
    P (l.foldl Coordinator.apply coo).state := by
  induction l generalizing coo with
  | nil => exact hBefore
  | cons x l ih =>
      refine ih _ ?_ fun st h => hSet st (List.mem_cons_of_mem _ h)
      cases x <;> first | exact hBefore | exact hSet _ (List.mem_cons_self _ _)

end InxCoordinator
