import Mathlib
import DagWallet.Wallet.Error

/-!
What a computation against a network can end with. The network is arbitrary, so these
statements hold from every state and say nothing about the state: `x.Always Q` says that every
outcome `x` reaches, error or value, satisfies `Q`. A fault ends nothing, so it is not an
outcome. There is one rule for each way computations are built, so a specification follows
the shape of the program.
-/

namespace DagWallet

namespace Session

variable {σ ε ε' α β : Type}

section Run

variable {x : Session σ ε α} {s : σ} {f : Fault}

theorem run_bind_fault (g : α → Session σ ε β) (h : x.run.run s = .error f) :
    (x >>= g).run.run s = .error f := by
  show (x.run.run s).bind _ = _
  rw [h]
  rfl

theorem run_bind_ok {a : α} {s' : σ} (g : α → Session σ ε β)
    (h : x.run.run s = .ok (.ok a, s')) : (x >>= g).run.run s = (g a).run.run s' := by
  show (x.run.run s).bind _ = _
  rw [h]
  rfl

theorem run_bind_error {e : ε} {s' : σ} (g : α → Session σ ε β)
    (h : x.run.run s = .ok (.error e, s')) : (x >>= g).run.run s = .ok (.error e, s') := by
  show (x.run.run s).bind _ = _
  rw [h]
  rfl

theorem run_liftExcept (e : Except ε α) (s : σ) :
    (liftExcept e : Session σ ε α).run.run s = .ok (e, s) := by
  cases e <;> rfl

theorem run_mapError (g : ε → ε') (s : σ) :
    (x.mapError g).run.run s = (x.run.run s).map fun p => (p.1.mapError g, p.2) := rfl

theorem run_result (s : σ) :
    (x.result : Session σ ε' (Except ε α)).run.run s = (x.run.run s).map fun p => (.ok p.1, p.2) :=
  rfl

theorem run_bind_eq_ok {g : α → Session σ ε β} {r : Except ε β} {s' : σ}
    (h : (x >>= g).run.run s = .ok (r, s')) :
    (∃ e, x.run.run s = .ok (.error e, s') ∧ r = .error e) ∨
      ∃ a s₁, x.run.run s = .ok (.ok a, s₁) ∧ (g a).run.run s₁ = .ok (r, s') := by
  cases hx : x.run.run s with
  | error fault =>
    rw [run_bind_fault g hx] at h
    cases h
  | ok p =>
    obtain ⟨q, s₁⟩ := p
    cases q with
    | error e =>
      rw [run_bind_error g hx] at h
      cases h
      exact .inl ⟨e, rfl, rfl⟩
    | ok a =>
      rw [run_bind_ok g hx] at h
      exact .inr ⟨a, s₁, rfl, h⟩

theorem run_mapError_eq_ok {g : ε → ε'} {r : Except ε' α} {s' : σ}
    (h : (x.mapError g).run.run s = .ok (r, s')) :
    ∃ r₀, x.run.run s = .ok (r₀, s') ∧ r = r₀.mapError g := by
  rw [run_mapError] at h
  cases hx : x.run.run s with
  | error fault =>
    rw [hx] at h
    cases h
  | ok p =>
    rw [hx] at h
    cases h
    exact ⟨p.1, rfl, rfl⟩

theorem run_of_mapError_ok {g : ε → ε'} {a : α} {s' : σ}
    (h : (x.mapError g).run.run s = .ok (.ok a, s')) : x.run.run s = .ok (.ok a, s') := by
  obtain ⟨r₀, hx, hr⟩ := run_mapError_eq_ok h
  cases r₀ with
  | error e => cases hr
  | ok b =>
    cases hr
    exact hx

theorem run_map (g : α → β) (s : σ) :
    (g <$> x).run.run s = (x.run.run s).map fun p => (p.1.map g, p.2) := by
  rw [map_eq_pure_bind]
  cases hx : x.run.run s with
  | error f => exact run_bind_fault _ hx
  | ok p =>
    obtain ⟨r, s'⟩ := p
    cases r with
    | error e => exact run_bind_error _ hx
    | ok a => exact run_bind_ok _ hx

theorem run_map_eq_ok {g : α → β} {r : Except ε β} {s' : σ}
    (h : (g <$> x).run.run s = .ok (r, s')) :
    ∃ r₀, x.run.run s = .ok (r₀, s') ∧ r = r₀.map g := by
  rw [map_eq_pure_bind] at h
  rcases run_bind_eq_ok h with ⟨e, he, rfl⟩ | ⟨a, s₁, ha, h⟩
  · exact ⟨.error e, he, rfl⟩
  · cases h
    exact ⟨.ok a, ha, rfl⟩

theorem run_result_eq_ok {r : Except ε' (Except ε α)} {s' : σ}
    (h : (x.result : Session σ ε' (Except ε α)).run.run s = .ok (r, s')) :
    ∃ r₀, x.run.run s = .ok (r₀, s') ∧ r = .ok r₀ := by
  rw [run_result] at h
  cases hx : x.run.run s with
  | error fault =>
    rw [hx] at h
    cases h
  | ok p =>
    rw [hx] at h
    cases h
    exact ⟨p.1, rfl, rfl⟩

theorem run_tryCatch (h : ε → Session σ ε α) (s : σ) :
    (MonadExcept.tryCatch x h).run.run s = (x.run.run s).bind fun p => match p.1 with
      | .ok a => .ok (.ok a, p.2)
      | .error e => (h e).run.run p.2 := by
  show (x.run.run s).bind _ = _
  cases x.run.run s with
  | error fault => rfl
  | ok p =>
    obtain ⟨q, s'⟩ := p
    cases q <;> rfl

theorem run_tryCatch_eq_ok {h : ε → Session σ ε α} {r : Except ε α} {s' : σ}
    (hrun : (MonadExcept.tryCatch x h).run.run s = .ok (r, s')) :
    (∃ a, x.run.run s = .ok (.ok a, s') ∧ r = .ok a) ∨
      ∃ e s₁, x.run.run s = .ok (.error e, s₁) ∧ (h e).run.run s₁ = .ok (r, s') := by
  rw [run_tryCatch] at hrun
  cases hx : x.run.run s with
  | error fault =>
    rw [hx] at hrun
    cases hrun
  | ok p =>
    obtain ⟨q, s₁⟩ := p
    rw [hx] at hrun
    cases q with
    | ok a =>
      cases hrun
      exact .inl ⟨a, rfl, rfl⟩
    | error e => exact .inr ⟨e, s₁, rfl, hrun⟩

theorem run_mapError_fault (g : ε → ε') (h : x.run.run s = .error f) :
    (x.mapError g).run.run s = .error f := by
  rw [run_mapError, h]
  rfl

theorem run_result_fault (h : x.run.run s = .error f) :
    (x.result : Session σ ε' (Except ε α)).run.run s = .error f := by
  rw [run_result, h]
  rfl

end Run

/-- Every outcome of `x`, from every state, satisfies `Q`. -/
def Always (x : Session σ ε α) (Q : Except ε α → Prop) : Prop :=
  ∀ s r s', x.run.run s = .ok (r, s') → Q r

/-- Every run of `x` from `s` that ends in `s'` with `r` satisfies `Q s r s'`: what `Always`
says, with the states a run goes through. -/
def Ends (x : Session σ ε α) (Q : σ → Except ε α → σ → Prop) : Prop :=
  ∀ s r s', x.run.run s = .ok (r, s') → Q s r s'

theorem Always.mono {x : Session σ ε α} {P Q : Except ε α → Prop} (h : x.Always P)
    (hPQ : ∀ r, P r → Q r) : x.Always Q :=
  fun s r s' hr => hPQ r (h s r s' hr)

theorem always_of_forall (x : Session σ ε α) {Q : Except ε α → Prop} (h : ∀ r, Q r) :
    x.Always Q :=
  fun _ r _ _ => h r

theorem always_pure {a : α} {Q : Except ε α → Prop} (h : Q (.ok a)) :
    (pure a : Session σ ε α).Always Q := by
  intro s r s' hr
  cases hr
  exact h

theorem always_throw {e : ε} {Q : Except ε α → Prop} (h : Q (.error e)) :
    (throw e : Session σ ε α).Always Q := by
  intro s r s' hr
  cases hr
  exact h

theorem always_bind {x : Session σ ε α} {f : α → Session σ ε β} {Q : Except ε β → Prop}
    (h : x.Always fun r => match r with
      | .ok a => (f a).Always Q
      | .error e => Q (.error e)) : (x >>= f).Always Q := by
  intro s r s' hr
  cases hx : x.run.run s with
  | error fault =>
    rw [run_bind_fault f hx] at hr
    cases hr
  | ok p =>
    obtain ⟨q, s₁⟩ := p
    have hq := h s q s₁ hx
    cases q with
    | ok a =>
      rw [run_bind_ok f hx] at hr
      exact hq s₁ r s' hr
    | error e =>
      rw [run_bind_error f hx] at hr
      cases hr
      exact hq

theorem always_bind_ok {x : Session σ ε α} {f : α → Session σ ε β} {Q : Except ε β → Prop}
    (hx : x.Always fun r => ∃ a, r = .ok a) (hf : ∀ a, (f a).Always Q) : (x >>= f).Always Q := by
  refine always_bind (hx.mono fun r hr => ?_)
  obtain ⟨a, rfl⟩ := hr
  exact hf a

theorem always_liftExcept {x : Except ε α} {Q : Except ε α → Prop} (h : Q x) :
    (liftExcept x : Session σ ε α).Always Q := by
  cases x with
  | error e => exact always_throw h
  | ok a => exact always_pure h

theorem always_ite {c : Prop} [Decidable c] {x y : Session σ ε α} {Q : Except ε α → Prop}
    (hx : c → x.Always Q) (hy : ¬ c → y.Always Q) : (if c then x else y).Always Q := by
  split
  · exact hx ‹c›
  · exact hy ‹¬ c›

theorem always_mapError {x : Session σ ε α} {g : ε → ε'} {Q : Except ε' α → Prop}
    (h : x.Always fun r => Q (r.mapError g)) : (x.mapError g).Always Q := by
  intro s r s' hr
  rw [run_mapError] at hr
  cases hx : x.run.run s with
  | error fault =>
    rw [hx] at hr
    cases hr
  | ok p =>
    rw [hx] at hr
    cases hr
    exact h s p.1 p.2 hx

theorem always_mapError_bind {x : Session σ ε α} {g : ε → ε'} {f : α → Session σ ε' β}
    {Q : Except ε' β → Prop} (he : ∀ e, Q (.error (g e))) (hf : ∀ a, (f a).Always Q) :
    (x.mapError g >>= f).Always Q := by
  refine always_bind (always_mapError (always_of_forall x fun r => ?_))
  cases r with
  | error e => exact he e
  | ok a => exact hf a

theorem always_result {x : Session σ ε α} {Q : Except ε' (Except ε α) → Prop}
    (h : x.Always fun r => Q (.ok r)) : (x.result : Session σ ε' (Except ε α)).Always Q := by
  intro s r s' hr
  rw [run_result] at hr
  cases hx : x.run.run s with
  | error fault =>
    rw [hx] at hr
    cases hr
  | ok p =>
    rw [hx] at hr
    cases hr
    exact h s p.1 p.2 hx

end Session

end DagWallet
