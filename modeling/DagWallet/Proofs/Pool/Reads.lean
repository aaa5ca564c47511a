import DagWallet.Pool.Basic
import DagWallet.Proofs.Node.Course
import DagWallet.Proofs.Node.Solo

/-!
Reads of a pool run on their own. The nodes may answer anything, but the answers to the
requests in question and the client's waits move the state only along a preorder, say one that
keeps what the nodes store. A read that returns a value returns the answer one node gave, from
a state that far along; a read that reaches a node that answers at once returns that answer at
once, having asked that node only.
-/

namespace DagWallet

open Session

variable {σ : Type}

namespace Network

/-- Answers to the requests `ok` admits, and the client's waits, move the state only along the
preorder `R`. -/
structure Keeps (net : Network σ) (ok : Request → Prop) (R : σ → σ → Prop) : Prop where
  refl : ∀ s, R s s
  trans : ∀ {s₁ s₂ s₃}, R s₁ s₂ → R s₂ s₃ → R s₁ s₃
  serve : ∀ {i r s x s'}, ok r → net.serve i r s = .ok (x, s') → R s s'
  wait : ∀ d s, R s (net.onExecutor (·.wait d) s)

/-- Node `i` answered `r` with `x`, from a state `R`-after `s`, leaving one `R`-before `s'`. -/
def Answered (net : Network σ) (R : σ → σ → Prop) (i : Nat) (r : Request) (x : r.Answer)
    (s s' : σ) : Prop :=
  ∃ s₁ s₂, R s s₁ ∧ net.serve i r s₁ = .ok (.ok x, s₂) ∧ R s₂ s'

theorem Answered.before {net : Network σ} {ok : Request → Prop} {R : σ → σ → Prop}
    (hK : net.Keeps ok R) {i : Nat} {r : Request} {x : r.Answer} {s₀ s s' : σ} (h₀ : R s₀ s)
    (h : net.Answered R i r x s s') : net.Answered R i r x s₀ s' := by
  obtain ⟨s₁, s₂, h₁, hserve, h₂⟩ := h
  exact ⟨s₁, s₂, hK.trans h₀ h₁, hserve, h₂⟩

end Network

theorem checkedAdd_eq_ok {bits a b v : Nat} (h : checkedAdd bits a b = .ok v) : v = a + b := by
  unfold checkedAdd at h
  split at h
  · cases h
    rfl
  · cases h

theorem checkedAdd_of_lt {bits a b : Nat} (h : a + b < 2 ^ bits) : checkedAdd bits a b = .ok (a + b) :=
  if_pos h

namespace Pool

section Sound

variable {net : Network σ} {ok : Request → Prop} {R : σ → σ → Prop} (hK : net.Keeps ok R)
  {r : Request} (hr : ok r)

include hK hr

theorem retrying_run (c : PoolConfig) (i : Nat) :
    ∀ (n k : Nat) {s s' : σ} {res : Except NodeError r.Answer},
      ((retrying c i r k n).run net).run.run s = .ok (res, s') →
      R s s' ∧ ∀ x, res = .ok x → net.Answered R i r x s s'
  | 0, k, s, s', res, h => by
    rw [retrying, Job.run_request] at h
    exact ⟨hK.serve hr h, fun x hx => ⟨s, s', hK.refl s, hx ▸ h, hK.refl s'⟩⟩
  | n + 1, k, s, s', res, h => by
    rw [retrying, Job.monad_tryCatch, Job.run_tryCatch] at h
    rcases run_tryCatch_eq_ok h with ⟨a, ha, rfl⟩ | ⟨e, s₁, he, h⟩
    · rw [Job.run_request] at ha
      exact ⟨hK.serve hr ha, fun x hx => by
        cases hx
        exact ⟨s, s', hK.refl s, ha, hK.refl s'⟩⟩
    rw [Job.run_request] at he
    have h₁ := hK.serve hr he
    split at h
    · -- a transient error: wait, then ask again
      rcases run_bind_eq_ok h with ⟨e', he', -⟩ | ⟨_, s₂, hwait, h⟩
      · cases he'
      cases hwait
      obtain ⟨hR, hans⟩ := retrying_run c i n (k + 1) h
      have h₂ := hK.trans h₁ (hK.wait (c.backoff k) s₁)
      exact ⟨hK.trans h₂ hR, fun x hx => (hans x hx).before hK h₂⟩
    · cases h
      exact ⟨h₁, fun x hx => nomatch hx⟩

theorem readOnce_run (p : Pool σ) (i : Nat) {s s' : σ} {res : Except NodeError r.Answer}
    (h : ((p.readOnce i r).run net).run.run s = .ok (res, s')) :
    R s s' ∧ ∀ x, res = .ok x → net.Answered R i r x s s' := by
  rw [readOnce, Job.run_ofFault_bind] at h
  split at h
  · exact retrying_run hK hr p.config i _ 0 h
  · cases h

theorem failover_run (p : Pool σ) (start : Nat) :
    ∀ (ks : List Nat) (last notFound : Option NodeError) {s s' : σ}
      {res : Except NodeError (Nat × r.Answer)},
      ((p.failover r start ks last notFound).run net).run.run s = .ok (res, s') →
      R s s' ∧ ∀ i x, res = .ok (i, x) →
        (∃ k ∈ ks, i = (start + k) % p.net.size) ∧ net.Answered R i r x s s'
  | [], last, notFound, s, s', res, h => by
    cases h
    exact ⟨hK.refl s, fun i x hx => nomatch hx⟩
  | k :: ks, last, notFound, s, s', res, h => by
    rw [failover, Job.run_ofFault_bind] at h
    split at h
    case h_2 => cases h
    rename_i v hv
    dsimp only at h
    rw [Job.monad_tryCatch, Job.run_tryCatch] at h
    rcases run_tryCatch_eq_ok h with ⟨a, ha, rfl⟩ | ⟨e, s₁, he, h⟩
    · -- the node at offset `k` answered
      rw [Job.run_map] at ha
      obtain ⟨res₀, h₀, hres₀⟩ := run_map_eq_ok ha
      obtain ⟨hR, hans⟩ := readOnce_run hK hr p _ h₀
      refine ⟨hR, fun i x hx => ?_⟩
      cases res₀ with
      | error e => cases hres₀
      | ok y =>
        cases hres₀
        cases hx
        exact ⟨⟨k, List.mem_cons_self, by rw [checkedAdd_eq_ok hv]⟩, hans _ rfl⟩
    · -- it failed: the rest of the offsets from where it left the state
      rw [Job.run_map] at he
      obtain ⟨res₀, h₀, -⟩ := run_map_eq_ok he
      have h₁ := (readOnce_run hK hr p _ h₀).1
      have hrest : ∀ {last notFound},
          ((p.failover r start ks last notFound).run net).run.run s₁ = .ok (res, s') →
          R s s' ∧ ∀ i x, res = .ok (i, x) →
            (∃ k' ∈ k :: ks, i = (start + k') % p.net.size) ∧ net.Answered R i r x s s' := by
        intro last notFound h
        obtain ⟨hR, hans⟩ := failover_run p start ks last notFound h
        refine ⟨hK.trans h₁ hR, fun i x hx => ?_⟩
        obtain ⟨⟨k', hk', hi⟩, hx⟩ := hans i x hx
        exact ⟨⟨k', List.mem_cons_of_mem k hk', hi⟩, hx.before hK h₁⟩
      split at h
      · exact hrest h
      · exact hrest h

theorem readIndexed_run (p : Pool σ) (start : Nat) {s s' : σ}
    {res : Except NodeError (Nat × r.Answer)}
    (h : ((p.readIndexed start r).run net).run.run s = .ok (res, s')) :
    R s s' ∧ ∀ i x, res = .ok (i, x) → i < p.net.size ∧ net.Answered R i r x s s' := by
  obtain ⟨hR, hans⟩ := failover_run hK hr p start _ none none h
  refine ⟨hR, fun i x hx => ?_⟩
  obtain ⟨⟨k, hk, rfl⟩, hx⟩ := hans i x hx
  exact ⟨Nat.mod_lt _ (Nat.pos_of_ne_zero fun h0 => by simp [h0] at hk), hx⟩

theorem readOn_run (p : Pool σ) (index : Nat) {s s' : σ} {res : Except NodeError r.Answer}
    (h : ((p.readOn index r).run net).run.run s = .ok (res, s')) :
    R s s' ∧ ∀ x, res = .ok x → net.Answered R (index % p.net.size) r x s s' :=
  readOnce_run hK hr p _ h

end Sound

/-! ### A node that answers at once -/

section Answer

variable {net : Network σ} {r : Request} {x : r.Answer} {s s' : σ}

theorem retrying_of_answer (c : PoolConfig) {i : Nat}
    (hx : net.serve i r s = .ok (.ok x, s')) :
    ∀ n k, ((retrying c i r k n).run net).run.run s = .ok (.ok x, s')
  | 0, k => by rw [retrying, Job.run_request, hx]
  | n + 1, k => by
    rw [retrying, Job.monad_tryCatch, Job.run_tryCatch, run_tryCatch, Job.run_request, hx]
    rfl

variable {p : Pool σ} (hretries : p.config.transportRetries.toNat + 1 < 2 ^ 32)
include hretries

theorem readOnce_of_answer {i : Nat} (hx : net.serve i r s = .ok (.ok x, s')) :
    ((p.readOnce i r).run net).run.run s = .ok (.ok x, s') := by
  rw [readOnce, Job.run_ofFault_bind, PoolConfig.attempts, checkedAdd_of_lt hretries]
  exact retrying_of_answer p.config hx _ 0

theorem failover_of_answer {start k : Nat} (hk : start + k < 2 ^ 64)
    (hx : net.serve ((start + k) % p.net.size) r s = .ok (.ok x, s'))
    (ks : List Nat) (last notFound : Option NodeError) :
    ((p.failover r start (k :: ks) last notFound).run net).run.run s =
      .ok (.ok ((start + k) % p.net.size, x), s') := by
  rw [failover, Job.run_ofFault_bind, checkedAdd_of_lt hk]
  dsimp only
  rw [Job.monad_tryCatch, Job.run_tryCatch, run_tryCatch, Job.run_map, Session.run_map,
    readOnce_of_answer hretries hx]
  rfl

theorem readIndexed_of_answer (hsize : 0 < p.net.size) {start : Nat} (hstart : start < 2 ^ 64)
    (hx : net.serve (start % p.net.size) r s = .ok (.ok x, s')) :
    ((p.readIndexed start r).run net).run.run s = .ok (.ok (start % p.net.size, x), s') := by
  obtain ⟨m, hm⟩ := Nat.exists_eq_add_one_of_ne_zero (Nat.pos_iff_ne_zero.1 hsize)
  rw [readIndexed, hm, List.range_succ_eq_map, ← hm]
  exact failover_of_answer hretries (k := 0) hstart hx _ none none

theorem readOn_of_answer {index : Nat} (hx : net.serve (index % p.net.size) r s = .ok (.ok x, s')) :
    ((p.readOn index r).run net).run.run s = .ok (.ok x, s') :=
  readOnce_of_answer hretries hx

theorem read_of_answer (hsize : 0 < p.net.size) (hx : net.serve 0 r s = .ok (.ok x, s')) :
    ((p.read r).run net).run.run s = .ok (.ok x, s') := by
  have hstart : 0 % p.net.size = 0 := Nat.zero_mod _
  rw [read, Job.run_map, Session.run_map,
    readIndexed_of_answer hretries hsize (Nat.two_pow_pos 64) (by rw [hstart]; exact hx)]
  rfl

end Answer

end Pool

end DagWallet
