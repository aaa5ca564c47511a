import Mathlib
import DagWallet.Pool.Basic

/-!
Two views of a job that do not depend on how it is scheduled. How often a job may wait, along
every course of answers, bounds the work of the scheduler that runs it beside others. What is
left of a job once the network has answered some of its requests is what the scheduler holds
between two polls, and a job yields a result when one course of answers leads it there.
-/

namespace DagWallet

theorem except_ok_bind {ε α β : Type} (a : α) (f : α → Except ε β) :
    (Except.ok a >>= f) = f a := rfl

namespace Job

variable {ε ε' α β σ : Type}

/-- Along every course of answers, the job waits at most `w` times. -/
inductive WaitsAtMost : Nat → Job ε α → Prop
  | done (w : Nat) (r : Except ε α) : WaitsAtMost w (.done r)
  | halt (w : Nat) (x : Fault) : WaitsAtMost w (.halt x)
  | ask {w : Nat} {i : Nat} {r : Request} {k : Except NodeError r.Answer → Job ε α} :
    (∀ x, WaitsAtMost w (k x)) → WaitsAtMost w (.ask i r k)
  | wait {w d : Nat} {k : Job ε α} : WaitsAtMost w k → WaitsAtMost (w + 1) (.wait d k)

/-- A job that is a wait, whatever it goes on with. -/
def IsWait : Job ε α → Prop
  | .wait .. => True
  | _ => False

/-- What is left of a job after the network answered some of its requests and some of its
waits were over. -/
inductive Leads (net : Network σ) : Job ε α → Job ε α → Prop
  | refl (j : Job ε α) : Leads net j j
  | ask {i : Nat} {r : Request} {k : Except NodeError r.Answer → Job ε α} {j : Job ε α}
    {x : Except NodeError r.Answer} {s s' : σ} :
    net.serve i r s = .ok (x, s') → Leads net (k x) j → Leads net (.ask i r k) j
  | wait {d : Nat} {k j : Job ε α} : Leads net k j → Leads net (.wait d k) j

/-- The job ends with `r` along some course of answers of the network. -/
def Yields (net : Network σ) (j : Job ε α) (r : Except ε α) : Prop :=
  Leads net j (.done r)

namespace WaitsAtMost

theorem mono {w w' : Nat} {j : Job ε α} (h : WaitsAtMost w j) (hle : w ≤ w') :
    WaitsAtMost w' j := by
  induction h generalizing w' with
  | done => exact .done _ _
  | halt => exact .halt _ _
  | ask _ ih => exact .ask fun x => ih x hle
  | wait _ ih =>
    obtain ⟨w'', rfl⟩ := Nat.exists_eq_add_of_le hle
    rw [Nat.add_right_comm]
    exact .wait (ih (Nat.le_add_right _ _))

theorem of_wait {w d : Nat} {k : Job ε α} (h : WaitsAtMost w (.wait d k)) :
    1 ≤ w ∧ WaitsAtMost (w - 1) k := by
  cases h with
  | wait hk => exact ⟨Nat.le_add_left _ _, hk⟩

theorem of_ask {w i : Nat} {r : Request} {k : Except NodeError r.Answer → Job ε α}
    (h : WaitsAtMost w (.ask i r k)) (x : Except NodeError r.Answer) : WaitsAtMost w (k x) := by
  cases h with
  | ask hk => exact hk x

theorem leads {net : Network σ} {w : Nat} {j j' : Job ε α} (h : WaitsAtMost w j)
    (hl : Leads net j j') : WaitsAtMost w j' := by
  induction hl generalizing w with
  | refl => exact h
  | ask _ _ ih => exact ih (h.of_ask _)
  | wait _ ih =>
    obtain ⟨hw, hk⟩ := h.of_wait
    exact (ih hk).mono (Nat.sub_le _ _)

theorem bind {a b : Nat} {j : Job ε α} {f : α → Job ε β} (hj : WaitsAtMost a j)
    (hf : ∀ x, WaitsAtMost b (f x)) : WaitsAtMost (a + b) (j.bind f) := by
  induction hj with
  | done w r =>
    cases r with
    | ok x => exact (hf x).mono (Nat.le_add_left _ _)
    | error e => exact .done _ _
  | halt => exact .halt _ _
  | ask _ ih => exact .ask ih
  | wait _ ih =>
    rw [Nat.add_right_comm]
    exact .wait ih

theorem tryCatch {a b : Nat} {j : Job ε α} {h : ε → Job ε α} (hj : WaitsAtMost a j)
    (hh : ∀ e, WaitsAtMost b (h e)) : WaitsAtMost (a + b) (j.tryCatch h) := by
  induction hj with
  | done w r =>
    cases r with
    | ok x => exact .done _ _
    | error e => exact (hh e).mono (Nat.le_add_left _ _)
  | halt => exact .halt _ _
  | ask _ ih => exact .ask ih
  | wait _ ih =>
    rw [Nat.add_right_comm]
    exact .wait ih

theorem mapError {w : Nat} {j : Job ε α} (g : ε → ε') (hj : WaitsAtMost w j) :
    WaitsAtMost w (j.mapError g) := by
  induction hj with
  | done => exact .done _ _
  | halt => exact .halt _ _
  | ask _ ih => exact .ask ih
  | wait _ ih => exact .wait ih

theorem result {w : Nat} {j : Job ε α} (hj : WaitsAtMost w j) :
    WaitsAtMost w (j.result : Job ε' (Except ε α)) := by
  induction hj with
  | done => exact .done _ _
  | halt => exact .halt _ _
  | ask _ ih => exact .ask ih
  | wait _ ih => exact .wait ih

theorem map {w : Nat} {j : Job ε α} (f : α → β) (hj : WaitsAtMost w j) :
    WaitsAtMost w (f <$> j) := by
  have h := hj.bind (b := 0) (f := fun a => (pure (f a) : Job ε β)) fun _ => .done _ _
  exact h

theorem request (w i : Nat) (r : Request) : WaitsAtMost w (Job.request i r) :=
  .ask fun _ => .done _ _

theorem ofFault_bind {a : Nat} (x : Except Fault α) {f : α → Job ε β}
    (hf : ∀ y, x = .ok y → WaitsAtMost a (f y)) : WaitsAtMost a (Job.ofFault x >>= f) := by
  cases x with
  | error fault => exact .halt _ _
  | ok y => exact hf y rfl

end WaitsAtMost

/-- The fewest waits that bound the job along every course of answers; zero for a job that no
number bounds. -/
noncomputable def waitBound (j : Job ε α) : Nat :=
  sInf {w | WaitsAtMost w j}

theorem waitBound_le {w : Nat} {j : Job ε α} (h : WaitsAtMost w j) : waitBound j ≤ w :=
  Nat.sInf_le h

theorem waitsAtMost_waitBound {w : Nat} {j : Job ε α} (h : WaitsAtMost w j) :
    WaitsAtMost (waitBound j) j :=
  Nat.sInf_mem (s := {w | WaitsAtMost w j}) ⟨w, h⟩

theorem waitBound_leads {net : Network σ} {w : Nat} {j j' : Job ε α} (h : WaitsAtMost w j)
    (hl : Leads net j j') : waitBound j' ≤ waitBound j :=
  waitBound_le ((waitsAtMost_waitBound h).leads hl)

theorem waitBound_wait {w d : Nat} {k : Job ε α} (h : WaitsAtMost w (.wait d k)) :
    waitBound k + 1 ≤ waitBound (.wait d k) := by
  obtain ⟨hw, hk⟩ := (waitsAtMost_waitBound h).of_wait
  have := waitBound_le hk
  omega

theorem one_le_waitBound {w : Nat} {j : Job ε α} (hj : j.IsWait) (h : WaitsAtMost w j) :
    1 ≤ waitBound j := by
  cases j with
  | wait d k => exact Nat.le_trans (Nat.le_add_left 1 _) (waitBound_wait h)
  | _ => exact hj.elim

theorem Leads.trans {net : Network σ} {j₁ j₂ j₃ : Job ε α} (h₁ : Leads net j₁ j₂)
    (h₂ : Leads net j₂ j₃) : Leads net j₁ j₃ := by
  induction h₁ with
  | refl => exact h₂
  | ask hs _ ih => exact .ask hs (ih h₂)
  | wait _ ih => exact .wait (ih h₂)

/-! ### What a job yields -/

section Yields

variable {net : Network σ} {r : Except ε α}

theorem yields_done {r' : Except ε α} (h : Yields net (.done r') r) : r = r' := by
  cases h
  rfl

theorem yields_ask {i : Nat} {q : Request} {k : Except NodeError q.Answer → Job ε α}
    (h : Yields net (.ask i q k) r) : ∃ x s s', net.serve i q s = .ok (x, s') ∧ Yields net (k x) r := by
  cases h with
  | ask hs hk => exact ⟨_, _, _, hs, hk⟩

theorem yields_wait {d : Nat} {k : Job ε α} (h : Yields net (.wait d k) r) : Yields net k r := by
  cases h with
  | wait hk => exact hk

theorem not_yields_halt {x : Fault} : ¬ Yields net (.halt x : Job ε α) r := by
  intro h
  cases h

theorem yields_bind {j : Job ε α} {f : α → Job ε β} {r : Except ε β} (h : Yields net (j.bind f) r) :
    (∃ a, Yields net j (.ok a) ∧ Yields net (f a) r) ∨ ∃ e, Yields net j (.error e) ∧ r = .error e := by
  induction j with
  | done res =>
    cases res with
    | ok a => exact .inl ⟨a, .refl _, h⟩
    | error e => exact .inr ⟨e, .refl _, yields_done h⟩
  | ask i q k ih =>
    obtain ⟨x, s, s', hs, hk⟩ := yields_ask h
    rcases ih x hk with ⟨a, ha, hf⟩ | ⟨e, he, rfl⟩
    · exact .inl ⟨a, .ask hs ha, hf⟩
    · exact .inr ⟨e, .ask hs he, rfl⟩
  | wait d k ih =>
    rcases ih (yields_wait h) with ⟨a, ha, hf⟩ | ⟨e, he, rfl⟩
    · exact .inl ⟨a, .wait ha, hf⟩
    · exact .inr ⟨e, .wait he, rfl⟩
  | halt x => exact absurd h not_yields_halt

theorem yields_tryCatch {j : Job ε α} {g : ε → Job ε α} (h : Yields net (j.tryCatch g) r) :
    (∃ a, Yields net j (.ok a) ∧ r = .ok a) ∨ ∃ e, Yields net j (.error e) ∧ Yields net (g e) r := by
  induction j with
  | done res =>
    cases res with
    | ok a => exact .inl ⟨a, .refl _, yields_done h⟩
    | error e => exact .inr ⟨e, .refl _, h⟩
  | ask i q k ih =>
    obtain ⟨x, s, s', hs, hk⟩ := yields_ask h
    rcases ih x hk with ⟨a, ha, rfl⟩ | ⟨e, he, hg⟩
    · exact .inl ⟨a, .ask hs ha, rfl⟩
    · exact .inr ⟨e, .ask hs he, hg⟩
  | wait d k ih =>
    rcases ih (yields_wait h) with ⟨a, ha, rfl⟩ | ⟨e, he, hg⟩
    · exact .inl ⟨a, .wait ha, rfl⟩
    · exact .inr ⟨e, .wait he, hg⟩
  | halt x => exact absurd h not_yields_halt

theorem yields_map_ok {j : Job ε α} {g : α → β} {b : β} (h : Yields net (g <$> j) (.ok b)) :
    ∃ a, Yields net j (.ok a) ∧ b = g a := by
  rcases yields_bind (f := fun a => .done (.ok (g a))) h with ⟨a, ha, hf⟩ | ⟨e, -, he⟩
  · exact ⟨a, ha, Except.ok.inj (yields_done hf)⟩
  · cases he

theorem request_yields {i : Nat} {q : Request} {x : q.Answer}
    (h : Yields net (Job.request i q : Job NodeError q.Answer) (.ok x)) :
    ∃ s s', net.serve i q s = .ok (.ok x, s') := by
  obtain ⟨y, s, s', hs, hy⟩ := yields_ask h
  rw [← yields_done hy] at hs
  exact ⟨s, s', hs⟩

end Yields

end Job

namespace Pool

open Job

variable {σ : Type} (p : Pool σ)

theorem retrying_waits (c : PoolConfig) (i : Nat) (r : Request) :
    ∀ n k, WaitsAtMost n (retrying c i r k n)
  | 0, _ => .request _ _ _
  | n + 1, k => by
    have h := WaitsAtMost.tryCatch (a := 0) (b := n + 1) (.request _ i r) fun e =>
      (show WaitsAtMost (n + 1) (if e.isTransient then .wait (c.backoff k)
          (retrying c i r (k + 1) n) else throw e) by
        split
        · exact .wait (retrying_waits c i r n (k + 1))
        · exact .done _ _)
    rw [Nat.zero_add] at h
    exact h

theorem readOnce_waits (i : Nat) (r : Request) :
    WaitsAtMost p.config.transportRetries.toNat (p.readOnce i r) := by
  unfold readOnce
  refine WaitsAtMost.ofFault_bind _ fun n hn => (retrying_waits p.config i r (n - 1) 0).mono ?_
  unfold PoolConfig.attempts checkedAdd at hn
  split at hn
  · cases hn
    omega
  · cases hn

theorem failover_waits (r : Request) (start : Nat) :
    ∀ ks last notFound,
      WaitsAtMost (ks.length * p.config.transportRetries.toNat) (p.failover r start ks last notFound)
  | [], _, _ => .done _ _
  | k :: rest, last, notFound => by
    unfold failover
    refine WaitsAtMost.ofFault_bind _ fun i _ => ?_
    rw [List.length_cons, Nat.succ_mul, Nat.add_comm]
    refine WaitsAtMost.tryCatch ((p.readOnce_waits _ r).map _) fun e => ?_
    split
    · exact failover_waits r start rest last (some e)
    · exact failover_waits r start rest (some e) notFound

theorem readIndexed_waits (start : Nat) (r : Request) :
    WaitsAtMost (p.net.size * p.config.transportRetries.toNat) (p.readIndexed start r) := by
  have h := p.failover_waits r start (List.range p.net.size) none none
  rw [List.length_range] at h
  exact h

theorem readOn_waits (index : Nat) (r : Request) :
    WaitsAtMost p.config.transportRetries.toNat (p.readOn index r) :=
  p.readOnce_waits _ r

/-! ### What a read yields -/

section Yields

variable {r : Request} {x : r.Answer}

theorem retrying_yields (c : PoolConfig) (i : Nat) :
    ∀ n k, Yields p.net (retrying c i r k n) (.ok x) → ∃ s s', p.net.serve i r s = .ok (.ok x, s')
  | 0, _, h => request_yields h
  | n + 1, k, h => by
    rcases yields_tryCatch h with ⟨a, ha, hx⟩ | ⟨e, -, hg⟩
    · cases hx
      exact request_yields ha
    · -- a transient error is retried after a wait; any other is handed on
      split at hg
      · exact retrying_yields c i n (k + 1) (yields_wait hg)
      · cases yields_done hg

theorem readOnce_yields (i : Nat) (h : Yields p.net (p.readOnce i r) (.ok x)) :
    ∃ s s', p.net.serve i r s = .ok (.ok x, s') := by
  rcases yields_bind h with ⟨n, -, hf⟩ | ⟨e, -, he⟩
  · exact p.retrying_yields p.config i (n - 1) 0 hf
  · cases he

theorem failover_yields (start : Nat) {i : Nat} :
    ∀ ks last notFound, Yields p.net (p.failover r start ks last notFound) (.ok (i, x)) →
      ∃ s s', p.net.serve i r s = .ok (.ok x, s')
  | [], _, _, h => by cases yields_done h
  | k :: ks, last, notFound, h => by
    rcases yields_bind h with ⟨v, -, hf⟩ | ⟨e, -, he⟩
    · rcases yields_tryCatch hf with ⟨a, ha, hx⟩ | ⟨e, -, hg⟩
      · obtain ⟨y, hy, rfl⟩ := yields_map_ok ha
        cases hx
        exact p.readOnce_yields _ hy
      · split at hg
        · exact failover_yields start ks last (some e) hg
        · exact failover_yields start ks (some e) notFound hg
    · cases he

theorem read_yields (h : Yields p.net (p.read r) (.ok x)) :
    ∃ i s s', p.net.serve i r s = .ok (.ok x, s') := by
  obtain ⟨⟨i, y⟩, hy, rfl⟩ := yields_map_ok h
  exact ⟨i, p.failover_yields 0 _ none none hy⟩

end Yields

end Pool

end DagWallet
