import DagWallet.Proofs.Session
import DagWallet.Wallet.Consolidation
import DagWallet.Node.Cluster

/-!
How a consolidation aborts. Addresses are swept strictly in order and each chunk of an
address's outputs is moved and confirmed before the next; the first failure ends the
consolidation with everything completed before it. The abort names the index that failed,
the address if it was derived, and the error, and nothing past that index is touched.

A sweep started from transfers already completed behaves as one started from nothing with those
transfers put in front (`sweep_run`), so the report of a consolidation is the reports of its
indices in order, and an abort is the report up to the failing index followed by that index's
own failure, `SweepAborts`.
-/

namespace DagWallet

namespace Session

variable {σ ε ε' α β : Type} {x : Session σ ε α} {s s' : σ}

theorem run_map_pure (g : α → β) (s : σ) :
    (x >>= fun a => pure (g a)).run.run s = (x.run.run s).map fun p => (p.1.map g, p.2) := by
  show (x.run.run s).bind _ = _
  cases x.run.run s with
  | error f => rfl
  | ok p =>
    obtain ⟨r, s'⟩ := p
    cases r <;> rfl

theorem always_bind_of {f : α → Session σ ε β} {Q : Except ε β → Prop}
    (he : ∀ e, Q (.error e)) (hf : ∀ a, (f a).Always Q) : (x >>= f).Always Q :=
  always_bind (always_of_forall x fun r => by
    cases r with
    | error e => exact he e
    | ok a => exact hf a)

theorem run_result_ok {r : Except ε α} (h : x.run.run s = .ok (r, s')) :
    (x.result : Session σ ε' (Except ε α)).run.run s = .ok (.ok r, s') := by
  rw [run_result, h]
  rfl

end Session

namespace Wallet

variable {σ : Type} (w : Wallet σ) (signer : Signer) (account : UInt32)

/-! ### One step of each loop -/

section Steps

variable (index : UInt32) (source target : Address) (s : σ)

theorem transferAll_run_cons (done : List Transfer) (chunk : List OutputResponse)
    (rest : List (List OutputResponse)) :
    (w.transferAll signer account index source target done (chunk :: rest)).run.run s =
      match (w.transfer signer account index source target chunk).run.run s with
      | .error f => .error f
      | .ok (.ok t, s₁) =>
        (w.transferAll signer account index source target (done ++ [t]) rest).run.run s₁
      | .ok (.error e, s₁) => .ok (.error (done, some source, e), s₁) := by
  rw [transferAll]
  cases hx : (w.transfer signer account index source target chunk).run.run s with
  | error f => exact Session.run_bind_fault _ (Session.run_result_fault hx)
  | ok p =>
    obtain ⟨r, s₁⟩ := p
    rw [Session.run_bind_ok _ (Session.run_result_ok hx)]
    cases r <;> rfl

theorem sweepAll_run_cons (done : List Transfer) (rest : List UInt32) :
    (w.sweepAll signer account target done (index :: rest)).run.run s =
      match (w.sweep signer account index target done).run.run s with
      | .error f => .error f
      | .ok (.ok d, s₁) => (w.sweepAll signer account target d rest).run.run s₁
      | .ok (.error (moved, failed, e), s₁) =>
        .ok (.error (.consolidationAborted target moved index failed e), s₁) := by
  rw [sweepAll]
  cases hx : (w.sweep signer account index target done).run.run s with
  | error f => exact Session.run_bind_fault _ (Session.run_result_fault hx)
  | ok p =>
    obtain ⟨r, s₁⟩ := p
    rw [Session.run_bind_ok _ (Session.run_result_ok hx)]
    rcases r with ⟨moved, failed, e⟩ | d <;> rfl

theorem sweep_run_cases (done : List Transfer) :
    (w.sweep signer account index target done).run.run s =
      match signer.address account index with
      | .error e => .ok (.error (done, none, .signing e), s)
      | .ok a =>
        if (w.pool.net.executor s).stopped then
          .ok (.error (done, some a, .consolidationCancelled), s)
        else match (w.findOutputs .basic [a]).run.run s with
          | .error f => .error f
          | .ok (.error e, s₁) => .ok (.error (done, some a, e), s₁)
          | .ok (.ok outputs, s₁) =>
            if outputs.all (·.output.amount == 0) then .ok (.ok done, s₁)
            else (w.transferAll signer account index a target done
              (chunksOf w.maxInputs outputs)).run.run s₁ := by
  unfold sweep
  cases signer.address account index with
  | error e => rfl
  | ok a =>
    have hstop : (w.pool.net.isStopped : Session σ SweepError Bool).run.run s =
        .ok (.ok (w.pool.net.executor s).stopped, s) := rfl
    simp only [pure_bind]
    rw [Session.run_bind_ok _ hstop]
    cases (w.pool.net.executor s).stopped with
    | true => rfl
    | false =>
      simp only [Bool.false_eq_true, if_false]
      cases hx : (w.findOutputs .basic [a]).run.run s with
      | error f => exact Session.run_bind_fault _ (Session.run_mapError_fault _ hx)
      | ok p =>
        obtain ⟨r, s₁⟩ := p
        have hmap : ((w.findOutputs .basic [a]).mapError fun e => (done, some a, e)).run.run s =
            .ok (r.mapError fun e => (done, some a, e), s₁) := by
          rw [Session.run_mapError, hx]
          rfl
        cases r with
        | error e => exact Session.run_bind_error _ hmap
        | ok outputs =>
          rw [Session.run_bind_ok _ hmap]
          dsimp only
          cases outputs.all (·.output.amount == 0) <;> rfl

end Steps

/-- The outcome of a sweep begun with the transfers `done`, from that of one begun with none. -/
def extend (done : List Transfer) : Except SweepError (List Transfer) → Except SweepError (List Transfer)
  | .ok ts => .ok (done ++ ts)
  | .error (moved, failed, e) => .error (done ++ moved, failed, e)

theorem extend_extend (a b : List Transfer) (r : Except SweepError (List Transfer)) :
    extend a (extend b r) = extend (a ++ b) r := by
  rcases r with ⟨moved, failed, e⟩ | ts <;> simp [extend]

/-! ### Transfers already completed only stand in front -/

theorem transferAll_run (index : UInt32) (source target : Address) :
    ∀ (chunks : List (List OutputResponse)) (done : List Transfer) (s : σ),
      (w.transferAll signer account index source target done chunks).run.run s =
        ((w.transferAll signer account index source target [] chunks).run.run s).map
          fun p => (extend done p.1, p.2)
  | [], done, s => by
    show Except.ok (Except.ok done, s) = Except.ok (extend done (.ok []), s)
    simp [extend]
  | chunk :: rest, done, s => by
    rw [transferAll_run_cons, transferAll_run_cons]
    rcases (w.transfer signer account index source target chunk).run.run s with
      f | ⟨_ | t, s₁⟩
    · rfl
    · simp [Except.map, extend]
    · -- both go on with the rest, from `done ++ [t]` and from `[t]`
      simp only [List.nil_append]
      rw [transferAll_run index source target rest (done ++ [t]) s₁,
        transferAll_run index source target rest [t] s₁]
      cases (w.transferAll signer account index source target [] rest).run.run s₁ with
      | error f => rfl
      | ok q => simp [Except.map, extend_extend]

theorem sweep_run (index : UInt32) (target : Address) (done : List Transfer) (s : σ) :
    (w.sweep signer account index target done).run.run s =
      ((w.sweep signer account index target []).run.run s).map fun p => (extend done p.1, p.2) := by
  rw [sweep_run_cases, sweep_run_cases]
  rcases signer.address account index with e | a
  · simp [Except.map, extend]
  · dsimp only
    cases (w.pool.net.executor s).stopped
    · simp only [Bool.false_eq_true, if_false]
      rcases (w.findOutputs .basic [a]).run.run s with f | ⟨_ | outputs, s₁⟩
      · rfl
      · simp [Except.map, extend]
      · dsimp only
        cases outputs.all (·.output.amount == 0)
        · exact transferAll_run w signer account index a target _ done s₁
        · simp [Except.map, extend]
    · simp [Except.map, extend]

theorem map_extend_error {done moved : List Transfer} {failed : Option Address} {e : WalletError}
    {x : Except Fault (Except SweepError (List Transfer) × σ)} {s' : σ}
    (h : x.map (fun p => (extend done p.1, p.2)) = .ok (.error (moved, failed, e), s')) :
    ∃ m, x = .ok (.error (m, failed, e), s') ∧ moved = done ++ m := by
  rcases x with f | ⟨⟨m, failed', e'⟩ | ts, s''⟩
  · cases h
  · cases h
    exact ⟨m, rfl, rfl⟩
  · cases h

theorem map_extend_ok {done ts : List Transfer} {x : Except Fault (Except SweepError (List Transfer) × σ)}
    {s' : σ} (h : x.map (fun p => (extend done p.1, p.2)) = .ok (.ok ts, s')) :
    ∃ m, x = .ok (.ok m, s') ∧ ts = done ++ m := by
  rcases x with f | ⟨⟨m, failed', e'⟩ | m, s''⟩
  · cases h
  · cases h
  · cases h
    exact ⟨m, rfl, rfl⟩

/-! ### The loops run their lists one element after another -/

theorem transferAll_append (index : UInt32) (source target : Address) :
    ∀ (xs ys : List (List OutputResponse)) (done : List Transfer),
      w.transferAll signer account index source target done (xs ++ ys) =
        w.transferAll signer account index source target done xs >>= fun d =>
          w.transferAll signer account index source target d ys
  | [], ys, done => by rw [List.nil_append, transferAll, pure_bind]
  | chunk :: xs, ys, done => by
    rw [List.cons_append, transferAll, transferAll, bind_assoc]
    congr 1
    funext r
    cases r with
    | ok t => exact transferAll_append index source target xs ys (done ++ [t])
    | error e => rfl

theorem sweepAll_append (target : Address) :
    ∀ (xs ys : List UInt32) (done : List Transfer),
      w.sweepAll signer account target done (xs ++ ys) =
        w.sweepAll signer account target done xs >>= fun d => w.sweepAll signer account target d ys
  | [], ys, done => by rw [List.nil_append, sweepAll, pure_bind]
  | index :: xs, ys, done => by
    rw [List.cons_append, sweepAll, sweepAll, bind_assoc]
    congr 1
    funext r
    rcases r with ⟨moved, failed, e⟩ | d
    · rfl
    · exact sweepAll_append target xs ys d

theorem transferAll_aborts (index : UInt32) (source target : Address) :
    ∀ (chunks : List (List OutputResponse)) {moved : List Transfer} {failed : Option Address}
      {e : WalletError} {s s' : σ},
      (w.transferAll signer account index source target [] chunks).run.run s =
          .ok (.error (moved, failed, e), s') →
        failed = some source ∧ ∃ before chunk after s₁, chunks = before ++ chunk :: after ∧
          (w.transferAll signer account index source target [] before).run.run s =
            .ok (.ok moved, s₁) ∧
          (w.transfer signer account index source target chunk).run.run s₁ = .ok (.error e, s')
  | [], _, _, _, _, _, h => by cases h
  | chunk :: rest, moved, failed, e, s, s', h => by
    rw [transferAll_run_cons] at h
    rcases hx : (w.transfer signer account index source target chunk).run.run s with
      f | ⟨e' | t, s₁⟩
    · rw [hx] at h
      cases h
    · rw [hx] at h
      cases h
      exact ⟨rfl, [], chunk, rest, s, rfl, rfl, hx⟩
    · -- the first chunk moved: the failure lies in the rest, after `[t]`
      rw [hx] at h
      dsimp only at h
      rw [List.nil_append, transferAll_run] at h
      obtain ⟨m, hm, rfl⟩ := map_extend_error h
      obtain ⟨hf, before, c, after, s₂, rfl, hb, hc⟩ := transferAll_aborts index source target rest hm
      refine ⟨hf, chunk :: before, c, after, s₂, rfl, ?_, hc⟩
      rw [transferAll_run_cons, hx]
      dsimp only
      rw [List.nil_append, transferAll_run, hb]
      rfl

theorem sweepAll_aborts (target : Address) :
    ∀ (xs : List UInt32) (done : List Transfer) {err : WalletError} {s s' : σ},
      (w.sweepAll signer account target done xs).run.run s = .ok (.error err, s') →
      ∃ pre i post d s₁ moved failed src, xs = pre ++ i :: post ∧
        (w.sweepAll signer account target done pre).run.run s = .ok (.ok d, s₁) ∧
        (w.sweep signer account i target d).run.run s₁ = .ok (.error (moved, failed, src), s') ∧
        err = .consolidationAborted target moved i failed src
  | [], done, _, _, _, h => by cases h
  | i :: rest, done, err, s, s', h => by
    rw [sweepAll_run_cons] at h
    rcases hx : (w.sweep signer account i target done).run.run s with
      f | ⟨⟨moved, failed, src⟩ | d, s₁⟩
    · rw [hx] at h
      cases h
    · rw [hx] at h
      cases h
      exact ⟨[], i, rest, done, s, moved, failed, src, rfl, rfl, hx, rfl⟩
    · rw [hx] at h
      obtain ⟨pre, j, post, d', s₂, moved, failed, src, rfl, hpre, hj, rfl⟩ :=
        sweepAll_aborts target rest d h
      refine ⟨i :: pre, j, post, d', s₂, moved, failed, src, rfl, ?_, hj, rfl⟩
      rw [sweepAll_run_cons, hx]
      exact hpre

/-! ### How the sweep of one address fails -/

/-- How sweeping address `index` of `account` into `target` fails from state `s`: with the
transfers it completed, the address if it was derived, the error, and the state it leaves. -/
inductive SweepAborts (w : Wallet σ) (signer : Signer) (account index : UInt32) (target : Address)
    (s : σ) : List Transfer → Option Address → WalletError → σ → Prop
  /-- The address cannot be derived; nothing is asked of any node. -/
  | derive {e : SignerError} : signer.address account index = .error e →
    SweepAborts w signer account index target s [] none (.signing e) s
  /-- The client was told to stop before the address's outputs were searched. -/
  | cancel {a : Address} : signer.address account index = .ok a →
    (w.pool.net.executor s).stopped = true →
    SweepAborts w signer account index target s [] (some a) .consolidationCancelled s
  /-- The search of the address's outputs failed. -/
  | search {a : Address} {e : WalletError} {s' : σ} : signer.address account index = .ok a →
    (w.pool.net.executor s).stopped = false →
    (w.findOutputs .basic [a]).run.run s = .ok (.error e, s') →
    SweepAborts w signer account index target s [] (some a) e s'
  /-- A chunk of the outputs could not be moved, after the chunks before it were. -/
  | transfer {a : Address} {outputs : List OutputResponse}
    {before after : List (List OutputResponse)} {chunk : List OutputResponse}
    {moved : List Transfer} {e : WalletError} {s₁ s₂ s' : σ} :
    signer.address account index = .ok a → (w.pool.net.executor s).stopped = false →
    (w.findOutputs .basic [a]).run.run s = .ok (.ok outputs, s₁) →
    outputs.all (·.output.amount == 0) = false →
    chunksOf w.maxInputs outputs = before ++ chunk :: after →
    (w.transferAll signer account index a target [] before).run.run s₁ = .ok (.ok moved, s₂) →
    (w.transfer signer account index a target chunk).run.run s₂ = .ok (.error e, s') →
    SweepAborts w signer account index target s moved (some a) e s'

theorem sweep_run_inv {index : UInt32} {target : Address} {s s' : σ}
    {r : Except SweepError (List Transfer)}
    (h : (w.sweep signer account index target []).run.run s = .ok (r, s')) :
    (∃ e, signer.address account index = .error e ∧ r = .error ([], none, .signing e) ∧ s' = s) ∨
    ∃ a, signer.address account index = .ok a ∧
      (((w.pool.net.executor s).stopped = true ∧
          r = .error ([], some a, .consolidationCancelled) ∧ s' = s) ∨
        ((w.pool.net.executor s).stopped = false ∧
          ((∃ e, (w.findOutputs .basic [a]).run.run s = .ok (.error e, s') ∧
              r = .error ([], some a, e)) ∨
            ∃ outputs s₁, (w.findOutputs .basic [a]).run.run s = .ok (.ok outputs, s₁) ∧
              ((outputs.all (·.output.amount == 0) = true ∧ r = .ok [] ∧ s' = s₁) ∨
                (outputs.all (·.output.amount == 0) = false ∧
                  (w.transferAll signer account index a target []
                    (chunksOf w.maxInputs outputs)).run.run s₁ = .ok (r, s')))))) := by
  rw [sweep_run_cases] at h
  rcases ha : signer.address account index with e | a
  · rw [ha] at h
    cases h
    exact .inl ⟨e, rfl, rfl, rfl⟩
  rw [ha] at h
  dsimp only at h
  refine .inr ⟨a, rfl, ?_⟩
  cases hstop : (w.pool.net.executor s).stopped
  case true =>
    rw [hstop] at h
    cases h
    exact .inl ⟨rfl, rfl, rfl⟩
  rw [hstop] at h
  simp only [Bool.false_eq_true, if_false] at h
  refine .inr ⟨rfl, ?_⟩
  rcases hx : (w.findOutputs .basic [a]).run.run s with f | ⟨e | outputs, s₁⟩
  · rw [hx] at h
    cases h
  · rw [hx] at h
    cases h
    exact .inl ⟨e, rfl, rfl⟩
  rw [hx] at h
  dsimp only at h
  refine .inr ⟨outputs, s₁, rfl, ?_⟩
  cases hall : outputs.all (·.output.amount == 0)
  · rw [hall] at h
    exact .inr ⟨rfl, h⟩
  · rw [hall] at h
    cases h
    exact .inl ⟨rfl, rfl, rfl⟩

theorem sweep_aborts_iff {index : UInt32} {target : Address} {s s' : σ} {moved : List Transfer}
    {failed : Option Address} {e : WalletError} :
    (w.sweep signer account index target []).run.run s = .ok (.error (moved, failed, e), s') ↔
      SweepAborts w signer account index target s moved failed e s' := by
  constructor
  · intro h
    rcases sweep_run_inv w signer account h with ⟨e', ha, he, rfl⟩ |
      ⟨a, ha, ⟨hstop, he, rfl⟩ | ⟨hstop, ⟨e', hx, he⟩ | ⟨outputs, s₁, hx, ⟨hall, he, rfl⟩ |
        ⟨hall, hrun⟩⟩⟩⟩
    · cases he
      exact .derive ha
    · cases he
      exact .cancel ha hstop
    · cases he
      exact .search ha hstop hx
    · cases he
    · obtain ⟨rfl, before, chunk, after, s₂, hsplit, hb, hc⟩ :=
        transferAll_aborts w signer account index a target _ hrun
      exact .transfer ha hstop hx hall hsplit hb hc
  · intro h
    rw [sweep_run_cases]
    cases h with
    | derive ha => rw [ha]
    | cancel ha hstop =>
      rw [ha]
      dsimp only
      rw [hstop, if_pos rfl]
    | search ha hstop hx =>
      rw [ha]
      dsimp only
      rw [hstop]
      simp only [Bool.false_eq_true, if_false]
      rw [hx]
    | transfer ha hstop hx hall hsplit hb hc =>
      rw [ha]
      dsimp only
      rw [hstop]
      simp only [Bool.false_eq_true, if_false]
      rw [hx]
      dsimp only
      rw [hall, if_neg Bool.false_ne_true, hsplit, transferAll_append,
        Session.run_bind_ok _ hb, transferAll_run_cons, hc]

/-! ### Transfers name the index they come from -/

theorem transfer_index (index : UInt32) (source target : Address) (chunk : List OutputResponse) :
    (w.transfer signer account index source target chunk).Always
      fun r => ∀ t, r = .ok t → t.addressIndex = index := by
  have he : ∀ e : WalletError, ∀ t, (Except.error e : Except WalletError Transfer) = .ok t →
      t.addressIndex = index := fun _ _ h => by cases h
  unfold transfer
  refine Session.always_bind_of he fun _ => Session.always_bind_of he fun _ =>
    Session.always_bind_of he fun _ => Session.always_bind_of he fun _ =>
      Session.always_bind_of he fun _ => Session.always_pure ?_
  intro t h
  cases h
  rfl

theorem transferAll_ok (index : UInt32) (source target : Address) :
    ∀ (chunks : List (List OutputResponse)) (done : List Transfer) {ts : List Transfer} {s s' : σ},
      (w.transferAll signer account index source target done chunks).run.run s = .ok (.ok ts, s') →
      ∀ t ∈ ts, t ∈ done ∨ t.addressIndex = index
  | [], done, ts, s, s', h => by
    cases h
    exact fun t ht => .inl ht
  | chunk :: rest, done, ts, s, s', h => by
    rw [transferAll_run_cons] at h
    rcases hx : (w.transfer signer account index source target chunk).run.run s with
      f | ⟨e | t, s₁⟩
    · rw [hx] at h
      cases h
    · rw [hx] at h
      cases h
    rw [hx] at h
    have ht : t.addressIndex = index := transfer_index w signer account index source target chunk
      s _ s₁ hx t rfl
    intro u hu
    rcases transferAll_ok index source target rest (done ++ [t]) h u hu with hu | hu
    · rcases List.mem_append.1 hu with hu | hu
      · exact .inl hu
      · rw [List.mem_singleton.1 hu]
        exact .inr ht
    · exact .inr hu

theorem sweep_ok {index : UInt32} {target : Address} {done ts : List Transfer} {s s' : σ}
    (h : (w.sweep signer account index target done).run.run s = .ok (.ok ts, s')) :
    ∃ m, ts = done ++ m ∧ ∀ t ∈ m, t.addressIndex = index := by
  rw [sweep_run] at h
  obtain ⟨m, hm, rfl⟩ := map_extend_ok h
  refine ⟨m, rfl, ?_⟩
  rcases sweep_run_inv w signer account hm with ⟨_, -, he, -⟩ |
    ⟨a, -, ⟨-, he, -⟩ | ⟨-, ⟨_, -, he⟩ | ⟨outputs, s₁, -, ⟨-, he, -⟩ | ⟨-, hrun⟩⟩⟩⟩
  · cases he
  · cases he
  · cases he
  · cases he
    intro t ht
    cases ht
  · intro t ht
    simpa using transferAll_ok w signer account index a target _ [] hrun t ht

theorem SweepAborts.index {index : UInt32} {target : Address} {s s' : σ} {moved : List Transfer}
    {failed : Option Address} {e : WalletError}
    (h : SweepAborts w signer account index target s moved failed e s') :
    ∀ t ∈ moved, t.addressIndex = index := by
  cases h with
  | transfer _ _ _ _ _ hb _ =>
    intro t ht
    simpa using transferAll_ok w signer account index _ target _ [] hb t ht
  | _ => intro t ht; cases ht

theorem sweepAll_ok (target : Address) :
    ∀ (xs : List UInt32) (done : List Transfer) {ts : List Transfer} {s s' : σ},
      xs.Pairwise (· < ·) →
      (w.sweepAll signer account target done xs).run.run s = .ok (.ok ts, s') →
      ∃ m, ts = done ++ m ∧ m.Pairwise (fun t u => t.addressIndex ≤ u.addressIndex) ∧
        ∀ t ∈ m, t.addressIndex ∈ xs
  | [], done, ts, s, s', _, h => by
    cases h
    exact ⟨[], by simp, .nil, fun t ht => by cases ht⟩
  | i :: rest, done, ts, s, s', hxs, h => by
    rw [List.pairwise_cons] at hxs
    rw [sweepAll_run_cons] at h
    rcases hx : (w.sweep signer account i target done).run.run s with
      f | ⟨⟨moved, failed, e⟩ | d, s₁⟩
    · rw [hx] at h
      cases h
    · rw [hx] at h
      cases h
    rw [hx] at h
    obtain ⟨mi, rfl, hmi⟩ := sweep_ok w signer account hx
    obtain ⟨mr, rfl, hsorted, hmr⟩ := sweepAll_ok target rest _ hxs.2 h
    refine ⟨mi ++ mr, by rw [List.append_assoc], ?_, ?_⟩
    · -- the index's own transfers share one index, and every later index is larger
      refine List.pairwise_append.2 ⟨List.pairwise_of_forall_mem_list fun t ht u hu => ?_,
        hsorted, fun t ht u hu => ?_⟩
      · rw [hmi t ht, hmi u hu]
        exact UInt32.le_refl i
      · rw [hmi t ht]
        exact UInt32.le_of_lt (hxs.1 _ (hmr u hu))
    · intro t ht
      rcases List.mem_append.1 ht with ht | ht
      · exact hmi t ht ▸ List.mem_cons_self
      · exact List.mem_cons_of_mem i (hmr t ht)

/-! ### Only the addresses swept and their own signatures matter -/

section Congr

variable (signer' : Signer)

/-- The signer answers as `signer` for every signing of inputs of index `index`. -/
def SignsAlike (index : UInt32) : Prop :=
  ∀ essence entries, (∀ d ∈ entries, SigningInput.index d = index) →
    signer'.sign essence entries = signer.sign essence entries

theorem transfer_congr {index : UInt32} (hsign : SignsAlike signer signer' index)
    (source target : Address) (chunk : List OutputResponse) :
    w.transfer signer' account index source target chunk =
      w.transfer signer account index source target chunk := by
  have h := fun essence => hsign essence
    (chunk.map fun r => SigningInput.mk r.outputId r.output account index) (by simp)
  unfold transfer
  simp only [h]

theorem transferAll_congr {index : UInt32} (hsign : SignsAlike signer signer' index)
    (source target : Address) :
    ∀ (done : List Transfer) (chunks : List (List OutputResponse)),
      w.transferAll signer' account index source target done chunks =
        w.transferAll signer account index source target done chunks
  | done, [] => rfl
  | done, chunk :: rest => by
    rw [transferAll, transferAll, transfer_congr w signer account signer' hsign]
    congr 1
    funext r
    cases r with
    | ok t => exact transferAll_congr hsign source target (done ++ [t]) rest
    | error e => rfl

theorem sweep_congr {index : UInt32}
    (haddr : signer'.address account index = signer.address account index)
    (hsign : SignsAlike signer signer' index) (target : Address) (done : List Transfer) :
    w.sweep signer' account index target done = w.sweep signer account index target done := by
  unfold sweep
  rw [haddr]
  simp only [transferAll_congr w signer account signer' hsign]

theorem sweepAll_congr :
    ∀ (xs : List UInt32), (∀ i ∈ xs, signer'.address account i = signer.address account i ∧
        SignsAlike signer signer' i) →
      ∀ target done, w.sweepAll signer' account target done xs = w.sweepAll signer account target done xs
  | [], _, target, done => rfl
  | i :: rest, h, target, done => by
    obtain ⟨haddr, hsign⟩ := h i List.mem_cons_self
    rw [sweepAll, sweepAll, sweep_congr w signer account signer' haddr hsign]
    congr 1
    funext r
    rcases r with ⟨moved, failed, e⟩ | d
    · rfl
    · exact sweepAll_congr rest (fun j hj => h j (List.mem_cons_of_mem i hj)) target d

end Congr

/-! ### The indices of a range -/

/-- The indices a consolidation of `start`, …, `stop - 1` sweeps: those after the target. -/
def sweptIndices (start stop : UInt32) : List UInt32 :=
  (List.range (stop.toNat - start.toNat - 1)).map fun k => (start.toNat + 1 + k).toUInt32

theorem toNat_sweptIndex {start stop : UInt32} {k : Nat} (hk : k < stop.toNat - start.toNat - 1) :
    (start.toNat + 1 + k).toUInt32.toNat = start.toNat + 1 + k := by
  have := stop.toNat_lt
  simp only [Nat.toUInt32_eq, UInt32.toNat_ofNat']
  omega

theorem mem_sweptIndices {start stop i : UInt32} :
    i ∈ sweptIndices start stop ↔ start < i ∧ i < stop := by
  simp only [sweptIndices, List.mem_map, List.mem_range, UInt32.lt_iff_toNat_lt]
  constructor
  · rintro ⟨k, hk, rfl⟩
    rw [toNat_sweptIndex hk]
    omega
  · rintro ⟨h₁, h₂⟩
    refine ⟨i.toNat - start.toNat - 1, by omega, ?_⟩
    rw [show start.toNat + 1 + (i.toNat - start.toNat - 1) = i.toNat by omega]
    simp

theorem sweptIndices_pairwise (start stop : UInt32) :
    (sweptIndices start stop).Pairwise (· < ·) := by
  unfold sweptIndices
  rw [List.pairwise_map]
  refine List.pairwise_lt_range.imp_of_mem fun ha hb hab => ?_
  rw [List.mem_range] at ha hb
  rw [UInt32.lt_iff_toNat_lt, toNat_sweptIndex ha, toNat_sweptIndex hb]
  omega

theorem sweptIndices_split {start i stop : UInt32} (h₁ : start < i) (h₂ : i < stop) :
    sweptIndices start stop = sweptIndices start i ++ i :: sweptIndices i stop := by
  rw [UInt32.lt_iff_toNat_lt] at h₁ h₂
  have hn : stop.toNat - start.toNat - 1 =
      (i.toNat - start.toNat - 1) + ((stop.toNat - i.toNat - 1) + 1) := by omega
  unfold sweptIndices
  rw [hn, List.range_add, List.range_succ_eq_map, List.map_append, List.map_cons, List.map_cons,
    List.map_map, List.map_map]
  have hi : (start.toNat + 1 + (i.toNat - start.toNat - 1 + 0)).toUInt32 = i := by
    rw [show start.toNat + 1 + (i.toNat - start.toNat - 1 + 0) = i.toNat by omega]
    simp
  rw [hi]
  congr 2
  refine List.map_congr_left fun k _ => ?_
  simp only [Function.comp_apply, Nat.succ_eq_add_one]
  congr 1
  omega

theorem eq_sweptIndices_of_split {start stop i : UInt32} {pre post : List UInt32}
    (h : sweptIndices start stop = pre ++ i :: post) : pre = sweptIndices start i := by
  have hi : i ∈ sweptIndices start stop := h ▸ List.mem_append_right _ List.mem_cons_self
  obtain ⟨h₁, h₂⟩ := mem_sweptIndices.1 hi
  -- the indices before `i` are those the increasing list holds before reaching `i`
  have hbefore : ∀ A B, sweptIndices start stop = A ++ i :: B →
      (sweptIndices start stop).takeWhile (· < i) = A := by
    intro A B hAB
    have hA : ∀ a ∈ A, a < i := fun a ha =>
      (List.pairwise_append.1 (hAB ▸ sweptIndices_pairwise start stop)).2.2 a ha i
        List.mem_cons_self
    rw [hAB, List.takeWhile_append_of_pos (by simpa using hA), List.takeWhile_cons,
      if_neg (by simp), List.append_nil]
  rw [← hbefore pre post h, hbefore _ _ (sweptIndices_split h₁ h₂)]

/-! ### A consolidation is its sweeps in order -/

theorem consolidateReport_empty {start stop : UInt32} (h : stop ≤ start) :
    w.consolidateReport signer account start stop = pure none := by
  unfold consolidateReport
  rw [if_pos h]

theorem consolidateReport_target_fails {start stop : UInt32} {e : SignerError}
    (h : start < stop) (he : signer.address account start = .error e) :
    w.consolidateReport signer account start stop = throw (.signing e) := by
  unfold consolidateReport
  rw [if_neg (by simpa using h), he]
  rfl

theorem consolidateReport_run {start stop : UInt32} (h : start < stop) (s : σ) :
    (w.consolidateReport signer account start stop).run.run s =
      match signer.address account start with
      | .error e => .ok (.error (.signing e), s)
      | .ok target => ((w.sweepAll signer account target [] (sweptIndices start stop)).run.run s).map
          fun p => (p.1.map fun ts => some ⟨target, ts⟩, p.2) := by
  unfold consolidateReport
  rw [if_neg (by simpa using h)]
  cases signer.address account start with
  | error e => rfl
  | ok target =>
    show (w.sweepAll signer account target [] (sweptIndices start stop) >>= fun ts =>
      pure (some (⟨target, ts⟩ : ConsolidationReport))).run.run s = _
    exact Session.run_map_pure _ s

theorem map_run_error {α β : Type} {g : α → β} {x : Except Fault (Except WalletError α × σ)}
    {e : WalletError} {s' : σ} :
    x.map (fun p => (p.1.map g, p.2)) = .ok (.error e, s') ↔ x = .ok (.error e, s') := by
  rcases x with f | ⟨e' | a, s''⟩ <;> simp [Except.map]

theorem lt_of_consolidateReport {start stop : UInt32} {s s' : σ}
    {r : Except WalletError (Option ConsolidationReport)}
    (h : (w.consolidateReport signer account start stop).run.run s = .ok (r, s'))
    (hr : r ≠ .ok none) : start < stop := by
  by_cases hlt : start < stop
  case pos => exact hlt
  rw [consolidateReport_empty w signer account
    (UInt32.le_iff_toNat_le.2 (by rw [UInt32.lt_iff_toNat_lt] at hlt; omega))] at h
  cases h
  exact absurd rfl hr

theorem consolidateReport_ok_iff {start stop : UInt32} (hlt : start < stop) {s s' : σ}
    {target : Address} {ts : List Transfer} :
    (w.consolidateReport signer account start stop).run.run s =
        .ok (.ok (some ⟨target, ts⟩), s') ↔
      signer.address account start = .ok target ∧
        (w.sweepAll signer account target [] (sweptIndices start stop)).run.run s =
          .ok (.ok ts, s') := by
  rw [consolidateReport_run w signer account hlt]
  cases signer.address account start with
  | error e => simp
  | ok target' =>
    dsimp only
    constructor
    · intro h
      rcases hx : (w.sweepAll signer account target' [] (sweptIndices start stop)).run.run s with
        f | ⟨e | ts', s₂⟩
      · rw [hx] at h
        cases h
      · rw [hx] at h
        cases h
      · rw [hx] at h
        cases h
        exact ⟨rfl, hx⟩
    · rintro ⟨ha, hx⟩
      cases ha
      rw [hx]
      rfl

theorem consolidateReport_error_iff {start stop : UInt32} (hlt : start < stop) {s s' : σ}
    {err : WalletError} (herr : ∀ e, err ≠ .signing e) :
    (w.consolidateReport signer account start stop).run.run s = .ok (.error err, s') ↔
      ∃ target, signer.address account start = .ok target ∧
        (w.sweepAll signer account target [] (sweptIndices start stop)).run.run s =
          .ok (.error err, s') := by
  rw [consolidateReport_run w signer account hlt]
  cases signer.address account start with
  | error e =>
    simp only [Except.ok.injEq, Prod.mk.injEq, Except.error.injEq, reduceCtorEq, false_and,
      exists_false, iff_false, not_and]
    exact fun h => absurd h.symm (herr e)
  | ok target => simp [map_run_error]

theorem consolidateReport_aborts_iff {start stop i : UInt32} {s s' : σ} {target : Address}
    {completed : List Transfer} {failed : Option Address} {source : WalletError} :
    (w.consolidateReport signer account start stop).run.run s =
        .ok (.error (.consolidationAborted target completed i failed source), s') ↔
      start < i ∧ i < stop ∧ ∃ before moved s₁,
        (w.consolidateReport signer account start i).run.run s =
          .ok (.ok (some ⟨target, before⟩), s₁) ∧
        SweepAborts w signer account i target s₁ moved failed source s' ∧
        completed = before ++ moved := by
  have herr : ∀ e, WalletError.consolidationAborted target completed i failed source ≠ .signing e :=
    fun _ h => by cases h
  constructor
  · intro h
    have hlt := lt_of_consolidateReport w signer account h (by simp)
    obtain ⟨target', ha, hrun⟩ := (consolidateReport_error_iff w signer account hlt herr).1 h
    obtain ⟨pre, j, post, d, s₁, moved, failed', source', hsplit, hpre, hsweep, herr'⟩ :=
      sweepAll_aborts w signer account target' _ [] hrun
    cases herr'
    obtain ⟨h₁, h₂⟩ := mem_sweptIndices.1 (hsplit ▸ List.mem_append_right _ List.mem_cons_self)
    rw [eq_sweptIndices_of_split hsplit] at hpre
    rw [sweep_run] at hsweep
    obtain ⟨m, hm, rfl⟩ := map_extend_error hsweep
    exact ⟨h₁, h₂, d, m, s₁, (consolidateReport_ok_iff w signer account h₁).2 ⟨ha, hpre⟩,
      (sweep_aborts_iff w signer account).1 hm, rfl⟩
  · rintro ⟨h₁, h₂, before, moved, s₁, hrep, habort, rfl⟩
    obtain ⟨ha, hpre⟩ := (consolidateReport_ok_iff w signer account h₁).1 hrep
    -- the range is the indices before `i`, then `i`: the first part reports `before`
    refine (consolidateReport_error_iff w signer account (UInt32.lt_trans h₁ h₂) herr).2
      ⟨target, ha, ?_⟩
    rw [sweptIndices_split h₁ h₂, sweepAll_append, Session.run_bind_ok _ hpre, sweepAll_run_cons,
      sweep_run, (sweep_aborts_iff w signer account).2 habort]
    rfl

/-! ### What an abort reports -/

section Abort

variable {w signer account} {index : UInt32} {target : Address} {s s' : σ} {moved : List Transfer}
  {failed : Option Address} {e : WalletError}

theorem SweepAborts.failed_eq (h : SweepAborts w signer account index target s moved failed e s') :
    failed = (signer.address account index).toOption := by
  cases h with
  | derive ha => rw [ha]; rfl
  | cancel ha _ => rw [ha]; rfl
  | search ha _ _ => rw [ha]; rfl
  | transfer ha _ _ _ _ _ _ => rw [ha]; rfl

theorem SweepAborts.of_underivable (h : SweepAborts w signer account index target s moved failed e s')
    {e' : SignerError} (he : signer.address account index = .error e') :
    e = .signing e' ∧ moved = [] ∧ s' = s := by
  cases h with
  | derive ha =>
    rw [ha] at he
    cases he
    exact ⟨rfl, rfl, rfl⟩
  | cancel ha _ => rw [ha] at he; cases he
  | search ha _ _ => rw [ha] at he; cases he
  | transfer ha _ _ _ _ _ _ => rw [ha] at he; cases he

theorem SweepAborts.of_stopped (h : SweepAborts w signer account index target s moved failed e s')
    (hstop : (w.pool.net.executor s).stopped = true) {a : Address}
    (ha : signer.address account index = .ok a) :
    e = .consolidationCancelled ∧ moved = [] ∧ s' = s := by
  cases h with
  | derive he => rw [he] at ha; cases ha
  | cancel _ _ => exact ⟨rfl, rfl, rfl⟩
  | search _ hgo _ => rw [hgo] at hstop; cases hstop
  | transfer _ hgo _ _ _ _ _ => rw [hgo] at hstop; cases hstop

end Abort

section Congr

variable (signer' : Signer)

theorem consolidateReport_congr {start i : UInt32} (h₁ : start < i)
    (haddr : ∀ j ≤ i, signer'.address account j = signer.address account j)
    (hsign : ∀ essence entries, (∀ d ∈ entries, SigningInput.index d ≤ i) →
      signer'.sign essence entries = signer.sign essence entries) (s : σ) :
    (w.consolidateReport signer' account start i).run.run s =
      (w.consolidateReport signer account start i).run.run s := by
  have hall : ∀ j ∈ sweptIndices start i,
      signer'.address account j = signer.address account j ∧ SignsAlike signer signer' j := by
    intro j hj
    have hj := UInt32.le_of_lt (mem_sweptIndices.1 hj).2
    exact ⟨haddr j hj, fun essence entries he => hsign essence entries fun d hd => he d hd ▸ hj⟩
  rw [consolidateReport_run w signer' account h₁, consolidateReport_run w signer account h₁,
    haddr start (UInt32.le_of_lt h₁)]
  simp only [sweepAll_congr w signer account signer' _ hall]

theorem consolidateReport_aborts_congr {start stop stop' i : UInt32} {s s' : σ} {target : Address}
    {completed : List Transfer} {failed : Option Address} {source : WalletError}
    (h : (w.consolidateReport signer account start stop).run.run s =
      .ok (.error (.consolidationAborted target completed i failed source), s'))
    (hstop : i < stop') (haddr : ∀ j ≤ i, signer'.address account j = signer.address account j)
    (hsign : ∀ essence entries, (∀ d ∈ entries, SigningInput.index d ≤ i) →
      signer'.sign essence entries = signer.sign essence entries) :
    (w.consolidateReport signer' account start stop').run.run s =
      .ok (.error (.consolidationAborted target completed i failed source), s') := by
  obtain ⟨h₁, -, before, moved, s₁, hrep, habort, rfl⟩ :=
    (consolidateReport_aborts_iff w signer account).1 h
  have hsweep : w.sweep signer' account i target [] = w.sweep signer account i target [] :=
    sweep_congr w signer account signer' (haddr i (UInt32.le_refl i))
      (fun essence entries he => hsign essence entries fun d hd => he d hd ▸ UInt32.le_refl i) _ _
  refine (consolidateReport_aborts_iff w signer' account).2 ⟨h₁, hstop, before, moved, s₁, ?_, ?_, rfl⟩
  · rw [consolidateReport_congr w signer account signer' h₁ haddr hsign, hrep]
  · rw [← sweep_aborts_iff, hsweep, sweep_aborts_iff]
    exact habort

end Congr

theorem consolidateReport_ok {start stop : UInt32} {s s' : σ} {r : ConsolidationReport}
    (h : (w.consolidateReport signer account start stop).run.run s = .ok (.ok (some r), s')) :
    signer.address account start = .ok r.target ∧
      r.transfers.Pairwise (fun t u => t.addressIndex ≤ u.addressIndex) ∧
      ∀ t ∈ r.transfers, start < t.addressIndex ∧ t.addressIndex < stop := by
  have hlt := lt_of_consolidateReport w signer account h (by simp)
  obtain ⟨target, ts⟩ := r
  obtain ⟨ha, hrun⟩ := (consolidateReport_ok_iff w signer account hlt).1 h
  obtain ⟨m, hm, hsorted, hmem⟩ :=
    sweepAll_ok w signer account target _ [] (sweptIndices_pairwise start stop) hrun
  rw [List.nil_append] at hm
  subst hm
  exact ⟨ha, hsorted, fun t ht => mem_sweptIndices.1 (hmem t ht)⟩

theorem consolidateReport_aborted_ok {start stop i : UInt32} {s s' : σ} {target : Address}
    {completed : List Transfer} {failed : Option Address} {source : WalletError}
    (h : (w.consolidateReport signer account start stop).run.run s =
      .ok (.error (.consolidationAborted target completed i failed source), s')) :
    signer.address account start = .ok target ∧
      completed.Pairwise (fun t u => t.addressIndex ≤ u.addressIndex) ∧
      ∀ t ∈ completed, start < t.addressIndex ∧ t.addressIndex ≤ i := by
  obtain ⟨h₁, -, before, moved, s₁, hrep, habort, rfl⟩ :=
    (consolidateReport_aborts_iff w signer account).1 h
  obtain ⟨htarget, hsorted, hrange⟩ := consolidateReport_ok w signer account hrep
  have hmoved := habort.index
  refine ⟨htarget, List.pairwise_append.2 ⟨hsorted, ?_, ?_⟩, ?_⟩
  · refine List.pairwise_of_forall_mem_list fun t ht u hu => ?_
    rw [hmoved t ht, hmoved u hu]
    exact UInt32.le_refl i
  · intro t ht u hu
    rw [hmoved u hu]
    exact UInt32.le_of_lt (hrange t ht).2
  · intro t ht
    rcases List.mem_append.1 ht with ht | ht
    · exact ⟨(hrange t ht).1, UInt32.le_of_lt (hrange t ht).2⟩
    · rw [hmoved t ht]
      exact ⟨h₁, UInt32.le_refl i⟩

/-- How a consolidation of the addresses after `start` into address `start` reports failure,
for every signer and every behaviour of the nodes. A target that cannot be derived fails at
once with the signer's error. Otherwise the consolidation aborts at index `i` exactly when the
consolidation up to `i` succeeds and the sweep of `i` then fails; the abort reports the target,
the transfers up to `i` followed by those of `i` already confirmed, the address of `i` when it
was derived, and the error of the step that failed, which is the cancellation when the client
was told to stop before the search of `i`. Nothing past `i` matters to an abort, and both a
report and an abort list their transfers in order of index, inside the range. -/
theorem consolidation_abort_report (start stop : UInt32) :
    (∀ e, start < stop → signer.address account start = .error e →
      w.consolidateReport signer account start stop = throw (.signing e)) ∧
    (∀ (s s' : σ) i target completed failed source,
      (w.consolidateReport signer account start stop).run.run s =
          .ok (.error (.consolidationAborted target completed i failed source), s') ↔
        start < i ∧ i < stop ∧ ∃ before moved s₁,
          (w.consolidateReport signer account start i).run.run s =
            .ok (.ok (some ⟨target, before⟩), s₁) ∧
          SweepAborts w signer account i target s₁ moved failed source s' ∧
          completed = before ++ moved) ∧
    (∀ i target (s₁ s' : σ) moved failed source,
      SweepAborts w signer account i target s₁ moved failed source s' →
        failed = (signer.address account i).toOption ∧ (∀ t ∈ moved, t.addressIndex = i) ∧
        (∀ e, signer.address account i = .error e → source = .signing e ∧ moved = [] ∧ s' = s₁) ∧
        (∀ a, (w.pool.net.executor s₁).stopped = true → signer.address account i = .ok a →
          source = .consolidationCancelled ∧ moved = [] ∧ s' = s₁)) ∧
    (∀ (s s' : σ) i target completed failed source (signer' : Signer) stop',
      (w.consolidateReport signer account start stop).run.run s =
          .ok (.error (.consolidationAborted target completed i failed source), s') →
        i < stop' → (∀ j ≤ i, signer'.address account j = signer.address account j) →
        (∀ essence entries, (∀ d ∈ entries, SigningInput.index d ≤ i) →
          signer'.sign essence entries = signer.sign essence entries) →
        (w.consolidateReport signer' account start stop').run.run s =
          .ok (.error (.consolidationAborted target completed i failed source), s')) ∧
    (∀ (s s' : σ) r,
      (w.consolidateReport signer account start stop).run.run s = .ok (.ok (some r), s') →
        signer.address account start = .ok r.target ∧
        r.transfers.Pairwise (fun t u => t.addressIndex ≤ u.addressIndex) ∧
        ∀ t ∈ r.transfers, start < t.addressIndex ∧ t.addressIndex < stop) ∧
    (∀ (s s' : σ) i target completed failed source,
      (w.consolidateReport signer account start stop).run.run s =
          .ok (.error (.consolidationAborted target completed i failed source), s') →
        signer.address account start = .ok target ∧
        completed.Pairwise (fun t u => t.addressIndex ≤ u.addressIndex) ∧
        ∀ t ∈ completed, start < t.addressIndex ∧ t.addressIndex ≤ i) :=
  ⟨fun _ h he => consolidateReport_target_fails w signer account h he,
    fun _ _ _ _ _ _ _ => consolidateReport_aborts_iff w signer account,
    fun _ _ _ _ _ _ _ h => ⟨h.failed_eq, h.index, fun _ he => h.of_underivable he,
      fun _ hstop ha => h.of_stopped hstop ha⟩,
    fun _ _ _ _ _ _ _ signer' _ h hstop haddr hsign =>
      consolidateReport_aborts_congr w signer account signer' h hstop haddr hsign,
    fun _ _ _ h => consolidateReport_ok w signer account h,
    fun _ _ _ _ _ _ _ h => consolidateReport_aborted_ok w signer account h⟩

end Wallet

/-- A signer that gives one address for every index but 1, which its device refuses. -/
def lockedAtOne : Signer :=
  Signer.withFaults (some 1) none ⟨fun _ _ => .ok ⟨⟨Vector.replicate 32 0⟩⟩, fun _ _ => .ok []⟩

/-- Consolidating addresses 1 and 2 into address 0 when address 1 cannot be derived aborts at
index 1 with nothing completed and no address, before any node is asked. -/
theorem locked_address_aborts_consolidation :
    ((⟨⟨(Cluster.ofNames ["node0"]).network, {}⟩, {}⟩ : Wallet Cluster).consolidateReport
        lockedAtOne 0 0 3).run.run (Cluster.ofNames ["node0"]) =
      .ok (.error (.consolidationAborted ⟨⟨Vector.replicate 32 0⟩⟩ [] 1 none
        (.signing (.backend "device locked"))), Cluster.ofNames ["node0"]) ∧
    ∃ s₁ moved, Wallet.SweepAborts ⟨⟨(Cluster.ofNames ["node0"]).network, {}⟩, {}⟩ lockedAtOne 0 1
      ⟨⟨Vector.replicate 32 0⟩⟩ s₁ moved none (.signing (.backend "device locked"))
      (Cluster.ofNames ["node0"]) := by
  have hrun : ((⟨⟨(Cluster.ofNames ["node0"]).network, {}⟩, {}⟩ : Wallet Cluster).consolidateReport
      lockedAtOne 0 0 3).run.run (Cluster.ofNames ["node0"]) =
      .ok (.error (.consolidationAborted ⟨⟨Vector.replicate 32 0⟩⟩ [] 1 none
        (.signing (.backend "device locked"))), Cluster.ofNames ["node0"]) := rfl
  obtain ⟨-, -, -, moved, s₁, -, habort, -⟩ :=
    ((Wallet.consolidation_abort_report _ _ _ 0 3).2.1 _ _ _ _ _ _ _).1 hrun
  exact ⟨hrun, s₁, moved, habort⟩

end DagWallet
