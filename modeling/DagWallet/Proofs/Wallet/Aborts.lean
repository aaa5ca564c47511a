import DagWallet.Proofs.Wallet.Inclusion

/-!
A failed lookup stops the confirmation loop. When an attempt reads every attachment as not
included and one as conflicting, it reads the block first submitted and asks the pool for the
block that included its transaction. If that lookup fails, also with "not found" because no
block included the transaction, the attempt fails with the lookup's error and records
nothing, and the loop ends with that error: the attempts left are not made. The main statement
says so for every attempt of every run, whatever the pool answers elsewhere.
-/

namespace DagWallet

open Session

variable {σ : Type}

namespace Wallet

variable (w : Wallet σ)

theorem run_loopAsk_ok {α : Type} {x : Session σ NodeError α} {s s' : σ} {a : α}
    (h : x.run.run s = .ok (.ok a, s')) : (loopAsk x).run.run s = .ok (.ok a, s') := by
  rw [loopAsk, run_mapError, h]
  rfl

theorem run_loopAsk_error {α : Type} {x : Session σ NodeError α} {s s' : σ} {e : NodeError}
    (h : x.run.run s = .ok (.error e, s')) :
    (loopAsk x).run.run s = .ok (.error (.failed (.node e)), s') := by
  rw [loopAsk, run_mapError, h]
  rfl

theorem scan_of_reads {k : Nat} {p : Progress} :
    ∀ {as : List BlockId} {mds : List BlockMetadata} {s s' : σ} (c : Bool)
      (last : Option BlockMetadata), w.pool.ReadsMetadata as mds s s' →
      (∀ m ∈ mds, m.isIncluded = false) →
      ∃ last', (w.scan k p as c last).run.run s =
        .ok (.ok (c || mds.any (·.isConflicting), last'), s') := by
  intro as mds s s' c last hreads hnone
  -- one attachment read per step, the running flag taking in its conflict
  induction hreads generalizing c last with
  | nil => exact ⟨last, by rw [List.any_nil, Bool.or_false]; rfl⟩
  | @cons a as md mds s s₁ s' hmd hrest ih =>
    have hinc : md.isIncluded = false := hnone md List.mem_cons_self
    obtain ⟨last', hscan⟩ := ih (c || md.isConflicting) (some md)
      fun m hm => hnone m (List.mem_cons_of_mem md hm)
    refine ⟨last', ?_⟩
    rw [scan, run_bind_ok _ (run_loopAsk_ok hmd), if_neg (by rw [hinc]; exact Bool.false_ne_true),
      hscan, List.any_cons, Bool.or_assoc]

theorem attempt_of_failed_lookup {b : BlockId} {k : Nat} {p : Progress} {s s₁ s₂ s₃ : σ}
    {mds : List BlockMetadata} {first : Block} {tx : Transaction} {e : NodeError}
    (hreads : w.pool.ReadsMetadata p.attachments mds s s₁)
    (hnone : ∀ m ∈ mds, m.isIncluded = false) (hconf : ∃ m ∈ mds, m.isConflicting = true)
    (hfirst : (w.pool.block b).run.run s₁ = .ok (.ok first, s₂))
    (htx : first.transaction? = some tx)
    (hlookup : (w.pool.includedBlock tx.id).run.run s₂ = .ok (.error e, s₃)) :
    (w.attempt b k p).run.run s = .ok (.error (.failed (.node e)), s₃) := by
  obtain ⟨last, hscan⟩ := w.scan_of_reads false none hreads hnone
  have hany : (false || mds.any (·.isConflicting)) = true := by
    rw [Bool.false_or]
    exact List.any_eq_true.mpr hconf
  rw [hany] at hscan
  unfold attempt
  rw [run_bind_ok _ hscan]
  dsimp only
  rw [if_pos rfl, run_bind_ok _ (run_loopAsk_ok hfirst), htx]
  dsimp only
  rw [run_bind_error _ (run_loopAsk_error hlookup)]

theorem attempts_of_failed_attempt (b : BlockId) (interval : Nat) {k left : Nat} {p : Progress}
    {s s' : σ} {e : WalletError} (hgo : (w.pool.net.executor s).stopped = false)
    (h : (w.attempt b k p).run.run s = .ok (.error (.failed e), s')) :
    (w.attempts b interval k (left + 1) p).run.run s = .ok (.error (.failed e), s') := by
  rw [attempts, run_bind_ok _ (w.pool.net.run_isStopped s), hgo]
  dsimp only
  rw [if_neg Bool.false_ne_true]
  exact run_bind_error _ h

theorem retryUntilIncluded_of_failed (b : BlockId) (interval m : Nat) {s s' : σ}
    {e : WalletError}
    (h : (w.attempts b interval 1 m ⟨[b], [], [], b⟩).run.run s = .ok (.error (.failed e), s')) :
    (w.retryUntilIncluded b interval m).run.run s = .ok (.error e, s') := by
  unfold retryUntilIncluded
  rw [run_bind_ok _ (by rw [run_result, h]; rfl)]
  rfl

/-- A failed lookup of the block that included the transaction ends the confirmation loop with
the lookup's error, at whichever attempt it happens, with attempts left or not: the attempt
records nothing and no later attempt is made. From the first attempt, the loop as called
reports that error. -/
theorem failed_lookup_aborts (b : BlockId) (interval : Nat) {k left : Nat} {p : Progress}
    {s s₁ s₂ s₃ : σ} {mds : List BlockMetadata} {first : Block} {tx : Transaction}
    {e : NodeError} (hgo : (w.pool.net.executor s).stopped = false)
    (hreads : w.pool.ReadsMetadata p.attachments mds s s₁)
    (hnone : ∀ m ∈ mds, m.isIncluded = false) (hconf : ∃ m ∈ mds, m.isConflicting = true)
    (hfirst : (w.pool.block b).run.run s₁ = .ok (.ok first, s₂))
    (htx : first.transaction? = some tx)
    (hlookup : (w.pool.includedBlock tx.id).run.run s₂ = .ok (.error e, s₃)) :
    (w.attempts b interval k (left + 1) p).run.run s = .ok (.error (.failed (.node e)), s₃) ∧
      (k = 1 → p = ⟨[b], [], [], b⟩ →
        (w.retryUntilIncluded b interval (left + 1)).run.run s = .ok (.error (.node e), s₃)) := by
  have hloop : (w.attempts b interval k (left + 1) p).run.run s =
      .ok (.error (.failed (.node e)), s₃) :=
    w.attempts_of_failed_attempt b interval hgo
      (w.attempt_of_failed_lookup hreads hnone hconf hfirst htx hlookup)
  refine ⟨hloop, ?_⟩
  rintro rfl rfl
  exact w.retryUntilIncluded_of_failed b interval (left + 1) hloop

end Wallet

/-! ### A pool on which the lookup fails -/

/-- A transaction that spends and creates nothing. -/
def emptyTransaction : Transaction := ⟨⟨0, [], []⟩, []⟩

/-- Metadata of a block that a milestone referenced and found conflicting. -/
def lostMetadata (b : BlockId) : BlockMetadata :=
  { blockId := b, parents := [], referencedBy := some 1, inclusion := some .conflicting }

/-- One node on which every block carries `emptyTransaction` and lost its conflict, and no
block included any transaction. -/
def lostRaceNode : Network Unit where
  size := 1
  serve _ r s := match r with
    | .metadata b => .ok (.ok (lostMetadata b), s)
    | .block _ => .ok (.ok (Block.make [] (some (.transaction emptyTransaction))), s)
    | .includedBlock tx => .ok (.error (.notFound (.includedBlock tx)), s)
    | _ => .ok (.error .noNodes, s)
  executor _ := {}
  setExecutor _ s := s

/-- The wallet over `lostRaceNode` with the default configuration. -/
def lostRaceWallet : Wallet Unit := ⟨⟨lostRaceNode, {}⟩, {}⟩

/-- The block every read of `lostRaceNode` answers. -/
def lostRaceBlock : Block := Block.make [] (some (.transaction emptyTransaction))

/-- On a block that lost its conflict, read as conflicting, carrying a transaction that no
block included, the loop with two attempts ends after the first with the "not found" of the
lookup. -/
theorem lostRace_aborts :
    (lostRaceWallet.pool.net.executor ()).stopped = false ∧
    (lostRaceWallet.pool.metadata Block.genesis.id).run.run () =
      .ok (.ok (lostMetadata Block.genesis.id), ()) ∧
    (lostMetadata Block.genesis.id).isIncluded = false ∧
    (lostMetadata Block.genesis.id).isConflicting = true ∧
    (lostRaceWallet.pool.block Block.genesis.id).run.run () = .ok (.ok lostRaceBlock, ()) ∧
    lostRaceBlock.transaction? = some emptyTransaction ∧
    (lostRaceWallet.pool.includedBlock emptyTransaction.id).run.run () =
      .ok (.error (.notFound (.includedBlock emptyTransaction.id)), ()) ∧
    (lostRaceWallet.retryUntilIncluded Block.genesis.id 0 2).run.run () =
      .ok (.error (.node (.notFound (.includedBlock emptyTransaction.id))), ()) := by
  have hgo : (lostRaceWallet.pool.net.executor ()).stopped = false := rfl
  have hmd : (lostRaceWallet.pool.metadata Block.genesis.id).run.run () =
      .ok (.ok (lostMetadata Block.genesis.id), ()) := rfl
  have hinc : (lostMetadata Block.genesis.id).isIncluded = false := rfl
  have hconf : (lostMetadata Block.genesis.id).isConflicting = true := rfl
  have hblock : (lostRaceWallet.pool.block Block.genesis.id).run.run () =
      .ok (.ok lostRaceBlock, ()) := rfl
  have htx : lostRaceBlock.transaction? = some emptyTransaction := rfl
  have hlookup : (lostRaceWallet.pool.includedBlock emptyTransaction.id).run.run () =
      .ok (.error (.notFound (.includedBlock emptyTransaction.id)), ()) := rfl
  refine ⟨hgo, hmd, hinc, hconf, hblock, htx, hlookup, ?_⟩
  exact (lostRaceWallet.failed_lookup_aborts Block.genesis.id 0 (k := 1)
    (p := ⟨[Block.genesis.id], [], [], Block.genesis.id⟩) hgo (.cons hmd (.nil ()))
    (fun m hm => by rw [List.mem_singleton.mp hm]; exact hinc)
    ⟨_, List.mem_singleton_self _, hconf⟩ hblock htx hlookup).2 rfl rfl

/-- On that pool the loop with two attempts fails after the first with the "not found" of the
lookup, where a lookup that found nothing would leave the block waiting. -/
theorem lostRace_loop_fails :
    (lostRaceWallet.retryUntilIncluded Block.genesis.id 0 2).run.run () =
      .ok (.error (.node (.notFound (.includedBlock emptyTransaction.id))), ()) := rfl

end DagWallet
