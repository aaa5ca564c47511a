import DagWallet.Proofs.Node.Interleave
import DagWallet.Wallet.Consolidation
import DagWallet.Node.Cluster

/-!
The largest retry count overflows. A read asks a node once more than it may retry, and the
count is a 32-bit word, so with 2³² - 1 retries the count overflows and the read stops
everything before it asks any node. The first listing of a search reads, so every search of
some address stops there, and so does every consolidation with an address to sweep.
-/

namespace DagWallet

/-- The largest retry count of a pool: one more ask does not fit in 32 bits. -/
def maxRetries : UInt32 := 4294967295

namespace Pool

variable {σ : Type} (p : Pool σ)

theorem readOnce_halts (h : p.config.transportRetries = maxRetries) (i : Nat) (r : Request) :
    p.readOnce i r = .halt .addOverflow := by
  unfold readOnce PoolConfig.attempts
  rw [h]
  rfl

theorem readIndexed_halts (h : p.config.transportRetries = maxRetries) (hsize : 0 < p.net.size)
    {start : Nat} (hstart : start < 2 ^ 64) (r : Request) :
    p.readIndexed start r = .halt .addOverflow := by
  obtain ⟨n, hn⟩ := Nat.exists_eq_add_of_lt hsize
  unfold readIndexed
  rw [hn, Nat.zero_add, List.range_succ_eq_map, failover]
  have hfirst : checkedAdd 64 start 0 = .ok start := by
    rw [checkedAdd, Nat.add_zero, Nat.pow_eq, if_pos hstart]
  rw [hfirst]
  simp only [p.readOnce_halts h]
  rfl

end Pool

namespace Job

variable {ε α σ : Type} {net : Network σ}

theorem interleave_halts {width : Nat} (hw : 0 < width) {jobs : Array (Job ε α)} {x : Fault}
    (h0 : jobs[0]? = some (.halt x)) (stop : Bool) (fuel : Nat) (s : σ) :
    interleave net width jobs stop (fuel + 1) .empty s = .error x := by
  have hsize : 0 < jobs.size := by
    rcases Nat.eq_zero_or_pos jobs.size with h | h
    · rw [Array.getElem?_eq_none (by omega)] at h0
      nomatch h0
    · exact h
  obtain ⟨m, hm⟩ : ∃ m, min jobs.size width = m + 1 :=
    ⟨min jobs.size width - 1, by have := Nat.le_min.mpr ⟨hsize, hw⟩; omega⟩
  rw [interleave]
  simp only [Lanes.start, Lanes.empty, Lanes.inFlight, List.length_nil, Nat.add_zero,
    Nat.zero_add, Nat.sub_zero, hm, List.range'_succ, List.filterMap_cons, h0, Option.map_some,
    List.nil_append, List.lookup_nil]
  rfl

theorem interleaved_halts {ε' : Type} {width : Nat} (hw : 0 < width) {x : Fault}
    (rest : List (Job ε α)) (stop : Bool) (waits : Nat) (s : σ) :
    (interleaved net width (.halt x :: rest) stop waits : Session σ ε' (List (Except ε α))).run.run
      s = .error x := by
  rw [interleaved_run, List.length_cons, interleave_halts hw rfl]
  rfl

end Job

namespace Wallet

variable {σ : Type} (w : Wallet σ)

theorem queryAddress_zero_halts (h : w.pool.config.transportRetries = maxRetries)
    (hsize : 0 < w.pool.net.size) (a : Address) (f : OutputFilter) :
    w.queryAddress 0 a f = .halt .addOverflow := by
  obtain ⟨n, hn⟩ := Nat.exists_eq_add_of_lt hsize
  unfold queryAddress
  rw [Nat.zero_mod, hn, Nat.zero_add, queryFrom]
  have hpinned : w.pinned 0 a f = .halt .addOverflow := by
    unfold pinned
    rw [w.pool.readIndexed_halts h hsize (by decide)]
    rfl
  rw [hpinned]
  rfl

theorem findOutputs_halts (h : w.pool.config.transportRetries = maxRetries)
    (hsize : 0 < w.pool.net.size) (f : OutputFilter) {addresses : List Address}
    (hne : addresses ≠ []) (s : σ) :
    (w.findOutputs f addresses).run.run s = .error .addOverflow := by
  obtain ⟨a, rest, rfl⟩ := List.exists_cons_of_ne_nil hne
  unfold findOutputs
  simp only [List.eraseDups_cons, List.isEmpty_cons, Bool.false_eq_true, if_false,
    List.zipIdx_cons, List.map_cons, Nat.zero_add, w.queryAddress_zero_halts h hsize]
  exact Session.run_bind_fault _
    (Job.interleaved_halts (Nat.lt_of_lt_of_le Nat.one_pos (Nat.le_max_left _ _)) _ _ _ s)

theorem sweep_halts (h : w.pool.config.transportRetries = maxRetries)
    (hsize : 0 < w.pool.net.size) (seed : Vector UInt8 32) (account index : UInt32)
    (target : Address) (done : List Transfer) (s : σ)
    (hgo : (w.pool.net.executor s).stopped = false) :
    (w.sweep (.ofSeed seed) account index target done).run.run s = .error .addOverflow := by
  unfold sweep
  simp only [Signer.ofSeed, pure_bind]
  refine (Session.run_bind_ok _ (show (w.pool.net.isStopped).run.run s = .ok (.ok false, s) by
    rw [← hgo]
    rfl)).trans ?_
  simp only [Bool.false_eq_true, if_false]
  exact Session.run_bind_fault _
    (Session.run_mapError_fault _ (w.findOutputs_halts h hsize .basic (List.cons_ne_nil _ _) s))

theorem consolidateReport_halts (h : w.pool.config.transportRetries = maxRetries)
    (hsize : 0 < w.pool.net.size) (seed : Vector UInt8 32) (account start stop : UInt32)
    (hrange : start.toNat + 1 < stop.toNat) (s : σ)
    (hgo : (w.pool.net.executor s).stopped = false) :
    (w.consolidateReport (.ofSeed seed) account start stop).run.run s = .error .addOverflow := by
  have hlt : ¬ start ≥ stop := by
    rw [ge_iff_le, UInt32.le_iff_toNat_le]
    omega
  obtain ⟨n, hn⟩ : ∃ n, stop.toNat - start.toNat - 1 = n + 1 := ⟨_, (Nat.succ_pred_eq_of_pos
    (by omega)).symm⟩
  unfold consolidateReport
  simp only [hlt, if_false, Signer.ofSeed, Except.mapError, liftExcept, pure_bind, hn,
    List.range_succ_eq_map, List.map_cons]
  rw [sweepAll]
  exact Session.run_bind_fault _ (Session.run_bind_fault _
    (Session.run_result_fault (w.sweep_halts h hsize seed _ _ _ _ s hgo)))

end Wallet

/-- The default settings but for the largest retry count; they pass every check. -/
def maxRetryConfig : Config := { pool := { transportRetries := maxRetries } }

/-- A client of one fresh node with the largest retry count, consolidating address 1 of
account 0 into address 0, halts instead of reporting. -/
theorem consolidate_halts_at_max_retries :
    ∃ w, Wallet.make (Cluster.ofNames ["node0"]).network maxRetryConfig = .ok w ∧
      (w.consolidateReport (.ofSeed (Vector.replicate 32 3)) 0 0 2).run.run
        (Cluster.ofNames ["node0"]) = .error .addOverflow :=
  ⟨⟨⟨(Cluster.ofNames ["node0"]).network, maxRetryConfig.pool⟩, maxRetryConfig⟩, rfl,
    Wallet.consolidateReport_halts _ rfl (by decide) _ 0 0 2 (by decide) _ rfl⟩

end DagWallet
