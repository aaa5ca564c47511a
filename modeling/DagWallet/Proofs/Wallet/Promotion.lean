import DagWallet.Proofs.Ledger.Parents
import DagWallet.Proofs.Node.Shape
import DagWallet.Proofs.Node.Atomicity
import DagWallet.Proofs.Pool.Reads
import DagWallet.Proofs.Session
import DagWallet.Wallet.Confirmation

/-!
The blocks that promote and reattach a block. A promotion approves the block it promotes and
up to seven tips besides; a reattachment carries the block's payload on up to eight tips. Either
way the parents come out strictly increasing and at most eight, and the block approves a tip when
there is one. A block that approves a current tip is not stored yet, since a stored block that
approves it would make it no tip; so on a node whose blocks keep their shape both blocks go in as
new blocks, on parents the node stores.
-/

namespace DagWallet

open Session

theorem length_insertId_le (x : BlockId) (l : List BlockId) :
    (insertId x l).length ≤ l.length + 1 := by
  induction l with
  | nil => simp [insertId]
  | cons y ys ih =>
    unfold insertId
    cases compare x y with
    | lt => simp
    | eq => simp
    | gt => simpa using ih

theorem length_sortIds_le (xs : List BlockId) : (sortIds xs).length ≤ xs.length := by
  induction xs with
  | nil => simp [sortIds]
  | cons y ys ih =>
    change (insertId y (sortIds ys)).length ≤ ys.length + 1
    exact (length_insertId_le y _).trans (Nat.succ_le_succ ih)

namespace Block

/-- The block that promotes `b` on the tips `T`: no payload, on `b` and the first seven tips
other than `b`. -/
def promotion (T : List BlockId) (b : BlockId) : Block :=
  make ((T.filter (· != b)).take (maxParents - 1) ++ [b]) none

/-- The block that reattaches `src` on the tips `T`: its payload on the first eight tips. -/
def reattachment (T : List BlockId) (src : Block) : Block :=
  make (T.take maxParents) src.payload

variable {T : List BlockId} {b p : BlockId} {src : Block}

theorem mem_promotion_parents :
    p ∈ (promotion T b).parents ↔ p = b ∨ p ∈ (T.filter (· != b)).take (maxParents - 1) := by
  rw [promotion, make_parents, mem_sortIds, List.mem_append, List.mem_singleton, or_comm]

theorem length_promotion_parents : (promotion T b).parents.length ≤ maxParents :=
  calc (promotion T b).parents.length
      ≤ ((T.filter (· != b)).take (maxParents - 1) ++ [b]).length := length_sortIds_le _
    _ ≤ maxParents := by simp [maxParents]

theorem promotion_fits : (promotion T b).Fits := by
  intro tx h
  cases h

theorem promotion_meets (hT : T ≠ []) : ∃ t ∈ T, t ∈ (promotion T b).parents := by
  cases hf : T.filter (· != b) with
  | nil =>
    obtain ⟨t, ht⟩ := List.exists_mem_of_ne_nil T hT
    have htb : t = b := by simpa using List.filter_eq_nil_iff.mp hf t ht
    exact ⟨t, ht, mem_promotion_parents.mpr (.inl htb)⟩
  | cons t ts =>
    have ht : t ∈ T.filter (· != b) := hf ▸ List.mem_cons_self
    refine ⟨t, (List.mem_filter.mp ht).1, mem_promotion_parents.mpr (.inr ?_)⟩
    rw [hf]
    simp [maxParents]

theorem mem_reattachment_parents : p ∈ (reattachment T src).parents ↔ p ∈ T.take maxParents :=
  mem_sortIds

theorem length_reattachment_parents : (reattachment T src).parents.length ≤ maxParents :=
  (length_sortIds_le _).trans (List.length_take_le _ _)

theorem reattachment_fits (h : src.Fits) : (reattachment T src).Fits := h

theorem reattachment_meets (hT : T ≠ []) : ∃ t ∈ T, t ∈ (reattachment T src).parents := by
  obtain ⟨t, ts, rfl⟩ := List.exists_cons_of_ne_nil hT
  exact ⟨t, List.mem_cons_self, mem_reattachment_parents.mpr (by simp [maxParents])⟩

end Block

namespace LedgerNode

variable {n : LedgerNode} {X : Block}

/-- The hash tells `X` apart from the stored blocks: a stored block with the identifier of `X`
is `X`. -/
def HashApart (n : LedgerNode) (X : Block) : Prop :=
  ∀ k sb, (k, sb) ∈ n.blocks → sb.block.id = X.id → sb.block = X

/-- `X` is a new write on `n`: its parents are stored, no stored block is `X`, and its
identifier is new when the hash tells it apart. -/
structure Writable (n : LedgerNode) (X : Block) : Prop where
  parents_stored : ∀ p ∈ X.parents, (n.blockOf? p).isSome
  not_stored : ∀ k sb, (k, sb) ∈ n.blocks → sb.block ≠ X
  id_new : HashApart n X → n.blockOf? X.id = none

@[simp] theorem counted_tips (k : Nat) : (n.counted k).tips = n.tips := rfl

theorem isSome_blockOf?_of_mem {k : BlockId} (h : k ∈ n.blocks.map Prod.fst) :
    (n.blockOf? k).isSome := by
  cases hb : n.blockOf? k with
  | none => exact absurd h (blockOf?_eq_none.mp hb)
  | some _ => rfl

theorem Shape.isSome_of_tip {t : BlockId} (h : Shape n) (ht : t ∈ n.tips) : (n.blockOf? t).isSome :=
  isSome_blockOf?_of_mem ((h.mem_tips t).mp ht).1

theorem Writable.counted (hw : Writable n X) (k : Nat) : Writable (n.counted k) X :=
  ⟨hw.parents_stored, hw.not_stored, hw.id_new⟩

theorem Shape.writable (h : Shape n) (hpar : ∀ p ∈ X.parents, (n.blockOf? p).isSome)
    (htip : ∃ t ∈ n.tips, t ∈ X.parents) : Writable n X := by
  obtain ⟨t, ht, htX⟩ := htip
  have hnot : ∀ k sb, (k, sb) ∈ n.blocks → sb.block ≠ X := by
    rintro k sb hk rfl
    exact ((h.mem_tips t).mp ht).2 ⟨k, sb, hk, htX⟩
  refine ⟨hpar, hnot, fun hapart => ?_⟩
  cases hb : n.blockOf? X.id with
  | none => rfl
  | some sb =>
    -- the entry found is filed under its own block's identifier, so the hash puts `X` there
    have hk := mem_of_blockOf? hb
    exact absurd (hapart _ sb hk (h.keyed _ sb hk).1.symm) (hnot _ sb hk)

theorem accept_of_parents_stored (hfits : X.Fits)
    (hpar : ∀ p ∈ X.parents, (n.blockOf? p).isSome) : (n.accept X).1 = .ok X.id := by
  have hfind : (X.parents.find? fun p => (n.blockOf? p).isNone) = none :=
    List.find?_eq_none.mpr fun p hp => by
      rw [Option.isNone_iff_eq_none]
      exact Option.isSome_iff_ne_none.mp (hpar p hp)
  clear hpar
  unfold accept
  dsimp only
  split
  all_goals
    split
    · exfalso
      simp_all [Block.Fits]
    · split
      · rfl
      · simp only [hfind]
        split <;> rfl

theorem Writable.stored (hw : Writable n X) (hfits : X.Fits) (hapart : HashApart n X) :
    ∃ sb, (n.accept X).2.blockOf? X.id = some sb ∧ sb.block = X := by
  have hnew := hw.id_new hapart
  have hstored : (n.store X.id X).blockOf? X.id = some (pending X.id X) := by
    simp [blockOf?_store, hnew]
  rcases accept_cases X n with hn | ⟨-, hs | hs⟩
  · -- the node would be unchanged, yet its answer is the identifier, so it knew the block
    obtain ⟨-, sb, hsb⟩ := stored_of_accept_ok (accept_of_parents_stored hfits hw.parents_stored)
    rw [hn, hnew] at hsb
    cases hsb
  · exact ⟨_, by rw [hs, hstored], rfl⟩
  · obtain ⟨v, hv⟩ := blockOf?_confirm_self hstored
    exact ⟨_, by rw [hs, hv], rfl⟩

theorem Shape.writable_promotion {b : BlockId} (h : Shape n) (hb : (n.blockOf? b).isSome) :
    Writable n (Block.promotion n.tips b) := by
  refine h.writable (fun p hp => ?_) (Block.promotion_meets h.tips_ne_nil)
  rcases Block.mem_promotion_parents.mp hp with rfl | hp
  · exact hb
  · exact h.isSome_of_tip (List.mem_filter.mp (List.mem_of_mem_take hp)).1

theorem Shape.writable_reattachment (h : Shape n) (src : Block) :
    Writable n (Block.reattachment n.tips src) :=
  h.writable (fun _ hp => h.isSome_of_tip (List.mem_of_mem_take (Block.mem_reattachment_parents.mp hp)))
    (Block.reattachment_meets h.tips_ne_nil)

end LedgerNode

namespace Wallet

variable {σ : Type}

theorem promoteUnchecked_block (w : Wallet σ) (b : BlockId) :
    (w.promoteUnchecked b).Always fun r => ∀ q, r = .ok q → ∃ T, q.2 = Block.promotion T b :=
  always_mapError_bind (fun _ _ hq => nomatch hq) fun T =>
    always_mapError_bind (fun _ _ hq => nomatch hq) fun _ =>
      always_pure fun _ hq => ⟨T, by cases hq; rfl⟩

theorem reattachUnchecked_block (w : Wallet σ) (b : BlockId) :
    (w.reattachUnchecked b).Always fun r =>
      ∀ q, r = .ok q → ∃ T src, q.2 = Block.reattachment T src :=
  always_mapError_bind (fun _ _ hq => nomatch hq) fun src =>
    always_mapError_bind (fun _ _ hq => nomatch hq) fun T =>
      always_mapError_bind (fun _ _ hq => nomatch hq) fun _ =>
        always_pure fun _ hq => ⟨T, src, by cases hq; rfl⟩

/-! ### A pool of one node -/

section Solo

variable {w : Wallet Cluster} {n₀ m : LedgerNode} {e₀ e : Executor}
  (hnet : w.pool.net = Cluster.network ⟨[n₀], e₀⟩)
  (hretries : w.pool.config.transportRetries.toNat + 1 < 2 ^ 32)

include hnet hretries in
theorem read_solo {r : Request} {x : r.Answer} {m' : LedgerNode}
    (hx : m.serve r = .ok (.ok x, m')) :
    ((w.pool.read r).run w.pool.net).run.run ⟨[m], e⟩ = .ok (.ok x, ⟨[m'], e⟩) := by
  have hsize : 0 < w.pool.net.size := by
    rw [hnet]
    exact Nat.one_pos
  refine Pool.read_of_answer hretries hsize ?_
  rw [hnet]
  show Cluster.serve 0 r ⟨[m], e⟩ = _
  rw [Cluster.serve_of_getElem? rfl, hx]
  rfl

include hnet hretries in
theorem tips_solo (hlet : m.Lets 1) :
    (w.pool.tips.mapError WalletError.node).run.run ⟨[m], e⟩ =
      .ok (.ok m.tips, ⟨[m.counted 1], e⟩) := by
  have hx : m.serve .tips = .ok (.ok m.tips, m.counted 1) := hlet.serve .tips
  have hread : w.pool.tips.run.run ⟨[m], e⟩ = .ok (.ok m.tips, ⟨[m.counted 1], e⟩) :=
    read_solo hnet hretries hx
  rw [run_mapError, hread]
  rfl

include hnet hretries in
theorem block_solo {b : BlockId} {sb : StoredBlock} (hlet : m.Lets 1) (hb : m.blockOf? b = some sb) :
    ((w.pool.block b).mapError WalletError.node).run.run ⟨[m], e⟩ =
      .ok (.ok sb.block, ⟨[m.counted 1], e⟩) := by
  have hx : m.serve (.block b) = .ok (.ok sb.block, m.counted 1) := by
    rw [hlet.serve]
    simp only [LedgerNode.answer, LedgerNode.counted_blockOf?, hb]
    rfl
  have hread : (w.pool.block b).run.run ⟨[m], e⟩ = .ok (.ok sb.block, ⟨[m.counted 1], e⟩) :=
    read_solo hnet hretries hx
  rw [run_mapError, hread]
  rfl

include hnet in
theorem submit_solo (hlet : m.Lets 1) (X : Block) :
    (w.pool.submit X).run.run ⟨[m], e⟩ =
      .ok (((m.counted 1).accept X).1, ⟨[((m.counted 1).accept X).2], e⟩) := by
  show w.pool.net.serve 0 (.submit X) ⟨[m], e⟩ = _
  rw [hnet]
  show Cluster.serve 0 (.submit X) ⟨[m], e⟩ = _
  rw [Cluster.serve_of_getElem? rfl, LedgerNode.serve_submit hlet]
  rfl

include hnet hretries in
theorem writeOnTips_solo (mk : List BlockId → Block) (hlet : m.Lets 2) (hfits : (mk m.tips).Fits)
    (hpar : ∀ p ∈ (mk m.tips).parents, (m.blockOf? p).isSome) :
    (do
      let tips ← w.pool.tips.mapError .node
      let id ← (w.pool.submit (mk tips)).mapError .node
      pure (id, mk tips) : Session Cluster WalletError (BlockId × Block)).run.run ⟨[m], e⟩ =
      .ok (.ok ((mk m.tips).id, mk m.tips), ⟨[((m.counted 2).accept (mk m.tips)).2], e⟩) := by
  have hok : ((m.counted 2).accept (mk m.tips)).1 = .ok (mk m.tips).id :=
    LedgerNode.accept_of_parents_stored hfits (by simpa using hpar)
  have hsubmit : ((w.pool.submit (mk m.tips)).mapError WalletError.node).run.run
      ⟨[m.counted 1], e⟩ = .ok (.ok (mk m.tips).id, ⟨[((m.counted 2).accept (mk m.tips)).2], e⟩) := by
    rw [run_mapError, submit_solo hnet hlet.counted, LedgerNode.counted_counted, hok]
    rfl
  rw [run_bind_ok _ (tips_solo hnet hretries (hlet.mono (by omega))), run_bind_ok _ hsubmit]
  rfl

include hnet hretries in
theorem promoteUnchecked_solo {b : BlockId} (hlet : m.Lets 2)
    (hpar : ∀ p ∈ (Block.promotion m.tips b).parents, (m.blockOf? p).isSome) :
    (w.promoteUnchecked b).run.run ⟨[m], e⟩ =
      .ok (.ok ((Block.promotion m.tips b).id, Block.promotion m.tips b),
        ⟨[((m.counted 2).accept (Block.promotion m.tips b)).2], e⟩) :=
  writeOnTips_solo hnet hretries (Block.promotion · b) hlet Block.promotion_fits hpar

include hnet hretries in
theorem reattachUnchecked_solo {b : BlockId} {sb : StoredBlock} (hlet : m.Lets 3)
    (hb : m.blockOf? b = some sb) (hfits : sb.block.Fits)
    (hpar : ∀ p ∈ (Block.reattachment m.tips sb.block).parents, (m.blockOf? p).isSome) :
    (w.reattachUnchecked b).run.run ⟨[m], e⟩ =
      .ok (.ok ((Block.reattachment m.tips sb.block).id, Block.reattachment m.tips sb.block),
        ⟨[((m.counted 3).accept (Block.reattachment m.tips sb.block)).2], e⟩) := by
  have hrest := writeOnTips_solo hnet hretries (m := m.counted 1) (e := e) (Block.reattachment · sb.block)
    hlet.counted (Block.reattachment_fits hfits) (by simpa using hpar)
  simp only [LedgerNode.counted_tips, LedgerNode.counted_counted, Nat.reduceAdd] at hrest
  unfold reattachUnchecked
  rw [run_bind_ok _ (block_solo hnet hretries (hlet.mono (by omega)) hb)]
  exact hrest

end Solo

/-- The blocks that promote and reattach `b`. A promotion is made on `b` and the first seven
tips other than `b`, with no payload; a reattachment on the first eight tips, with the payload
it copies; both have strictly increasing parents, at most `maxParents` of them, and whatever a
pool answers, the blocks returned are of these shapes. Through a pool of one node, reached from
a fresh node by any run, that lets the requests in, both go through for a block `b` the node
stores, and are new writes: their parents are stored, no stored block is either of them, and
when the hash tells them apart from the stored blocks they are filed as new blocks under their
identifiers. -/
theorem promotion_reattachment_new_writes (name : String) (ops : List NodeOp) (n : LedgerNode)
    (e : Executor) (config : PoolConfig) (settings : Config) (b : BlockId) (sb : StoredBlock)
    (hrun : LedgerNode.runOps ops (LedgerNode.new name) = .ok n) (hlet : n.Lets 3)
    (hb : n.blockOf? b = some sb) (hretries : config.transportRetries.toNat + 1 < 2 ^ 32) :
    let w : Wallet Cluster := ⟨⟨Cluster.network ⟨[n], e⟩, config⟩, settings⟩
    let P := Block.promotion n.tips b
    let R := Block.reattachment n.tips sb.block
    (∀ T b, (Block.promotion T b).parents.Pairwise (· < ·) ∧
      (Block.promotion T b).parents.length ≤ maxParents ∧
      (∀ p, p ∈ (Block.promotion T b).parents ↔
        p = b ∨ p ∈ (T.filter (· != b)).take (maxParents - 1)) ∧
      (Block.promotion T b).payload = none) ∧
    (∀ T src, (Block.reattachment T src).parents.Pairwise (· < ·) ∧
      (Block.reattachment T src).parents.length ≤ maxParents ∧
      (∀ p, p ∈ (Block.reattachment T src).parents ↔ p ∈ T.take maxParents) ∧
      (Block.reattachment T src).payload = src.payload) ∧
    (∀ {σ : Type} (w : Wallet σ) b,
      (w.promoteUnchecked b).Always (fun r => ∀ q, r = .ok q → ∃ T, q.2 = Block.promotion T b) ∧
      (w.reattachUnchecked b).Always
        (fun r => ∀ q, r = .ok q → ∃ T src, q.2 = Block.reattachment T src)) ∧
    (w.promoteUnchecked b).run.run ⟨[n], e⟩ =
      .ok (.ok (P.id, P), ⟨[((n.counted 2).accept P).2], e⟩) ∧
    (w.reattachUnchecked b).run.run ⟨[n], e⟩ =
      .ok (.ok (R.id, R), ⟨[((n.counted 3).accept R).2], e⟩) ∧
    n.Writable P ∧ n.Writable R ∧
    (n.HashApart P → ∃ sb', ((n.counted 2).accept P).2.blockOf? P.id = some sb' ∧ sb'.block = P) ∧
    (n.HashApart R → ∃ sb', ((n.counted 3).accept R).2.blockOf? R.id = some sb' ∧ sb'.block = R) := by
  intro w P R
  have hshape := NodeOp.shape_run ops (LedgerNode.shape_new name) hrun
  have hfits : sb.block.Fits := NodeOp.blocksFit_run ops (LedgerNode.blocksFit_new name) hrun b sb hb
  have hP : n.Writable P := hshape.writable_promotion (by rw [hb]; rfl)
  have hR : n.Writable R := hshape.writable_reattachment sb.block
  refine ⟨fun T b => ⟨pairwise_sortIds _, Block.length_promotion_parents,
      fun _ => Block.mem_promotion_parents, rfl⟩,
    fun T src => ⟨pairwise_sortIds _, Block.length_reattachment_parents,
      fun _ => Block.mem_reattachment_parents, rfl⟩,
    fun w b => ⟨promoteUnchecked_block w b, reattachUnchecked_block w b⟩,
    promoteUnchecked_solo rfl hretries (hlet.mono (by omega)) hP.parents_stored,
    reattachUnchecked_solo rfl hretries hlet hb hfits hR.parents_stored, hP, hR, fun h => ?_,
    fun h => ?_⟩
  · exact (hP.counted 2).stored Block.promotion_fits h
  · exact (hR.counted 3).stored (Block.reattachment_fits hfits) h

/-- A fresh node takes a promotion and a reattachment of its genesis block as new writes. -/
theorem genesis_promotion_reattachment_new :
    let gsb : StoredBlock := ⟨Block.genesis,
      { blockId := Block.genesis.id, parents := [], referencedBy := some 0,
        inclusion := some .noTransaction }⟩
    LedgerNode.runOps [] (LedgerNode.new "node0") = .ok (LedgerNode.new "node0") ∧
      (LedgerNode.new "node0").Lets 3 ∧
      (LedgerNode.new "node0").blockOf? Block.genesis.id = some gsb ∧
      ({} : PoolConfig).transportRetries.toNat + 1 < 2 ^ 32 ∧
      (LedgerNode.new "node0").Writable (Block.promotion [Block.genesis.id] Block.genesis.id) ∧
      (LedgerNode.new "node0").Writable (Block.reattachment [Block.genesis.id] Block.genesis) := by
  intro gsb
  have hlet : (LedgerNode.new "node0").Lets 3 := ⟨rfl, fun _ h => nomatch h⟩
  have hb : (LedgerNode.new "node0").blockOf? Block.genesis.id = some gsb := by
    simp [LedgerNode.blockOf?, LedgerNode.new, gsb]
  have hretries : ({} : PoolConfig).transportRetries.toNat + 1 < 2 ^ 32 := by decide
  obtain ⟨-, -, -, -, -, hP, hR, -⟩ :=
    promotion_reattachment_new_writes "node0" [] _ {} {} {} _ gsb rfl hlet hb hretries
  exact ⟨rfl, hlet, hb, hretries, hP, hR⟩

end Wallet

end DagWallet
