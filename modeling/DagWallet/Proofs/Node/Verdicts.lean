import DagWallet.Proofs.Node.Shape

/-!
Verdicts and their finality. Along every run of a node from its creation, a stored block that
carries a transaction is marked included exactly when the node records its transaction as
included by that block, except that a recorded block which a later milestone references again
is marked conflicting: the node judges the transaction anew, finds it included already, and
keeps the ledger as it was. A recorded inclusion is never undone, a referenced block stays
referenced under a milestone index that only grows, and its metadata changes only when that
very block is referenced again.
-/

namespace DagWallet

namespace LedgerNode

variable {n : LedgerNode} {b id : BlockId} {sb : StoredBlock}

/-! ### Where a stored block can change -/

theorem blockOf?_updateMetadata_of_ne {f : BlockMetadata → BlockMetadata} (hne : b ≠ id) :
    (n.updateMetadata id f).blockOf? b = n.blockOf? b := by
  rw [blockOf?_updateMetadata]
  cases n.blockOf? b <;> simp [hne]

theorem blockOf?_updateMetadata_self {f : BlockMetadata → BlockMetadata}
    (hb : n.blockOf? b = some sb) :
    (n.updateMetadata b f).blockOf? b = some { sb with metadata := f sb.metadata } := by
  rw [blockOf?_updateMetadata, hb]
  simp

theorem blockOf?_confirm_of_ne (hne : b ≠ id) : (n.confirm id).2.blockOf? b = n.blockOf? b := by
  rcases confirm_cases id n with hc | ⟨sb', -, ⟨v, -, hc⟩ | ⟨tx, -, -, -, hc⟩⟩ <;> rw [hc]
  · exact blockOf?_updateMetadata_of_ne hne
  · rw [blockOf?_updateMetadata_of_ne hne]
    rfl

theorem blockOf?_conflict_of_ne (hne : b ≠ id) : (n.conflict id).2.blockOf? b = n.blockOf? b := by
  rcases conflict_cases id n with hc | hc <;> rw [hc]
  · rfl
  · exact blockOf?_updateMetadata_of_ne hne

theorem blockOf?_confirm_self (hb : n.blockOf? b = some sb) :
    ∃ v, (n.confirm b).2.blockOf? b =
      some { sb with metadata := referenced (n.milestone + 1) v sb.metadata } := by
  rcases hj : judge b sb.block (n.milestone + 1) { n with milestone := n.milestone + 1 } with
    ⟨v, nj⟩
  have hc : (n.confirm b).2 = nj.updateMetadata b (referenced (n.milestone + 1) v) := by
    simp only [confirm, hb, hj]
    rfl
  -- judging books at most a transaction, and leaves the stored blocks alone
  have hnj : nj.blockOf? b = some sb := by
    rcases judge_cases hj with ⟨-, rfl⟩ | ⟨tx, -, -, -, -, rfl⟩ <;> exact hb
  exact ⟨v, by rw [hc]; exact blockOf?_updateMetadata_self hnj⟩

theorem blockOf?_conflict_self (hb : n.blockOf? b = some sb) :
    (n.conflict b).2.blockOf? b =
      some { sb with metadata := referenced (n.milestone + 1) .conflicting sb.metadata } := by
  have hb' : { n with milestone := n.milestone + 1 }.blockOf? b = some sb := hb
  simp only [conflict, hb']
  exact blockOf?_updateMetadata_self hb'

theorem blockOf?_accept_of_some {blk : Block} (hb : n.blockOf? b = some sb) :
    (n.accept blk).2.blockOf? b = some sb := by
  have hne : n.blockOf? blk.id = none → b ≠ blk.id := by
    rintro hnew rfl
    rw [hnew] at hb
    cases hb
  have hstore : (n.store blk.id blk).blockOf? b = some sb := by
    rw [blockOf?_store, hb]
    rfl
  rcases accept_cases blk n with hc | ⟨hnew, hc | hc⟩ <;> rw [hc]
  · exact hb
  · exact hstore
  · rw [blockOf?_confirm_of_ne (hne hnew)]
    exact hstore

/-! ### The index of included transactions only grows -/

theorem included_confirm (id : BlockId) (n : LedgerNode) :
    ∃ extra, (n.confirm id).2.included = n.included ++ extra := by
  rcases confirm_cases id n with hc | ⟨sb', -, ⟨v, -, hc⟩ | ⟨tx, -, -, -, hc⟩⟩ <;> rw [hc]
  · exact ⟨[], (List.append_nil _).symm⟩
  · exact ⟨[], (List.append_nil _).symm⟩
  · exact ⟨[(tx.id, id)], rfl⟩

theorem included_accept (blk : Block) (n : LedgerNode) :
    ∃ extra, (n.accept blk).2.included = n.included ++ extra := by
  rcases accept_cases blk n with hc | ⟨-, hc | hc⟩ <;> rw [hc]
  · exact ⟨[], (List.append_nil _).symm⟩
  · exact ⟨[], (List.append_nil _).symm⟩
  · exact included_confirm blk.id _

/-! ### Verdicts against the index -/

/-- How the verdicts of the stored blocks stand against the index of included transactions: a
block marked included is the one recorded for its transaction, and a recorded block carries
that transaction and was judged, included or conflicting. -/
structure Verdicts (n : LedgerNode) : Prop where
  included_recorded : ∀ b sb tx, n.blockOf? b = some sb → sb.block.transaction? = some tx →
    sb.metadata.inclusion = some .included → n.included.lookup tx.id = some b
  recorded_judged : ∀ t b, n.included.lookup t = some b → ∃ sb tx, n.blockOf? b = some sb ∧
    sb.block.transaction? = some tx ∧ tx.id = t ∧
    (sb.metadata.inclusion = some .included ∨ sb.metadata.inclusion = some .conflicting)

theorem verdicts_new (name : String) : Verdicts (new name) where
  included_recorded b sb tx hb htx _ := by
    simp only [new, blockOf?, List.lookup_cons, List.lookup_nil] at hb
    split at hb <;> cases hb
    cases htx
  recorded_judged := by simp [new]

theorem Verdicts.frame {n' : LedgerNode} (h : Verdicts n) (hb : n'.blocks = n.blocks)
    (hi : n'.included = n.included) : Verdicts n' := by
  have hof : n'.blockOf? = n.blockOf? := by
    funext k
    simp only [blockOf?, hb]
  exact ⟨by simpa only [hof, hi] using h.included_recorded,
    by simpa only [hof, hi] using h.recorded_judged⟩

theorem Verdicts.store {blk : Block} (h : Verdicts n) :
    Verdicts (n.store id blk) := by
  -- an entry found after storing is an old one or the stored block, which no milestone has
  -- judged yet
  have hold : ∀ k sb', (n.store id blk).blockOf? k = some sb' →
      n.blockOf? k = some sb' ∨ sb' = pending id blk := by
    intro k sb' hk
    rw [blockOf?_store] at hk
    cases hk' : n.blockOf? k with
    | some sb'' =>
      rw [hk'] at hk
      exact .inl hk
    | none =>
      rw [hk', Option.none_or] at hk
      split at hk <;> cases hk
      exact .inr rfl
  refine ⟨fun k sb' tx hk htx hinc => ?_, fun t k ht => ?_⟩
  · rcases hold k sb' hk with hk | rfl
    · exact h.included_recorded k sb' tx hk htx hinc
    · cases hinc
  · obtain ⟨sb', tx, hk, hrest⟩ := h.recorded_judged t k ht
    refine ⟨sb', tx, ?_, hrest⟩
    rw [blockOf?_store, hk]
    rfl

theorem Verdicts.mark {m : Nat} {v : Inclusion} (h : Verdicts n)
    (hinc : v = .included → ∀ sb tx, n.blockOf? id = some sb → sb.block.transaction? = some tx →
      n.included.lookup tx.id = some id)
    (hrec : ∀ t, n.included.lookup t = some id → v = .included ∨ v = .conflicting) :
    Verdicts (n.updateMetadata id (referenced m v)) := by
  refine ⟨fun k sb' tx hk htx hv => ?_, fun t k ht => ?_⟩
  · rw [blockOf?_updateMetadata] at hk
    obtain ⟨sb, hk₀, rfl⟩ := Option.map_eq_some_iff.1 hk
    by_cases hkid : k = id
    · subst hkid
      simp only [↓reduceIte, referenced, Option.some.injEq] at hv htx
      exact hinc hv sb tx hk₀ htx
    · simp only [hkid, ↓reduceIte] at hv htx
      exact h.included_recorded k sb tx hk₀ htx hv
  · obtain ⟨sb, tx, hk, htx, rfl, hv⟩ := h.recorded_judged t k ht
    by_cases hkid : k = id
    · subst hkid
      refine ⟨_, tx, blockOf?_updateMetadata_self hk, htx, rfl, ?_⟩
      simpa [referenced] using hrec tx.id ht
    · exact ⟨sb, tx, by rw [blockOf?_updateMetadata_of_ne hkid, hk], htx, rfl, hv⟩

theorem Verdicts.book_mark {tx : Transaction} {m : Nat} (h : Verdicts n)
    (hsb : n.blockOf? id = some sb) (htx : sb.block.transaction? = some tx)
    (hnew : n.included.lookup tx.id = none) :
    Verdicts ((n.book tx id m).updateMetadata id (referenced m .included)) := by
  have hbook : (n.book tx id m).blockOf? = n.blockOf? := rfl
  refine ⟨fun k sb' tx' hk htx' hv => ?_, fun t k ht => ?_⟩
  · rw [updateMetadata_included, lookup_book hnew]
    rw [blockOf?_updateMetadata, hbook] at hk
    obtain ⟨sb₀, hk₀, rfl⟩ := Option.map_eq_some_iff.1 hk
    by_cases hkid : k = id
    · subst hkid
      obtain rfl := Option.some.inj (hk₀.symm.trans hsb)
      simp only [↓reduceIte] at htx'
      obtain rfl := Option.some.inj (htx'.symm.trans htx)
      rw [if_pos rfl]
    · simp only [hkid, ↓reduceIte] at hv htx'
      have hold := h.included_recorded k sb₀ tx' hk₀ htx' hv
      -- an old entry is not under the new transaction, which was not recorded
      have hne : tx'.id ≠ tx.id := fun e => by rw [e, hnew] at hold; cases hold
      rw [if_neg hne, hold]
  · rw [updateMetadata_included, lookup_book hnew] at ht
    by_cases ht' : t = tx.id
    · rw [if_pos ht'] at ht
      cases ht
      exact ⟨_, tx, blockOf?_updateMetadata_self hsb, htx, ht'.symm, .inl rfl⟩
    · rw [if_neg ht'] at ht
      obtain ⟨sb₀, tx₀, hk₀, htx₀, rfl, hv⟩ := h.recorded_judged _ k ht
      by_cases hkid : k = id
      · -- the block of the new entry carries the new transaction, not an old one
        subst hkid
        obtain rfl := Option.some.inj (hk₀.symm.trans hsb)
        obtain rfl := Option.some.inj (htx₀.symm.trans htx)
        exact absurd rfl ht'
      · exact ⟨sb₀, tx₀, by rw [blockOf?_updateMetadata_of_ne hkid, hbook, hk₀], htx₀, rfl, hv⟩

theorem confirm_recorded {tx : Transaction} (hsb : n.blockOf? id = some sb)
    (htx : sb.block.transaction? = some tx) (hrec : (n.included.lookup tx.id).isSome) :
    (n.confirm id).2 = { n with milestone := n.milestone + 1 }.updateMetadata id
      (referenced (n.milestone + 1) .conflicting) := by
  have hrec' : ({ n with milestone := n.milestone + 1 }.included.lookup tx.id).isSome := hrec
  simp only [confirm, hsb, judge, htx, hrec', Bool.true_or, ↓reduceIte]
  rfl

theorem Verdicts.confirm (h : Verdicts n) : Verdicts (n.confirm id).2 := by
  have h₁ : Verdicts { n with milestone := n.milestone + 1 } := h.frame rfl rfl
  by_cases hrec : ∃ t, n.included.lookup t = some id
  · -- a block recorded already is judged conflicting
    obtain ⟨t, ht⟩ := hrec
    obtain ⟨sb, tx, hsb, htx, rfl, -⟩ := h.recorded_judged _ id ht
    rw [confirm_recorded hsb htx (by rw [ht]; rfl)]
    exact h₁.mark (fun hv => by cases hv) fun _ _ => .inr rfl
  · have hnot : ∀ t, n.included.lookup t = some id → False := fun t ht => hrec ⟨t, ht⟩
    rcases confirm_cases id n with hc | ⟨sb, hsb, ⟨v, hv, hc⟩ | ⟨tx, htx, hnew, -, hc⟩⟩ <;>
      rw [hc]
    · exact h
    · exact h₁.mark (fun hinc => absurd hinc hv) fun t ht => (hnot t ht).elim
    · exact h₁.book_mark hsb htx hnew

theorem Verdicts.conflict (h : Verdicts n) : Verdicts (n.conflict id).2 := by
  have h₁ : Verdicts { n with milestone := n.milestone + 1 } := h.frame rfl rfl
  rcases conflict_cases id n with hc | hc <;> rw [hc]
  · exact h₁
  · exact h₁.mark (fun hv => by cases hv) fun _ _ => .inr rfl

theorem Verdicts.accept {blk : Block} (h : Verdicts n) : Verdicts (n.accept blk).2 := by
  rcases accept_cases blk n with hc | ⟨-, hc | hc⟩ <;> rw [hc]
  · exact h
  · exact h.store
  · exact h.store.confirm

theorem Verdicts.serve {r : Request} {a : Except NodeError r.Answer} {n' : LedgerNode}
    (h : Verdicts n) (hs : n.serve r = .ok (a, n')) : Verdicts n' := by
  have h₁ : Verdicts { n with requests := n.requests + 1 } := h.frame rfl rfl
  rcases serve_cases hs with rfl | ⟨blk, -, rfl⟩
  · exact h₁
  · exact h₁.accept

end LedgerNode

namespace NodeOp

open LedgerNode

variable {op : NodeOp} {n n' : LedgerNode} {b : BlockId} {sb : StoredBlock}

theorem included_apply (ha : op.apply n = .ok n') : ∃ extra, n'.included = n.included ++ extra := by
  have hsame : n'.included = n.included → ∃ extra, n'.included = n.included ++ extra :=
    fun h => ⟨[], by rw [h, List.append_nil]⟩
  cases op with
  | request r =>
    obtain ⟨a, hs⟩ := apply_request ha
    rcases serve_cases hs with rfl | ⟨blk, -, rfl⟩
    · exact hsame rfl
    · exact included_accept blk _
  | confirm id =>
    cases ha
    exact included_confirm id n
  | conflict id =>
    cases ha
    rcases conflict_cases id n with hc | hc
    · exact hsame (by rw [hc])
    · exact hsame (by rw [hc, updateMetadata_included])
  | balance a => exact hsame (by rw [apply_balance ha])
  | addOutput _ | prune _ | setPageSize _ | setAutoConfirm _ | setHint _ | setUnreachable _
  | failAfter _ | failAddress _ | failOutput _ =>
    cases ha
    exact hsame rfl

theorem blockOf?_apply_of_ne (ha : op.apply n = .ok n') (hc : op ≠ .confirm b)
    (hx : op ≠ .conflict b) (hb : n.blockOf? b = some sb) : n'.blockOf? b = some sb := by
  cases op with
  | request r =>
    obtain ⟨a, hs⟩ := apply_request ha
    rcases serve_cases hs with rfl | ⟨blk, -, rfl⟩
    · exact hb
    · exact blockOf?_accept_of_some (n := { n with requests := n.requests + 1 }) hb
  | confirm id =>
    cases ha
    rw [blockOf?_confirm_of_ne fun e => hc (congrArg NodeOp.confirm e.symm)]
    exact hb
  | conflict id =>
    cases ha
    rw [blockOf?_conflict_of_ne fun e => hx (congrArg NodeOp.conflict e.symm)]
    exact hb
  | balance a =>
    rw [apply_balance ha]
    exact hb
  | addOutput _ | prune _ | setPageSize _ | setAutoConfirm _ | setHint _ | setUnreachable _
  | failAfter _ | failAddress _ | failOutput _ =>
    cases ha
    exact hb

theorem referenced_apply (hshape : Shape n) (ha : op.apply n = .ok n')
    (hb : n.blockOf? b = some sb) {m : Nat} (hm : sb.metadata.referencedBy = some m) :
    ∃ sb' m', n'.blockOf? b = some sb' ∧ sb'.block = sb.block ∧
      sb'.metadata.referencedBy = some m' ∧ m ≤ m' ∧ sb'.metadata.inclusion.isSome ∧
      (op ≠ .confirm b → op ≠ .conflict b → sb' = sb) := by
  have hle : m ≤ n.milestone + 1 :=
    Nat.le_succ_of_le (hshape.index_le b sb m (mem_of_blockOf? hb) hm)
  by_cases hc : op = .confirm b
  · subst hc
    cases ha
    obtain ⟨v, hv⟩ := blockOf?_confirm_self hb
    exact ⟨_, n.milestone + 1, hv, rfl, rfl, hle, rfl, fun h => absurd rfl h⟩
  by_cases hx : op = .conflict b
  · subst hx
    cases ha
    exact ⟨_, n.milestone + 1, blockOf?_conflict_self hb, rfl, rfl, hle, rfl,
      fun _ h => absurd rfl h⟩
  · have hjudged := (hshape.referenced_iff_judged b sb (mem_of_blockOf? hb)).1 (by rw [hm]; rfl)
    exact ⟨sb, m, blockOf?_apply_of_ne ha hc hx hb, rfl, hm, Nat.le_refl m, hjudged,
      fun _ _ => rfl⟩

theorem verdicts_apply (h : Verdicts n) (ha : op.apply n = .ok n') : Verdicts n' := by
  cases op with
  | request r =>
    obtain ⟨a, hs⟩ := apply_request ha
    exact h.serve hs
  | confirm id =>
    cases ha
    exact h.confirm
  | conflict id =>
    cases ha
    exact h.conflict
  | balance a =>
    rw [apply_balance ha]
    exact h
  | addOutput _ | prune _ | setPageSize _ | setAutoConfirm _ | setHint _ | setUnreachable _
  | failAfter _ | failAddress _ | failOutput _ =>
    cases ha
    exact h.frame rfl rfl

theorem verdicts_run : ∀ (ops : List NodeOp) {n n' : LedgerNode}, Verdicts n →
    runOps ops n = .ok n' → Verdicts n'
  | [], _, _, h, hr => by
    cases hr
    exact h
  | op :: ops, n, n', h, hr => by
    cases ha : op.apply n with
    | error e =>
      simp only [runOps, ha] at hr
      cases hr
    | ok n₁ =>
      simp only [runOps, ha] at hr
      exact verdicts_run ops (verdicts_apply h ha) hr

theorem lookup_run : ∀ (ops : List NodeOp) {n n' : LedgerNode}, runOps ops n = .ok n' →
    ∀ {t : TransactionId} {b : BlockId}, n.included.lookup t = some b →
      n'.included.lookup t = some b
  | [], _, _, hr, _, _, ht => by
    cases hr
    exact ht
  | op :: ops, n, n', hr, t, b, ht => by
    cases ha : op.apply n with
    | error e =>
      simp only [runOps, ha] at hr
      cases hr
    | ok n₁ =>
      simp only [runOps, ha] at hr
      obtain ⟨extra, he⟩ := included_apply ha
      refine lookup_run ops hr ?_
      rw [he, List.lookup_append, ht]
      rfl

theorem referenced_run : ∀ (ops : List NodeOp) {n n' : LedgerNode}, Shape n →
    runOps ops n = .ok n' → ∀ {b : BlockId} {sb : StoredBlock} {m : Nat},
      n.blockOf? b = some sb → sb.metadata.referencedBy = some m →
      sb.metadata.inclusion.isSome →
      ∃ sb' m', n'.blockOf? b = some sb' ∧ sb'.block = sb.block ∧
        sb'.metadata.referencedBy = some m' ∧ m ≤ m' ∧ sb'.metadata.inclusion.isSome ∧
        ((∀ op ∈ ops, op ≠ .confirm b ∧ op ≠ .conflict b) → sb' = sb)
  | [], _, _, _, hr, _, sb, m, hb, hm, hj => by
    cases hr
    exact ⟨sb, m, hb, rfl, hm, Nat.le_refl m, hj, fun _ => rfl⟩
  | op :: ops, n, n', hshape, hr, b, sb, m, hb, hm, _ => by
    cases ha : op.apply n with
    | error e =>
      simp only [runOps, ha] at hr
      cases hr
    | ok n₁ =>
      simp only [runOps, ha] at hr
      obtain ⟨sb₁, m₁, hb₁, hblock₁, hm₁, hle₁, hj₁, hsame₁⟩ := referenced_apply hshape ha hb hm
      obtain ⟨sb', m', hb', hblock', hm', hle', hj', hsame'⟩ :=
        referenced_run ops (shape_apply hshape ha) hr hb₁ hm₁ hj₁
      refine ⟨sb', m', hb', hblock'.trans hblock₁, hm', Nat.le_trans hle₁ hle', hj',
        fun hnone => ?_⟩
      have hop := hnone op List.mem_cons_self
      rw [hsame' fun op' hop' => hnone op' (List.mem_cons_of_mem op hop'), hsame₁ hop.1 hop.2]

end NodeOp

namespace LedgerNode

/-- What a later run of `ops` from `n` to `n'` leaves of what `n` settled: every recorded
inclusion, and every referenced block, still stored with the same contents and referenced under
an index that did not decrease, with the same metadata unless `ops` referenced it again. -/
structure Settled (ops : List NodeOp) (n n' : LedgerNode) : Prop where
  recorded_kept : ∀ t b, n.included.lookup t = some b → n'.included.lookup t = some b
  referenced_kept : ∀ b sb m, n.blockOf? b = some sb → sb.metadata.referencedBy = some m →
    ∃ sb' m', n'.blockOf? b = some sb' ∧ sb'.block = sb.block ∧
      sb'.metadata.referencedBy = some m' ∧ m ≤ m' ∧ sb'.metadata.inclusion.isSome ∧
      ((∀ op ∈ ops, op ≠ .confirm b ∧ op ≠ .conflict b) → sb' = sb)

/-- Along every run of a fresh node, the verdicts of its blocks stand against its index of
included transactions as `Verdicts` says: a block marked included is the one recorded for its
transaction, and a recorded block carries it and is marked included or conflicting, the latter
once it was referenced again. Whatever runs later keeps what the node settled. -/
theorem verdicts_of_run {name : String} {ops₁ ops₂ : List NodeOp} {n₁ n₂ : LedgerNode}
    (h₁ : runOps ops₁ (new name) = .ok n₁) (h₂ : runOps ops₂ n₁ = .ok n₂) :
    Verdicts n₁ ∧ Settled ops₂ n₁ n₂ := by
  have hshape := shape_of_run h₁
  refine ⟨NodeOp.verdicts_run ops₁ (verdicts_new name) h₁,
    fun t b ht => NodeOp.lookup_run ops₂ h₂ ht, fun b sb m hb hm => ?_⟩
  have hjudged := (hshape.referenced_iff_judged b sb (mem_of_blockOf? hb)).1 (by rw [hm]; rfl)
  exact NodeOp.referenced_run ops₂ hshape h₂ hb hm hjudged

/-- The genesis block of a fresh node, referenced again by a milestone. -/
theorem genesis_rereferenced_settled :
    runOps [] (new "node0") = .ok (new "node0") ∧
      runOps [.confirm Block.genesis.id] (new "node0") =
        .ok ((new "node0").confirm Block.genesis.id).2 ∧
      Verdicts (new "node0") ∧
      Settled [.confirm Block.genesis.id] (new "node0")
        ((new "node0").confirm Block.genesis.id).2 := by
  have h₁ : runOps [] (new "node0") = .ok (new "node0") := rfl
  have h₂ : runOps [.confirm Block.genesis.id] (new "node0") =
      .ok ((new "node0").confirm Block.genesis.id).2 := rfl
  exact ⟨h₁, h₂, verdicts_of_run h₁ h₂⟩

/-- A transaction block sent to a fresh node is included by milestone 1. When a milestone
references it again it turns conflicting under milestone 2, while the index still records its
transaction under it. -/
theorem rereferenced_block_turns_conflicting :
    let tx : Transaction := ⟨⟨0, [], []⟩, []⟩
    let blk := Block.make [Block.genesis.id] (some (.transaction tx))
    let verdict := fun n : LedgerNode =>
      ((n.blockOf? blk.id).map fun sb => (sb.metadata.referencedBy, sb.metadata.inclusion),
        n.included.lookup tx.id)
    (runOps [.request (.submit blk)] (new "node0")).toOption.map verdict =
        some (some (some 1, some .included), some blk.id) ∧
      (runOps [.request (.submit blk), .confirm blk.id] (new "node0")).toOption.map verdict =
        some (some (some 2, some .conflicting), some blk.id) := by
  decide +kernel

end LedgerNode

end DagWallet
