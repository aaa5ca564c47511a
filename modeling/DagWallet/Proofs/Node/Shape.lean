import DagWallet.Proofs.Node.Views

/-!
The shape of a node's block store. Along every run of a node from its creation the stored
blocks form a graph closed under parents, each block filed under its own identifier with
metadata that names it and its parents; the tips are exactly the stored blocks that no stored
block approves, each once; a block carries a milestone index exactly when it carries a verdict;
milestones reference one block each, never one past the counter, and index zero only the
genesis block; and no output is booked after the current milestone.

A node keeps its milestone counter as an unbounded number; the statements are those of a node
whose counter does not overflow.
-/

namespace DagWallet

namespace LedgerNode

/-- Some stored block lists `t` among its parents. -/
def Approved (n : LedgerNode) (t : BlockId) : Prop :=
  ∃ k sb, (k, sb) ∈ n.blocks ∧ t ∈ sb.block.parents

/-- The representation invariant of a node. -/
structure Shape (n : LedgerNode) : Prop where
  keys_nodup : (n.blocks.map Prod.fst).Nodup
  keyed : ∀ k sb, (k, sb) ∈ n.blocks →
    k = sb.block.id ∧ sb.metadata.blockId = k ∧ sb.metadata.parents = sb.block.parents
  parents_stored : ∀ k sb, (k, sb) ∈ n.blocks → ∀ p ∈ sb.block.parents, p ∈ n.blocks.map Prod.fst
  tips_nodup : n.tips.Nodup
  tips_ne_nil : n.tips ≠ []
  mem_tips : ∀ t, t ∈ n.tips ↔ t ∈ n.blocks.map Prod.fst ∧ ¬ n.Approved t
  referenced_iff_judged : ∀ k sb, (k, sb) ∈ n.blocks →
    (sb.metadata.referencedBy.isSome ↔ sb.metadata.inclusion.isSome)
  index_le : ∀ k sb m, (k, sb) ∈ n.blocks → sb.metadata.referencedBy = some m → m ≤ n.milestone
  index_inj : ∀ k₁ sb₁ k₂ sb₂ m, (k₁, sb₁) ∈ n.blocks → (k₂, sb₂) ∈ n.blocks →
    sb₁.metadata.referencedBy = some m → sb₂.metadata.referencedBy = some m → k₁ = k₂
  index_zero : ∀ k sb, (k, sb) ∈ n.blocks → sb.metadata.referencedBy = some 0 → k = n.genesis
  booked_le : ∀ r ∈ n.outputs, r.metadata.bookedAt ≤ n.milestone

variable {n n' : LedgerNode}

theorem genesis_parents : Block.genesis.parents = [] := rfl

theorem shape_new (name : String) : Shape (new name) where
  keys_nodup := by simp [new]
  keyed := by simp [new, genesis_parents]
  parents_stored := by
    intro k sb hk p hp
    simp only [new, List.mem_singleton, Prod.mk.injEq] at hk
    obtain ⟨-, rfl⟩ := hk
    simp [genesis_parents] at hp
  tips_nodup := by simp [new]
  tips_ne_nil := by simp [new]
  mem_tips := by simp [new, Approved, genesis_parents]
  referenced_iff_judged := by simp [new]
  index_le := by simp +contextual [new]
  index_inj := by simp +contextual [new]
  index_zero := by simp [new]
  booked_le := by simp [new]

theorem Shape.of_le (h : Shape n) (hb : n'.blocks = n.blocks) (ht : n'.tips = n.tips)
    (hg : n'.genesis = n.genesis) (hm : n.milestone ≤ n'.milestone)
    (ho : ∀ r ∈ n'.outputs, r.metadata.bookedAt ≤ n'.milestone) : Shape n' where
  keys_nodup := hb ▸ h.keys_nodup
  keyed := hb ▸ h.keyed
  parents_stored := hb ▸ h.parents_stored
  tips_nodup := ht ▸ h.tips_nodup
  tips_ne_nil := ht ▸ h.tips_ne_nil
  mem_tips := by simpa only [Approved, hb, ht] using h.mem_tips
  referenced_iff_judged := hb ▸ h.referenced_iff_judged
  index_le := fun k sb m hk hr => Nat.le_trans (h.index_le k sb m (hb ▸ hk) hr) hm
  index_inj := hb ▸ h.index_inj
  index_zero := hb ▸ hg ▸ h.index_zero
  booked_le := ho

theorem Shape.frame (h : Shape n) (hb : n'.blocks = n.blocks) (ht : n'.tips = n.tips)
    (hg : n'.genesis = n.genesis) (hm : n'.milestone = n.milestone)
    (ho : n'.outputs = n.outputs) : Shape n' :=
  h.of_le hb ht hg (Nat.le_of_eq hm.symm) (by rw [ho, hm]; exact h.booked_le)

theorem Shape.tick (h : Shape n) : Shape { n with milestone := n.milestone + 1 } :=
  h.of_le rfl rfl rfl (Nat.le_succ _) fun r hr => Nat.le_succ_of_le (h.booked_le r hr)

/-! ### Outputs -/

theorem bookedAt_of_mem_book {tx : Transaction} {b : BlockId} {m : Nat} {r : OutputResponse}
    (h : r ∈ (n.book tx b m).outputs) :
    r.metadata.bookedAt = m ∨ ∃ r₀ ∈ n.outputs, r.metadata.bookedAt = r₀.metadata.bookedAt := by
  rcases mem_book h with ⟨x, -, rfl⟩ | h
  · exact .inl rfl
  · obtain ⟨r₀, hr₀, rfl⟩ := List.mem_map.1 h
    exact .inr ⟨r₀, hr₀, by unfold spend; split <;> rfl⟩

theorem Shape.book {tx : Transaction} {b : BlockId} (h : Shape n) :
    Shape (n.book tx b n.milestone) := by
  refine h.of_le book_blocks rfl rfl (Nat.le_refl _) fun r hr => ?_
  rcases bookedAt_of_mem_book hr with he | ⟨r₀, hr₀, he⟩
  · exact Nat.le_of_eq he
  · exact he ▸ h.booked_le r₀ hr₀

theorem Shape.addOutput {o : Output} (h : Shape n) : Shape (n.addOutput o).2 := by
  refine h.of_le rfl rfl rfl (Nat.le_refl _) fun r hr => ?_
  rcases mem_insertOutput hr with rfl | hr₀
  · exact Nat.le_refl _
  · exact h.booked_le r hr₀

theorem Shape.prune {id : OutputId} (h : Shape n) : Shape (n.pruneOutput id) :=
  h.of_le rfl rfl rfl (Nat.le_refl _) fun r hr => h.booked_le r (List.mem_filter.1 hr).1

/-! ### Referencing a block -/

theorem Shape.updateMetadata {id : BlockId} {m : Nat} {v : Inclusion} (h : Shape n)
    (hpos : 0 < m) (hle : m ≤ n.milestone)
    (hfresh : ∀ k sb m', (k, sb) ∈ n.blocks → sb.metadata.referencedBy = some m' → m' < m) :
    Shape (n.updateMetadata id (referenced m v)) := by
  -- each stored entry is an old one, with the same block and, away from `id`, the same metadata
  have hmem : ∀ k sb, (k, sb) ∈ (n.updateMetadata id (referenced m v)).blocks →
      ∃ sb₀, (k, sb₀) ∈ n.blocks ∧ sb.block = sb₀.block ∧
        (k = id → sb.metadata = referenced m v sb₀.metadata) ∧ (k ≠ id → sb = sb₀) := by
    intro k sb hk
    obtain ⟨sb₀, hk₀, rfl⟩ := mem_updateMetadata_blocks.1 hk
    refine ⟨sb₀, hk₀, by split <;> rfl, fun he => by simp [he], fun hne => by simp [hne]⟩
  -- a referenced entry carries `m` at `id`, or an older index elsewhere
  have hindex : ∀ k sb m', (k, sb) ∈ (n.updateMetadata id (referenced m v)).blocks →
      sb.metadata.referencedBy = some m' →
        (k = id ∧ m' = m) ∨ (k ≠ id ∧ (k, sb) ∈ n.blocks ∧ m' < m) := by
    intro k sb m' hk hr
    obtain ⟨sb₀, hk₀, -, hid, hother⟩ := hmem k sb hk
    by_cases hkid : k = id
    · rw [hid hkid, referenced, Option.some.injEq] at hr
      exact .inl ⟨hkid, hr.symm⟩
    · rw [hother hkid] at hr ⊢
      exact .inr ⟨hkid, hk₀, hfresh k sb₀ m' hk₀ hr⟩
  have happroved : ∀ t, (n.updateMetadata id (referenced m v)).Approved t ↔ n.Approved t := by
    intro t
    constructor
    · rintro ⟨k, sb, hk, ht⟩
      obtain ⟨sb₀, hk₀, hblock, -⟩ := hmem k sb hk
      exact ⟨k, sb₀, hk₀, hblock ▸ ht⟩
    · rintro ⟨k, sb₀, hk₀, ht⟩
      exact ⟨k, _, mem_updateMetadata_blocks.2 ⟨sb₀, hk₀, rfl⟩, by split <;> exact ht⟩
  refine ⟨?_, ?_, ?_, h.tips_nodup, h.tips_ne_nil, ?_, ?_, ?_, ?_, ?_, h.booked_le⟩
  · rw [keys_updateMetadata]
    exact h.keys_nodup
  · intro k sb hk
    obtain ⟨sb₀, hk₀, hblock, hid, hother⟩ := hmem k sb hk
    obtain ⟨h₁, h₂, h₃⟩ := h.keyed k sb₀ hk₀
    by_cases hkid : k = id
    · rw [hid hkid, hblock]
      exact ⟨h₁, h₂, h₃⟩
    · rw [hother hkid]
      exact ⟨h₁, h₂, h₃⟩
  · intro k sb hk p hp
    obtain ⟨sb₀, hk₀, hblock, -⟩ := hmem k sb hk
    rw [keys_updateMetadata]
    exact h.parents_stored k sb₀ hk₀ p (hblock ▸ hp)
  · intro t
    rw [keys_updateMetadata, happroved]
    exact h.mem_tips t
  · intro k sb hk
    obtain ⟨sb₀, hk₀, -, hid, hother⟩ := hmem k sb hk
    by_cases hkid : k = id
    · simp [hid hkid, referenced]
    · rw [hother hkid]
      exact h.referenced_iff_judged k sb₀ hk₀
  · intro k sb m' hk hr
    rcases hindex k sb m' hk hr with ⟨-, rfl⟩ | ⟨-, -, hlt⟩
    · exact hle
    · exact Nat.le_trans (Nat.le_of_lt hlt) hle
  · intro k₁ sb₁ k₂ sb₂ m' hk₁ hk₂ hr₁ hr₂
    rcases hindex k₁ sb₁ m' hk₁ hr₁ with ⟨he₁, hm₁⟩ | ⟨-, hk₁₀, hlt₁⟩ <;>
      rcases hindex k₂ sb₂ m' hk₂ hr₂ with ⟨he₂, hm₂⟩ | ⟨-, hk₂₀, hlt₂⟩
    · exact he₁.trans he₂.symm
    · omega
    · omega
    · exact h.index_inj k₁ sb₁ k₂ sb₂ m' hk₁₀ hk₂₀ hr₁ hr₂
  · intro k sb hk hr
    rcases hindex k sb 0 hk hr with ⟨-, rfl⟩ | ⟨-, hk₀, -⟩
    · exact absurd hpos (Nat.lt_irrefl _)
    · exact h.index_zero k sb hk₀ hr

theorem Shape.index_lt_succ (h : Shape n) :
    ∀ k sb m', (k, sb) ∈ n.blocks → sb.metadata.referencedBy = some m' → m' < n.milestone + 1 :=
  fun k sb m' hk hr => Nat.lt_succ_of_le (h.index_le k sb m' hk hr)

theorem Shape.confirm {id : BlockId} (h : Shape n) : Shape (n.confirm id).2 := by
  have h₁ := h.tick
  rcases confirm_cases id n with hc | ⟨sb, -, ⟨v, -, hc⟩ | ⟨tx, -, -, -, hc⟩⟩
  · rw [hc]
    exact h
  · rw [hc]
    exact h₁.updateMetadata (Nat.succ_pos _) (Nat.le_refl _) h.index_lt_succ
  · rw [hc]
    exact h₁.book.updateMetadata (Nat.succ_pos _) (Nat.le_refl _) h.index_lt_succ

theorem Shape.conflict {id : BlockId} (h : Shape n) : Shape (n.conflict id).2 := by
  rcases conflict_cases id n with hc | hc
  · rw [hc]
    exact h.tick
  · rw [hc]
    exact h.tick.updateMetadata (Nat.succ_pos _) (Nat.le_refl _) h.index_lt_succ

/-! ### Storing a block -/

theorem Shape.store {b : Block} (h : Shape n) (hnew : n.blockOf? b.id = none)
    (hpar : ∀ p ∈ b.parents, p ∈ n.blocks.map Prod.fst) : Shape (n.store b.id b) := by
  have hk : b.id ∉ n.blocks.map Prod.fst := blockOf?_eq_none.1 hnew
  have hkeys : (n.store b.id b).blocks.map Prod.fst = n.blocks.map Prod.fst ++ [b.id] := by
    simp [LedgerNode.store]
  have hstored : ∀ t, t ∈ (n.store b.id b).blocks.map Prod.fst ↔
      t ∈ n.blocks.map Prod.fst ∨ t = b.id := by
    intro t
    rw [hkeys, List.mem_append, List.mem_singleton]
  -- the new block is approved by no block, old or new, since its parents are stored and it is not
  have hfresh : ¬ n.Approved b.id ∧ b.id ∉ b.parents := by
    constructor
    · rintro ⟨k, sb, hk', ht⟩
      exact hk (h.parents_stored k sb hk' _ ht)
    · intro ht
      exact hk (hpar _ ht)
  have happroved : ∀ t, (n.store b.id b).Approved t ↔ n.Approved t ∨ t ∈ b.parents := by
    intro t
    simp only [Approved, mem_store_blocks, pending]
    constructor
    · rintro ⟨k, sb, hk' | he, ht⟩
      · exact .inl ⟨k, sb, hk', ht⟩
      · obtain ⟨rfl, rfl⟩ := Prod.mk.inj he
        exact .inr ht
    · rintro (⟨k, sb, hk', ht⟩ | ht)
      · exact ⟨k, sb, .inl hk', ht⟩
      · exact ⟨b.id, _, .inr rfl, ht⟩
  have htip : b.id ∉ n.tips := fun ht => hk ((h.mem_tips _).1 ht).1
  -- the entries that carry an index are old ones: the new block is not referenced yet
  have hold : ∀ k sb m, (k, sb) ∈ (n.store b.id b).blocks → sb.metadata.referencedBy = some m →
      (k, sb) ∈ n.blocks := by
    intro k sb m hks hr
    rcases mem_store_blocks.1 hks with hks | he
    · exact hks
    · obtain ⟨rfl, rfl⟩ := Prod.mk.inj he
      cases hr
  refine ⟨?_, ?_, ?_, ?_, ?_, ?_, ?_, ?_, ?_, ?_, h.booked_le⟩
  · rw [hkeys, List.nodup_append]
    refine ⟨h.keys_nodup, by simp, fun a ha c hc hac => ?_⟩
    rw [List.mem_singleton] at hc
    subst hc hac
    exact hk ha
  · intro k sb hks
    rcases mem_store_blocks.1 hks with hks | he
    · exact h.keyed k sb hks
    · obtain ⟨rfl, rfl⟩ := Prod.mk.inj he
      exact ⟨rfl, rfl, rfl⟩
  · intro k sb hks p hp
    rw [hstored]
    rcases mem_store_blocks.1 hks with hks | he
    · exact .inl (h.parents_stored k sb hks p hp)
    · obtain ⟨rfl, rfl⟩ := Prod.mk.inj he
      exact .inl (hpar p hp)
  · show (n.tips.filter (fun t => !b.parents.contains t) ++ [b.id]).Nodup
    rw [List.nodup_append]
    refine ⟨h.tips_nodup.filter _, by simp, fun a ha c hc hac => ?_⟩
    rw [List.mem_singleton] at hc
    subst hc hac
    exact htip (List.mem_filter.1 ha).1
  · show n.tips.filter (fun t => !b.parents.contains t) ++ [b.id] ≠ []
    simp
  · intro t
    show t ∈ n.tips.filter (fun t => !b.parents.contains t) ++ [b.id] ↔ _
    rw [hstored, happroved, List.mem_append, List.mem_filter, List.mem_singleton, h.mem_tips]
    by_cases ht : t = b.id
    · subst ht
      simp [hfresh.1, hfresh.2]
    · simp [ht, and_assoc]
  · intro k sb hks
    rcases mem_store_blocks.1 hks with hks | he
    · exact h.referenced_iff_judged k sb hks
    · obtain ⟨rfl, rfl⟩ := Prod.mk.inj he
      simp [pending]
  · intro k sb m hks hr
    exact h.index_le k sb m (hold k sb m hks hr) hr
  · intro k₁ sb₁ k₂ sb₂ m hk₁ hk₂ hr₁ hr₂
    exact h.index_inj k₁ sb₁ k₂ sb₂ m (hold _ _ _ hk₁ hr₁) (hold _ _ _ hk₂ hr₂) hr₁ hr₂
  · intro k sb hks hr
    exact h.index_zero k sb (hold k sb 0 hks hr) hr

theorem accept_eq_or_parents_stored (b : Block) (n : LedgerNode) :
    (n.accept b).2 = n ∨ ∀ p ∈ b.parents, p ∈ n.blocks.map Prod.fst := by
  cases hf : b.parents.find? fun p => (n.blockOf? p).isNone with
  | none =>
    refine .inr fun p hp => ?_
    have hknown := List.find?_eq_none.1 hf p hp
    cases hb : n.blockOf? p with
    | none => simp [hb] at hknown
    | some sb => exact List.mem_map_of_mem (f := Prod.fst) (mem_of_blockOf? hb)
  | some p =>
    -- an unknown parent refuses the block, as overflowing outputs or a known block leave it
    left
    unfold accept
    simp only [hf, apply_ite Prod.snd, ite_self]

theorem Shape.accept {b : Block} (h : Shape n) : Shape (n.accept b).2 := by
  rcases accept_eq_or_parents_stored b n with he | hpar
  · rw [he]
    exact h
  rcases accept_cases b n with hc | ⟨hnew, hc | hc⟩
  · rw [hc]
    exact h
  · rw [hc]
    exact h.store hnew hpar
  · rw [hc]
    exact (h.store hnew hpar).confirm

theorem Shape.serve {r : Request} {a : Except NodeError r.Answer} (h : Shape n)
    (hs : n.serve r = .ok (a, n')) : Shape n' := by
  have h₁ : Shape { n with requests := n.requests + 1 } := h.frame rfl rfl rfl rfl rfl
  rcases serve_cases hs with rfl | ⟨b, -, rfl⟩
  · exact h₁
  · exact h₁.accept

end LedgerNode

namespace NodeOp

open LedgerNode

theorem shape_apply {op : NodeOp} {n n' : LedgerNode} (h : Shape n) (ha : op.apply n = .ok n') :
    Shape n' := by
  cases op with
  | request r =>
    obtain ⟨a, hs⟩ := apply_request ha
    exact h.serve hs
  | confirm id =>
    cases ha
    exact h.confirm
  | conflict id =>
    cases ha
    exact h.conflict
  | addOutput o =>
    cases ha
    exact h.addOutput
  | prune id =>
    cases ha
    exact h.prune
  | balance a =>
    rw [apply_balance ha]
    exact h
  | setPageSize _ | setAutoConfirm _ | setHint _ | setUnreachable _ | failAfter _ | failAddress _
  | failOutput _ =>
    cases ha
    exact h.frame rfl rfl rfl rfl rfl

theorem shape_run : ∀ (ops : List NodeOp) {n n' : LedgerNode}, Shape n → runOps ops n = .ok n' →
    Shape n'
  | [], _, _, h, hr => by
    cases hr
    exact h
  | op :: ops, n, n', h, hr => by
    cases ha : op.apply n with
    | error e =>
      simp only [runOps, ha] at hr
      cases hr
    | ok n₁ =>
      simp only [runOps, ha] at hr
      exact shape_run ops (shape_apply h ha) hr

end NodeOp

namespace LedgerNode

/-- The representation invariant holds along every run of a fresh node, whatever requests it
serves and whatever is done to it directly: the stored blocks are closed under parents and filed
under their own identifiers, the tips are exactly the blocks no stored block approves, a block's
milestone index and verdict come together, milestones reference one block each and never one
past the counter, index zero marks only the genesis block, and no output is booked after the
current milestone. -/
theorem shape_of_run {name : String} {ops : List NodeOp} {n : LedgerNode}
    (hrun : runOps ops (new name) = .ok n) : Shape n :=
  NodeOp.shape_run ops (shape_new name) hrun

/-- A node whose own confirmation was switched off keeps its shape. -/
theorem shape_after_switch :
    runOps [.setAutoConfirm false] (new "node0") = .ok { new "node0" with autoConfirm := false } ∧
      Shape { new "node0" with autoConfirm := false } := by
  have hrun : runOps [.setAutoConfirm false] (new "node0") =
      .ok { new "node0" with autoConfirm := false } := rfl
  exact ⟨hrun, shape_of_run hrun⟩

end LedgerNode

end DagWallet
