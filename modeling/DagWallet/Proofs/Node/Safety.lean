import DagWallet.Proofs.Node.Views

/-!
Ledger safety of a node. Along every run of a node from its creation, whatever requests it
serves and whatever is done to it directly, its ledger stays consistent: no output is consumed
by two included transactions, every spent output was consumed by an included transaction,
every included transaction sits in the block recorded for it and the outputs it booked point
back at that block, and a block marked included is the one recorded for its transaction.

Identifiers are hashes. The argument needs them told apart only where a run could confuse
them: the synthetic transactions of a run, whose outputs are booked outside any block, must
have identifiers that differ from each other and from those of the transactions submitted in
the run.
-/

namespace DagWallet

namespace LedgerNode

/-- What safety of a ledger means. -/
structure Safe (n : LedgerNode) : Prop where
  disjoint_inputs : ∀ t₁ t₂ b₁ b₂ tx₁ tx₂, n.included.lookup t₁ = some b₁ →
    n.included.lookup t₂ = some b₂ → t₁ ≠ t₂ → n.txOf? b₁ = some tx₁ → n.txOf? b₂ = some tx₂ →
    ∀ o ∈ tx₁.essence.inputs, o ∉ tx₂.essence.inputs
  spent_consumed : ∀ r ∈ n.outputs, r.metadata.isSpent = true →
    ∃ t b tx, n.included.lookup t = some b ∧ n.txOf? b = some tx ∧ r.outputId ∈ tx.essence.inputs
  included_carries : ∀ t b, n.included.lookup t = some b → ∃ tx, n.txOf? b = some tx ∧ tx.id = t
  booked_in : ∀ t b, n.included.lookup t = some b →
    ∀ r ∈ n.outputs, r.outputId.transactionId = t → r.metadata.blockId = b
  marked_recorded : ∀ b sb, (b, sb) ∈ n.blocks → sb.metadata.inclusion = some .included →
    ∀ tx, sb.block.transaction? = some tx → n.included.lookup tx.id = some b

/-- `t` is the identifier of one of the first `k` synthetic transactions. -/
def IsSynthetic (k : Nat) (t : TransactionId) : Prop := ∃ j, 1 ≤ j ∧ j ≤ k ∧ syntheticId j = t

/-- Where the identifier of a booked output's transaction can come from: an included
transaction, or one of the synthetic transactions so far. -/
def Known (n : LedgerNode) (t : TransactionId) : Prop :=
  (n.included.lookup t).isSome ∨ IsSynthetic n.synthetic t

/-- What carries safety from one step to the next in a run with at most `M` synthetic
transactions: besides safety, the inputs of included transactions stay spent (or gone), every
identifier that outputs and inputs mention is known, and no stored transaction has the
identifier of one of the `M` synthetic ones. -/
structure Inv (M : Nat) (n : LedgerNode) : Prop extends Safe n where
  keys_nodup : (n.blocks.map Prod.fst).Nodup
  inputs_spent : ∀ t b tx, n.included.lookup t = some b → n.txOf? b = some tx →
    ∀ o ∈ tx.essence.inputs, n.isUnspent o = false
  outputs_known : ∀ r ∈ n.outputs, n.Known r.outputId.transactionId
  inputs_known : ∀ t b tx, n.included.lookup t = some b → n.txOf? b = some tx →
    ∀ o ∈ tx.essence.inputs, n.Known o.transactionId
  stored_real : ∀ b sb, (b, sb) ∈ n.blocks → ∀ tx, sb.block.transaction? = some tx →
    ¬ IsSynthetic M tx.id
  synthetic_le : n.synthetic ≤ M

variable {M : Nat} {n : LedgerNode}

theorem inv_new (M : Nat) (name : String) : Inv M (new name) where
  disjoint_inputs := by simp [new]
  spent_consumed := by simp [new]
  included_carries := by simp [new]
  booked_in := by simp [new]
  marked_recorded := by simp [new, Block.genesis, Block.make, Block.transaction?]
  keys_nodup := by simp [new]
  inputs_spent := by simp [new]
  outputs_known := by simp [new]
  inputs_known := by simp [new]
  stored_real := by simp [new, Block.genesis, Block.make, Block.transaction?]
  synthetic_le := Nat.zero_le M

theorem Inv.frame {n' : LedgerNode} (h : Inv M n) (hb : n'.blocks = n.blocks)
    (ho : n'.outputs = n.outputs) (hi : n'.included = n.included)
    (hs : n'.synthetic = n.synthetic) : Inv M n' := by
  obtain ⟨⟨h₁, h₂, h₃, h₄, h₅⟩, h₆, h₇, h₈, h₉, h₁₀, h₁₁⟩ := h
  obtain ⟨name, blocks, outputs, included, tips, genesis, milestone, pageSize, autoConfirm, hint,
    unreachable, requestLimit, failingAddresses, failingOutputs, submissions, synthetic,
    requests⟩ := n
  obtain ⟨name', blocks', outputs', included', tips', genesis', milestone', pageSize',
    autoConfirm', hint', unreachable', requestLimit', failingAddresses', failingOutputs',
    submissions', synthetic', requests'⟩ := n'
  simp only at hb ho hi hs
  subst hb ho hi hs
  exact ⟨⟨h₁, h₂, h₃, h₄, h₅⟩, h₆, h₇, h₈, h₉, h₁₀, h₁₁⟩

theorem Inv.of_blocks {n' : LedgerNode} (h : Inv M n) (ho : n'.outputs = n.outputs)
    (hi : n'.included = n.included) (hs : n'.synthetic = n.synthetic)
    (htx : ∀ t b, n.included.lookup t = some b → n'.txOf? b = n.txOf? b)
    (hnd : (n'.blocks.map Prod.fst).Nodup)
    (hmark : ∀ b sb, (b, sb) ∈ n'.blocks → sb.metadata.inclusion = some .included →
      ∀ tx, sb.block.transaction? = some tx → n.included.lookup tx.id = some b)
    (hreal : ∀ b sb, (b, sb) ∈ n'.blocks → ∀ tx, sb.block.transaction? = some tx →
      ¬ IsSynthetic M tx.id) : Inv M n' := by
  have hu : n'.isUnspent = n.isUnspent := by
    funext o
    simp only [isUnspent, outputOf?, ho]
  have hk : n'.Known = n.Known := by
    funext t
    simp only [Known, hi, hs]
  refine ⟨⟨?_, ?_, ?_, ?_, ?_⟩, hnd, ?_, ?_, ?_, hreal, hs ▸ h.synthetic_le⟩
  · intro t₁ t₂ b₁ b₂ tx₁ tx₂ h₁ h₂ hne hx₁ hx₂
    rw [hi] at h₁ h₂
    rw [htx t₁ b₁ h₁] at hx₁
    rw [htx t₂ b₂ h₂] at hx₂
    exact h.disjoint_inputs t₁ t₂ b₁ b₂ tx₁ tx₂ h₁ h₂ hne hx₁ hx₂
  · intro r hr hsp
    rw [ho] at hr
    obtain ⟨t, b, tx, hb, hx, hin⟩ := h.spent_consumed r hr hsp
    exact ⟨t, b, tx, hi ▸ hb, (htx t b hb).trans hx, hin⟩
  · intro t b hb
    rw [hi] at hb
    rw [htx t b hb]
    exact h.included_carries t b hb
  · intro t b hb r hr
    rw [hi] at hb
    rw [ho] at hr
    exact h.booked_in t b hb r hr
  · intro b sb hm hinc tx htxb
    rw [hi]
    exact hmark b sb hm hinc tx htxb
  · intro t b tx hb hx
    rw [hi] at hb
    rw [htx t b hb] at hx
    rw [hu]
    exact h.inputs_spent t b tx hb hx
  · intro r hr
    rw [ho] at hr
    rw [hk]
    exact h.outputs_known r hr
  · intro t b tx hb hx
    rw [hi] at hb
    rw [htx t b hb] at hx
    rw [hk]
    exact h.inputs_known t b tx hb hx

theorem Inv.updateMetadata {id : BlockId} {m : Nat} {v : Inclusion} (h : Inv M n)
    (hv : v = .included → ∀ sb tx, n.blockOf? id = some sb → sb.block.transaction? = some tx →
      n.included.lookup tx.id = some id) :
    Inv M (n.updateMetadata id (referenced m v)) := by
  refine h.of_blocks updateMetadata_outputs updateMetadata_included updateMetadata_synthetic
    (fun _ _ _ => txOf?_updateMetadata _) ?_ ?_ ?_
  · rw [keys_updateMetadata]
    exact h.keys_nodup
  · intro b sb hm hinc tx htx
    obtain ⟨sb₀, hm₀, rfl⟩ := mem_updateMetadata_blocks.1 hm
    by_cases hb : b = id
    · subst hb
      simp only [↓reduceIte, referenced, Option.some.injEq] at hinc htx
      exact hv hinc sb₀ tx (blockOf?_of_mem h.keys_nodup hm₀) htx
    · simp only [hb, ↓reduceIte] at hinc htx
      exact h.marked_recorded b sb₀ hm₀ hinc tx htx
  · intro b sb hm tx htx
    obtain ⟨sb₀, hm₀, rfl⟩ := mem_updateMetadata_blocks.1 hm
    have htx₀ : sb₀.block.transaction? = some tx := by
      by_cases hb : b = id <;> simpa [hb] using htx
    exact h.stored_real b sb₀ hm₀ tx htx₀

theorem Inv.store {id : BlockId} {b : Block} (h : Inv M n) (hnew : n.blockOf? id = none)
    (hreal : ∀ tx, b.transaction? = some tx → ¬ IsSynthetic M tx.id) :
    Inv M (n.store id b) := by
  refine h.of_blocks store_outputs store_included store_synthetic ?_ ?_ ?_ ?_
  · intro t b' hb
    obtain ⟨tx, hx, -⟩ := h.included_carries t b' hb
    obtain ⟨sb, hsb, -⟩ := txOf?_eq_some hx
    simp only [txOf?, blockOf?_store, hsb, Option.some_or]
  · have hk : id ∉ n.blocks.map Prod.fst := blockOf?_eq_none.1 hnew
    show ((n.blocks ++ [(id, pending id b)]).map Prod.fst).Nodup
    rw [List.map_append, List.nodup_append]
    refine ⟨h.keys_nodup, by simp, ?_⟩
    intro a ha c hc hac
    rw [List.map_singleton, List.mem_singleton] at hc
    subst hc hac
    exact hk ha
  · intro b' sb hm hinc tx htx
    rcases mem_store_blocks.1 hm with hm | he
    · exact h.marked_recorded b' sb hm hinc tx htx
    · obtain ⟨rfl, rfl⟩ := Prod.mk.inj he
      cases hinc
  · intro b' sb hm tx htx
    rcases mem_store_blocks.1 hm with hm | he
    · exact h.stored_real b' sb hm tx htx
    · obtain ⟨rfl, rfl⟩ := Prod.mk.inj he
      exact hreal tx htx

theorem Inv.book {id : BlockId} {sb : StoredBlock} {tx : Transaction} {m : Nat} (h : Inv M n)
    (hsb : n.blockOf? id = some sb) (htx : sb.block.transaction? = some tx)
    (hnew : n.included.lookup tx.id = none)
    (hins : ∀ o ∈ tx.essence.inputs, n.isUnspent o = true) : Inv M (n.book tx id m) := by
  have hx : n.txOf? id = some tx := by simp [txOf?, hsb, htx]
  -- the new transaction's identifier is mentioned nowhere yet
  have hunknown : ¬ n.Known tx.id := by
    rintro (hk | ⟨j, hj₁, hj₂, hj⟩)
    · simp [hnew] at hk
    · exact h.stored_real id sb (mem_of_blockOf? hsb) tx htx
        ⟨j, hj₁, Nat.le_trans hj₂ h.synthetic_le, hj⟩
  have hne : ∀ t, n.Known t → t ≠ tx.id := fun t hk e => hunknown (e ▸ hk)
  have hlook := lookup_book (b := id) (m := m) hnew
  have hself : (n.book tx id m).included.lookup tx.id = some id := by rw [hlook, if_pos rfl]
  have hold : ∀ t b, n.included.lookup t = some b → (n.book tx id m).included.lookup t = some b := by
    intro t b hb
    have ht : t ≠ tx.id := fun e => by simp [e, hnew] at hb
    rw [hlook, if_neg ht, hb]
  -- an entry of the new index is the new transaction or an old entry
  have hcases : ∀ t b, (n.book tx id m).included.lookup t = some b →
      (t = tx.id ∧ b = id) ∨ n.included.lookup t = some b := by
    intro t b hb
    rw [hlook] at hb
    by_cases ht : t = tx.id
    · rw [if_pos ht] at hb
      exact .inl ⟨ht, (Option.some.inj hb).symm⟩
    · rw [if_neg ht] at hb
      exact .inr hb
  have hknown : ∀ t, n.Known t → (n.book tx id m).Known t := by
    rintro t (hk | hk)
    · obtain ⟨b, hb⟩ := Option.isSome_iff_exists.1 hk
      exact .inl (by rw [hold t b hb]; rfl)
    · exact .inr hk
  -- an input of the new transaction is a stored output, so its identifier is known
  have hinput : ∀ o ∈ tx.essence.inputs, n.Known o.transactionId := by
    intro o ho
    obtain ⟨r, hr, rfl⟩ := stored_of_isUnspent (hins o ho)
    exact h.outputs_known r hr
  refine ⟨⟨?_, ?_, ?_, ?_, ?_⟩, h.keys_nodup, ?_, ?_, ?_, h.stored_real, h.synthetic_le⟩
  · intro t₁ t₂ b₁ b₂ tx₁ tx₂ h₁ h₂ hne₁₂ hx₁ hx₂ o ho₁ ho₂
    rw [txOf?_book] at hx₁ hx₂
    rcases hcases t₁ b₁ h₁ with ⟨rfl, rfl⟩ | hold₁ <;>
      rcases hcases t₂ b₂ h₂ with ⟨rfl, rfl⟩ | hold₂
    · exact hne₁₂ rfl
    · obtain rfl := Option.some.inj (hx₁.symm.trans hx)
      have hsp := h.inputs_spent t₂ b₂ tx₂ hold₂ hx₂ o ho₂
      rw [hins o ho₁] at hsp
      cases hsp
    · obtain rfl := Option.some.inj (hx₂.symm.trans hx)
      have hsp := h.inputs_spent t₁ b₁ tx₁ hold₁ hx₁ o ho₁
      rw [hins o ho₂] at hsp
      cases hsp
    · exact h.disjoint_inputs t₁ t₂ b₁ b₂ tx₁ tx₂ hold₁ hold₂ hne₁₂ hx₁ hx₂ o ho₁ ho₂
  · intro r hr hsp
    rcases mem_book_outputs hr with ⟨-, -, hfresh⟩ | ⟨r₀, hr₀, hid, -, hspent⟩
    · rw [hfresh] at hsp
      cases hsp
    · rcases hspent hsp with hsp₀ | hin
      · obtain ⟨t, b, tx', hb, hx', hin⟩ := h.spent_consumed r₀ hr₀ hsp₀
        exact ⟨t, b, tx', hold t b hb, hx', hid ▸ hin⟩
      · exact ⟨tx.id, id, tx, hself, hx, hid ▸ hin⟩
  · intro t b hb
    rcases hcases t b hb with ⟨rfl, rfl⟩ | hb₀
    · exact ⟨tx, hx, rfl⟩
    · exact h.included_carries t b hb₀
  · intro t b hb r hr hrt
    rcases mem_book_outputs hr with ⟨hrtx, hrb, -⟩ | ⟨r₀, hr₀, hid, hblock, -⟩
    · rcases hcases t b hb with ⟨-, rfl⟩ | hb₀
      · exact hrb
      · rw [← hrt, hrtx, hnew] at hb₀
        cases hb₀
    · rw [hid] at hrt
      rcases hcases t b hb with ⟨rfl, -⟩ | hb₀
      · exact absurd hrt (hne _ (h.outputs_known r₀ hr₀))
      · rw [hblock]
        exact h.booked_in t b hb₀ r₀ hr₀ hrt
  · intro b sb' hm hinc tx' htx'
    exact hold _ _ (h.marked_recorded b sb' hm hinc tx' htx')
  · intro t b tx' hb hx' o ho
    rw [txOf?_book] at hx'
    rcases hcases t b hb with ⟨rfl, rfl⟩ | hb₀
    · obtain rfl := Option.some.inj (hx'.symm.trans hx)
      rw [isUnspent_book (hne _ (hinput o ho)), hins o ho]
      simp [ho]
    · rw [isUnspent_book (hne _ (h.inputs_known t b tx' hb₀ hx' o ho)),
        h.inputs_spent t b tx' hb₀ hx' o ho, Bool.false_and]
  · intro r hr
    rcases mem_book_outputs hr with ⟨hrtx, -, -⟩ | ⟨r₀, hr₀, hid, -, -⟩
    · exact .inl (by rw [hrtx, hself]; rfl)
    · exact hid ▸ hknown _ (h.outputs_known r₀ hr₀)
  · intro t b tx' hb hx' o ho
    rw [txOf?_book] at hx'
    rcases hcases t b hb with ⟨rfl, rfl⟩ | hb₀
    · obtain rfl := Option.some.inj (hx'.symm.trans hx)
      exact hknown _ (hinput o ho)
    · exact hknown _ (h.inputs_known t b tx' hb₀ hx' o ho)

theorem Inv.addOutput {o : Output}
    (hdist : ∀ i j, 1 ≤ i → i ≤ M → 1 ≤ j → j ≤ M → syntheticId i = syntheticId j → i = j)
    (h : Inv M n) (hlt : n.synthetic < M) : Inv M (n.addOutput o).2 := by
  have hfresh : ¬ n.Known (syntheticId (n.synthetic + 1)) := by
    rintro (hk | ⟨j, hj₁, hj₂, hj⟩)
    · obtain ⟨b, hb⟩ := Option.isSome_iff_exists.1 hk
      obtain ⟨tx, hx, htx⟩ := h.included_carries _ b hb
      obtain ⟨sb, hsb, htxb⟩ := txOf?_eq_some hx
      exact h.stored_real b sb (mem_of_blockOf? hsb) tx htxb
        ⟨n.synthetic + 1, by omega, by omega, htx.symm⟩
    · have hj' := hdist j (n.synthetic + 1) hj₁ (by omega) (by omega) (by omega) hj
      omega
  have hne : ∀ id : OutputId, n.Known id.transactionId →
      (⟨syntheticId (n.synthetic + 1), 0⟩ : OutputId) ≠ id := by
    intro id hk e
    subst e
    exact hfresh hk
  have hknown : ∀ t, n.Known t → (n.addOutput o).2.Known t := by
    rintro t (hk | ⟨j, hj₁, hj₂, hj⟩)
    · exact .inl hk
    · exact .inr ⟨j, hj₁, Nat.le_succ_of_le hj₂, hj⟩
  have hmem : ∀ r ∈ (n.addOutput o).2.outputs,
      r = ⟨⟨syntheticId (n.synthetic + 1), 0⟩, o, ⟨n.genesis, false, n.milestone⟩⟩ ∨
        r ∈ n.outputs := fun r hr => mem_insertOutput hr
  refine ⟨⟨h.disjoint_inputs, ?_, h.included_carries, ?_, h.marked_recorded⟩, h.keys_nodup, ?_,
    ?_, ?_, h.stored_real, hlt⟩
  · intro r hr hsp
    rcases hmem r hr with rfl | hr₀
    · cases hsp
    · exact h.spent_consumed r hr₀ hsp
  · intro t b hb r hr hrt
    rcases hmem r hr with rfl | hr₀
    · have hrt' : syntheticId (n.synthetic + 1) = t := hrt
      have hb' : n.included.lookup t = some b := hb
      exact absurd (.inl (by rw [hrt', hb']; rfl)) hfresh
    · exact h.booked_in t b hb r hr₀ hrt
  · intro t b tx hb hx o' ho'
    rw [isUnspent_addOutput (hne o' (h.inputs_known t b tx hb hx o' ho'))]
    exact h.inputs_spent t b tx hb hx o' ho'
  · intro r hr
    rcases hmem r hr with rfl | hr₀
    · exact .inr ⟨n.synthetic + 1, by omega, Nat.le_refl _, rfl⟩
    · exact hknown _ (h.outputs_known r hr₀)
  · intro t b tx hb hx o' ho'
    exact hknown _ (h.inputs_known t b tx hb hx o' ho')

theorem Inv.prune {id : OutputId} (h : Inv M n) : Inv M (n.pruneOutput id) := by
  have hmem : ∀ r ∈ (n.pruneOutput id).outputs, r ∈ n.outputs :=
    fun r hr => (List.mem_filter.1 hr).1
  refine ⟨⟨h.disjoint_inputs, ?_, h.included_carries, ?_, h.marked_recorded⟩, h.keys_nodup, ?_,
    ?_, h.inputs_known, h.stored_real, h.synthetic_le⟩
  · intro r hr hsp
    exact h.spent_consumed r (hmem r hr) hsp
  · intro t b hb r hr hrt
    exact h.booked_in t b hb r (hmem r hr) hrt
  · intro t b tx hb hx o ho
    cases hu : (n.pruneOutput id).isUnspent o
    · rfl
    · have hsp := h.inputs_spent t b tx hb hx o ho
      rw [isUnspent_pruneOutput hu] at hsp
      cases hsp
  · intro r hr
    exact h.outputs_known r (hmem r hr)

theorem Inv.confirm {id : BlockId} (h : Inv M n) : Inv M (n.confirm id).2 := by
  have h₁ : Inv M { n with milestone := n.milestone + 1 } := h.frame rfl rfl rfl rfl
  rcases confirm_cases id n with hc | ⟨sb, hsb, ⟨v, hv, hc⟩ | ⟨tx, htx, hnew, hins, hc⟩⟩
  · rw [hc]
    exact h
  · rw [hc]
    exact h₁.updateMetadata fun hinc => absurd hinc hv
  · rw [hc]
    have h₂ := h₁.book (m := n.milestone + 1) hsb htx hnew hins
    refine h₂.updateMetadata fun _ sb' tx' hsb' htx' => ?_
    -- the block is the one just judged, so its transaction is the one just booked
    have hsb'' : n.blockOf? id = some sb' := hsb'
    obtain rfl := Option.some.inj (hsb''.symm.trans hsb)
    obtain rfl := Option.some.inj (htx'.symm.trans htx)
    exact (lookup_book (n := { n with milestone := n.milestone + 1 }) (m := n.milestone + 1) hnew
      tx'.id).trans (if_pos rfl)

theorem Inv.conflict {id : BlockId} (h : Inv M n) : Inv M (n.conflict id).2 := by
  have h₁ : Inv M { n with milestone := n.milestone + 1 } := h.frame rfl rfl rfl rfl
  rcases conflict_cases id n with hc | hc
  · rw [hc]
    exact h₁
  · rw [hc]
    exact h₁.updateMetadata fun hinc => by cases hinc

theorem Inv.accept {b : Block} (h : Inv M n)
    (hreal : ∀ tx, b.transaction? = some tx → ¬ IsSynthetic M tx.id) : Inv M (n.accept b).2 := by
  rcases accept_cases b n with hc | ⟨hnew, hc | hc⟩
  · rw [hc]
    exact h
  · rw [hc]
    exact h.store hnew hreal
  · rw [hc]
    exact (h.store hnew hreal).confirm

theorem Inv.serve {r : Request} {a : Except NodeError r.Answer} {n' : LedgerNode} (h : Inv M n)
    (hreal : ∀ b, r = .submit b → ∀ tx, b.transaction? = some tx → ¬ IsSynthetic M tx.id)
    (hs : n.serve r = .ok (a, n')) : Inv M n' := by
  have h₁ : Inv M { n with requests := n.requests + 1 } := h.frame rfl rfl rfl rfl
  rcases serve_cases hs with rfl | ⟨b, rfl, rfl⟩
  · exact h₁
  · exact h₁.accept (hreal b rfl)

end LedgerNode

namespace NodeOp

open LedgerNode

/-- What a run with `M` synthetic transactions asks of one of its operations: a submitted
transaction does not have the identifier of one of them. -/
def Fits (M : Nat) : NodeOp → Prop
  | .request (.submit b) => ∀ tx, b.transaction? = some tx → ¬ IsSynthetic M tx.id
  | _ => True

variable {M : Nat} {n n' : LedgerNode}

theorem inv_apply
    (hdist : ∀ i j, 1 ≤ i → i ≤ M → 1 ≤ j → j ≤ M → syntheticId i = syntheticId j → i = j)
    {op : NodeOp} (h : Inv M n) (hfit : op.Fits M) (hroom : op.isAddOutput → n.synthetic < M)
    (ha : op.apply n = .ok n') : Inv M n' := by
  cases op with
  | request r =>
    obtain ⟨a, hs⟩ := apply_request ha
    refine h.serve (fun b hb => ?_) hs
    subst hb
    exact hfit
  | confirm id =>
    cases ha
    exact h.confirm
  | conflict id =>
    cases ha
    exact h.conflict
  | addOutput o =>
    cases ha
    exact h.addOutput hdist (hroom rfl)
  | prune id =>
    cases ha
    exact h.prune
  | balance a =>
    rw [apply_balance ha]
    exact h
  | setPageSize _ | setAutoConfirm _ | setHint _ | setUnreachable _ | failAfter _ | failAddress _
  | failOutput _ =>
    cases ha
    exact h.frame rfl rfl rfl rfl

theorem inv_run
    (hdist : ∀ i j, 1 ≤ i → i ≤ M → 1 ≤ j → j ≤ M → syntheticId i = syntheticId j → i = j) :
    ∀ (ops : List NodeOp) {n n' : LedgerNode}, Inv M n → (∀ op ∈ ops, op.Fits M) →
      n.synthetic + ops.countP isAddOutput ≤ M → runOps ops n = .ok n' → Inv M n'
  | [], _, _, h, _, _, hr => by
    cases hr
    exact h
  | op :: ops, n, n', h, hfit, hroom, hr => by
    cases ha : op.apply n with
    | error e =>
      simp only [runOps, ha] at hr
      cases hr
    | ok n₁ =>
      have hr₁ : runOps ops n₁ = .ok n' := by
        simp only [runOps, ha] at hr
        exact hr
      have hsyn := synthetic_apply ha
      have hcount := List.countP_cons (p := isAddOutput) (a := op) (l := ops)
      have h₁ := inv_apply hdist h (hfit op List.mem_cons_self)
        (fun hop => by simp only [hop, ↓reduceIte] at hcount; omega) ha
      refine inv_run hdist ops h₁ (fun op' ho => hfit op' (List.mem_cons_of_mem op ho)) ?_ hr₁
      split at hsyn <;> split at hcount <;> omega

end NodeOp

namespace LedgerNode

/-- What a collision-free hash gives for one run: its synthetic transactions have pairwise
distinct identifiers, none of which is the identifier of a transaction submitted in the run. -/
def SyntheticApart (ops : List NodeOp) : Prop :=
  (∀ i j, 1 ≤ i → i ≤ ops.countP NodeOp.isAddOutput → 1 ≤ j → j ≤ ops.countP NodeOp.isAddOutput →
    syntheticId i = syntheticId j → i = j) ∧
  ∀ op ∈ ops, op.Fits (ops.countP NodeOp.isAddOutput)

/-- Ledger safety: along every run of a fresh node whose synthetic transactions are told apart
from each other and from the transactions it is sent, no output is consumed twice, a spent
output was consumed by an included transaction, an included transaction sits in its recorded
block and its outputs point there, and a block marked included is the recorded one. -/
theorem safe_of_run {name : String} {ops : List NodeOp} {n : LedgerNode}
    (hapart : SyntheticApart ops) (hrun : runOps ops (new name) = .ok n) : Safe n :=
  (NodeOp.inv_run hapart.1 ops (inv_new _ name) hapart.2 (by simp [new]) hrun).toSafe

/-- A node with its own confirmation turned off and one synthetic output is safe. -/
theorem safe_after_synthetic_output :
    SyntheticApart [.setAutoConfirm false, .addOutput (Output.basic 7 ⟨⟨Vector.replicate 32 1⟩⟩)] ∧
    Safe ({ new "node0" with autoConfirm := false }.addOutput
      (Output.basic 7 ⟨⟨Vector.replicate 32 1⟩⟩)).2 := by
  have hapart : SyntheticApart
      [.setAutoConfirm false, .addOutput (Output.basic 7 ⟨⟨Vector.replicate 32 1⟩⟩)] := by
    refine ⟨fun i j hi₁ hi₂ hj₁ hj₂ _ => ?_, fun op hop => ?_⟩
    · simp [NodeOp.isAddOutput] at hi₂ hj₂
      omega
    · simp only [List.mem_cons, List.not_mem_nil, or_false] at hop
      rcases hop with rfl | rfl <;> trivial
  exact ⟨hapart, safe_of_run hapart rfl⟩

end LedgerNode

end DagWallet
