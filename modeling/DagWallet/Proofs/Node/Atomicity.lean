import DagWallet.Proofs.Node.Cursors
import DagWallet.Proofs.Node.Verdicts

/-!
Failed operations of a node, and blocks submitted twice. A submission that fails changes
nothing but the request count; a milestone that does not find its block changes nothing at all;
and a block submitted a second time is answered as the first time, the node only counting the
request: a block that went in is stored, one that was refused is refused again. A conflict,
unlike a milestone, moves the milestone counter on before it looks the block up, so a conflict
that does not find its block still uses up a milestone index.

Submitting, confirming and conflicting neither read nor change the request count, which is
what lets a second submission be compared with the first.
-/

namespace DagWallet

namespace Block

/-- The outputs of the block's transaction, if it has one, sum within 64 bits. A node refuses
every other block. -/
def Fits (b : Block) : Prop :=
  ∀ tx, b.transaction? = some tx → tx.essence.outputAmount?.isSome = true

theorem genesis_fits : genesis.Fits := by
  intro tx h
  cases h

end Block

namespace LedgerNode

variable {n : LedgerNode} {b : Block} {id : BlockId} {k : Nat}

/-! ### The request count -/

@[simp] theorem counted_blockOf? : (n.counted k).blockOf? id = n.blockOf? id := rfl

@[simp] theorem counted_autoConfirm : (n.counted k).autoConfirm = n.autoConfirm := rfl

@[simp] theorem counted_included : (n.counted k).included = n.included := rfl

@[simp] theorem counted_isUnspent : (n.counted k).isUnspent = n.isUnspent := rfl

theorem judge_counted (blk : Block) (m : Nat) :
    (n.counted k).judge id blk m = ((n.judge id blk m).1, (n.judge id blk m).2.counted k) := by
  unfold judge
  split
  · rfl
  · simp only [counted_included, counted_isUnspent]
    split
    · next hc =>
      simp only [hc, ↓reduceIte]
    · next hc =>
      simp only [hc]
      rfl

theorem confirm_counted :
    (n.counted k).confirm id = ((n.confirm id).1, (n.confirm id).2.counted k) := by
  unfold confirm
  rw [counted_blockOf?]
  split
  · rfl
  · have hj := @judge_counted { n with milestone := n.milestone + 1 } id k
    exact congrArg (fun p => (Except.ok p.1, p.2.updateMetadata id fun md =>
      { md with referencedBy := some (n.milestone + 1), inclusion := some p.1 })) (hj _ _)

theorem store_counted : (n.counted k).store id b = (n.store id b).counted k := rfl

theorem accept_counted : (n.counted k).accept b = ((n.accept b).1, (n.accept b).2.counted k) := by
  unfold accept
  dsimp only
  -- Both sides take the same branch at each test, and no test reads the count. The two shapes
  -- of payload differ only in the overflow test.
  split
  all_goals
    split
    · rfl
    · split
      · next hknown => rw [if_pos (show (n.blockOf? b.id).isSome = true from hknown)]
      · next hknown =>
        rw [if_neg (show ¬(n.blockOf? b.id).isSome = true from hknown)]
        split
        · next p hp => rw [show b.parents.find? (fun p => (n.blockOf? p).isNone) = some p from hp]
        · next hp =>
          rw [show b.parents.find? (fun p => (n.blockOf? p).isNone) = none from hp]
          dsimp only
          split
          · next hauto =>
            rw [if_pos (show (n.store b.id b).autoConfirm = true from hauto), store_counted,
              confirm_counted]
          · next hauto =>
            rw [if_neg (show ¬(n.store b.id b).autoConfirm = true from hauto)]
            rfl


/-! ### What a submission comes to -/

theorem accept_outcome (b : Block) (n : LedgerNode) :
    (∃ e, (n.accept b).1 = .error e ∧ (n.accept b).2 = n) ∨
    ((n.accept b).1 = .ok b.id ∧ b.Fits ∧
      ((n.blockOf? b.id).isSome ∧ (n.accept b).2 = n ∨
        n.blockOf? b.id = none ∧
          ((n.accept b).2 = n.store b.id b ∨ (n.accept b).2 = ((n.store b.id b).confirm b.id).2))) := by
  unfold accept
  dsimp only
  -- the two shapes of payload differ only in the overflow test
  split
  all_goals
    split
    · exact .inl ⟨_, rfl, rfl⟩
    · have hfits : b.Fits := by
        intro tx' htx'
        simp_all [Option.isSome_iff_ne_none]
      split
      · next hknown => exact .inr ⟨rfl, hfits, .inl ⟨hknown, rfl⟩⟩
      · next hknown =>
        have hnew : n.blockOf? b.id = none := by simpa using hknown
        split
        · exact .inl ⟨_, rfl, rfl⟩
        · split
          · exact .inr ⟨rfl, hfits, .inr ⟨hnew, .inr rfl⟩⟩
          · exact .inr ⟨rfl, hfits, .inr ⟨hnew, .inl rfl⟩⟩

theorem accept_error {e : NodeError} (h : (n.accept b).1 = .error e) : (n.accept b).2 = n := by
  rcases accept_outcome b n with ⟨e', -, hn⟩ | ⟨hok, -⟩
  · exact hn
  · rw [hok] at h
    cases h

theorem stored_of_accept_ok (hok : (n.accept b).1 = .ok b.id) :
    b.Fits ∧ ∃ sb, (n.accept b).2.blockOf? b.id = some sb := by
  rcases accept_outcome b n with ⟨e, he, -⟩ | ⟨-, hfits, ⟨hknown, hn⟩ | ⟨hnew, hs | hs⟩⟩
  · rw [he] at hok
    cases hok
  · rw [hn]
    exact ⟨hfits, Option.isSome_iff_exists.mp hknown⟩
  · have hstored : (n.store b.id b).blockOf? b.id = some (pending b.id b) := by
      simp [blockOf?_store, hnew]
    exact ⟨hfits, _, by rw [hs, hstored]⟩
  · have hstored : (n.store b.id b).blockOf? b.id = some (pending b.id b) := by
      simp [blockOf?_store, hnew]
    obtain ⟨v, hv⟩ := blockOf?_confirm_self hstored
    exact ⟨hfits, _, by rw [hs, hv]⟩

theorem accept_stored {sb : StoredBlock} (hfits : b.Fits) (hb : n.blockOf? b.id = some sb) :
    n.accept b = (.ok b.id, n) := by
  unfold accept
  dsimp only
  split
  all_goals
    split
    · exfalso
      simp_all [Block.Fits]
    · rw [if_pos (by simp [hb])]

theorem accept_accept : (n.accept b).2.accept b = n.accept b := by
  rcases accept_outcome b n with ⟨e, -, hn⟩ | ⟨hok, -⟩
  · rw [hn]
  · obtain ⟨hfits, sb, hsb⟩ := stored_of_accept_ok hok
    rw [accept_stored hfits hsb, ← hok]

theorem accept_door (b : Block) (n : LedgerNode) :
    (n.accept b).2.unreachable = n.unreachable ∧ (n.accept b).2.requestLimit = n.requestLimit ∧
      (n.accept b).2.requests = n.requests := by
  rcases accept_cases b n with hc | ⟨-, hc | hc⟩ <;> rw [hc]
  · exact ⟨rfl, rfl, rfl⟩
  · exact ⟨rfl, rfl, rfl⟩
  · rcases confirm_cases b.id (n.store b.id b) with hc' | ⟨sb, -, ⟨v, -, hc'⟩ | ⟨tx, -, -, -, hc'⟩⟩ <;>
      rw [hc'] <;> exact ⟨rfl, rfl, rfl⟩

theorem Lets.accept {k : Nat} (h : n.Lets k) : (n.accept b).2.Lets k := by
  obtain ⟨hu, hl, hr⟩ := accept_door b n
  refine ⟨hu.trans h.1, fun l hl' => ?_⟩
  rw [hr]
  exact h.2 l (hl ▸ hl')

/-! ### Failed operations -/

theorem serve_submit (hlet : n.Lets 1) : n.serve (.submit b) = .ok ((n.counted 1).accept b) := by
  rw [hlet.serve]
  rfl

theorem serve_submit_error {e : NodeError} {n' : LedgerNode}
    (h : n.serve (.submit b) = .ok (.error e, n')) : n' = n.counted 1 := by
  rcases he : n.enter (Request.submit b).operation with ⟨res, n₁⟩
  have hn₁ : n₁ = n.counted 1 := by
    have hsnd := enter_snd (Request.submit b).operation n
    rw [he] at hsnd
    exact hsnd
  simp only [LedgerNode.serve, he] at h
  cases res with
  | error => exact (eq_of_pure_ok h).trans hn₁
  | ok _ =>
    have hacc : n₁.accept b = (.error e, n') := Except.ok.inj h
    have hkept := accept_error (n := n₁) (b := b) (e := e) (by rw [hacc])
    rw [hacc] at hkept
    exact hkept.trans hn₁

theorem confirm_of_unknown (h : n.blockOf? id = none) :
    n.confirm id = (.error (.notFound (.block id)), n) := by
  simp [confirm, h]

theorem confirm_error {e : NodeError} (h : (n.confirm id).1 = .error e) : (n.confirm id).2 = n := by
  cases hb : n.blockOf? id with
  | none => rw [confirm_of_unknown hb]
  | some sb =>
    simp only [confirm, hb] at h
    cases h

theorem conflict_of_unknown (h : n.blockOf? id = none) :
    n.conflict id = (.error (.notFound (.block id)), { n with milestone := n.milestone + 1 }) := by
  have h' : { n with milestone := n.milestone + 1 }.blockOf? id = none := h
  simp [conflict, h']

theorem conflict_error {e : NodeError} (h : (n.conflict id).1 = .error e) :
    (n.conflict id).2 = { n with milestone := n.milestone + 1 } := by
  cases hb : n.blockOf? id with
  | none => rw [conflict_of_unknown hb]
  | some sb =>
    have hb' : { n with milestone := n.milestone + 1 }.blockOf? id = some sb := hb
    simp only [conflict, hb'] at h
    cases h

/-! ### Submitting twice -/

theorem serve_submit_twice (hlet : n.Lets 2) (b : Block) :
    ∃ x n₁, n.serve (.submit b) = .ok (x, n₁) ∧ n₁.serve (.submit b) = .ok (x, n₁.counted 1) := by
  have hlet₁ : (n.counted 1).Lets 1 := hlet.counted
  refine ⟨((n.counted 1).accept b).1, ((n.counted 1).accept b).2,
    serve_submit (hlet.mono (by decide)), ?_⟩
  rw [serve_submit hlet₁.accept, accept_counted, accept_accept]
  rfl

/-! ### Stored blocks fit -/

/-- Every stored block fits. -/
def BlocksFit (n : LedgerNode) : Prop := ∀ k sb, n.blockOf? k = some sb → sb.block.Fits

theorem blocksFit_new (name : String) : BlocksFit (new name) := by
  intro k sb h
  have hmem := mem_of_blockOf? h
  simp only [new, List.mem_singleton, Prod.mk.injEq] at hmem
  obtain ⟨-, rfl⟩ := hmem
  exact Block.genesis_fits

theorem BlocksFit.of_blocks {n' : LedgerNode} (h : BlocksFit n) (hb : n'.blocks = n.blocks) :
    BlocksFit n' := by
  intro k sb hk
  exact h k sb (by rw [blockOf?, hb] at hk; exact hk)

theorem BlocksFit.updateMetadata {f : BlockMetadata → BlockMetadata} (h : BlocksFit n) :
    BlocksFit (n.updateMetadata id f) := by
  intro k sb hk
  rw [blockOf?_updateMetadata] at hk
  obtain ⟨sb₀, h₀, rfl⟩ := Option.map_eq_some_iff.mp hk
  have hfits := h k sb₀ h₀
  split <;> exact hfits

theorem BlocksFit.confirm (h : BlocksFit n) : BlocksFit (n.confirm id).2 := by
  rcases confirm_cases id n with hc | ⟨sb, -, ⟨v, -, hc⟩ | ⟨tx, -, -, -, hc⟩⟩ <;> rw [hc]
  · exact h
  · exact (h.of_blocks rfl).updateMetadata
  · exact (h.of_blocks rfl).updateMetadata

theorem BlocksFit.conflict (h : BlocksFit n) : BlocksFit (n.conflict id).2 := by
  rcases conflict_cases id n with hc | hc <;> rw [hc]
  · exact h.of_blocks rfl
  · exact (h.of_blocks rfl).updateMetadata

theorem BlocksFit.accept (h : BlocksFit n) : BlocksFit (n.accept b).2 := by
  rcases accept_outcome b n with ⟨e, -, hn⟩ | ⟨-, hfits, ⟨-, hn⟩ | ⟨hnew, hs | hs⟩⟩
  · rw [hn]
    exact h
  · rw [hn]
    exact h
  all_goals
    have hstore : BlocksFit (n.store b.id b) := by
      intro k sb hk
      rw [blockOf?_store] at hk
      cases h₀ : n.blockOf? k with
      | some sb₀ =>
        rw [h₀] at hk
        cases hk
        exact h k _ h₀
      | none =>
        rw [h₀] at hk
        by_cases hkb : k = b.id
        · simp only [hkb, ↓reduceIte, Option.none_or, Option.some.injEq] at hk
          rw [← hk]
          exact hfits
        · simp [hkb] at hk
    rw [hs]
  · exact hstore
  · exact hstore.confirm

theorem BlocksFit.serve {r : Request} {x : Except NodeError r.Answer} {n' : LedgerNode}
    (h : BlocksFit n) (hs : n.serve r = .ok (x, n')) : BlocksFit n' := by
  rcases serve_cases hs with rfl | ⟨b, -, rfl⟩
  · exact h.of_blocks rfl
  · have hcounted : BlocksFit (n.counted 1) := h.of_blocks rfl
    exact hcounted.accept

end LedgerNode

namespace NodeOp

open LedgerNode

theorem blocksFit_apply {op : NodeOp} {n n' : LedgerNode} (h : BlocksFit n)
    (ha : op.apply n = .ok n') : BlocksFit n' := by
  cases op with
  | request r =>
    obtain ⟨x, hs⟩ := apply_request ha
    exact h.serve hs
  | confirm id =>
    cases ha
    exact h.confirm
  | conflict id =>
    cases ha
    exact h.conflict
  | balance a =>
    rw [apply_balance ha]
    exact h
  | addOutput _ | prune _ | setPageSize _ | setAutoConfirm _ | setHint _ | setUnreachable _
  | failAfter _ | failAddress _ | failOutput _ =>
    cases ha
    exact h.of_blocks rfl

theorem blocksFit_run : ∀ (ops : List NodeOp) {n n' : LedgerNode}, BlocksFit n →
    runOps ops n = .ok n' → BlocksFit n'
  | [], _, _, h, hr => by
    cases hr
    exact h
  | op :: ops, n, n', h, hr => by
    cases ha : op.apply n with
    | error e =>
      simp only [runOps, ha] at hr
      cases hr
    | ok n₁ =>
      simp only [runOps, ha] at hr
      exact blocksFit_run ops (blocksFit_apply h ha) hr

end NodeOp

namespace LedgerNode

variable {n : LedgerNode} {b : Block}

theorem serve_submit_stored {ops : List NodeOp} {name : String} {sb : StoredBlock}
    (hrun : runOps ops (new name) = .ok n) (hb : n.blockOf? b.id = some sb) (hsb : sb.block = b)
    (hlet : n.Lets 1) : n.serve (.submit b) = .ok (.ok b.id, n.counted 1) := by
  have hfits : b.Fits := hsb ▸ NodeOp.blocksFit_run ops (blocksFit_new name) hrun b.id sb hb
  rw [serve_submit hlet, accept_stored (n := n.counted 1) hfits hb]
  rfl

/-- What a failed operation leaves, and what a second submission does. A submission that fails
only counts the request; a milestone that fails changes nothing; a conflict that fails has moved
the milestone counter on and changed nothing else. A block submitted twice is answered the
second time as the first, the second only counting the request, and along every run of a fresh
node a block that is stored is answered with its identifier when it comes again. -/
theorem failed_operations_keep_state (n : LedgerNode) :
    (∀ b e n', n.serve (.submit b) = .ok (.error e, n') → n' = n.counted 1) ∧
    (∀ id e, (n.confirm id).1 = .error e → (n.confirm id).2 = n) ∧
    (∀ id e, (n.conflict id).1 = .error e →
      (n.conflict id).2 = { n with milestone := n.milestone + 1 }) ∧
    (∀ b, n.Lets 2 →
      ∃ x n₁, n.serve (.submit b) = .ok (x, n₁) ∧ n₁.serve (.submit b) = .ok (x, n₁.counted 1)) ∧
    (∀ ops name b sb, runOps ops (new name) = .ok n → n.blockOf? b.id = some sb → sb.block = b →
      n.Lets 1 → n.serve (.submit b) = .ok (.ok b.id, n.counted 1)) :=
  ⟨fun _ _ _ h => serve_submit_error h, fun _ _ h => confirm_error h, fun _ _ h => conflict_error h,
    fun b h => serve_submit_twice h b, fun _ _ _ _ hrun hb hsb hlet => serve_submit_stored hrun hb hsb hlet⟩

/-- A fresh node takes its genesis block again, only counting the request. -/
theorem fresh_node_takes_genesis_again :
    (new "node0").serve (.submit Block.genesis) =
      .ok (.ok Block.genesis.id, (new "node0").counted 1) :=
  (failed_operations_keep_state (new "node0")).2.2.2.2 [] "node0" Block.genesis
    ⟨Block.genesis,
      { blockId := Block.genesis.id, parents := [], referencedBy := some 0
        inclusion := some .noTransaction }⟩ rfl
    (by simp [blockOf?, new]) rfl ⟨rfl, fun _ h => nomatch h⟩

/-- A conflict with an unknown block fails, yet uses up milestone index 1: the genesis block,
confirmed next, is referenced by milestone 2. -/
theorem failed_conflict_uses_up_an_index :
    let stray : BlockId := ⟨⟨Vector.replicate 32 0x11⟩⟩
    (new "node0").conflict stray =
        (.error (.notFound (.block stray)), { new "node0" with milestone := 1 }) ∧
      (runOps [.conflict stray, .confirm Block.genesis.id] (new "node0")).toOption.map
        (fun n => (n.blockOf? Block.genesis.id).map (·.metadata.referencedBy)) =
        some (some (some 2)) := by
  intro stray
  have hstray : ((new "node0").blockOf? stray).isNone = true := by decide +kernel
  exact ⟨conflict_of_unknown (Option.isNone_iff_eq_none.mp hstray), by decide +kernel⟩

end LedgerNode

end DagWallet
