import DagWallet.Proofs.Node.Safety
import DagWallet.Proofs.Node.Verdicts
import DagWallet.Proofs.Wallet.Selection

/-!
What a milestone does to the ledger. A node keeps its outputs in increasing order of
identifier, and every operation keeps that order. A milestone that references a stored block
moves the counter on by one and gives the block the new index and a verdict. A block without a
transaction, and a transaction that is included already or spends an output that is not stored
unspent, leave the ledger as it was. Otherwise the inputs become spent, one unspent output per
position of the transaction is booked under the block and the new index, the transaction is
recorded under the block, and the unspent total grows by what the transaction creates less
what its distinct inputs held.

A position is a 16-bit word. Booking covers the first 65536 outputs of a transaction in one
pass; a later output wraps around and takes the place of the earlier one at its position.
-/

namespace DagWallet

/-! ### Responses in increasing order of identifier -/

/-- `a` comes before `b` in the order a node keeps its outputs in. -/
def IdLt (a b : OutputResponse) : Prop := compare a.outputId b.outputId = .lt

/-- Responses in strictly increasing order of identifier: the order of `LedgerNode.outputs`. -/
def Ascending (l : List OutputResponse) : Prop := l.Pairwise IdLt

namespace IdLt

variable {a b c : OutputResponse}

theorem trans (h₁ : IdLt a b) (h₂ : IdLt b c) : IdLt a c := Std.TransCmp.lt_trans h₁ h₂

theorem of_gt (h : compare a.outputId b.outputId = .gt) : IdLt b a :=
  Std.OrientedCmp.gt_iff_lt.mp h

theorem ne (h : IdLt a b) : a.outputId ≠ b.outputId := fun he => by
  rw [IdLt, OutputId.compare_eq_iff.2 he] at h
  cases h

theorem of_eq_left (he : a.outputId = b.outputId) (h : IdLt b c) : IdLt a c := by
  rw [IdLt, he]
  exact h

end IdLt

theorem Ascending.ids_ne {l : List OutputResponse} (h : Ascending l) :
    l.Pairwise fun a b => a.outputId ≠ b.outputId :=
  List.Pairwise.imp IdLt.ne h

theorem Ascending.append_cons {before tail : List OutputResponse} {y : OutputResponse}
    (hb : Ascending before) (ht : Ascending (y :: tail)) (hlt : ∀ a ∈ before, IdLt a y) :
    Ascending (before ++ y :: tail) :=
  List.pairwise_append.2 ⟨hb, ht, fun a ha z hz => by
    rcases List.mem_cons.1 hz with rfl | hz
    · exact hlt a ha
    · exact (hlt a ha).trans ((List.pairwise_cons.1 ht).1 z hz)⟩

theorem find?_outputId_of_mem {r : OutputResponse} :
    ∀ {l : List OutputResponse}, (l.Pairwise fun a b => a.outputId ≠ b.outputId) → r ∈ l →
      l.find? (·.outputId == r.outputId) = some r
  | [], _, hr => nomatch hr
  | x :: xs, hl, hr => by
    obtain ⟨hx, hxs⟩ := List.pairwise_cons.1 hl
    rcases List.mem_cons.1 hr with rfl | hr
    · exact List.find?_cons_of_pos (beq_self_eq_true _)
    · rw [List.find?_cons_of_neg (by simpa using hx r hr)]
      exact find?_outputId_of_mem hxs hr

theorem find?_eq_some_of_unique {p : OutputResponse → Bool} {l : List OutputResponse}
    {r : OutputResponse} (hr : r ∈ l) (hp : p r = true) (hu : ∀ x ∈ l, p x = true → x = r) :
    l.find? p = some r := by
  cases hf : l.find? p with
  | none => exact absurd hp (List.find?_eq_none.1 hf r hr)
  | some y => rw [hu y (List.mem_of_find?_eq_some hf) (List.find?_some hf)]

/-! ### Inserting keeps the order -/

theorem ascending_insertOutput (r : OutputResponse) :
    ∀ {l : List OutputResponse}, Ascending l → Ascending (insertOutput r l)
  | [], _ => List.pairwise_singleton _ _
  | x :: xs, h => by
    obtain ⟨hx, hxs⟩ := List.pairwise_cons.1 h
    rw [insertOutput]
    split
    · next hlt =>
      refine List.pairwise_cons.2 ⟨fun y hy => ?_, h⟩
      rcases List.mem_cons.1 hy with rfl | hy
      · exact hlt
      · exact IdLt.trans hlt (hx y hy)
    · next heq =>
      exact List.pairwise_cons.2
        ⟨fun y hy => IdLt.of_eq_left (OutputId.compare_eq_iff.1 heq) (hx y hy), hxs⟩
    · next hgt =>
      refine List.pairwise_cons.2 ⟨fun y hy => ?_, ascending_insertOutput r hxs⟩
      rcases mem_insertOutput hy with rfl | hy
      · exact IdLt.of_gt hgt
      · exact hx y hy

theorem ascending_foldl_insertOutput :
    ∀ (L : List OutputResponse) {acc : List OutputResponse}, Ascending acc →
      Ascending (L.foldl (fun acc r => insertOutput r acc) acc)
  | [], _, h => h
  | r :: L, _, h => ascending_foldl_insertOutput L (ascending_insertOutput r h)

theorem span_fst_all {p : OutputResponse → Bool} {rs before rest : List OutputResponse}
    (h : rs.span p = (before, rest)) : ∀ a ∈ before, p a = true := by
  rw [List.span_eq_takeWhile_dropWhile, Prod.mk.injEq] at h
  rw [← h.1]
  exact List.all_eq_true.1 List.all_takeWhile

theorem span_snd_head {p : OutputResponse → Bool} {rs before rest : List OutputResponse}
    {r : OutputResponse} (h : rs.span p = (before, r :: rest)) : p r = false := by
  rw [List.span_eq_takeWhile_dropWhile, Prod.mk.injEq] at h
  have hhead := List.head_dropWhile_not p (l := rs) (by rw [h.2]; exact List.cons_ne_nil r rest)
  simpa only [h.2, List.head_cons] using hhead

theorem ascending_insertRun :
    ∀ {rs l : List OutputResponse}, Ascending rs → Ascending l → Ascending (insertRun rs l)
  | _, [], hrs, _ => hrs
  | rs, x :: xs, hrs, hl => by
    obtain ⟨hx, hxs⟩ := List.pairwise_cons.1 hl
    rw [insertRun]
    split
    · next before r rest hs =>
      have hlow : ∀ a ∈ before, IdLt a x := fun a ha => beq_iff_eq.1 (span_fst_all hs a ha)
      rw [← span_eq_append hs] at hrs
      obtain ⟨hbefore, hrrest, hcross⟩ := List.pairwise_append.1 hrs
      obtain ⟨hr, hrest⟩ := List.pairwise_cons.1 hrrest
      have hbr : ∀ a ∈ before, IdLt a r := fun a ha => hcross a ha r List.mem_cons_self
      split
      · next heq =>
        -- the stored response keeps its place and the new one with its identifier is dropped
        have he : r.outputId = x.outputId := OutputId.compare_eq_iff.1 (beq_iff_eq.1 heq)
        refine Ascending.append_cons hbefore (List.pairwise_cons.2 ⟨fun y hy => ?_,
          ascending_insertRun hrest hxs⟩) hbr
        rcases mem_insertRun hy with hy | hy
        · exact hr y hy
        · exact IdLt.of_eq_left he (hx y hy)
      · next hne =>
        -- the new response goes in front of the first stored one above it
        have hxr : IdLt x r := by
          cases hc : compare r.outputId x.outputId with
          | lt =>
            have hp := span_snd_head hs
            simp [hc] at hp
          | eq => simp [hc] at hne
          | gt => exact IdLt.of_gt hc
        refine Ascending.append_cons hbefore (List.pairwise_cons.2 ⟨fun y hy => ?_,
          ascending_insertRun hrrest hxs⟩) hlow
        rcases mem_insertRun hy with hy | hy
        · rcases List.mem_cons.1 hy with rfl | hy
          · exact hxr
          · exact hxr.trans (hr y hy)
        · exact hx y hy
    · next before hs =>
      have hlow : ∀ a ∈ before, IdLt a x := fun a ha => beq_iff_eq.1 (span_fst_all hs a ha)
      have hrs' : Ascending before := by
        rw [← span_eq_append hs, List.append_nil] at hrs
        exact hrs
      exact hrs'.append_cons hl hlow

theorem insertRun_perm :
    ∀ {rs l : List OutputResponse}, (∀ r ∈ rs, ∀ x ∈ l, r.outputId ≠ x.outputId) →
      (insertRun rs l).Perm (rs ++ l)
  | rs, [], _ => by rw [insertRun, List.append_nil]
  | rs, x :: xs, h => by
    rw [insertRun]
    split
    · next before r rest hs =>
      have hsplit := span_eq_append hs
      have hr : r ∈ rs := hsplit ▸ List.mem_append_right _ List.mem_cons_self
      have hne : ¬ (compare r.outputId x.outputId == .eq) = true := by
        simpa [OutputId.compare_eq_iff] using h r hr x List.mem_cons_self
      rw [if_neg hne]
      have ih := @insertRun_perm (r :: rest) xs fun r' hr' x' hx' =>
        h r' (hsplit ▸ List.mem_append_right _ hr') x' (List.mem_cons_of_mem x hx')
      calc (before ++ x :: insertRun (r :: rest) xs).Perm (before ++ x :: (r :: rest ++ xs)) :=
            (ih.cons x).append_left before
        List.Perm _ (before ++ (r :: rest ++ x :: xs)) :=
            List.Perm.append_left before List.perm_middle.symm
        _ = rs ++ x :: xs := by rw [← List.append_assoc, hsplit]
    · next before hs =>
      have hsplit := span_eq_append hs
      rw [List.append_nil] at hsplit
      rw [hsplit]

theorem find?_foldl_insertOutput_or (o : OutputId) :
    ∀ (L acc : List OutputResponse),
      (L.foldl (fun acc r => insertOutput r acc) acc).find? (·.outputId == o) =
        (L.reverse.find? (·.outputId == o)).or (acc.find? (·.outputId == o))
  | [], _ => rfl
  | x :: xs, acc => by
    rw [List.foldl_cons, find?_foldl_insertOutput_or o xs, find?_insertOutput, List.reverse_cons,
      List.find?_append, Option.or_assoc]
    by_cases hx : x.outputId = o <;> simp [hx]

/-! ### Unspent totals -/

/-- What the unspent responses of a list add up to. -/
def unspentSum (l : List OutputResponse) : Nat :=
  ((l.filter fun r => !r.metadata.isSpent).map fun r => r.output.amount.toNat).sum

theorem unspentSum_cons (r : OutputResponse) (l : List OutputResponse) :
    unspentSum (r :: l) =
      (if r.metadata.isSpent then 0 else r.output.amount.toNat) + unspentSum l := by
  unfold unspentSum
  cases h : r.metadata.isSpent <;> simp [h]

theorem unspentSum_append (l₁ l₂ : List OutputResponse) :
    unspentSum (l₁ ++ l₂) = unspentSum l₁ + unspentSum l₂ := by
  simp only [unspentSum, List.filter_append, List.map_append, List.sum_append]

theorem unspentSum_perm {l₁ l₂ : List OutputResponse} (h : l₁.Perm l₂) :
    unspentSum l₁ = unspentSum l₂ :=
  ((h.filter _).map _).sum_nat

namespace LedgerNode

/-! ### The outputs a transaction books -/

section Booked

variable {tx : Transaction} {b : BlockId} {m : Nat}

theorem bookedAt_outputId (x : Output × Nat) :
    (bookedAt tx b m x).outputId = ⟨tx.id, x.2.toUInt16⟩ := rfl

theorem idLt_bookedAt {x y : Output × Nat} (h : x.2 < y.2) (hy : y.2 < 65536) :
    IdLt (bookedAt tx b m x) (bookedAt tx b m y) := by
  show (compare tx.id.digest tx.id.digest).then (compare x.2.toUInt16 y.2.toUInt16) = .lt
  rw [Digest.compare_eq_iff.2 rfl, Ordering.eq_then]
  apply Std.compare_eq_lt.mpr
  show x.2.toUInt16.toNat < y.2.toUInt16.toNat
  simp only [Nat.toUInt16, UInt16.toNat_ofNat']
  omega

theorem ascending_booked (tx : Transaction) (b : BlockId) (m : Nat) :
    Ascending ((tx.essence.outputs.zipIdx.map (bookedAt tx b m)).take 65536) := by
  rw [Ascending, List.pairwise_iff_getElem]
  intro i j hi hj hij
  have hj' : j < 65536 := by
    rw [List.length_take] at hj
    omega
  simp only [List.getElem_take, List.getElem_map, List.getElem_zipIdx]
  exact idLt_bookedAt (by simpa using hij) (by simpa using hj')

theorem ascending_map_spend {l : List OutputResponse} (h : Ascending l) :
    Ascending (l.map (spend tx)) :=
  List.pairwise_map.2 (h.imp fun hab => by simpa only [IdLt, spend_outputId] using hab)

theorem book_outputs_of_le {n : LedgerNode} (hlen : tx.essence.outputs.length ≤ 65536) :
    (n.book tx b m).outputs =
      insertRun (tx.essence.outputs.zipIdx.map (bookedAt tx b m)) (n.outputs.map (spend tx)) := by
  rw [book_outputs, List.drop_eq_nil_of_le (by rw [List.length_zipIdx]; exact hlen), List.map_nil,
    List.foldl_nil, List.take_of_length_le (by rw [List.length_map, List.length_zipIdx]; exact hlen)]

theorem unspentSum_booked (tx : Transaction) (b : BlockId) (m : Nat) :
    unspentSum (tx.essence.outputs.zipIdx.map (bookedAt tx b m)) =
      (tx.essence.outputs.map fun o => o.amount.toNat).sum := by
  unfold unspentSum
  rw [List.filter_eq_self.2 fun _ h => by
    obtain ⟨x, -, rfl⟩ := List.mem_map.1 h
    rfl]
  have hf : ((fun r : OutputResponse => r.output.amount.toNat) ∘ bookedAt tx b m) =
      (fun o : Output => o.amount.toNat) ∘ Prod.fst := rfl
  rw [List.map_map, hf, ← List.map_map, List.zipIdx_map_fst]

/-- The unspent responses of `l` that `tx` consumes. -/
def consumedBy (tx : Transaction) (l : List OutputResponse) : List OutputResponse :=
  l.filter fun r => !r.metadata.isSpent && tx.essence.inputs.contains r.outputId

theorem unspentSum_map_spend (tx : Transaction) (l : List OutputResponse) :
    unspentSum (l.map (spend tx)) + ((consumedBy tx l).map fun r => r.output.amount.toNat).sum =
      unspentSum l := by
  induction l with
  | nil => rfl
  | cons r l ih =>
    rw [consumedBy] at ih
    rw [List.map_cons, unspentSum_cons, unspentSum_cons, consumedBy, List.filter_cons]
    cases hs : r.metadata.isSpent <;> by_cases hc : r.outputId ∈ tx.essence.inputs <;>
      simp [spend, hs, hc] at ih ⊢ <;> omega

end Booked

/-! ### The order holds along every run -/

variable {n : LedgerNode} {id : BlockId}

theorem ascending_new (name : String) : Ascending (new name).outputs := List.Pairwise.nil

theorem ascending_book {tx : Transaction} {b : BlockId} {m : Nat} (h : Ascending n.outputs) :
    Ascending (n.book tx b m).outputs := by
  rw [book_outputs]
  exact ascending_foldl_insertOutput _ (ascending_insertRun (ascending_booked tx b m)
    (ascending_map_spend h))

theorem ascending_confirm (h : Ascending n.outputs) : Ascending (n.confirm id).2.outputs := by
  rcases confirm_cases id n with hc | ⟨sb, -, ⟨v, -, hc⟩ | ⟨tx, -, -, -, hc⟩⟩ <;> rw [hc]
  · exact h
  · exact h
  · exact ascending_book h

theorem ascending_conflict (h : Ascending n.outputs) : Ascending (n.conflict id).2.outputs := by
  rcases conflict_cases id n with hc | hc <;> rw [hc] <;> exact h

theorem ascending_accept {blk : Block} (h : Ascending n.outputs) :
    Ascending (n.accept blk).2.outputs := by
  rcases accept_cases blk n with hc | ⟨-, hc | hc⟩ <;> rw [hc]
  · exact h
  · exact h
  · exact ascending_confirm (n := n.store blk.id blk) h

theorem ascending_serve {r : Request} {a : Except NodeError r.Answer} {n' : LedgerNode}
    (h : Ascending n.outputs) (hs : n.serve r = .ok (a, n')) : Ascending n'.outputs := by
  rcases serve_cases hs with rfl | ⟨blk, -, rfl⟩
  · exact h
  · exact ascending_accept (n := { n with requests := n.requests + 1 }) h

end LedgerNode

namespace NodeOp

open LedgerNode

theorem ascending_apply {op : NodeOp} {n n' : LedgerNode} (h : Ascending n.outputs)
    (ha : op.apply n = .ok n') : Ascending n'.outputs := by
  cases op with
  | request r =>
    obtain ⟨a, hs⟩ := apply_request ha
    exact ascending_serve h hs
  | confirm id =>
    cases ha
    exact ascending_confirm h
  | conflict id =>
    cases ha
    exact ascending_conflict h
  | addOutput o =>
    cases ha
    exact ascending_insertOutput _ h
  | prune id =>
    cases ha
    exact List.Pairwise.sublist List.filter_sublist h
  | balance a =>
    rw [apply_balance ha]
    exact h
  | setPageSize _ | setAutoConfirm _ | setHint _ | setUnreachable _ | failAfter _
  | failAddress _ | failOutput _ =>
    cases ha
    exact h

theorem ascending_run : ∀ (ops : List NodeOp) {n n' : LedgerNode}, Ascending n.outputs →
    runOps ops n = .ok n' → Ascending n'.outputs
  | [], _, _, h, hr => by
    cases hr
    exact h
  | op :: ops, n, n', h, hr => by
    cases ha : op.apply n with
    | error e =>
      simp only [runOps, ha] at hr
      cases hr
    | ok n₁ =>
      simp only [runOps, ha] at hr
      exact ascending_run ops (ascending_apply h ha) hr

end NodeOp

namespace LedgerNode

/-- What the unspent outputs a node keeps add up to. -/
def unspentTotal (n : LedgerNode) : Nat := unspentSum n.outputs

/-- The amount of the output a node keeps under `o`, nothing when it keeps none. -/
def valueAt (n : LedgerNode) (o : OutputId) : Nat :=
  ((n.outputOf? o).map fun r => r.output.amount.toNat).getD 0

variable {n : LedgerNode} {tx : Transaction} {b id : BlockId} {m : Nat}

theorem valueAt_of_mem (h : Ascending n.outputs) {r : OutputResponse} (hr : r ∈ n.outputs) :
    n.valueAt r.outputId = r.output.amount.toNat := by
  rw [valueAt, outputOf?, find?_outputId_of_mem h.ids_ne hr]
  rfl

theorem consumed_sum (h : Ascending n.outputs)
    (hins : ∀ o ∈ tx.essence.inputs, n.isUnspent o = true) :
    ((consumedBy tx n.outputs).map fun r => r.output.amount.toNat).sum =
      (tx.essence.inputs.dedup.map n.valueAt).sum := by
  -- the consumed responses, one per distinct input
  have hperm : ((consumedBy tx n.outputs).map (·.outputId)).Perm tx.essence.inputs.dedup := by
    refine (List.perm_ext_iff_of_nodup ?_ (List.nodup_dedup _)).2 fun o => ?_
    · exact (List.pairwise_map.2 h.ids_ne).sublist (List.filter_sublist.map _)
    · rw [List.mem_dedup, List.mem_map]
      constructor
      · rintro ⟨r, hr, rfl⟩
        have hsel := (List.mem_filter.1 hr).2
        simp only [Bool.and_eq_true, Bool.not_eq_true', List.contains_iff_mem] at hsel
        exact hsel.2
      · intro ho
        obtain ⟨r, hr, hsp⟩ := isUnspent_eq_true.1 (hins o ho)
        obtain ⟨hmem, rfl⟩ := mem_of_outputOf? hr
        exact ⟨r, List.mem_filter.2 ⟨hmem, by simp [hsp, ho]⟩, rfl⟩
  have hval : (consumedBy tx n.outputs).map (fun r => r.output.amount.toNat) =
      ((consumedBy tx n.outputs).map (·.outputId)).map n.valueAt := by
    rw [List.map_map]
    exact List.map_congr_left fun r hr =>
      (valueAt_of_mem h (List.mem_filter.1 hr).1).symm
  rw [hval]
  exact (hperm.map _).sum_nat

/-! ### Booking a transaction -/

theorem outputOf?_of_apart {t : TransactionId}
    (hapart : ∀ r ∈ n.outputs, r.outputId.transactionId ≠ t) (k : UInt16) :
    n.outputOf? ⟨t, k⟩ = none :=
  List.find?_eq_none.2 fun r hr he => hapart r hr (by rw [beq_iff_eq.1 he])

section Apart

variable (hapart : ∀ r ∈ n.outputs, r.outputId.transactionId ≠ tx.id)
  (hlen : tx.essence.outputs.length ≤ 65536)
include hapart hlen

theorem book_perm :
    (n.book tx b m).outputs.Perm
      (tx.essence.outputs.zipIdx.map (bookedAt tx b m) ++ n.outputs.map (spend tx)) := by
  rw [book_outputs_of_le hlen]
  refine insertRun_perm fun r hr x hx he => ?_
  obtain ⟨y, -, rfl⟩ := List.mem_map.1 hr
  obtain ⟨r₀, hr₀, rfl⟩ := List.mem_map.1 hx
  rw [spend_outputId] at he
  exact hapart r₀ hr₀ (by rw [← he]; rfl)

theorem outputOf?_book_self (h : Ascending n.outputs) (k : UInt16) :
    (n.book tx b m).outputOf? ⟨tx.id, k⟩ =
      tx.essence.outputs[k.toNat]?.map fun o => ⟨⟨tx.id, k⟩, o, ⟨b, false, m⟩⟩ := by
  have hperm := book_perm (b := b) (m := m) hapart hlen
  cases hk : tx.essence.outputs[k.toNat]? with
  | none =>
    rw [Option.map_none, outputOf?, List.find?_eq_none]
    intro r hr he
    rcases List.mem_append.1 (hperm.mem_iff.1 hr) with hr | hr
    · -- a booked output at position `k` is output `k`, which does not exist
      obtain ⟨x, hx, rfl⟩ := List.mem_map.1 hr
      have hid : x.2.toUInt16 = k := congrArg OutputId.index (beq_iff_eq.1 he)
      have hlt : x.2 < tx.essence.outputs.length := by
        simpa using List.snd_lt_of_mem_zipIdx hx
      have hx2 : x.2 = k.toNat := by
        rw [← hid, Nat.toUInt16, UInt16.toNat_ofNat']
        omega
      rw [← hx2, List.mem_zipIdx_iff_getElem?.1 hx] at hk
      cases hk
    · obtain ⟨r₀, hr₀, rfl⟩ := List.mem_map.1 hr
      have he' := beq_iff_eq.1 he
      rw [spend_outputId] at he'
      exact hapart r₀ hr₀ (by rw [he'])
  | some o =>
    have hmem : bookedAt tx b m (o, k.toNat) ∈ (n.book tx b m).outputs :=
      hperm.mem_iff.2 (List.mem_append_left _
        (List.mem_map_of_mem (List.mk_mem_zipIdx_iff_getElem?.2 hk)))
    have hid : (bookedAt tx b m (o, k.toNat)).outputId = ⟨tx.id, k⟩ := by
      rw [bookedAt_outputId, Nat.toUInt16, UInt16.ofNat_toNat]
    rw [Option.map_some, outputOf?, ← hid, find?_outputId_of_mem (ascending_book h).ids_ne hmem]
    simp only [bookedAt, Nat.toUInt16, UInt16.ofNat_toNat]

theorem unspentTotal_book (h : Ascending n.outputs)
    (hins : ∀ o ∈ tx.essence.inputs, n.isUnspent o = true) :
    (n.book tx b m).unspentTotal + (tx.essence.inputs.dedup.map n.valueAt).sum =
      n.unspentTotal + (tx.essence.outputs.map fun o => o.amount.toNat).sum := by
  have hbook : (n.book tx b m).unspentTotal =
      (tx.essence.outputs.map fun o => o.amount.toNat).sum + unspentSum (n.outputs.map (spend tx)) := by
    rw [unspentTotal, unspentSum_perm (book_perm hapart hlen), unspentSum_append, unspentSum_booked]
  have hspend := unspentSum_map_spend tx n.outputs
  rw [consumed_sum h hins] at hspend
  rw [hbook, unspentTotal, ← hspend]
  omega

end Apart

/-- What including `tx` by block `b` at milestone `m` makes of the ledger of `n`, as the node
answers for it. -/
structure Includes (n n' : LedgerNode) (tx : Transaction) (b : BlockId) (m : Nat) : Prop where
  /-- An output of another transaction is as it was, marked spent when it is an input. -/
  spends : ∀ o, o.transactionId ≠ tx.id → n'.outputOf? o = (n.outputOf? o).map (spend tx)
  /-- No output of the transaction was there before. -/
  fresh : ∀ k : UInt16, n.outputOf? ⟨tx.id, k⟩ = none
  /-- Position `k` holds output `k` of the transaction, unspent, under the block and the
  milestone; positions past the last output hold nothing. -/
  creates : ∀ k : UInt16, n'.outputOf? ⟨tx.id, k⟩ =
    tx.essence.outputs[k.toNat]?.map fun o => ⟨⟨tx.id, k⟩, o, ⟨b, false, m⟩⟩
  records : n'.included = n.included ++ [(tx.id, b)]
  total : n'.unspentTotal + (tx.essence.inputs.dedup.map n.valueAt).sum =
    n.unspentTotal + (tx.essence.outputs.map fun o => o.amount.toNat).sum

theorem includes_of_book {n' : LedgerNode} (h : Ascending n.outputs)
    (hapart : ∀ r ∈ n.outputs, r.outputId.transactionId ≠ tx.id)
    (hlen : tx.essence.outputs.length ≤ 65536)
    (hins : ∀ o ∈ tx.essence.inputs, n.isUnspent o = true)
    (ho : n'.outputs = (n.book tx b m).outputs) (hi : n'.included = n.included ++ [(tx.id, b)]) :
    Includes n n' tx b m := by
  have hview : n'.outputOf? = (n.book tx b m).outputOf? := by
    funext o
    simp only [outputOf?, ho]
  have htotal : n'.unspentTotal = (n.book tx b m).unspentTotal := by
    simp only [unspentTotal, ho]
  exact ⟨fun o hne => hview ▸ outputOf?_book_of_ne hne, outputOf?_of_apart hapart,
    fun k => hview ▸ outputOf?_book_self hapart hlen h k, hi,
    htotal ▸ unspentTotal_book hapart hlen h hins⟩

/-! ### Judging a payload -/

section Judge

variable {block : Block}

theorem judge_of_none (h : block.transaction? = none) : n.judge id block m = (.noTransaction, n) := by
  unfold judge
  rw [h]

theorem judge_of_fresh (htx : block.transaction? = some tx) (hnew : n.included.lookup tx.id = none)
    (hins : ∀ o ∈ tx.essence.inputs, n.isUnspent o = true) :
    n.judge id block m = (.included, n.book tx id m) := by
  unfold judge
  rw [htx]
  dsimp only
  rw [if_neg]
  simp [hnew, List.all_eq_true.2 hins]

theorem judge_of_conflicting (htx : block.transaction? = some tx)
    (hc : (n.included.lookup tx.id).isSome ∨ ∃ o ∈ tx.essence.inputs, n.isUnspent o = false) :
    n.judge id block m = (.conflicting, n) := by
  unfold judge
  rw [htx]
  dsimp only
  rw [if_pos]
  rcases hc with hc | ⟨o, ho, hu⟩
  · simp [hc]
  · have hall : tx.essence.inputs.all n.isUnspent = false := List.all_eq_false.2 ⟨o, ho, by simp [hu]⟩
    simp [hall]

end Judge

/-! ### A milestone referencing a stored block -/

/-- What a milestone does to a stored block `id` whose payload it judges `v`. -/
structure Confirms (n : LedgerNode) (id : BlockId) (sb : StoredBlock) (v : Inclusion) : Prop where
  answer : (n.confirm id).1 = .ok v
  counter : (n.confirm id).2.milestone = n.milestone + 1
  marks : (n.confirm id).2.blockOf? id =
    some { sb with metadata := referenced (n.milestone + 1) v sb.metadata }
  /-- A block without a transaction changes no output. -/
  no_transaction : sb.block.transaction? = none →
    v = .noTransaction ∧ (n.confirm id).2.outputs = n.outputs ∧
      (n.confirm id).2.included = n.included
  /-- A transaction not recorded yet whose inputs are all stored unspent is included; with at
  most 65536 outputs, as `Includes` says. -/
  included : ∀ tx, sb.block.transaction? = some tx → n.included.lookup tx.id = none →
    (∀ o ∈ tx.essence.inputs, n.isUnspent o = true) →
    v = .included ∧
      (tx.essence.outputs.length ≤ 65536 → Includes n (n.confirm id).2 tx id (n.milestone + 1))
  /-- Any other transaction is conflicting and changes no output. -/
  conflicting : ∀ tx, sb.block.transaction? = some tx →
    ((n.included.lookup tx.id).isSome ∨ ∃ o ∈ tx.essence.inputs, n.isUnspent o = false) →
    v = .conflicting ∧ (n.confirm id).2.outputs = n.outputs ∧
      (n.confirm id).2.included = n.included

theorem confirm_of_stored {sb : StoredBlock} (hb : n.blockOf? id = some sb) :
    n.confirm id =
      (.ok (judge id sb.block (n.milestone + 1) { n with milestone := n.milestone + 1 }).1,
        (judge id sb.block (n.milestone + 1) { n with milestone := n.milestone + 1 }).2.updateMetadata
          id (referenced (n.milestone + 1)
            (judge id sb.block (n.milestone + 1) { n with milestone := n.milestone + 1 }).1)) := by
  simp only [confirm, hb]
  rfl

theorem confirms_of_stored {sb : StoredBlock} (h : Ascending n.outputs)
    (hapart : ∀ tx, sb.block.transaction? = some tx → n.included.lookup tx.id = none →
      ∀ r ∈ n.outputs, r.outputId.transactionId ≠ tx.id)
    (hb : n.blockOf? id = some sb) :
    ∃ v, Confirms n id sb v := by
  rcases hj : judge id sb.block (n.milestone + 1) { n with milestone := n.milestone + 1 } with
    ⟨v, nj⟩
  have hc : n.confirm id = (.ok v, nj.updateMetadata id (referenced (n.milestone + 1) v)) := by
    rw [confirm_of_stored hb, hj]
  -- judging leaves the blocks and the moved counter as they are
  have hnj : nj.blocks = n.blocks ∧ nj.milestone = n.milestone + 1 := by
    rcases judge_cases hj with ⟨-, rfl⟩ | ⟨tx, -, -, -, -, rfl⟩ <;> exact ⟨rfl, rfl⟩
  refine ⟨v, ⟨by rw [hc], by rw [hc]; exact hnj.2, ?_, fun htx => ?_,
    fun tx htx hnew hins => ?_, fun tx htx hcon => ?_⟩⟩
  · rw [hc]
    exact blockOf?_updateMetadata_self (by rw [blockOf?, hnj.1]; exact hb)
  · obtain ⟨rfl, rfl⟩ := Prod.mk.inj (hj.symm.trans (judge_of_none htx))
    rw [hc]
    exact ⟨rfl, rfl, rfl⟩
  · obtain ⟨rfl, rfl⟩ := Prod.mk.inj (hj.symm.trans (judge_of_fresh htx hnew hins))
    refine ⟨rfl, fun hlen => includes_of_book h (hapart tx htx hnew) hlen hins ?_ ?_⟩ <;>
      rw [hc] <;> rfl
  · obtain ⟨rfl, rfl⟩ := Prod.mk.inj (hj.symm.trans (judge_of_conflicting htx hcon))
    rw [hc]
    exact ⟨rfl, rfl, rfl⟩

theorem outputs_apart_of_inv {M : Nat} {sb : StoredBlock} (hinv : Inv M n)
    (hb : n.blockOf? id = some sb) (htx : sb.block.transaction? = some tx)
    (hnew : n.included.lookup tx.id = none) : ∀ r ∈ n.outputs, r.outputId.transactionId ≠ tx.id := by
  intro r hr he
  rcases hinv.outputs_known r hr with hinc | ⟨j, hj₁, hj₂, hj⟩
  · rw [he, hnew] at hinc
    cases hinc
  · exact hinv.stored_real id sb (mem_of_blockOf? hb) tx htx
      ⟨j, hj₁, Nat.le_trans hj₂ hinv.synthetic_le, hj.trans he⟩

theorem outputOf?_book_wraps (hlen : 65536 < tx.essence.outputs.length)
    (hlen' : tx.essence.outputs.length ≤ 131072) :
    (n.book tx b m).outputOf? ⟨tx.id, 0⟩ =
      tx.essence.outputs[65536]?.map fun o => ⟨⟨tx.id, 0⟩, o, ⟨b, false, m⟩⟩ := by
  obtain ⟨o, ho⟩ : ∃ o, tx.essence.outputs[65536]? = some o :=
    ⟨tx.essence.outputs[65536], List.getElem?_eq_getElem hlen⟩
  have hmem : bookedAt tx b m (o, 65536) ∈
      ((tx.essence.outputs.zipIdx.drop 65536).map (bookedAt tx b m)).reverse := by
    refine List.mem_reverse.2 (List.mem_map_of_mem (List.mem_drop_iff_getElem.2 ⟨0, ?_, ?_⟩))
    · simpa using hlen
    · simpa [List.getElem_zipIdx] using (List.getElem?_eq_some_iff.1 ho).2
  -- among the later outputs, only output 65536 comes to position 0
  have huniq : ∀ r ∈ ((tx.essence.outputs.zipIdx.drop 65536).map (bookedAt tx b m)).reverse,
      (r.outputId == ⟨tx.id, 0⟩) = true → r = bookedAt tx b m (o, 65536) := by
    intro r hr hid
    obtain ⟨x, hx, rfl⟩ := List.mem_map.1 (List.mem_reverse.1 hr)
    obtain ⟨j, hj, rfl⟩ := List.mem_drop_iff_getElem.1 hx
    have hidx := congrArg (fun i : OutputId => i.index.toNat) (beq_iff_eq.1 hid)
    simp only [bookedAt_outputId, List.getElem_zipIdx, Nat.toUInt16, UInt16.toNat_ofNat',
      UInt16.toNat_zero] at hidx
    rw [List.length_zipIdx] at hj
    have hj0 : j = 0 := by omega
    subst hj0
    simp only [List.getElem_zipIdx, Nat.add_zero, Nat.zero_add]
    rw [(List.getElem?_eq_some_iff.1 ho).2]
  have h0 : (65536 : Nat).toUInt16 = 0 := by decide
  rw [outputOf?, book_outputs, find?_foldl_insertOutput_or,
    find?_eq_some_of_unique (p := fun r => r.outputId == ⟨tx.id, 0⟩) hmem
      (beq_iff_eq.2 (by rw [bookedAt_outputId, h0])) huniq,
    Option.some_or, ho]
  simp only [Option.map_some, bookedAt, h0]

end LedgerNode

end DagWallet
