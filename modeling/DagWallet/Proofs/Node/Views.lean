import Mathlib
import DagWallet.Node.Serve

/-!
What each operation of a ledger node does to the ledger it keeps: the blocks it stores, the
outputs it books and the transactions it records as included. Outputs are seen through
`outputOf?`, the first stored response with a given identifier, which is what a node
answers; blocks through `blockOf?`. Later proofs cite these lemmas and never unfold the
operations.
-/

namespace DagWallet

theorem Digest.compare_eq_iff {a b : Digest} : compare a b = .eq ↔ a = b := by
  change compare a.bytes.toList b.bytes.toList = .eq ↔ a = b
  rw [Std.compare_eq_iff_eq, Vector.toList_inj]
  constructor
  · intro h
    cases a
    cases h
    rfl
  · rintro rfl
    rfl

theorem OutputId.compare_eq_iff {a b : OutputId} : compare a b = .eq ↔ a = b := by
  change (compare a.transactionId.digest b.transactionId.digest).then
    (compare a.index b.index) = .eq ↔ a = b
  rw [Ordering.then_eq_eq, Digest.compare_eq_iff, Std.compare_eq_iff_eq]
  constructor
  · rintro ⟨h₁, h₂⟩
    obtain ⟨⟨_⟩, _⟩ := a
    obtain ⟨⟨_⟩, _⟩ := b
    simp_all
  · rintro rfl
    exact ⟨rfl, rfl⟩

theorem mem_insertOutput {r x : OutputResponse} {l : List OutputResponse}
    (h : x ∈ insertOutput r l) : x = r ∨ x ∈ l := by
  induction l with
  | nil => simpa [insertOutput] using h
  | cons y ys ih =>
    unfold insertOutput at h
    split at h
    · simpa using h
    · simp only [List.mem_cons] at h
      rcases h with h | h
      · exact .inl h
      · exact .inr (List.mem_cons_of_mem y h)
    · simp only [List.mem_cons] at h
      rcases h with h | h
      · exact .inr (h ▸ List.mem_cons_self)
      · rcases ih h with h | h
        · exact .inl h
        · exact .inr (List.mem_cons_of_mem y h)

theorem find?_insertOutput (r : OutputResponse) (l : List OutputResponse) (o : OutputId) :
    (insertOutput r l).find? (·.outputId == o) =
      if r.outputId = o then some r else l.find? (·.outputId == o) := by
  induction l with
  | nil => by_cases h : r.outputId = o <;> simp [insertOutput, h]
  | cons y ys ih =>
    unfold insertOutput
    split
    · by_cases h : r.outputId = o <;> simp [h]
    · next heq =>
      have hy : r.outputId = y.outputId := OutputId.compare_eq_iff.1 heq
      by_cases h : r.outputId = o <;> simp [h, ← hy]
    · next hgt =>
      have hy : y.outputId ≠ r.outputId := by
        intro e
        rw [e, (OutputId.compare_eq_iff).2 rfl] at hgt
        cases hgt
      by_cases h : y.outputId = o
      · subst h
        simp [Ne.symm hy]
      · have hb : (y.outputId == o) = false := by simpa using h
        simp only [List.find?_cons, hb]
        exact ih

theorem find?_foldl_insertOutput {α : Type} (g : α → OutputResponse) (t : TransactionId)
    (hg : ∀ x, (g x).outputId.transactionId = t) {o : OutputId} (ho : o.transactionId ≠ t) :
    ∀ (xs : List α) (l : List OutputResponse),
      (xs.foldl (fun acc x => insertOutput (g x) acc) l).find? (·.outputId == o) =
        l.find? (·.outputId == o)
  | [], _ => rfl
  | x :: xs, l => by
    have hne : (g x).outputId ≠ o := fun e => ho (e ▸ hg x)
    rw [List.foldl_cons, find?_foldl_insertOutput g t hg ho xs, find?_insertOutput, if_neg hne]

theorem mem_foldl_insertOutput {α : Type} (g : α → OutputResponse) {r : OutputResponse} :
    ∀ (xs : List α) (l : List OutputResponse),
      r ∈ xs.foldl (fun acc x => insertOutput (g x) acc) l → (∃ x ∈ xs, r = g x) ∨ r ∈ l
  | [], _, h => .inr h
  | x :: xs, l, h => by
    rcases mem_foldl_insertOutput g xs _ h with ⟨y, hy, rfl⟩ | h
    · exact .inl ⟨y, List.mem_cons_of_mem x hy, rfl⟩
    · rcases mem_insertOutput h with rfl | h
      · exact .inl ⟨x, List.mem_cons_self, rfl⟩
      · exact .inr h

theorem span_eq_append {p : OutputResponse → Bool} {rs before rest : List OutputResponse}
    (h : rs.span p = (before, rest)) : before ++ rest = rs := by
  rw [List.span_eq_takeWhile_dropWhile, Prod.mk.injEq] at h
  rw [← h.1, ← h.2, List.takeWhile_append_dropWhile]

theorem mem_insertRun {x : OutputResponse} :
    ∀ {rs l : List OutputResponse}, x ∈ insertRun rs l → x ∈ rs ∨ x ∈ l
  | _, [], h => .inl h
  | rs, y :: ys, h => by
    rw [insertRun] at h
    split at h
    · next before r rest hs =>
      have hrs := span_eq_append hs
      split at h
      · simp only [List.mem_append, List.mem_cons] at h
        rcases h with h | rfl | h
        · exact .inl (hrs ▸ List.mem_append_left _ h)
        · exact .inl (hrs ▸ List.mem_append_right _ List.mem_cons_self)
        · rcases mem_insertRun h with h | h
          · exact .inl (hrs ▸ List.mem_append_right _ (List.mem_cons_of_mem r h))
          · exact .inr (List.mem_cons_of_mem y h)
      · simp only [List.mem_append, List.mem_cons] at h
        rcases h with h | rfl | h
        · exact .inl (hrs ▸ List.mem_append_left _ h)
        · exact .inr List.mem_cons_self
        · rcases mem_insertRun h with h | h
          · exact .inl (hrs ▸ List.mem_append_right _ h)
          · exact .inr (List.mem_cons_of_mem y h)
    · next before hs =>
      have hrs := span_eq_append hs
      rw [List.append_nil] at hrs
      simp only [List.mem_append] at h
      rcases h with h | h
      · exact .inl (hrs ▸ h)
      · exact .inr h

theorem find?_insertRun {o : OutputId} :
    ∀ {rs l : List OutputResponse}, (∀ r ∈ rs, r.outputId ≠ o) →
      (insertRun rs l).find? (·.outputId == o) = l.find? (·.outputId == o)
  | rs, [], h => by
    rw [insertRun, List.find?_nil, List.find?_eq_none]
    intro r hr
    simpa using h r hr
  | rs, y :: ys, h => by
    rw [insertRun]
    split
    · next before r rest hs =>
      have hrs := span_eq_append hs
      have hbefore : before.find? (·.outputId == o) = none :=
        List.find?_eq_none.2 fun z hz => by simpa using h z (hrs ▸ List.mem_append_left _ hz)
      have hr : r.outputId ≠ o := h r (hrs ▸ List.mem_append_right _ List.mem_cons_self)
      have hrest : ∀ z ∈ rest, z.outputId ≠ o :=
        fun z hz => h z (hrs ▸ List.mem_append_right _ (List.mem_cons_of_mem r hz))
      split
      · next heq =>
        have hy : r.outputId = y.outputId := OutputId.compare_eq_iff.1 (by simpa using heq)
        have hyo : (y.outputId == o) = false := by simpa [← hy] using hr
        have hro : (r.outputId == o) = false := by simpa using hr
        rw [List.find?_append, hbefore, Option.none_or, List.find?_cons, List.find?_cons, hyo, hro]
        exact find?_insertRun hrest
      · rw [List.find?_append, hbefore, Option.none_or, List.find?_cons, List.find?_cons,
          find?_insertRun fun z hz => h z (hrs ▸ List.mem_append_right _ hz)]
    · next before hs =>
      have hrs := span_eq_append hs
      rw [List.append_nil] at hrs
      have hbefore : before.find? (·.outputId == o) = none :=
        List.find?_eq_none.2 fun z hz => by simpa using h z (hrs ▸ hz)
      rw [List.find?_append, hbefore, Option.none_or]

namespace LedgerNode

variable {n : LedgerNode}

/-- The transaction that a stored block carries. -/
def txOf? (n : LedgerNode) (b : BlockId) : Option Transaction :=
  (n.blockOf? b).bind (·.block.transaction?)

/-- The identifier of the `k`-th synthetic transaction of a node: the hash of `k` as eight
little-endian bytes. -/
def syntheticId (k : Nat) : TransactionId := TransactionId.ofBytes (Canonical.littleEndian 8 k)

theorem mem_of_outputOf? {o : OutputId} {r : OutputResponse} (h : n.outputOf? o = some r) :
    r ∈ n.outputs ∧ r.outputId = o :=
  ⟨List.mem_of_find?_eq_some h, by simpa using List.find?_some h⟩

theorem isUnspent_eq_true {o : OutputId} :
    n.isUnspent o = true ↔ ∃ r, n.outputOf? o = some r ∧ r.metadata.isSpent = false := by
  unfold isUnspent
  split <;> simp_all

theorem stored_of_isUnspent {o : OutputId} (h : n.isUnspent o = true) :
    ∃ r ∈ n.outputs, r.outputId = o := by
  obtain ⟨r, hr, -⟩ := isUnspent_eq_true.1 h
  exact ⟨r, mem_of_outputOf? hr⟩

theorem mem_of_blockOf? {b : BlockId} {sb : StoredBlock} (h : n.blockOf? b = some sb) :
    (b, sb) ∈ n.blocks := by
  obtain ⟨l₁, l₂, hl, -⟩ := List.lookup_eq_some_iff.1 h
  rw [hl]
  exact List.mem_append_right l₁ List.mem_cons_self

theorem lookup_of_mem_nodup {b : BlockId} {sb : StoredBlock} :
    ∀ {l : List (BlockId × StoredBlock)}, (l.map Prod.fst).Nodup → (b, sb) ∈ l →
      l.lookup b = some sb
  | [], _, h => by cases h
  | (k, s) :: l, hnd, h => by
    simp only [List.map_cons, List.nodup_cons] at hnd
    rcases List.mem_cons.1 h with he | hl
    · obtain ⟨rfl, rfl⟩ := Prod.mk.inj he
      simp
    · have hk : b ≠ k := fun e => hnd.1 (e ▸ List.mem_map_of_mem (f := Prod.fst) hl)
      have hb : (b == k) = false := by simpa using hk
      simp only [List.lookup_cons, hb]
      exact lookup_of_mem_nodup hnd.2 hl

theorem blockOf?_of_mem (hnd : (n.blocks.map Prod.fst).Nodup) {b : BlockId} {sb : StoredBlock}
    (h : (b, sb) ∈ n.blocks) : n.blockOf? b = some sb :=
  lookup_of_mem_nodup hnd h

theorem blockOf?_eq_none {b : BlockId} : n.blockOf? b = none ↔ b ∉ n.blocks.map Prod.fst := by
  rw [blockOf?, List.lookup_eq_none_iff]
  constructor
  · intro h hm
    obtain ⟨p, hp, rfl⟩ := List.mem_map.1 hm
    simpa using h p hp
  · intro h p hp
    have hne : b ≠ p.1 := fun e => h (e ▸ List.mem_map_of_mem hp)
    simpa using hne

theorem txOf?_eq_some {b : BlockId} {tx : Transaction} (h : n.txOf? b = some tx) :
    ∃ sb, n.blockOf? b = some sb ∧ sb.block.transaction? = some tx :=
  Option.bind_eq_some_iff.1 h

/-! ### Synthetic outputs and pruning -/

theorem addOutput_eq (o : Output) (n : LedgerNode) :
    n.addOutput o = (⟨syntheticId (n.synthetic + 1), 0⟩,
      { n with synthetic := n.synthetic + 1,
               outputs := insertOutput ⟨⟨syntheticId (n.synthetic + 1), 0⟩, o,
                 ⟨n.genesis, false, n.milestone⟩⟩ n.outputs }) := rfl


theorem isUnspent_addOutput {o : Output} {id : OutputId}
    (h : (⟨syntheticId (n.synthetic + 1), 0⟩ : OutputId) ≠ id) :
    (n.addOutput o).2.isUnspent id = n.isUnspent id := by
  have hfind := find?_insertOutput
    (⟨⟨syntheticId (n.synthetic + 1), 0⟩, o, ⟨n.genesis, false, n.milestone⟩⟩ : OutputResponse)
    n.outputs id
  rw [if_neg h] at hfind
  simp only [isUnspent, outputOf?, addOutput_eq, hfind]

theorem outputOf?_pruneOutput (id o : OutputId) :
    (n.pruneOutput id).outputOf? o = if o = id then none else n.outputOf? o := by
  simp only [outputOf?, pruneOutput, List.find?_filter, bne_iff_ne, ne_eq, beq_iff_eq]
  by_cases h : o = id
  · subst h
    simp
  · rw [if_neg h]
    congr 1
    funext r
    by_cases hr : r.outputId = o
    · simp [hr, h]
    · simp [hr]

theorem isUnspent_pruneOutput {id o : OutputId} (h : (n.pruneOutput id).isUnspent o = true) :
    n.isUnspent o = true := by
  rw [isUnspent_eq_true, outputOf?_pruneOutput] at h
  split at h
  · simp at h
  · exact isUnspent_eq_true.2 h

/-! ### Booking a transaction -/

section Book

variable {tx : Transaction} {b : BlockId} {m : Nat}

theorem book_blocks : (n.book tx b m).blocks = n.blocks := rfl

theorem book_included : (n.book tx b m).included = n.included ++ [(tx.id, b)] := rfl

theorem book_synthetic : (n.book tx b m).synthetic = n.synthetic := rfl

theorem txOf?_book (k : BlockId) : (n.book tx b m).txOf? k = n.txOf? k := rfl

/-- A stored output as booking `tx` leaves it: spent when it is one of the inputs. -/
def spend (tx : Transaction) (r : OutputResponse) : OutputResponse :=
  if tx.essence.inputs.contains r.outputId then
    { r with metadata := { r.metadata with isSpent := true } }
  else r

@[simp] theorem spend_outputId (r : OutputResponse) : (spend tx r).outputId = r.outputId := by
  unfold spend
  split <;> rfl

/-- The response of output `x.2` of a transaction booked in block `b` at milestone `m`. -/
def bookedAt (tx : Transaction) (b : BlockId) (m : Nat) (x : Output × Nat) : OutputResponse :=
  ⟨⟨tx.id, x.2.toUInt16⟩, x.1, ⟨b, false, m⟩⟩

theorem book_outputs :
    (n.book tx b m).outputs =
      ((tx.essence.outputs.zipIdx.drop 65536).map (bookedAt tx b m)).foldl
        (fun acc r => insertOutput r acc)
        (insertRun ((tx.essence.outputs.zipIdx.map (bookedAt tx b m)).take 65536)
          (n.outputs.map (spend tx))) := by
  rw [List.map_drop]
  rfl

theorem mem_book {r : OutputResponse} (h : r ∈ (n.book tx b m).outputs) :
    (∃ x ∈ tx.essence.outputs.zipIdx, r = bookedAt tx b m x) ∨ r ∈ n.outputs.map (spend tx) := by
  rw [book_outputs, List.foldl_map] at h
  rcases mem_foldl_insertOutput (bookedAt tx b m) _ _ h with ⟨x, hx, rfl⟩ | h
  · exact .inl ⟨x, List.mem_of_mem_drop hx, rfl⟩
  · rcases mem_insertRun h with h | h
    · obtain ⟨x, hx, rfl⟩ := List.mem_map.1 (List.mem_of_mem_take h)
      exact .inl ⟨x, hx, rfl⟩
    · exact .inr h

theorem find?_book {o : OutputId} (ho : o.transactionId ≠ tx.id) :
    (n.book tx b m).outputs.find? (·.outputId == o) =
      (n.outputs.map (spend tx)).find? (·.outputId == o) := by
  rw [book_outputs, List.foldl_map,
    find?_foldl_insertOutput (bookedAt tx b m) tx.id (fun _ => rfl) ho, find?_insertRun]
  intro r hr
  obtain ⟨x, -, rfl⟩ := List.mem_map.1 (List.mem_of_mem_take hr)
  exact fun e => ho (e ▸ rfl)

theorem lookup_book (hnew : n.included.lookup tx.id = none) (t : TransactionId) :
    (n.book tx b m).included.lookup t = if t = tx.id then some b else n.included.lookup t := by
  rw [book_included, List.lookup_append]
  by_cases ht : t = tx.id
  · subst ht
    simp [hnew]
  · have hb : (t == tx.id) = false := by simpa using ht
    simp [List.lookup_cons, hb, ht]

theorem outputOf?_book_of_ne {o : OutputId} (ho : o.transactionId ≠ tx.id) :
    (n.book tx b m).outputOf? o = (n.outputOf? o).map (spend tx) := by
  rw [outputOf?, outputOf?, find?_book ho, List.find?_map]
  have hp : ((·.outputId == o) ∘ spend tx) = (·.outputId == o) := by
    funext r
    simp only [Function.comp, spend_outputId]
  rw [hp]

theorem isUnspent_book {o : OutputId} (ho : o.transactionId ≠ tx.id) :
    (n.book tx b m).isUnspent o = (n.isUnspent o && !tx.essence.inputs.contains o) := by
  rw [isUnspent, isUnspent, outputOf?_book_of_ne ho]
  cases hr : n.outputOf? o with
  | none => simp
  | some r =>
    have hid : r.outputId = o := (mem_of_outputOf? hr).2
    by_cases hc : o ∈ tx.essence.inputs <;> simp [spend, hc, hid]

theorem mem_book_outputs {r : OutputResponse} (h : r ∈ (n.book tx b m).outputs) :
    (r.outputId.transactionId = tx.id ∧ r.metadata.blockId = b ∧ r.metadata.isSpent = false) ∨
    ∃ r₀ ∈ n.outputs, r.outputId = r₀.outputId ∧ r.metadata.blockId = r₀.metadata.blockId ∧
      (r.metadata.isSpent = true →
        r₀.metadata.isSpent = true ∨ r₀.outputId ∈ tx.essence.inputs) := by
  rcases mem_book h with ⟨x, -, rfl⟩ | h
  · exact .inl ⟨rfl, rfl, rfl⟩
  · obtain ⟨r₀, hr₀, rfl⟩ := List.mem_map.1 h
    refine .inr ⟨r₀, hr₀, spend_outputId r₀, by unfold spend; split <;> rfl, fun hs => ?_⟩
    by_cases hc : r₀.outputId ∈ tx.essence.inputs
    · exact .inr hc
    · simp only [spend, List.contains_iff_mem, hc, ↓reduceIte] at hs
      exact .inl hs

end Book

/-! ### Block metadata -/

/-- The metadata of a block once milestone `m` referenced it with verdict `v`. -/
def referenced (m : Nat) (v : Inclusion) (md : BlockMetadata) : BlockMetadata :=
  { md with referencedBy := some m, inclusion := some v }

section Metadata

variable {id : BlockId} {f : BlockMetadata → BlockMetadata}

theorem updateMetadata_outputs : (n.updateMetadata id f).outputs = n.outputs := rfl

theorem updateMetadata_included : (n.updateMetadata id f).included = n.included := rfl

theorem updateMetadata_synthetic : (n.updateMetadata id f).synthetic = n.synthetic := rfl

theorem mem_updateMetadata_blocks {k : BlockId} {sb : StoredBlock} :
    (k, sb) ∈ (n.updateMetadata id f).blocks ↔
      ∃ sb₀, (k, sb₀) ∈ n.blocks ∧
        sb = if k = id then { sb₀ with metadata := f sb₀.metadata } else sb₀ := by
  simp only [updateMetadata, List.mem_map, Prod.exists]
  constructor
  · rintro ⟨k', sb₀, h, he⟩
    by_cases hk : k' = id
    · simp only [hk, ↓reduceIte, Prod.mk.injEq] at he
      obtain ⟨rfl, rfl⟩ := he
      exact ⟨sb₀, hk ▸ h, by simp⟩
    · simp only [hk, ↓reduceIte, Prod.mk.injEq] at he
      obtain ⟨rfl, rfl⟩ := he
      exact ⟨sb₀, h, by simp [hk]⟩
  · rintro ⟨sb₀, h, rfl⟩
    refine ⟨k, sb₀, h, ?_⟩
    by_cases hk : k = id <;> simp [hk]

theorem keys_updateMetadata :
    (n.updateMetadata id f).blocks.map Prod.fst = n.blocks.map Prod.fst := by
  simp only [updateMetadata, List.map_map]
  congr 1
  funext p
  simp only [Function.comp]
  split <;> rfl

theorem lookup_map_snd (g : BlockId → StoredBlock → StoredBlock) (k : BlockId) :
    ∀ l : List (BlockId × StoredBlock),
      (l.map fun p => (p.1, g p.1 p.2)).lookup k = (l.lookup k).map (g k)
  | [] => rfl
  | (k', sb') :: l => by
    by_cases h : k = k'
    · subst h
      simp
    · have hb : (k == k') = false := by simpa using h
      simp only [List.map_cons, List.lookup_cons, hb]
      exact lookup_map_snd g k l

theorem blockOf?_updateMetadata (k : BlockId) :
    (n.updateMetadata id f).blockOf? k = (n.blockOf? k).map fun sb =>
      if k = id then { sb with metadata := f sb.metadata } else sb := by
  have hmap : (fun (p : BlockId × StoredBlock) =>
      if p.1 = id then (p.1, { p.2 with metadata := f p.2.metadata }) else (p.1, p.2)) =
      fun p => (p.1, if p.1 = id then { p.2 with metadata := f p.2.metadata } else p.2) := by
    funext p
    split <;> rfl
  simp only [blockOf?, updateMetadata]
  rw [hmap]
  exact lookup_map_snd
    (fun k' sb => if k' = id then { sb with metadata := f sb.metadata } else sb) k n.blocks

theorem txOf?_updateMetadata (k : BlockId) : (n.updateMetadata id f).txOf? k = n.txOf? k := by
  simp only [txOf?, blockOf?_updateMetadata]
  cases n.blockOf? k with
  | none => rfl
  | some sb => by_cases h : k = id <;> simp [h]

end Metadata

/-! ### Storing a block -/

section Store

variable {id : BlockId} {b : Block}

/-- The metadata of a block that no milestone has referenced yet. -/
def pending (id : BlockId) (b : Block) : StoredBlock := ⟨b, { blockId := id, parents := b.parents }⟩

theorem store_outputs : (n.store id b).outputs = n.outputs := rfl

theorem store_included : (n.store id b).included = n.included := rfl

theorem store_synthetic : (n.store id b).synthetic = n.synthetic := rfl

theorem mem_store_blocks {p : BlockId × StoredBlock} :
    p ∈ (n.store id b).blocks ↔ p ∈ n.blocks ∨ p = (id, pending id b) := by
  simp [store, pending]

theorem blockOf?_store (k : BlockId) :
    (n.store id b).blockOf? k = (n.blockOf? k).or (if k = id then some (pending id b) else none) := by
  have hs : ([(id, pending id b)] : List (BlockId × StoredBlock)).lookup k =
      if k = id then some (pending id b) else none := by
    by_cases h : k = id <;> simp [h]
  simp only [store, blockOf?, List.lookup_append]
  rw [← hs]
  rfl

end Store

/-! ### What a milestone, a conflict, a submission and a request can do -/

theorem judge_cases {id : BlockId} {block : Block} {m : Nat} {v : Inclusion} {n' : LedgerNode}
    (h : n.judge id block m = (v, n')) :
    (v ≠ .included ∧ n' = n) ∨
    ∃ tx, block.transaction? = some tx ∧ n.included.lookup tx.id = none ∧
      (∀ o ∈ tx.essence.inputs, n.isUnspent o = true) ∧ v = .included ∧ n' = n.book tx id m := by
  unfold judge at h
  split at h
  · cases h
    exact .inl ⟨by decide, rfl⟩
  · next tx htx =>
    split at h
    · cases h
      exact .inl ⟨by decide, rfl⟩
    · next hc =>
      cases h
      have hnew : n.included.lookup tx.id = none := by
        cases h' : n.included.lookup tx.id <;> simp_all
      have hall : tx.essence.inputs.all n.isUnspent = true := by
        cases h' : tx.essence.inputs.all n.isUnspent
        · simp [h'] at hc
        · rfl
      exact .inr ⟨tx, htx, hnew, fun o ho => List.all_eq_true.1 hall o ho, rfl, rfl⟩

theorem confirm_cases (id : BlockId) (n : LedgerNode) :
    (n.confirm id).2 = n ∨
    ∃ sb, n.blockOf? id = some sb ∧
      ((∃ v, v ≠ .included ∧ (n.confirm id).2 =
          { n with milestone := n.milestone + 1 }.updateMetadata id
            (referenced (n.milestone + 1) v)) ∨
       ∃ tx, sb.block.transaction? = some tx ∧ n.included.lookup tx.id = none ∧
         (∀ o ∈ tx.essence.inputs, n.isUnspent o = true) ∧
         (n.confirm id).2 = ({ n with milestone := n.milestone + 1 }.book tx id
           (n.milestone + 1)).updateMetadata id (referenced (n.milestone + 1) .included)) := by
  cases hb : n.blockOf? id with
  | none => exact .inl (by simp [confirm, hb])
  | some sb =>
    refine .inr ⟨sb, rfl, ?_⟩
    rcases hj : { n with milestone := n.milestone + 1 }.judge id sb.block (n.milestone + 1) with
      ⟨v, nj⟩
    have hc : (n.confirm id).2 = nj.updateMetadata id (referenced (n.milestone + 1) v) := by
      simp only [confirm, hb, hj]
      rfl
    rcases judge_cases hj with ⟨hv, rfl⟩ | ⟨tx, htx, hnew, hins, rfl, rfl⟩
    · exact .inl ⟨v, hv, hc⟩
    · exact .inr ⟨tx, htx, hnew, hins, hc⟩

theorem conflict_cases (id : BlockId) (n : LedgerNode) :
    (n.conflict id).2 = { n with milestone := n.milestone + 1 } ∨
    (n.conflict id).2 = { n with milestone := n.milestone + 1 }.updateMetadata id
      (referenced (n.milestone + 1) .conflicting) := by
  simp only [conflict]
  split
  · exact .inl rfl
  · exact .inr rfl

theorem accept_cases (b : Block) (n : LedgerNode) :
    (n.accept b).2 = n ∨
    n.blockOf? b.id = none ∧
      ((n.accept b).2 = n.store b.id b ∨ (n.accept b).2 = ((n.store b.id b).confirm b.id).2) := by
  unfold accept
  dsimp only
  -- the two shapes of payload differ only in the overflow test, and share what follows it
  split <;> split
  all_goals try exact .inl rfl
  all_goals
    split
    · exact .inl rfl
    · next hknown =>
      split
      · exact .inl rfl
      · split
        · exact .inr ⟨by simpa using hknown, .inr rfl⟩
        · exact .inr ⟨by simpa using hknown, .inl rfl⟩

theorem enter_snd (op : String) (n : LedgerNode) :
    (n.enter op).2 = { n with requests := n.requests + 1 } := by
  unfold enter
  dsimp only
  split <;> rfl

theorem eq_of_pure_ok {α : Type} {x a : α} {n n' : LedgerNode}
    (h : (pure (x, n) : Except Fault (α × LedgerNode)) = .ok (a, n')) : n' = n := by
  cases h
  rfl

theorem eq_of_bind_pure_ok {α β : Type} {x : Except Fault β} {g : β → α} {a : α}
    {n n' : LedgerNode} (h : (x >>= fun v => pure (g v, n)) = .ok (a, n')) : n' = n := by
  cases x with
  | error e => cases h
  | ok v =>
    cases h
    rfl

theorem answer_cases {r : Request} {a : Except NodeError r.Answer} {n' : LedgerNode}
    (h : n.answer r = .ok (a, n')) : n' = n ∨ ∃ b, r = .submit b ∧ n' = (n.accept b).2 := by
  cases r with
  | submit b =>
    have hacc : n.accept b = (a, n') := Except.ok.inj h
    exact .inr ⟨b, rfl, by rw [hacc]⟩
  | outputsOf addr f cursor =>
    simp only [answer] at h
    split at h
    · exact .inl (eq_of_pure_ok h)
    · split at h
      · exact .inl (eq_of_bind_pure_ok h)
      · split at h
        · exact .inl (eq_of_bind_pure_ok h)
        · exact .inl (eq_of_pure_ok h)
  | tips => exact .inl (eq_of_pure_ok h)
  | block _ | metadata _ | includedBlock _ =>
    simp only [answer] at h
    split at h <;> exact .inl (eq_of_pure_ok h)
  | output _ =>
    simp only [answer] at h
    split at h
    · exact .inl (eq_of_pure_ok h)
    · split at h <;> exact .inl (eq_of_pure_ok h)

theorem serve_cases {r : Request} {a : Except NodeError r.Answer} {n' : LedgerNode}
    (h : n.serve r = .ok (a, n')) :
    n' = { n with requests := n.requests + 1 } ∨
    ∃ b, r = .submit b ∧ n' = ({ n with requests := n.requests + 1 }.accept b).2 := by
  rcases he : n.enter r.operation with ⟨res, n₁⟩
  have hn₁ : n₁ = { n with requests := n.requests + 1 } := by
    rw [← enter_snd r.operation n, he]
  subst hn₁
  simp only [serve, he] at h
  cases res with
  | error e => exact .inl (eq_of_pure_ok h)
  | ok _ => exact answer_cases h

theorem confirm_synthetic (id : BlockId) (n : LedgerNode) :
    (n.confirm id).2.synthetic = n.synthetic := by
  rcases confirm_cases id n with hc | ⟨sb, -, ⟨v, -, hc⟩ | ⟨tx, -, -, -, hc⟩⟩ <;> rw [hc] <;> rfl

theorem accept_synthetic (b : Block) (n : LedgerNode) :
    (n.accept b).2.synthetic = n.synthetic := by
  rcases accept_cases b n with hc | ⟨-, hc | hc⟩
  · rw [hc]
  · rw [hc]
    rfl
  · rw [hc]
    exact confirm_synthetic b.id _

theorem serve_synthetic {r : Request} {a : Except NodeError r.Answer} {n' : LedgerNode}
    (h : n.serve r = .ok (a, n')) : n'.synthetic = n.synthetic := by
  rcases serve_cases h with rfl | ⟨b, -, rfl⟩
  · rfl
  · exact accept_synthetic b _

end LedgerNode

/-! ### Runs -/

/-- What can happen to a node: a request through its interface, or a call of whoever runs it
(a milestone, a conflict, a synthetic output, pruning, one of its knobs, or reading a
balance). -/
inductive NodeOp where
  | request (r : Request)
  | confirm (id : BlockId)
  | conflict (id : BlockId)
  | addOutput (o : Output)
  | prune (id : OutputId)
  | setPageSize (size : Nat)
  | setAutoConfirm (on : Bool)
  | setHint (hint : PendingHint)
  | setUnreachable (on : Bool)
  | failAfter (limit : Nat)
  | failAddress (a : Address)
  | failOutput (id : OutputId)
  | balance (a : Address)

namespace NodeOp

/-- The node after the operation, or the fault that stopped everything. -/
def apply : NodeOp → LedgerNode → Except Fault LedgerNode
  | .request r, n => (n.serve r).map Prod.snd
  | .confirm id, n => pure (n.confirm id).2
  | .conflict id, n => pure (n.conflict id).2
  | .addOutput o, n => pure (n.addOutput o).2
  | .prune id, n => pure (n.pruneOutput id)
  | .setPageSize size, n => pure (n.setPageSize size)
  | .setAutoConfirm on, n => pure { n with autoConfirm := on }
  | .setHint hint, n => pure { n with hint := hint }
  | .setUnreachable on, n => pure { n with unreachable := on }
  | .failAfter limit, n => pure { n with requestLimit := some limit }
  | .failAddress a, n => pure (n.failAddress a)
  | .failOutput id, n => pure (n.failOutput id)
  | .balance a, n => (n.balance a).map fun _ => n

def isAddOutput : NodeOp → Bool
  | .addOutput _ => true
  | _ => false

theorem apply_request {r : Request} {n n' : LedgerNode} (h : (NodeOp.request r).apply n = .ok n') :
    ∃ a, n.serve r = .ok (a, n') := by
  cases hs : n.serve r with
  | error e =>
    simp only [apply, hs] at h
    cases h
  | ok p =>
    simp only [apply, hs] at h
    cases h
    exact ⟨p.1, rfl⟩

theorem apply_balance {a : Address} {n n' : LedgerNode} (h : (NodeOp.balance a).apply n = .ok n') :
    n' = n := by
  cases hb : n.balance a with
  | error e =>
    simp only [apply, hb] at h
    cases h
  | ok v =>
    simp only [apply, hb] at h
    cases h
    rfl

theorem synthetic_apply {op : NodeOp} {n n' : LedgerNode} (h : op.apply n = .ok n') :
    n'.synthetic = n.synthetic + if op.isAddOutput then 1 else 0 := by
  cases op with
  | request r =>
    obtain ⟨a, hs⟩ := apply_request h
    simpa [isAddOutput] using LedgerNode.serve_synthetic hs
  | confirm id =>
    cases h
    simpa [isAddOutput] using LedgerNode.confirm_synthetic id n
  | conflict id =>
    cases h
    simp only [isAddOutput, Bool.false_eq_true, ↓reduceIte, Nat.add_zero]
    rcases LedgerNode.conflict_cases id n with hc | hc
    · rw [hc]
    · rw [hc]
      rfl
  | addOutput o =>
    cases h
    rfl
  | balance a =>
    rw [apply_balance h]
    rfl
  | prune _ | setPageSize _ | setAutoConfirm _ | setHint _ | setUnreachable _ | failAfter _
  | failAddress _ | failOutput _ =>
    cases h
    rfl

end NodeOp

/-- The operations applied in order; the first fault ends the run. -/
def LedgerNode.runOps : List NodeOp → LedgerNode → Except Fault LedgerNode
  | [], n => .ok n
  | op :: ops, n => (op.apply n).bind (runOps ops)

end DagWallet
