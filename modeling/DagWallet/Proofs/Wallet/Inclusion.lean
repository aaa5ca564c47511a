import DagWallet.Proofs.Wallet.Retry

/-!
Where the inclusion reported by the confirmation loop comes from. The pool is arbitrary except
that it addresses blocks by their identifiers: a write answers the identifier of the block
written, and a read by identifier answers a block of that identifier, the very block written
under it when there is one. Then the block reported is the block of the identifier reported,
every reattachment carries the payload of the block first submitted, and the last attempt
either read the metadata of the attachments in order up to the first one included, or read
them all, found none included and one conflicting, and looked the transaction up.
-/

namespace DagWallet

open Session

variable {σ : Type}

namespace Pool

/-- The pool can answer a read of the block `x` with `B`. -/
def Serves (pool : Pool σ) (x : BlockId) (B : Block) : Prop :=
  ∃ s s', (pool.block x).run.run s = .ok (.ok B, s')

/-- Reading the metadata of the blocks `as` one after the other, from `s` to `s'`, answered
`mds`. -/
inductive ReadsMetadata (pool : Pool σ) : List BlockId → List BlockMetadata → σ → σ → Prop
  | nil (s : σ) : ReadsMetadata pool [] [] s s
  | cons {a : BlockId} {as : List BlockId} {md : BlockMetadata} {mds : List BlockMetadata}
    {s s₁ s' : σ} : (pool.metadata a).run.run s = .ok (.ok md, s₁) →
      ReadsMetadata pool as mds s₁ s' → ReadsMetadata pool (a :: as) (md :: mds) s s'

/-- A pool that addresses blocks by their identifiers, as a ledger node does. -/
structure Addressed (pool : Pool σ) : Prop where
  accepts_id : ∀ q, pool.Accepts q → q.1 = q.2.id
  block_id : ∀ x, (pool.block x).Always fun r => ∀ B, r = .ok B → B.id = x
  block_accepted : ∀ q, pool.Accepts q → (pool.block q.1).Always fun r => ∀ B, r = .ok B → B = q.2

theorem Addressed.serves_id {pool : Pool σ} (h : pool.Addressed) {x : BlockId} {B : Block}
    (hB : pool.Serves x B) : B.id = x := by
  obtain ⟨s, s', hrun⟩ := hB
  exact h.block_id x s _ s' hrun B rfl

theorem Addressed.serves_accepted {pool : Pool σ} (h : pool.Addressed) {q : BlockId × Block}
    (hq : pool.Accepts q) {B : Block} (hB : pool.Serves q.1 B) : B = q.2 := by
  obtain ⟨s, s', hrun⟩ := hB
  exact h.block_accepted q hq s _ s' hrun B rfl

end Pool

namespace Progress

/-- Progress of the loop for `b` in which the attachments are `b` and then the reattachments,
the latest attachment is the last of them, each reattachment is a block the pool accepted,
and all of them carry the payload of one block the pool serves for `b`. -/
structure Carries (pool : Pool σ) (b : BlockId) (p : Progress) : Prop where
  attachments_eq : p.attachments = b :: p.reattached.map Prod.fst
  latest_eq : p.latest = (p.reattached.getLast?.map Prod.fst).getD b
  accepted : ∀ q ∈ p.reattached, pool.Accepts q
  payload : p.reattached = [] ∨
    ∃ B, pool.Serves b B ∧ ∀ q ∈ p.reattached, q.2.payload = B.payload

theorem carries_start (pool : Pool σ) (b : BlockId) : (⟨[b], [], [], b⟩ : Progress).Carries pool b :=
  ⟨rfl, rfl, nofun, .inl rfl⟩

theorem Carries.record {pool : Pool σ} {b : BlockId} {p : Progress} (h : p.Carries pool b)
    (rs : List AttemptRecord) : ({ p with records := rs } : Progress).Carries pool b :=
  ⟨h.attachments_eq, h.latest_eq, h.accepted, h.payload⟩

theorem Carries.reattach {pool : Pool σ} (hpool : pool.Addressed) {b : BlockId} {p : Progress}
    (h : p.Carries pool b) {q : BlockId × Block} (hq : pool.Accepts q) {src : Block}
    (hsrc : pool.Serves p.latest src) (hpayload : q.2.payload = src.payload)
    (rs : List AttemptRecord) :
    ({ attachments := p.attachments ++ [q.1], reattached := p.reattached ++ [q], records := rs,
       latest := q.1 } : Progress).Carries pool b := by
  refine ⟨?_, ?_, ?_, .inr ?_⟩
  · rw [h.attachments_eq, List.map_append, List.map_singleton, List.cons_append]
  · rw [List.getLast?_append, List.getLast?_singleton]
    rfl
  · intro q' hq'
    rcases List.mem_append.mp hq' with hq' | hq'
    · exact h.accepted q' hq'
    · rw [List.mem_singleton.mp hq']
      exact hq
  · cases hlast : p.reattached.getLast? with
    | none =>
      -- the first reattachment copies a block served for `b`
      have hlatest : p.latest = b := by rw [h.latest_eq, hlast]; rfl
      rw [List.getLast?_eq_none_iff.mp hlast]
      refine ⟨src, hlatest ▸ hsrc, fun q' hq' => ?_⟩
      rw [List.mem_singleton.mp hq']
      exact hpayload
    | some last =>
      -- a later one copies the reattachment before it, which carries the payload already
      have hlatest : p.latest = last.1 := by rw [h.latest_eq, hlast]; rfl
      have hmem : last ∈ p.reattached := List.mem_of_getLast? hlast
      have hsame : src = last.2 :=
        hpool.serves_accepted (h.accepted last hmem) (hlatest ▸ hsrc)
      obtain ⟨B, hB, hall⟩ := h.payload.resolve_left (List.ne_nil_of_mem hmem)
      refine ⟨B, hB, fun q' hq' => ?_⟩
      rcases List.mem_append.mp hq' with hq' | hq'
      · exact hall q' hq'
      · rw [List.mem_singleton.mp hq', hpayload, hsame]
        exact hall last hmem

end Progress

namespace Wallet

variable (w : Wallet σ)

theorem reattachUnchecked_run {l : BlockId} {s s' : σ} {q : BlockId × Block}
    (h : (w.reattachUnchecked l).run.run s = .ok (.ok q, s')) :
    w.pool.Accepts q ∧ ∃ src, w.pool.Serves l src ∧ q.2.payload = src.payload := by
  unfold reattachUnchecked at h
  rcases run_bind_eq_ok h with ⟨e, -, he⟩ | ⟨src, s₁, hsrc, h⟩
  · cases he
  rcases run_bind_eq_ok h with ⟨e, -, he⟩ | ⟨tips, s₂, -, h⟩
  · cases he
  rcases run_bind_eq_ok h with ⟨e, -, he⟩ | ⟨id, s₃, hid, h⟩
  · cases he
  cases h
  exact ⟨⟨_, _, run_of_mapError_ok hid⟩, src, ⟨_, _, run_of_mapError_ok hsrc⟩, rfl⟩

theorem loopAsk_error {α : Type} {x : Session σ NodeError α} {s s' : σ} {e : LoopExit}
    (h : (loopAsk x).run.run s = .ok (.error e, s')) : ∃ e', e = .failed (.node e') := by
  obtain ⟨r₀, -, hr₀⟩ := run_mapError_eq_ok h
  cases r₀ with
  | ok a => cases hr₀
  | error e' =>
    cases hr₀
    exact ⟨e', rfl⟩

/-- `q` is the block of the attachment `a` of `p`: a reattachment of `p`, kept as written, or
the block the pool served for `a`, read from `s₁` to `s'`. -/
def AttachmentFound (pool : Pool σ) (reattached : List (BlockId × Block)) (a : BlockId)
    (q : BlockId × Block) (s₁ s' : σ) : Prop :=
  q.1 = a ∧ ((q ∈ reattached ∧ s' = s₁) ∨ (pool.block a).run.run s₁ = .ok (.ok q.2, s'))

theorem attachmentBlock_run {p : Progress} {a : BlockId} {s s' : σ} {q : BlockId × Block}
    (h : (w.attachmentBlock p a).run.run s = .ok (.ok q, s')) :
    AttachmentFound w.pool p.reattached a q s s' := by
  unfold attachmentBlock at h
  split at h
  next found hfound =>
    cases h
    have hid := List.find?_some hfound
    exact ⟨beq_iff_eq.mp hid, .inl ⟨List.mem_of_find?_eq_some hfound, rfl⟩⟩
  next =>
    rcases run_bind_eq_ok h with ⟨e, -, he⟩ | ⟨B, s₁, hB, h⟩
    · cases he
    cases h
    exact ⟨rfl, .inr (run_of_mapError_ok hB)⟩

theorem scan_run_included {k : Nat} {p : Progress} :
    ∀ (as : List BlockId) (c : Bool) (last : Option BlockMetadata) {s s' : σ}
      {q : BlockId × Block} {p' : Progress},
      (w.scan k p as c last).run.run s = .ok (.error (.included q p'), s') →
      p' = p.found k q.1 ∧ ∃ done rest mds md s₁, as = done ++ q.1 :: rest ∧
        w.pool.ReadsMetadata (done ++ [q.1]) (mds ++ [md]) s s₁ ∧ md.isIncluded = true ∧
        (∀ m ∈ mds, m.isIncluded = false) ∧ AttachmentFound w.pool p.reattached q.1 q s₁ s'
  | [], _, _, _, _, _, _, h => by cases h
  | a :: rest, c, _, s, s', q, p', h => by
    rw [scan] at h
    rcases run_bind_eq_ok h with ⟨e, he, herr⟩ | ⟨md, s₁, hmd, h⟩
    · obtain ⟨e', rfl⟩ := loopAsk_error he
      cases herr
    have hread := run_of_mapError_ok hmd
    split at h
    next hinc =>
      rcases run_bind_eq_ok h with ⟨e, he, herr⟩ | ⟨found, s₂, hfound, h⟩
      · obtain ⟨e', rfl⟩ := w.attachmentBlock_always p a s₁ _ s' he
        cases herr
      rcases run_bind_eq_ok h with ⟨e, he, herr⟩ | ⟨_, _, hthrow, -⟩
      · cases he
        cases herr
        obtain ⟨rfl, hfrom⟩ := w.attachmentBlock_run hfound
        exact ⟨rfl, [], rest, [], md, s₁, rfl, .cons hread (.nil s₁), hinc,
          fun _ hm => absurd hm List.not_mem_nil, rfl, hfrom⟩
      · cases hthrow
    next hinc =>
      obtain ⟨hp', done, rest', mds, md', s₂, has, hreads, hinc', hnone, hfound⟩ :=
        scan_run_included rest _ _ h
      refine ⟨hp', a :: done, rest', md :: mds, md', s₂, by rw [has]; rfl, .cons hread hreads,
        hinc', fun m hm => ?_, hfound⟩
      rcases List.mem_cons.mp hm with rfl | hm
      · simpa using hinc
      · exact hnone m hm

theorem scan_run_ok {k : Nat} {p : Progress} :
    ∀ (as : List BlockId) (c : Bool) (last : Option BlockMetadata) {s s' : σ} {c' : Bool}
      {last' : Option BlockMetadata},
      (w.scan k p as c last).run.run s = .ok (.ok (c', last'), s') →
      ∃ mds, w.pool.ReadsMetadata as mds s s' ∧ (∀ m ∈ mds, m.isIncluded = false) ∧
        c' = (c || mds.any (·.isConflicting))
  | [], c, last, s, s', c', last', h => by
    cases h
    exact ⟨[], .nil s, nofun, by rw [List.any_nil, Bool.or_false]⟩
  | a :: rest, c, _, s, s', c', last', h => by
    rw [scan] at h
    rcases run_bind_eq_ok h with ⟨e, -, herr⟩ | ⟨md, s₁, hmd, h⟩
    · cases herr
    split at h
    next =>
      -- an included attachment always stops the scan
      rcases run_bind_eq_ok h with ⟨e, -, herr⟩ | ⟨found, s₂, -, h⟩
      · cases herr
      rcases run_bind_eq_ok h with ⟨e, -, herr⟩ | ⟨_, _, hthrow, -⟩
      · cases herr
      · cases hthrow
    next hinc =>
      obtain ⟨mds, hreads, hnone, hc⟩ := scan_run_ok rest _ _ h
      refine ⟨md :: mds, .cons (run_of_mapError_ok hmd) hreads, fun m hm => ?_, ?_⟩
      · rcases List.mem_cons.mp hm with rfl | hm
        · simpa using hinc
        · exact hnone m hm
      · rw [hc, List.any_cons, Bool.or_assoc]

/-- How the last attempt for `b`, over the attachments `b` and `reattached`, resolved the
inclusion `q` from `s` to `s'`. Either it read their metadata in order up to the first one
included and reports that attachment's block, or it read all of them, none included and one
conflicting, read `b`'s block, which carries a transaction, and reports the block the pool
gave as the one including it, under that block's identifier. -/
def Resolved (pool : Pool σ) (b : BlockId) (reattached : List (BlockId × Block))
    (q : BlockId × Block) (s s' : σ) : Prop :=
  (∃ done rest mds md s₁, b :: reattached.map Prod.fst = done ++ q.1 :: rest ∧
    pool.ReadsMetadata (done ++ [q.1]) (mds ++ [md]) s s₁ ∧ md.isIncluded = true ∧
    (∀ m ∈ mds, m.isIncluded = false) ∧ AttachmentFound pool reattached q.1 q s₁ s') ∨
  (∃ mds first tx s₁ s₂, pool.ReadsMetadata (b :: reattached.map Prod.fst) mds s s₁ ∧
    (∀ m ∈ mds, m.isIncluded = false) ∧ (∃ m ∈ mds, m.isConflicting = true) ∧
    (pool.block b).run.run s₁ = .ok (.ok first, s₂) ∧ first.transaction? = some tx ∧
    (pool.includedBlock tx.id).run.run s₂ = .ok (.ok q.2, s') ∧ q.1 = q.2.id)

/-- What one attempt from `p`, run from `s` to `s'`, can end with: progress that carries the
invariant, or an inclusion resolved as `Resolved` says, with the reattachments of `p`. -/
def AttemptEnds (pool : Pool σ) (b : BlockId) (p : Progress) (s : σ) :
    Except LoopExit Progress → σ → Prop
  | .ok p', _ => p'.Carries pool b
  | .error (.included q p'), s' => p'.reattached = p.reattached ∧ Resolved pool b p.reattached q s s'
  | .error _, _ => True

theorem attempt_run (hpool : w.pool.Addressed) {b : BlockId} {k : Nat} {p : Progress}
    (hp : p.Carries w.pool b) {s s' : σ} {r : Except LoopExit Progress}
    (h : (w.attempt b k p).run.run s = .ok (r, s')) : AttemptEnds w.pool b p s r s' := by
  unfold attempt at h
  rcases run_bind_eq_ok h with ⟨e, hscan, rfl⟩ | ⟨⟨conflicting, last⟩, s₁, hscan, h⟩
  · -- the scan stopped the attempt
    cases e with
    | included q p' =>
      obtain ⟨rfl, done, rest, mds, md, s₁, has, hreads, hinc, hnone, hfound⟩ :=
        w.scan_run_included _ _ _ hscan
      rw [hp.attachments_eq] at has
      exact ⟨rfl, .inl ⟨done, rest, mds, md, s₁, has, hreads, hinc, hnone, hfound⟩⟩
    | cancelled _ => trivial
    | failed _ => trivial
  · -- the scan read every attachment and found none included
    obtain ⟨mds, hreads, hnone, hc⟩ := w.scan_run_ok _ _ _ hscan
    rw [hp.attachments_eq] at hreads
    dsimp -zeta only at h
    extract_lets lagging act at h
    -- the promotion step: it ends with progress that carries the invariant, or a failure
    have hact : ∀ u s₂ r s', (act u).run.run s₂ = .ok (r, s') → AttemptEnds w.pool b p s r s' := by
      intro u s₂ r s' hj
      simp only [act] at hj
      cases last with
      | none =>
        cases hj
        exact hp.record _
      | some md =>
        dsimp only at hj
        split at hj
        · rcases run_bind_eq_ok hj with ⟨e, he, rfl⟩ | ⟨⟨id, _⟩, s₃, -, hj⟩
          · obtain ⟨r₀, -, hr₀⟩ := run_mapError_eq_ok he
            cases r₀ <;> cases hr₀
            trivial
          · cases hj
            exact hp.record _
        · split at hj
          · rcases run_bind_eq_ok hj with ⟨e, he, rfl⟩ | ⟨⟨id, blk⟩, s₃, hq, hj⟩
            · obtain ⟨r₀, -, hr₀⟩ := run_mapError_eq_ok he
              cases r₀ <;> cases hr₀
              trivial
            · cases hj
              obtain ⟨hacc, src, hsrc, hpayload⟩ := w.reattachUnchecked_run (run_of_mapError_ok hq)
              exact hp.reattach hpool hacc hsrc hpayload _
          · cases hj
            exact hp.record _
    split at h
    next hconf =>
      -- a conflicting attachment: the transaction of `b`'s block is looked up
      rcases run_bind_eq_ok h with ⟨e, he, rfl⟩ | ⟨first, s₂, hfirst, h⟩
      · obtain ⟨e', rfl⟩ := loopAsk_error he
        trivial
      split at h
      next tx htx =>
        rcases run_bind_eq_ok h with ⟨e, he, rfl⟩ | ⟨blk, s₃, hblk, h⟩
        · obtain ⟨e', rfl⟩ := loopAsk_error he
          trivial
        rcases run_bind_eq_ok h with ⟨e, he, rfl⟩ | ⟨_, _, hthrow, -⟩
        · cases he
          have hsome : ∃ m ∈ mds, m.isConflicting = true := by
            rw [hconf, Bool.false_or] at hc
            exact List.any_eq_true.mp hc.symm
          exact ⟨rfl, .inr ⟨mds, first, tx, s₁, s₂, hreads, hnone, hsome,
            run_of_mapError_ok hfirst, htx, run_of_mapError_ok hblk, rfl⟩⟩
        · cases hthrow
      next => exact hact () _ _ _ h
    next => exact hact () _ _ _ h

theorem attempts_run_included (hpool : w.pool.Addressed) (b : BlockId) (interval : Nat) :
    ∀ (k left : Nat) (p : Progress), p.Carries w.pool b → ∀ {s s' : σ} {q : BlockId × Block}
      {p' : Progress}, (w.attempts b interval k left p).run.run s = .ok (.error (.included q p'), s') →
      ∃ (p₀ : Progress) (s₀ : σ), p₀.Carries w.pool b ∧ p'.reattached = p₀.reattached ∧
        Resolved w.pool b p₀.reattached q s₀ s'
  | _, 0, _, _, _, _, _, _, h => by cases h
  | k, left + 1, p, hp, s, s', q, p', h => by
    rw [attempts] at h
    rcases run_bind_eq_ok h with ⟨e, he, -⟩ | ⟨stopped, s₁, -, h⟩
    · obtain ⟨a, ha⟩ := w.pool.net.isStopped_always s _ s' he
      cases ha
    extract_lets next at h
    -- the attempt itself, then the wait before the next one
    have hnext : ∀ u s₂, (next u).run.run s₂ = .ok (.error (.included q p'), s') →
        ∃ (p₀ : Progress) (s₀ : σ), p₀.Carries w.pool b ∧ p'.reattached = p₀.reattached ∧
          Resolved w.pool b p₀.reattached q s₀ s' := by
      intro u s₂ hn
      simp only [next] at hn
      rcases run_bind_eq_ok hn with ⟨e, he, herr⟩ | ⟨p₁, s₃, hatt, hn⟩
      · cases herr
        obtain ⟨hre, hres⟩ := w.attempt_run hpool hp he
        exact ⟨p, s₂, hp, hre, hres⟩
      have hp₁ : p₁.Carries w.pool b := w.attempt_run hpool hp hatt
      split at hn
      · rcases run_bind_eq_ok hn with ⟨e, he, -⟩ | ⟨stop, s₄, -, hn⟩
        · obtain ⟨a, ha⟩ := w.pool.net.waitOrStop_always interval s₃ _ s' he
          cases ha
        split at hn
        · rcases run_bind_eq_ok hn with ⟨e, he, herr⟩ | ⟨_, _, hthrow, -⟩
          · cases he
            cases herr
          · cases hthrow
        · exact attempts_run_included hpool b interval (k + 1) left p₁ hp₁ hn
      · exact attempts_run_included hpool b interval (k + 1) left p₁ hp₁ hn
    split at h
    · rcases run_bind_eq_ok h with ⟨e, he, herr⟩ | ⟨_, _, hthrow, -⟩
      · cases he
        cases herr
      · cases hthrow
    · exact hnext () s₁ h

theorem Resolved.id_eq {pool : Pool σ} (hpool : pool.Addressed) {b : BlockId}
    {reattached : List (BlockId × Block)} (hacc : ∀ q ∈ reattached, pool.Accepts q)
    {q : BlockId × Block} {s s' : σ} (h : Resolved pool b reattached q s s') : q.2.id = q.1 := by
  rcases h with ⟨-, -, -, -, s₁, -, -, -, -, -, hkept | hread⟩ | ⟨-, -, -, -, -, -, -, -, -, -, -, hid⟩
  · exact (hpool.accepts_id q (hacc q hkept.1)).symm
  · exact hpool.serves_id ⟨s₁, s', hread⟩
  · exact hid.symm

/-- What the confirmation loop for `b` reports when it succeeds, its run ending in `s'`: the
block of the identifier reported, reattachments that all carry the payload of one block the
pool serves for `b`, and a last attempt that resolved the inclusion as `Resolved` says. -/
def InclusionSound (pool : Pool σ) (b : BlockId) (c : Confirmation) (s' : σ) : Prop :=
  c.included.2.id = c.included.1 ∧
    (c.reattached = [] ∨ ∃ B, pool.Serves b B ∧ ∀ q ∈ c.reattached, q.2.payload = B.payload) ∧
    ∃ s₀, Resolved pool b c.reattached c.included s₀ s'

/-- A network of no node, whose every request fails. -/
def unreachable : Network Unit where
  size := 0
  serve _ _ s := .ok (.error .noNodes, s)
  executor _ := {}
  setExecutor _ s := s

end Wallet

end DagWallet
