import DagWallet.Wallet.Confirmation
import DagWallet.Proofs.Session

/-!
The records of the confirmation loop. Attempts are numbered from 1, and each runs on the latest
attachment: the block itself at first, then every reattachment the loop makes. Whatever the
network answers, the loop ends with an inclusion found by its last attempt, with every attempt
spent, cancelled with attempts left, or with the error of a node request; a panic of the
network is not an ending. The records say which.
-/

namespace DagWallet

namespace AttemptAction

/-- The attachment an attempt made, if it reattached. -/
def attachment? : AttemptAction → Option BlockId
  | .reattached id => some id
  | _ => none

end AttemptAction

/-- The attachments made by the attempts, in order. -/
def reattachments (rs : List AttemptRecord) : List BlockId :=
  rs.filterMap (·.action.attachment?)

/-- The attachment the attempt after `rs` runs on, when the first ran on `b`. -/
def latestAfter (b : BlockId) (rs : List AttemptRecord) : BlockId :=
  (reattachments rs).getLast?.getD b

/-- Records numbered `k`, `k + 1`, …: the first ran on `b`, and each next one on the attachment
the one before made if it reattached, else on the same block. -/
def Chained : Nat → BlockId → List AttemptRecord → Prop
  | _, _, [] => True
  | k, b, r :: rs => r.attempt = k ∧ r.blockId = b ∧ Chained (k + 1) (r.action.attachment?.getD b) rs

/-- No attempt found an inclusion. -/
def NoneIncluded (rs : List AttemptRecord) : Prop :=
  ∀ r ∈ rs, ∀ c, r.action ≠ .included c

theorem reattachments_append (rs rs' : List AttemptRecord) :
    reattachments (rs ++ rs') = reattachments rs ++ reattachments rs' := by
  simp [reattachments]

theorem reattachments_singleton (r : AttemptRecord) :
    reattachments [r] = r.action.attachment?.toList := by
  cases h : r.action.attachment? <;> simp [reattachments, h]

theorem latestAfter_append_singleton (b : BlockId) (rs : List AttemptRecord) (r : AttemptRecord) :
    latestAfter b (rs ++ [r]) = r.action.attachment?.getD (latestAfter b rs) := by
  cases h : r.action.attachment? <;>
    simp [latestAfter, reattachments_append, reattachments_singleton, h]

theorem latestAfter_cons (b : BlockId) (r : AttemptRecord) (rs : List AttemptRecord) :
    latestAfter b (r :: rs) = latestAfter (r.action.attachment?.getD b) rs := by
  have hsplit : reattachments (r :: rs) = r.action.attachment?.toList ++ reattachments rs := by
    rw [← reattachments_singleton, ← reattachments_append]
    rfl
  unfold latestAfter
  rw [hsplit]
  cases h : r.action.attachment? with
  | none => simp
  | some id =>
    simp only [Option.toList_some, List.singleton_append, List.getLast?_cons, Option.getD_some]

theorem Chained.append_singleton {r : AttemptRecord} :
    ∀ {k b rs}, Chained k b rs → r.attempt = k + rs.length → r.blockId = latestAfter b rs →
      Chained k b (rs ++ [r])
  | k, b, [], _, hk, hb => ⟨by simpa using hk, hb, trivial⟩
  | k, b, r₀ :: rs, ⟨h₀, hb₀, hrest⟩, hk, hb => by
    refine ⟨h₀, hb₀, Chained.append_singleton hrest ?_ ?_⟩
    · simp only [List.length_cons] at hk
      omega
    · rw [hb, latestAfter_cons]

theorem NoneIncluded.append_singleton {rs : List AttemptRecord} {r : AttemptRecord}
    (h : NoneIncluded rs) (hr : ∀ c, r.action ≠ .included c) : NoneIncluded (rs ++ [r]) := by
  intro r' hr' c
  rcases List.mem_append.mp hr' with hin | hin
  · exact h r' hin c
  · rw [List.mem_singleton.mp hin]
    exact hr c

namespace Pool

variable {σ : Type}

/-- The first node of the pool, to which blocks are written, can answer the write of `q.2`
with the identifier `q.1`. -/
def Accepts (pool : Pool σ) (q : BlockId × Block) : Prop :=
  ∃ s s', pool.net.serve 0 (.submit q.2) s = .ok (.ok q.1, s')

theorem submit_always (pool : Pool σ) (blk : Block) :
    (pool.submit blk).Always fun r => ∀ id, r = .ok id → pool.Accepts (id, blk) := by
  intro s r s' hr id hid
  subst hid
  exact ⟨s, s', hr⟩

/-- An outcome of a write by the wallet: a block the pool accepted, with the identifier it
gave, or a node error. -/
def Wrote (pool : Pool σ) : Except WalletError (BlockId × Block) → Prop
  | .ok q => pool.Accepts q
  | .error e => ∃ e', e = .node e'

theorem write_always (pool : Pool σ) (blk : Block) :
    ((pool.submit blk).mapError .node >>= fun id => pure (id, blk)).Always pool.Wrote := by
  apply Session.always_bind
  apply Session.always_mapError
  refine (pool.submit_always blk).mono fun r hr => ?_
  cases r with
  | error e => exact ⟨e, rfl⟩
  | ok id => exact Session.always_pure (hr id rfl)

end Pool

namespace Progress

variable {σ : Type}

/-- Progress that keeps the records of the loop for the block `b`: chained from 1, with no
inclusion, the latest attachment the one the records leave, and every reattachment a block
the pool accepted, listed as the records list them. -/
structure Tracks (pool : Pool σ) (b : BlockId) (p : Progress) : Prop where
  chained : Chained 1 b p.records
  none_included : NoneIncluded p.records
  latest_eq : p.latest = latestAfter b p.records
  reattached_ids : p.reattached.map Prod.fst = reattachments p.records
  accepted : ∀ q ∈ p.reattached, pool.Accepts q

theorem tracks_start (pool : Pool σ) (b : BlockId) :
    (⟨[b], [], [], b⟩ : Progress).Tracks pool b :=
  ⟨trivial, (fun _ h => nomatch h), rfl, rfl, (fun _ h => nomatch h)⟩

/-- `p` with attempt `k` recorded as having found `c` included. -/
def found (p : Progress) (k : Nat) (c : BlockId) : Progress :=
  { p with records := p.records ++ [⟨k, p.latest, .included c⟩] }

/-- What attempt `k` can leave when it finds no inclusion: it waited, promoted the latest
attachment, or reattached it with a block the pool accepted, and recorded so. -/
inductive Advance (pool : Pool σ) (k : Nat) (p : Progress) : Progress → Prop
  | waited : Advance pool k p { p with records := p.records ++ [⟨k, p.latest, .waited⟩] }
  | promoted (id : BlockId) :
    Advance pool k p { p with records := p.records ++ [⟨k, p.latest, .promoted id⟩] }
  | reattached (id : BlockId) (blk : Block) (h : pool.Accepts (id, blk)) :
    Advance pool k p
      { attachments := p.attachments ++ [id], reattached := p.reattached ++ [(id, blk)],
        records := p.records ++ [⟨k, p.latest, .reattached id⟩], latest := id }

theorem Tracks.chained_record {pool : Pool σ} {b : BlockId} {p : Progress} (h : p.Tracks pool b)
    (a : AttemptAction) : Chained 1 b (p.records ++ [⟨p.records.length + 1, p.latest, a⟩]) :=
  h.chained.append_singleton (Nat.add_comm _ _) h.latest_eq

theorem Tracks.record {pool : Pool σ} {b : BlockId} {p : Progress} (h : p.Tracks pool b)
    {a : AttemptAction} (hnone : a.attachment? = none) (hinc : ∀ c, a ≠ .included c) :
    ({ p with records := p.records ++ [⟨p.records.length + 1, p.latest, a⟩] } : Progress).Tracks
      pool b where
  chained := h.chained_record a
  none_included := h.none_included.append_singleton hinc
  latest_eq := by
    rw [latestAfter_append_singleton, hnone]
    exact h.latest_eq
  reattached_ids := by
    rw [reattachments_append, reattachments_singleton, hnone]
    simpa using h.reattached_ids
  accepted := h.accepted

theorem Tracks.advance {pool : Pool σ} {b : BlockId} {p p' : Progress} (h : p.Tracks pool b)
    (ha : p.Advance pool (p.records.length + 1) p') : p'.Tracks pool b := by
  cases ha with
  | waited => exact h.record rfl nofun
  | promoted id => exact h.record rfl nofun
  | reattached id blk hacc =>
    refine ⟨h.chained_record _, h.none_included.append_singleton nofun, ?_, ?_, ?_⟩
    · simp [latestAfter_append_singleton, AttemptAction.attachment?]
    · simp [reattachments_append, reattachments_singleton, AttemptAction.attachment?,
        h.reattached_ids]
    · intro q hq
      rcases List.mem_append.mp hq with hq | hq
      · exact h.accepted q hq
      · rw [List.mem_singleton.mp hq]
        exact hacc

theorem Advance.length {pool : Pool σ} {k : Nat} {p p' : Progress} (ha : p.Advance pool k p') :
    p'.records.length = p.records.length + 1 := by
  cases ha <;> simp

/-- How attempt `k` can stop the loop early from `p`: with an inclusion it records, or with
a failed node request. -/
def Stopped (p : Progress) (k : Nat) : LoopExit → Prop
  | .included c p' => p' = p.found k c.1
  | .cancelled _ => False
  | .failed e => ∃ e', e = .node e'

end Progress

namespace Network

variable {σ ε : Type}

theorem run_isStopped (net : Network σ) (s : σ) :
    (net.isStopped : Session σ ε Bool).run.run s = .ok (.ok (net.executor s).stopped, s) := rfl

theorem isStopped_always (net : Network σ) :
    (net.isStopped : Session σ ε Bool).Always fun r => ∃ a, r = .ok a := by
  intro s r s' hr
  cases hr
  exact ⟨_, rfl⟩

theorem waitOrStop_always (net : Network σ) (d : Nat) :
    (net.waitOrStop d : Session σ ε Bool).Always fun r => ∃ a, r = .ok a := by
  intro s r s' hr
  cases hr
  exact ⟨_, rfl⟩

end Network

namespace Wallet

open Session

variable {σ : Type} (w : Wallet σ)

theorem promoteUnchecked_wrote (b : BlockId) : (w.promoteUnchecked b).Always w.pool.Wrote := by
  unfold promoteUnchecked
  exact always_mapError_bind (fun e => ⟨e, rfl⟩) fun _ => w.pool.write_always _

theorem reattachUnchecked_wrote (b : BlockId) : (w.reattachUnchecked b).Always w.pool.Wrote := by
  unfold reattachUnchecked
  refine always_mapError_bind (fun e => ⟨e, rfl⟩) fun _ => ?_
  exact always_mapError_bind (fun e => ⟨e, rfl⟩) fun _ => w.pool.write_always _

theorem attachmentBlock_always (p : Progress) (a : BlockId) :
    (w.attachmentBlock p a).Always fun r => match r with
      | .ok q => q.1 = a
      | .error e => ∃ e', e = .failed (.node e') := by
  unfold attachmentBlock
  split
  next q hq => exact always_pure (by simpa using List.find?_some hq)
  next => exact always_mapError_bind (fun e => ⟨e, rfl⟩) fun _ => always_pure rfl

theorem scan_always (k : Nat) (p : Progress) :
    ∀ as c last, (w.scan k p as c last).Always fun r => match r with
      | .ok _ => True
      | .error e => p.Stopped k e
  | [], _, _ => always_pure trivial
  | a :: rest, c, _ => by
    rw [scan]
    refine always_mapError_bind (fun e => ⟨e, rfl⟩) fun md => ?_
    extract_lets jp
    refine always_ite (fun _ => always_bind ?_) fun _ => scan_always k p rest _ _
    refine (w.attachmentBlock_always p a).mono fun r hr => ?_
    cases r with
    | error e =>
      obtain ⟨e', rfl⟩ := hr
      exact ⟨e', rfl⟩
    | ok found => exact always_bind (always_throw (by simp [Progress.Stopped, Progress.found, hr]))

theorem loopRun_bind_always {α : Type} {x : Session σ WalletError (BlockId × Block)}
    {f : BlockId × Block → Session σ LoopExit α} {Q : Except LoopExit α → Prop}
    (hx : x.Always w.pool.Wrote) (he : ∀ e, Q (.error (.failed (.node e))))
    (hf : ∀ q, w.pool.Accepts q → (f q).Always Q) : (loopRun x >>= f).Always Q := by
  apply always_bind
  apply always_mapError
  refine hx.mono fun r hr => ?_
  cases r with
  | error e =>
    obtain ⟨e', rfl⟩ := hr
    exact he e'
  | ok q => exact hf q hr

theorem attempt_always (initial : BlockId) (k : Nat) (p : Progress) :
    (w.attempt initial k p).Always fun r => match r with
      | .ok p' => p.Advance w.pool k p'
      | .error e => p.Stopped k e := by
  unfold attempt
  apply always_bind
  refine (w.scan_always k p p.attachments false none).mono fun r hr => ?_
  rcases r with e | ⟨conflicting, last⟩
  · exact hr
  dsimp -zeta only
  extract_lets lagging act
  -- The promotion step runs when no attachment conflicts, and also when the first block of
  -- the loop carries no transaction to look up.
  have hact : ∀ u, (act u).Always fun r => match r with
      | .ok p' => p.Advance w.pool k p'
      | .error e => p.Stopped k e := by
    intro u
    simp only [act]
    cases last with
    | none => exact always_pure .waited
    | some md =>
      refine always_ite (fun _ => ?_) fun _ => always_ite (fun _ => ?_) fun _ => always_pure .waited
      · exact w.loopRun_bind_always (w.promoteUnchecked_wrote p.latest) (fun e => ⟨e, rfl⟩)
          fun q _ => always_pure (.promoted q.1)
      · exact w.loopRun_bind_always (w.reattachUnchecked_wrote p.latest) (fun e => ⟨e, rfl⟩)
          fun q hq => always_pure (.reattached q.1 q.2 hq)
  refine always_ite (fun _ => ?_) fun _ => hact ()
  refine always_mapError_bind (fun e => ⟨e, rfl⟩) fun first => ?_
  split
  next => exact always_mapError_bind (fun e => ⟨e, rfl⟩) fun _ => always_bind (always_throw rfl)
  next => exact hact ()

/-- How the loop can end from progress that tracks `b`, with `bound` attempts in all. -/
def LoopEnds (pool : Pool σ) (b : BlockId) (bound : Nat) : Except LoopExit Progress → Prop
  | .ok p => p.Tracks pool b ∧ p.records.length = bound
  | .error (.included c p) =>
    ∃ q : Progress, q.Tracks pool b ∧ p = q.found (q.records.length + 1) c.1 ∧
      q.records.length < bound
  | .error (.cancelled p) => p.Tracks pool b ∧ p.records.length < bound
  | .error (.failed e) => ∃ e', e = .node e'

theorem attempts_always (b initial : BlockId) (interval : Nat) :
    ∀ left (p : Progress), p.Tracks w.pool b →
      (w.attempts initial interval (p.records.length + 1) left p).Always
        (LoopEnds w.pool b (p.records.length + left))
  | 0, p, h => by
    rw [attempts]
    exact always_pure ⟨h, rfl⟩
  | left + 1, p, h => by
    rw [attempts]
    refine always_bind_ok w.pool.net.isStopped_always fun _ => ?_
    extract_lets next
    refine always_ite (fun _ => always_bind (always_throw ⟨h, by omega⟩)) fun _ => ?_
    simp only [next]
    apply always_bind
    refine (w.attempt_always initial _ p).mono fun r hr => ?_
    rcases r with (⟨c, p''⟩ | p'' | e) | p'
    · exact ⟨p, h, hr, by omega⟩
    · exact hr.elim
    · exact hr
    have h' := h.advance hr
    have hlen := hr.length
    -- The rest of the loop, from the progress this attempt left.
    have hrest : (w.attempts initial interval (p.records.length + 1 + 1) left p').Always
        (LoopEnds w.pool b (p.records.length + (left + 1))) := by
      have hih := attempts_always b initial interval left p' h'
      rwa [hlen, show p.records.length + 1 + left = p.records.length + (left + 1) by omega]
        at hih
    refine always_ite (fun hleft => ?_) fun _ => hrest
    refine always_bind_ok (w.pool.net.waitOrStop_always interval) fun _ => ?_
    refine always_ite (fun _ => always_bind (always_throw ⟨h', ?_⟩)) fun _ => hrest
    simp only [bne_iff_ne, ne_eq] at hleft
    omega

end Wallet

variable {σ : Type}

/-- What the confirmation loop for `b` with at most `m` attempts can end with, and what its
records say then: an inclusion found by the last attempt only, every attempt spent without
one, a cancellation with attempts left, or a node error. -/
def LoopTrace (pool : Pool σ) (b : BlockId) (m : Nat) : Except WalletError Confirmation → Prop
  | .ok c =>
    Chained 1 b c.attempts ∧
      (∃ done r, c.attempts = done ++ [r] ∧ r.action = .included c.included.1 ∧
        NoneIncluded done) ∧
      c.reattached.map Prod.fst = reattachments c.attempts ∧
      (∀ q ∈ c.reattached, pool.Accepts q) ∧
      c.pending = ⟨b, latestAfter b c.attempts, c.attempts.length, .included⟩ ∧
      c.attempts.length ≤ m
  | .error (.notIncluded b' rs) => b' = b ∧ Chained 1 b rs ∧ NoneIncluded rs ∧ rs.length = m
  | .error (.cancelled b' rs) => b' = b ∧ Chained 1 b rs ∧ NoneIncluded rs ∧ rs.length < m
  | .error (.node _) => True
  | .error _ => False

namespace Wallet

open Session

variable (w : Wallet σ)

/-- The confirmation loop for `b`, whatever the network answers, ends as `LoopTrace` says; with
no attempt allowed it reports that `b` was not included, with no record and no request. -/
theorem retryUntilIncluded_trace (b : BlockId) (interval m : Nat) :
    (w.retryUntilIncluded b interval m).Always (LoopTrace w.pool b m) ∧
      ∀ s, (w.retryUntilIncluded b interval 0).run.run s = .ok (.error (.notIncluded b []), s) := by
  refine ⟨?_, fun s => rfl⟩
  unfold retryUntilIncluded
  apply always_bind
  apply always_result
  refine (w.attempts_always b b interval m _ (Progress.tracks_start w.pool b)).mono
    fun r hr => ?_
  simp only [List.length_nil, Nat.zero_add] at hr
  rcases r with (⟨c, p⟩ | p | e) | p
  · obtain ⟨q, hq, rfl, hlt⟩ := hr
    refine always_pure ⟨hq.chained_record _, ⟨q.records, _, rfl, rfl, hq.none_included⟩, ?_,
      hq.accepted, ?_, ?_⟩
    · simp [Progress.found, reattachments_append, reattachments_singleton,
        AttemptAction.attachment?, hq.reattached_ids]
    · simp [Progress.found, latestAfter_append_singleton, AttemptAction.attachment?,
        hq.latest_eq]
    · simp only [Progress.found, List.length_append, List.length_singleton]
      omega
  · exact always_throw ⟨rfl, hr.1.chained, hr.1.none_included, hr.2⟩
  · obtain ⟨e', rfl⟩ := hr
    exact always_throw trivial
  · exact always_throw ⟨rfl, hr.1.chained, hr.1.none_included, hr.2⟩

end Wallet

end DagWallet
