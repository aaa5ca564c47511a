import DagWallet.Wallet.Basic

namespace DagWallet

/-- The result of a guarded retry: a promotion or a reattachment, with the block written. -/
inductive RetryOutcome where
  | promoted (id : BlockId) (block : Block)
  | reattached (id : BlockId) (block : Block)

/-- How far the tracking of a block got. -/
inductive Tracking where
  | submitted
  | retrying
  | included
  | exhausted
  | failed
deriving DecidableEq, Repr

/-- A block followed to confirmation: the block first submitted, its latest attachment, the
attempts made and how far it got. -/
structure PendingBlock where
  initial : BlockId
  latest : BlockId
  attempts : Nat
  state : Tracking

/-- A successful confirmation: the block that was included, the reattachments issued on the
way, one record per attempt, and the final tracking state. -/
structure Confirmation where
  included : BlockId × Block
  reattached : List (BlockId × Block)
  attempts : List AttemptRecord
  pending : PendingBlock

/-- What the confirmation loop has done so far. -/
structure Progress where
  attachments : List BlockId
  reattached : List (BlockId × Block)
  records : List AttemptRecord
  latest : BlockId

/-- Why the confirmation loop stopped before running out of attempts. -/
inductive LoopExit where
  | included (block : BlockId × Block) (p : Progress)
  | cancelled (p : Progress)
  | failed (e : WalletError)

namespace Wallet

variable {σ : Type}

/-- Submits an empty block that approves `b` and up to seven other tips. -/
def promoteUnchecked (w : Wallet σ) (b : BlockId) : Session σ WalletError (BlockId × Block) := do
  let tips ← (w.pool.tips).mapError .node
  let block := Block.make ((tips.filter (· != b)).take (maxParents - 1) ++ [b]) none
  let id ← (w.pool.submit block).mapError .node
  pure (id, block)

/-- Submits the payload of `b` again on up to eight current tips. -/
def reattachUnchecked (w : Wallet σ) (b : BlockId) : Session σ WalletError (BlockId × Block) := do
  let source ← (w.pool.block b).mapError .node
  let tips ← (w.pool.tips).mapError .node
  let block := Block.make (tips.take maxParents) source.payload
  let id ← (w.pool.submit block).mapError .node
  pure (id, block)

/-- Promotes or reattaches `b` as its metadata suggests; an included or conflicting block is
refused first, and promotion is preferred. -/
def retry (w : Wallet σ) (b : BlockId) : Session σ WalletError RetryOutcome := do
  let md ← (w.pool.metadata b).mapError .node
  if md.isIncluded then throw (.alreadyIncluded b)
  if md.isConflicting then throw (.notReattachable b .conflicting)
  if md.isPromotable then
    let (id, block) ← w.promoteUnchecked b
    return .promoted id block
  if md.isReattachable then
    let (id, block) ← w.reattachUnchecked b
    return .reattached id block
  throw (.notPromotable b .notLagging)

/-- Reattaches `b` if the node suggests it. -/
def reattach (w : Wallet σ) (b : BlockId) : Session σ WalletError (BlockId × Block) := do
  let md ← (w.pool.metadata b).mapError .node
  if md.isIncluded then throw (.notReattachable b .alreadyIncluded)
  if md.isConflicting then throw (.notReattachable b .conflicting)
  if !md.isReattachable then throw (.notReattachable b .noReattachHint)
  w.reattachUnchecked b

/-- Promotes `b` if the node suggests it. -/
def promote (w : Wallet σ) (b : BlockId) : Session σ WalletError (BlockId × Block) := do
  let md ← (w.pool.metadata b).mapError .node
  if md.isIncluded then throw (.alreadyIncluded b)
  if md.isConflicting then throw (.notPromotable b .conflicting)
  if !md.isPromotable then throw (.promotionUnnecessary b)
  w.promoteUnchecked b

/-- A node request inside the loop. -/
def loopAsk {α : Type} (x : Session σ NodeError α) : Session σ LoopExit α :=
  x.mapError fun e => .failed (.node e)

/-- A wallet operation inside the loop. -/
def loopRun {α : Type} (x : Session σ WalletError α) : Session σ LoopExit α :=
  x.mapError .failed

/-- The block of an attachment: a reattachment made by the loop is known, any other block is
fetched. -/
def attachmentBlock (w : Wallet σ) (p : Progress) (id : BlockId) :
    Session σ LoopExit (BlockId × Block) :=
  match p.reattached.find? (·.1 == id) with
  | some found => pure found
  | none => do
    let b ← loopAsk (w.pool.block id)
    pure (id, b)

/-- Reads the metadata of the attachments in order. The first included one ends the loop;
otherwise the result says whether any was conflicting, with the metadata of the last. -/
def scan (w : Wallet σ) (k : Nat) (p : Progress) :
    List BlockId → Bool → Option BlockMetadata → Session σ LoopExit (Bool × Option BlockMetadata)
  | [], conflicting, last => pure (conflicting, last)
  | a :: rest, conflicting, _ => do
    let md ← loopAsk (w.pool.metadata a)
    if md.isIncluded then
      let found ← w.attachmentBlock p a
      throw (.included found { p with records := p.records ++ [⟨k, p.latest, .included a⟩] })
    w.scan k p rest (conflicting || md.isConflicting) (some md)

/-- One attempt: look for an included attachment, then for another block that included the
same transaction when an attachment conflicts, then promote or reattach the latest
attachment if the node asks for it. -/
def attempt (w : Wallet σ) (initial : BlockId) (k : Nat) (p : Progress) :
    Session σ LoopExit Progress := do
  let (conflicting, last) ← w.scan k p p.attachments false none
  if conflicting then
    let first ← loopAsk (w.pool.block initial)
    if let some tx := first.transaction? then
      let blk ← loopAsk (w.pool.includedBlock tx.id)
      throw (.included (blk.id, blk)
        { p with records := p.records ++ [⟨k, p.latest, .included blk.id⟩] })
  let lagging := fun (md : BlockMetadata) => !md.isReferenced
  match last with
  | some md =>
    if lagging md && md.isPromotable then
      let (id, _) ← loopRun (w.promoteUnchecked p.latest)
      pure { p with records := p.records ++ [⟨k, p.latest, .promoted id⟩] }
    else if lagging md && md.isReattachable then
      let (id, block) ← loopRun (w.reattachUnchecked p.latest)
      pure { attachments := p.attachments ++ [id], reattached := p.reattached ++ [(id, block)],
             records := p.records ++ [⟨k, p.latest, .reattached id⟩], latest := id }
    else pure { p with records := p.records ++ [⟨k, p.latest, .waited⟩] }
  | none => pure { p with records := p.records ++ [⟨k, p.latest, .waited⟩] }

/-- Attempts `k`, `k + 1`, … while `left` remain, waiting `interval` milliseconds between
two of them. The stop request is looked at before each attempt and during each wait. -/
def attempts (w : Wallet σ) (initial : BlockId) (interval : Nat) :
    Nat → Nat → Progress → Session σ LoopExit Progress
  | _, 0, p => pure p
  | k, left + 1, p => do
    if ← w.pool.net.isStopped then throw (.cancelled p)
    let p ← w.attempt initial k p
    if left != 0 then
      if ← w.pool.net.waitOrStop interval then throw (.cancelled p)
    w.attempts initial interval (k + 1) left p

/-- Polls, promotes and reattaches `b` until one of its attachments is included, for at
most `maxAttempts` attempts. -/
def retryUntilIncluded (w : Wallet σ) (b : BlockId) (interval : Nat) (maxAttempts : Nat) :
    Session σ WalletError Confirmation := do
  match ← (w.attempts b interval 1 maxAttempts ⟨[b], [], [], b⟩).result with
  | .ok p => throw (.notIncluded b p.records)
  | .error (.included found p) =>
    pure ⟨found, p.reattached, p.records, ⟨b, p.latest, p.records.length, .included⟩⟩
  | .error (.cancelled p) => throw (.cancelled b p.records)
  | .error (.failed e) => throw e

end Wallet

end DagWallet
