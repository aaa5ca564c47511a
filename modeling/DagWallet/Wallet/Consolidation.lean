import DagWallet.Wallet.Search
import DagWallet.Wallet.Confirmation
import DagWallet.Wallet.Signer

namespace DagWallet

/-- The outcome of a consolidation: the address funds were moved to, and each transfer. -/
structure ConsolidationReport where
  target : Address
  transfers : List Transfer

/-- The pieces of at most `n` elements, in order. -/
def chunksOf {α : Type} (n : Nat) (xs : List α) : List (List α) :=
  match xs with
  | [] => []
  | x :: rest =>
    if n = 0 then [x :: rest]
    else (x :: rest).take n :: chunksOf n ((x :: rest).drop n)
termination_by xs.length
decreasing_by simp only [List.length_drop, List.length_cons]; omega

namespace Wallet

variable {σ : Type}

/-- Moves one chunk of outputs to `target` in one block: sum, sign, submit on up to eight
tips, and wait for inclusion with the configured interval and attempts. -/
def transfer (w : Wallet σ) (signer : Signer) (account index : UInt32) (source target : Address)
    (chunk : List OutputResponse) : Session σ WalletError Transfer := do
  let amount ← liftExcept (checkedSum (chunk.map (·.output.amount)))
  let essence : Essence := ⟨w.config.networkId, chunk.map (·.outputId), [.basic amount target]⟩
  let entries := chunk.map fun r => SigningInput.mk r.outputId r.output account index
  let unlocks ← liftExcept ((signer.sign essence entries).mapError WalletError.signing)
  let tips ← (w.pool.tips).mapError .node
  let block := Block.make (tips.take maxParents) (some (.transaction ⟨essence, unlocks⟩))
  let id ← (w.pool.submit block).mapError .node
  let c ← w.retryUntilIncluded id w.config.intervalMs w.config.retry.maxAttempts.toNat
  pure ⟨index, source, chunk.length, amount, c.included.1⟩

/-- A failure while sweeping one address: the transfers completed so far, the address if it
was derived, and the error. -/
abbrev SweepError := List Transfer × Option Address × WalletError

/-- Transfers the chunks in order, extending `done`. -/
def transferAll (w : Wallet σ) (signer : Signer) (account index : UInt32) (source target : Address) :
    List Transfer → List (List OutputResponse) → Session σ SweepError (List Transfer)
  | done, [] => pure done
  | done, chunk :: rest => do
    match ← (w.transfer signer account index source target chunk).result with
    | .ok t => w.transferAll signer account index source target (done ++ [t]) rest
    | .error e => throw (done, some source, e)

/-- Sweeps address `index` into `target`: derive it, stop if asked to, search its basic
outputs, skip it when they hold nothing, and move them in chunks. -/
def sweep (w : Wallet σ) (signer : Signer) (account index : UInt32) (target : Address)
    (done : List Transfer) : Session σ SweepError (List Transfer) := do
  let source ← match signer.address account index with
    | .ok a => pure a
    | .error e => throw (done, none, .signing e)
  if ← w.pool.net.isStopped then throw (done, some source, .consolidationCancelled)
  let outputs ← (w.findOutputs .basic [source]).mapError fun e => (done, some source, e)
  if outputs.all (·.output.amount == 0) then return done
  w.transferAll signer account index source target done (chunksOf w.maxInputs outputs)

/-- Sweeps the indices in order; the first failure aborts with everything completed so far. -/
def sweepAll (w : Wallet σ) (signer : Signer) (account : UInt32) (target : Address) :
    List Transfer → List UInt32 → Session σ WalletError (List Transfer)
  | done, [] => pure done
  | done, index :: rest => do
    match ← (w.sweep signer account index target done).result with
    | .ok done => w.sweepAll signer account target done rest
    | .error (completed, failed, source) =>
      throw (.consolidationAborted target completed index failed source)

/-- Moves the funds of addresses `start + 1`, …, `stop - 1` of an account into address
`start`. An empty range does nothing; failing to derive the target is a signing error. -/
def consolidateReport (w : Wallet σ) (signer : Signer) (account start stop : UInt32)
    : Session σ WalletError (Option ConsolidationReport) := do
  if start ≥ stop then return none
  let target ← liftExcept ((signer.address account start).mapError WalletError.signing)
  let indices := (List.range (stop.toNat - start.toNat - 1)).map fun k => (start.toNat + 1 + k).toUInt32
  let transfers ← w.sweepAll signer account target [] indices
  pure (some ⟨target, transfers⟩)

/-- The target of a consolidation that moved anything. -/
def consolidate (w : Wallet σ) (signer : Signer) (account start stop : UInt32) :
    Session σ WalletError (Option Address) := do
  let report ← w.consolidateReport signer account start stop
  pure (match report with
    | some r => if r.transfers.isEmpty then none else some r.target
    | none => none)

end Wallet

end DagWallet
