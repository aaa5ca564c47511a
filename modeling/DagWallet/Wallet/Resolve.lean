import DagWallet.Wallet.Basic

namespace DagWallet

/-- The values not among `seen`, each the first time it comes: a value is kept when it is not
seen yet, and is seen from then on. -/
def keepUnseen {α : Type} [BEq α] (seen : List α) : List α → List α
  | [] => []
  | v :: vs => if seen.contains v then keepUnseen seen vs else v :: keepUnseen (v :: seen) vs

/-- Distinct values in first-occurrence order: one pass over the values that keeps the set of
those seen so far. The lookups below take their identifiers through `List.eraseDups`, the same
list (`dedupOrdered_eq_eraseDups`). -/
def dedupOrdered {α : Type} [BEq α] (values : List α) : List α := keepUnseen [] values

namespace Wallet

variable {σ : Type}

/-- Each distinct identifier looked up once, in order of first occurrence, with its outcome.
The lookups run side by side, and every one is made, whatever the others answer. -/
def lookupAll (w : Wallet σ) (ids : List OutputId) :
    Session σ WalletError (List (Except NodeError OutputResponse)) :=
  Job.interleaved w.pool.net w.width (ids.eraseDups.map fun id => w.pool.read (.output id)) false
    w.pool.waitsPerRead

/-- The outputs of the identifiers, or the first failure in the same order. -/
def getOutputs (w : Wallet σ) (ids : List OutputId) :
    Session σ WalletError (List OutputResponse) := do
  let found ← w.lookupAll ids
  match found.mapM id with
  | .ok rs => pure rs
  | .error e => throw (.node e)

/-- The outputs that could be found; failures are left out. -/
def tryGetOutputs (w : Wallet σ) (ids : List OutputId) :
    Session σ WalletError (List OutputResponse) := do
  let found ← w.lookupAll ids
  pure (found.filterMap fun r => match r with
    | .ok o => some o
    | .error _ => none)

/-- The blocks of the distinct identifiers in order. The lookups run side by side; the first
failure in that order stops them, and lookups not started by then are never made. -/
def findBlocks (w : Wallet σ) (ids : List BlockId) : Session σ WalletError (List Block) := do
  let found ← Job.interleaved w.pool.net w.width
    (ids.eraseDups.map fun id => w.pool.read (.block id)) true w.pool.waitsPerRead
  match found.mapM id with
  | .ok bs => pure bs
  | .error e => throw (.node e)

end Wallet

end DagWallet
