import DagWallet.Wallet.Basic

namespace DagWallet

namespace Wallet

variable {σ : Type}

/-- A failure while listing one address: the node it was pinned to, if a later page failed,
and the error. -/
abbrev PinnedError := Option Nat × WalletError

/-- Follows the cursors of node `node` from `page` on, appending items to `acc`; `pagesLeft`
more pages may be fetched before the listing is too long. -/
def follow (w : Wallet σ) (node : Nat) (a : Address) (f : OutputFilter) :
    Nat → List OutputResponse → OutputPage → Job PinnedError (List OutputResponse)
  | pagesLeft, acc, page =>
    let acc := acc ++ page.items
    match page.cursor, pagesLeft with
    | none, _ => pure acc
    | some _, 0 => throw (none, .pageLimitExceeded a w.maxPages)
    | some c, k + 1 => do
      let next : OutputPage ←
        (w.pool.readOn node (.outputsOf a f (some c))).mapError fun e => (some node, .node e)
      w.follow node a f k acc next

/-- The whole listing of `a` from one node: the first page from the first node that answers,
counting from `start`, and every later page from that same node. -/
def pinned (w : Wallet σ) (start : Nat) (a : Address) (f : OutputFilter) :
    Job PinnedError (List OutputResponse) := do
  let (node, page) : Nat × OutputPage ←
    (w.pool.readIndexed start (.outputsOf a f none)).mapError fun e => (none, .node e)
  w.follow node a f (w.maxPages - 1) [] page

/-- Lists `a` starting at node `start`. When a later page fails on its node, the listing
starts over on the next node while `restarts` remain. -/
def queryFrom (w : Wallet σ) (a : Address) (f : OutputFilter) :
    Nat → Nat → Job WalletError (List OutputResponse)
  | 0, _ => throw (.node .noNodes)
  | restarts + 1, start => do
    match ← (w.pinned start a f).result with
    | .ok outputs => pure outputs
    | .error (some node, e) =>
      match restarts with
      | 0 => throw e
      | _ + 1 => w.queryFrom a f restarts (node + 1)
    | .error (none, e) => throw e

/-- The `i`-th sub-query of a search starts on node `i` modulo the pool's size. -/
def queryAddress (w : Wallet σ) (i : Nat) (a : Address) (f : OutputFilter) :
    Job WalletError (List OutputResponse) :=
  w.queryFrom a f w.pool.net.size (i % w.pool.net.size)

/-- Appends outputs whose identifiers are not in `acc` yet, keeping the first of each. -/
def appendNew (acc : List OutputResponse) (more : List OutputResponse) : List OutputResponse :=
  more.foldl (fun acc r => if acc.any (·.outputId == r.outputId) then acc else acc ++ [r]) acc

/-- Joins the outcomes of the sub-queries in address order: all succeeded, all failed (the
first error), or some of each (what was found and what failed). -/
def merge : List (Address × Except WalletError (List OutputResponse)) →
    Except WalletError (List OutputResponse)
  | results =>
    let found := results.foldl (fun acc (_, r) => match r with
      | .ok outputs => appendNew acc outputs
      | .error _ => acc) []
    let failures := results.filterMap fun (a, r) => match r with
      | .ok _ => none
      | .error e => some (QueryFailure.mk a e.message)
    let firstError := results.findSome? fun (_, r) => match r with
      | .ok _ => none
      | .error e => some e
    match firstError with
    | none => .ok found
    | some e => if failures.length = results.length then .error e
      else .error (.partialResult found failures)

/-- How often the listing of one address waits at most: each of its restarts reads every
page once. -/
def waitsPerQuery (w : Wallet σ) : Nat :=
  w.pool.net.size * (w.maxPages + 1) * w.pool.waitsPerRead

/-- The outputs of several addresses that `f` accepts. Each distinct address is listed in
full by one node, the listings side by side; no address, no request. -/
def findOutputs (w : Wallet σ) (f : OutputFilter) (addresses : List Address) :
    Session σ WalletError (List OutputResponse) := do
  let distinct := addresses.eraseDups
  if distinct.isEmpty then return []
  let results ← Job.interleaved w.pool.net w.width
    (distinct.zipIdx.map fun (a, i) => w.queryAddress i a f) false w.waitsPerQuery
  liftExcept (merge (distinct.zip results))

end Wallet

end DagWallet
