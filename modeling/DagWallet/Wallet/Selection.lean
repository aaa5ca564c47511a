import DagWallet.Wallet.Search

namespace DagWallet

/-- An output chosen to fund a transaction, with the address it was searched under. -/
structure SelectedInput where
  outputId : OutputId
  address : Address
  amount : UInt64
  output : Output
deriving DecidableEq

/-- The chosen inputs and their total. -/
structure InputSet where
  inputs : List SelectedInput
  total : UInt64
deriving DecidableEq

namespace Wallet

variable {σ : Type}

/-- Larger amounts first; among equal amounts, the smaller identifier first. -/
def before (x y : SelectedInput) : Bool :=
  x.amount > y.amount || (x.amount == y.amount && compare x.outputId y.outputId != .gt)

/-- The candidates in address order; within an address, by `before`. Outputs owned by none
of the addresses are left out. -/
def candidates (addresses : List Address) (outputs : List OutputResponse) :
    List SelectedInput :=
  addresses.eraseDups.flatMap fun a =>
    ((outputs.filter fun r => r.output.owner? == some a).map fun r =>
      SelectedInput.mk r.outputId a r.output.amount r.output).mergeSort before

/-- Takes candidates in order until the total reaches `amount`, refusing to take more than
`maxInputs` of them. -/
def greedy (maxInputs : Nat) (amount : UInt64) :
    InputSet → List SelectedInput → Except WalletError InputSet
  | sel, [] => .ok sel
  | sel, c :: rest =>
    if sel.total ≥ amount then .ok sel
    else if sel.inputs.length = maxInputs then
      .error (.inputLimitExceeded maxInputs sel.total amount)
    else
      match checkedSum [sel.total, c.amount] with
      | .ok total => greedy maxInputs amount ⟨sel.inputs ++ [c], total⟩ rest
      | .error e => .error e

/-- Inputs owned by the addresses that cover `amount`. Nothing is asked for an amount of 0;
the funds available are summed before they are compared with the amount. -/
def findInputs (w : Wallet σ) (addresses : List Address) (amount : UInt64) :
    Session σ WalletError InputSet := do
  if amount = 0 then return ⟨[], 0⟩
  let outputs ← w.findOutputs .basic addresses
  let cands := candidates addresses outputs
  let available ← liftExcept (checkedSum (cands.map (·.amount)))
  if available < amount then throw (.insufficientFunds available amount)
  liftExcept (greedy w.maxInputs amount ⟨[], 0⟩ cands)

end Wallet

end DagWallet
