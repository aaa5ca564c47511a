import DagWallet.Wallet.Resolve
import DagWallet.Wallet.Selection
import DagWallet.Wallet.Consolidation

namespace DagWallet

namespace Wallet

variable {σ : Type}

/-- The outputs of the identifiers, then the basic outputs of the addresses that are not
among them. A failing identifier stops before any address is searched. -/
def findAll (w : Wallet σ) (ids : List OutputId) (addresses : List Address) :
    Session σ WalletError (List OutputResponse) := do
  let outputs ← w.getOutputs ids
  let byAddress ← w.findOutputs .basic addresses
  pure (appendNew outputs byAddress)

end Wallet

end DagWallet
