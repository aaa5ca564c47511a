import DagWallet.Text.CodeRanges
import DagWallet.Text.Printable
import DagWallet.Text.GraphemeExtend
import DagWallet.Text.Hex
import DagWallet.Text.Decimal
import DagWallet.Hash.Blake3
import DagWallet.Hash.Sha512
import DagWallet.Curve.Edwards25519
import DagWallet.Signature.Ed25519
import DagWallet.Ledger.Id
import DagWallet.Encoding.Canonical
import DagWallet.Ledger.Output
import DagWallet.Ledger.Transaction
import DagWallet.Ledger.Block
import DagWallet.Node.Error
import DagWallet.Node.Api
import DagWallet.Node.Job
import DagWallet.Node.Schedule
import DagWallet.Node.Ledger
import DagWallet.Node.Serve
import DagWallet.Pool.Config
import DagWallet.Pool.Basic
import DagWallet.Wallet.Error
import DagWallet.Wallet.Config
import DagWallet.Wallet.Signer
import DagWallet.Wallet.Basic
import DagWallet.Wallet.Resolve
import DagWallet.Wallet.Search
import DagWallet.Wallet.Selection
import DagWallet.Wallet.Confirmation
import DagWallet.Wallet.Consolidation
import DagWallet.Wallet.Client
import DagWallet.Settings.Document
import DagWallet.Settings.Decode
import DagWallet.Settings.Json
import DagWallet.Settings.Env
import DagWallet.Node.Cluster
import DagWallet.Text.Shortest
import DagWallet.Settings.Toml.Scan
import DagWallet.Settings.Toml.Values
import DagWallet.Settings.Toml.Document
import DagWallet.Proofs.Node.Views
import DagWallet.Proofs.Node.Safety
import DagWallet.Proofs.Session
import DagWallet.Proofs.Wallet.Retry
import DagWallet.Proofs.Node.Jobs
import DagWallet.Proofs.Node.Interleave
import DagWallet.Proofs.Wallet.Search
import DagWallet.Proofs.Wallet.Overflow
import DagWallet.Proofs.Node.Shape
import DagWallet.Proofs.Encoding.Read
import DagWallet.Proofs.Node.Course
import DagWallet.Proofs.Pool.Failover
import DagWallet.Proofs.Wallet.Sweep
import DagWallet.Proofs.Node.Verdicts
import DagWallet.Proofs.Ledger.Amounts
import DagWallet.Proofs.Wallet.Selection
import DagWallet.Proofs.Wallet.Inclusion
import DagWallet.Proofs.Node.Solo
import DagWallet.Proofs.Pool.Reads
import DagWallet.Proofs.Node.Paging
import DagWallet.Proofs.Wallet.Listing
import DagWallet.Proofs.Node.Cursors
import DagWallet.Proofs.Node.Atomicity
import DagWallet.Proofs.Node.InTurn
import DagWallet.Proofs.Wallet.Lookups
import DagWallet.Proofs.Node.Booking
import DagWallet.Proofs.Ledger.Parents
import DagWallet.Proofs.Text.Digits
import DagWallet.Proofs.Ledger.IdText
import DagWallet.Proofs.Wallet.Aborts
import DagWallet.Proofs.Wallet.Writes
import DagWallet.Proofs.Wallet.Distinct
import DagWallet.Proofs.Wallet.Joined
import DagWallet.Proofs.Wallet.Promotion
import DagWallet.Proofs.Wallet.Unlocks
