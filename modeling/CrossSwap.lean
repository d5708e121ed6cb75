import CrossSwap.Json.Forms
import CrossSwap.Deployment.Load
import CrossSwap.Ledger.Event
import CrossSwap.Relay.Dispatch
import CrossSwap.Resolve.Admin
import CrossSwap.Rpc.Reader
import CrossSwap.Proofs.Relay.Dispatch
import CrossSwap.Proofs.Resolve.Marker
import CrossSwap.Proofs.Text.Base58
import CrossSwap.Proofs.Ledger.Derivation
import CrossSwap.Proofs.Resolve.Accounts
import CrossSwap.Proofs.Resolve.Release
import CrossSwap.Proofs.Resolve.Escrow
import CrossSwap.Proofs.Relay.Reordering
import CrossSwap.Proofs.Relay.History
import CrossSwap.Proofs.Relay.Tag
import CrossSwap.Proofs.Resolve.Authority
import CrossSwap.Proofs.Ledger.Separation
import CrossSwap.Proofs.Borsh.Layout
import CrossSwap.Proofs.Ledger.Discriminator
import CrossSwap.Proofs.Ledger.Instruction
import CrossSwap.Proofs.Ledger.Account
import CrossSwap.Proofs.Ledger.Event
import CrossSwap.Proofs.Ledger.Log
import CrossSwap.Proofs.Canonical.Count
import CrossSwap.Proofs.Canonical.Reads
import CrossSwap.Proofs.Canonical.Boundary
import CrossSwap.Proofs.Relay.Nesting
import CrossSwap.Proofs.Relay.Shape
import CrossSwap.Proofs.Order.Batch
import CrossSwap.Proofs.Order.Lifecycle
import CrossSwap.Proofs.Resolve.Settlement
import CrossSwap.Proofs.Resolve.Delivery
import CrossSwap.Proofs.Resolve.Naming
import CrossSwap.Proofs.Rpc.Reader
import CrossSwap.Proofs.Ledger.Bump
import CrossSwap.Proofs.Resolve.Page
