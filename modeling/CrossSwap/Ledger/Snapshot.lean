import CrossSwap.Ledger.Account
import CrossSwap.Ledger.Program
import CrossSwap.Order.Fee

/-!
# Snapshots of the settings

What a resolution needs to know of the settings account, as it was read.
-/

namespace CrossSwap

structure Snapshot where
  admin : Address
  feeHandler : Address
  networkId : String
  protocolFee : Word64
  depositId : Word128
  connSn : Word128
  deriving DecidableEq, Repr

/-- The number after `n`; the largest has none and stays. -/
def successor (n : Word128) : Word128 :=
  if n = BitVec.allOnes 128 then n else n + 1

namespace Snapshot

def ofAccount (a : ConfigAccount) : Snapshot :=
  { admin := a.admin, feeHandler := a.feeHandler, networkId := a.networkId,
    protocolFee := a.protocolFee, depositId := a.depositId, connSn := a.connSn }

/-- The id of the next order. -/
def nextOrderId (s : Snapshot) : Word128 :=
  successor s.depositId

/-- The number of the next message sent. -/
def nextConnSn (s : Snapshot) : Word128 :=
  successor s.connSn

/-- Checks the protocol fee. -/
def validate (s : Snapshot) : Except FeeError Unit :=
  checkRate s.protocolFee

end Snapshot

/-- An order as the program stores it when it is created now: with the next id, the program as its
emitter and the program's network as its origin. -/
def SwapOrder.stored (order : SwapOrder) (snapshot : Snapshot) (program : Program) : SwapOrder :=
  { order with
    id := snapshot.nextOrderId
    emitter := program.address.toText
    srcNid := snapshot.networkId }

end CrossSwap
