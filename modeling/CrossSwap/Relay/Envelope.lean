import CrossSwap.Relay.Message
import CrossSwap.Relay.Replay

/-!
# Envelopes

What a relay delivers, read down to the order: the message, the payload that its tag names, and the
order whose bytes the payload carries.
-/

namespace CrossSwap

structure Envelope where
  key : ReplayKey
  messageType : MessageType
  order : SwapOrder
  /-- The solver of a fill. -/
  solver : Option String
  resolution : Resolution
  deriving DecidableEq, Repr

/-- Reads a message delivered from a network under a number. -/
def Envelope.decode (srcNid : String) (connSn : Word128) (msg : Bytes) :
    Except EncodingError Envelope := do
  let message ← Entity.decode OrderMessage msg
  let resolution ← message.resolution
  let order ← Entity.decode SwapOrder resolution.orderBytes
  return { key := ⟨srcNid, connSn⟩, messageType := message.messageType, order,
           solver := resolution.solver?, resolution }

end CrossSwap
