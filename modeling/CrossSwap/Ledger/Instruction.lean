import CrossSwap.Ledger.Address
import CrossSwap.Ledger.Discriminator
import CrossSwap.Order.Layout

/-!
# Instructions of the program

The data of an instruction is the discriminator of its name and the binary layout of its arguments,
and nothing behind them.
-/

namespace CrossSwap

inductive Instruction where
  /-- Creates the settings of the network and the native vault. -/
  | setUp (networkId : String) (feeHandler : Address)
  | setAdmin (account : Address)
  | setProtocolFee (fee : Word64)
  | setFeeHandler (feeHandler : Address)
  | swap (order : SwapOrder)
  | fill (order : SwapOrder) (solverAddress : String)
  | cancel (order : SwapOrder)
  | recvMessage (srcNetwork : String) (connSn : Word128) (msg : Bytes)
  deriving DecidableEq, Repr

inductive InstructionKind where
  | setUp
  | setAdmin
  | setProtocolFee
  | setFeeHandler
  | swap
  | fill
  | cancel
  | recvMessage
  deriving DecidableEq, Repr

/-- Why bytes are no instruction, or an instruction cannot be written. -/
inductive InstructionError where
  | tooShort (length : Nat)
  | unknown (discriminator : Bytes)
  | malformed (fault : Borsh.Fault)
  deriving DecidableEq, Repr

def InstructionError.message (e : InstructionError) : String :=
  "Failed to serialize instruction data: " ++
    match e with
    | .tooShort length => s!"instruction data too short: {length} bytes"
    | .unknown d => s!"unknown instruction discriminator 0x{d.toHex}"
    | .malformed fault => fault.message

namespace InstructionKind

/-- All kinds, in the order in which discriminators are compared. -/
def all : List InstructionKind :=
  [.setUp, .setAdmin, .setProtocolFee, .setFeeHandler, .swap, .fill, .cancel, .recvMessage]

def name : InstructionKind → String
  | .setUp => "initialize"
  | .setAdmin => "set_admin"
  | .setProtocolFee => "set_protocol_fee"
  | .setFeeHandler => "set_fee_handler"
  | .swap => "swap"
  | .fill => "fill"
  | .cancel => "cancel"
  | .recvMessage => "recv_message"

def discriminator (kind : InstructionKind) : Bytes :=
  CrossSwap.discriminator .global kind.name

/-- The kind that a discriminator belongs to. -/
def ofDiscriminator? (d : Bytes) : Option InstructionKind :=
  all.find? fun kind => kind.discriminator == d

end InstructionKind

namespace Instruction

open Borsh Borsh.Layout

def kind : Instruction → InstructionKind
  | setUp .. => .setUp
  | setAdmin .. => .setAdmin
  | setProtocolFee .. => .setProtocolFee
  | setFeeHandler .. => .setFeeHandler
  | swap .. => .swap
  | fill .. => .fill
  | cancel .. => .cancel
  | recvMessage .. => .recvMessage

def setUpLayout : Layout (String × Address) :=
  pair text Address.layout

def feeLayout : Layout Word64 :=
  word 8

def fillLayout : Layout (SwapOrder × String) :=
  pair SwapOrder.layout text

def recvMessageLayout : Layout (String × Word128 × Bytes) :=
  pair text (pair (word 16) blob)

/-- The arguments in binary layout. -/
def writeArgs : Instruction → Except Fault Bytes
  | setUp networkId feeHandler => setUpLayout.write (networkId, feeHandler)
  | setAdmin account => Address.layout.write account
  | setProtocolFee fee => feeLayout.write fee
  | setFeeHandler feeHandler => Address.layout.write feeHandler
  | swap order => SwapOrder.layout.write order
  | fill order solverAddress => fillLayout.write (order, solverAddress)
  | cancel order => SwapOrder.layout.write order
  | recvMessage srcNetwork connSn msg => recvMessageLayout.write (srcNetwork, connSn, msg)

/-- The instruction of a kind whose arguments are given. -/
def readArgs : InstructionKind → Bytes → Except Fault Instruction
  | .setUp, bs => (setUpLayout.readAll bs).map fun p => setUp p.1 p.2
  | .setAdmin, bs => (Address.layout.readAll bs).map setAdmin
  | .setProtocolFee, bs => (feeLayout.readAll bs).map setProtocolFee
  | .setFeeHandler, bs => (Address.layout.readAll bs).map setFeeHandler
  | .swap, bs => (SwapOrder.layout.readAll bs).map swap
  | .fill, bs => (fillLayout.readAll bs).map fun p => fill p.1 p.2
  | .cancel, bs => (SwapOrder.layout.readAll bs).map cancel
  | .recvMessage, bs => (recvMessageLayout.readAll bs).map fun p => recvMessage p.1 p.2.1 p.2.2

/-- The data of an instruction. -/
def data (i : Instruction) : Except InstructionError Bytes := do
  let args ← i.writeArgs.mapError .malformed
  return i.kind.discriminator ++ args

/-- The instruction whose data is given. -/
def ofData (d : Bytes) : Except InstructionError Instruction :=
  if d.length < discriminatorSize then .error (.tooShort d.length)
  else
    match InstructionKind.ofDiscriminator? (d.take discriminatorSize) with
    | none => .error (.unknown (d.take discriminatorSize))
    | some kind => (readArgs kind (d.drop discriminatorSize)).mapError .malformed

end Instruction

end CrossSwap
