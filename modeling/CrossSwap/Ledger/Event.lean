import CrossSwap.Ledger.Account
import CrossSwap.Text.Base64
import CrossSwap.Text.Blank

/-!
# Events of the program

The program logs its events as lines of base 64.  The bytes are the discriminator of the event's
name and its binary layout, and nothing behind it.  Lines of other kinds and events of other
programs are passed over.
-/

namespace CrossSwap

inductive Event where
  /-- An order was created; it is given as stored. -/
  | swapIntent (order : SwapOrder)
  | orderFilled (id : Word128) (srcNid : String)
  | orderCancelled (id : Word128) (srcNid : String)
  | orderClosed (id : Word128)
  /-- A message for the relay. -/
  | sendMessage (targetNetwork : String) (sn : Word128) (msg : Bytes)
  deriving DecidableEq, Repr

inductive EventKind where
  | swapIntent
  | orderFilled
  | orderCancelled
  | orderClosed
  | sendMessage
  deriving DecidableEq, Repr

namespace EventKind

/-- All kinds, in the order in which discriminators are compared. -/
def all : List EventKind :=
  [.swapIntent, .orderFilled, .orderCancelled, .orderClosed, .sendMessage]

def name : EventKind → String
  | .swapIntent => "SwapIntent"
  | .orderFilled => "OrderFilled"
  | .orderCancelled => "OrderCancelled"
  | .orderClosed => "OrderClosed"
  | .sendMessage => "SendMessage"

def discriminator (kind : EventKind) : Bytes :=
  CrossSwap.discriminator .event kind.name

/-- The kind that a discriminator belongs to. -/
def ofDiscriminator? (d : Bytes) : Option EventKind :=
  all.find? fun kind => kind.discriminator == d

end EventKind

namespace Event

open Borsh Borsh.Layout

def kind : Event → EventKind
  | swapIntent .. => .swapIntent
  | orderFilled .. => .orderFilled
  | orderCancelled .. => .orderCancelled
  | orderClosed .. => .orderClosed
  | sendMessage .. => .sendMessage

def idLayout : Layout Word128 :=
  word 16

/-- The id of an order and its network of origin. -/
def settledLayout : Layout (Word128 × String) :=
  pair (word 16) text

def sendMessageLayout : Layout (String × Word128 × Bytes) :=
  pair text (pair (word 16) blob)

/-- The event in binary layout. -/
def writeBody : Event → Except Fault Bytes
  | swapIntent order => SwapOrder.layout.write order
  | orderFilled id srcNid => settledLayout.write (id, srcNid)
  | orderCancelled id srcNid => settledLayout.write (id, srcNid)
  | orderClosed id => idLayout.write id
  | sendMessage targetNetwork sn msg => sendMessageLayout.write (targetNetwork, sn, msg)

/-- The event of a kind whose body is given. -/
def readBody : EventKind → Bytes → Except Fault Event
  | .swapIntent, bs => (SwapOrder.layout.readAll bs).map swapIntent
  | .orderFilled, bs => (settledLayout.readAll bs).map fun p => orderFilled p.1 p.2
  | .orderCancelled, bs => (settledLayout.readAll bs).map fun p => orderCancelled p.1 p.2
  | .orderClosed, bs => (idLayout.readAll bs).map orderClosed
  | .sendMessage, bs => (sendMessageLayout.readAll bs).map fun p => sendMessage p.1 p.2.1 p.2.2

/-- The data that is logged for an event. -/
def toLogData (e : Event) : Except StateError Bytes := do
  let body ← e.writeBody.mapError (.malformed "event")
  return e.kind.discriminator ++ body

/-- The event whose data is given; none if the data is no event of the program. -/
def ofLogData (d : Bytes) : Except StateError (Option Event) :=
  if d.length < discriminatorSize then .ok none
  else
    match EventKind.ofDiscriminator? (d.take discriminatorSize) with
    | none => .ok none
    | some kind =>
      match readBody kind (d.drop discriminatorSize) with
      | .ok e => .ok (some e)
      | .error fault => .error (.malformed kind.name fault)

/-- What a line starts with that carries data. -/
def dataLabel : List Char :=
  "Program data: ".toList

/-- What follows a label at the start of a line. -/
def behind? : List Char → List Char → Option (List Char)
  | [], line => some line
  | _ :: _, [] => none
  | c :: label, d :: line => if c = d then behind? label line else none

/-- The data that a line of the log carries. -/
def lineData? (line : String) : Option Bytes := do
  let encoded ← behind? dataLabel line.toList
  Base64.decode? (Text.trim encoded)

/-- The event of a line of the log, if it has one. -/
def ofLine (line : String) : Except StateError (Option Event) :=
  match lineData? line with
  | none => .ok none
  | some d => ofLogData d

/-- The events of a log in order. -/
def ofLog (lines : List String) : Except StateError (List Event) := do
  return (← lines.mapM ofLine).filterMap id

/-- The order that an event announces. -/
def createdOrder? : Event → Option SwapOrder
  | swapIntent order => some order
  | _ => none

/-- The orders that a log announces. -/
def createdOrders (lines : List String) : Except StateError (List SwapOrder) := do
  return (← ofLog lines).filterMap createdOrder?

end Event

end CrossSwap
