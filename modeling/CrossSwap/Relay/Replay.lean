import CrossSwap.Bytes

/-!
# Replay protection

A relay message is known by the network that it comes from and the number that it has there.  A
guard keeps the keys that were admitted, each once, and refuses a key that it has seen.
-/

namespace CrossSwap

/-- What a relay message is known by. -/
structure ReplayKey where
  srcNid : String
  connSn : Word128
  deriving DecidableEq, Repr

/-- A message with this key was admitted before. -/
structure DuplicateMessage where
  key : ReplayKey
  deriving DecidableEq, Repr

def DuplicateMessage.message (e : DuplicateMessage) : String :=
  s!"Duplicate message from {e.key.srcNid} with sequence {decimal e.key.connSn}"

/-- The keys admitted so far, the latest first. -/
structure ReplayGuard where
  keys : List ReplayKey
  nodup : keys.Nodup
  deriving DecidableEq

namespace ReplayGuard

/-- The guard that has admitted nothing. -/
def empty : ReplayGuard :=
  ⟨[], List.nodup_nil⟩

def contains (guard : ReplayGuard) (key : ReplayKey) : Bool :=
  guard.keys.contains key

def size (guard : ReplayGuard) : Nat :=
  guard.keys.length

def isEmpty (guard : ReplayGuard) : Bool :=
  guard.keys.isEmpty

/-- Fails when the key was admitted before. -/
def check (guard : ReplayGuard) (key : ReplayKey) : Except DuplicateMessage Unit :=
  if guard.contains key then .error ⟨key⟩ else .ok ()

/-- Records a key, unless it was admitted before. -/
def accept (guard : ReplayGuard) (key : ReplayKey) : Except DuplicateMessage ReplayGuard :=
  if h : guard.contains key then .error ⟨key⟩
  else .ok ⟨key :: guard.keys, List.nodup_cons.2 ⟨by simpa [contains] using h, guard.nodup⟩⟩

/-- The guard after a key was offered to it. -/
def insert (guard : ReplayGuard) (key : ReplayKey) : ReplayGuard :=
  (guard.accept key).toOption.getD guard

/-- A question to a guard, or a key offered to it. -/
inductive Call where
  | contains (key : ReplayKey)
  | check (key : ReplayKey)
  | accept (key : ReplayKey)
  deriving DecidableEq, Repr

inductive Answer where
  | present (yes : Bool)
  | outcome (result : Except DuplicateMessage Unit)

/-- The answer to a call. -/
def answer (guard : ReplayGuard) : Call → Answer
  | .contains key => .present (guard.contains key)
  | .check key => .outcome (guard.check key)
  | .accept key => .outcome ((guard.accept key).map fun _ => ())

/-- The guard after a call. -/
def after (guard : ReplayGuard) : Call → ReplayGuard
  | .accept key => guard.insert key
  | _ => guard

/-- The answer to each of a list of calls, and the guard after it. -/
def trace : ReplayGuard → List Call → List (Answer × ReplayGuard)
  | _, [] => []
  | guard, call :: calls => (guard.answer call, guard.after call) :: trace (guard.after call) calls

end ReplayGuard

end CrossSwap
