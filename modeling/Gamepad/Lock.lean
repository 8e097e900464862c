import Gamepad.Event

/-! # The menu lock -/

namespace Gamepad

structure LockGate where
  locked : Bool := false
  deriving DecidableEq, Repr

namespace LockGate

def set (gate : LockGate) (locked : Bool) : Step LockGate Unit where
  next := ⟨locked⟩
  answer := ()
  events := if locked = gate.locked then [] else [.lockChanged locked, .indicator locked]

/-- What a controller state becomes when it passes the gate. -/
def apply (gate : LockGate) (state : ControllerState) : ControllerState :=
  if gate.locked then state.releaseMenu else state

end LockGate

/-- What stands behind the lock indicator: a line in the log, or a lamp of its own. -/
inductive Indicator
  | log | lamp
  deriving DecidableEq, Repr

namespace Indicator

def logged : Indicator → List Event → List Event
  | log, events => events
  | lamp, events => events.filter fun e => e.lamp?.isNone

def lit : Indicator → List Event → List Bool
  | log, _ => []
  | lamp, events => lampCalls events

end Indicator

end Gamepad
