import Gamepad.Line

/-! # Faults of the input core -/

namespace Gamepad

inductive Rejection
  | full
  | closed
  deriving DecidableEq, Repr

def Rejection.message : Rejection → String
  | full => "no available capacity"
  | closed => "channel closed"

inductive InputFault
  | portCacheFull (capacity : Nat) (port : String)
  /-- A line, or no line in particular, could not be bound to a pin. -/
  | bindFailed (line : Option Line) (reason : String)
  | portFault (port : String) (reason : String)
  | duplicateLine (line : Line)
  | overrideRejected (cause : Rejection)
  deriving DecidableEq, Repr

namespace InputFault

def message : InputFault → String
  | portCacheFull capacity port =>
    "Ran out of cached port slots (" ++ toString capacity ++ ") registering " ++ port
  | bindFailed line reason =>
    "Failed to bind " ++ (line.map Line.name).getD "input" ++ ": " ++ reason
  | portFault port reason => "Failed to read port " ++ port ++ ": " ++ reason
  | duplicateLine line => "Input line " ++ line.name ++ " configured more than once"
  | overrideRejected cause => "Override rejected: " ++ cause.message

end InputFault

abbrev Reading (α : Type) := Except InputFault α

end Gamepad
