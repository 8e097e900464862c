import Gamepad.Core
import Gamepad.Files

/-! # Configurations -/

namespace Gamepad

structure Configuration where
  pollIntervalMs : UInt64 := 1
  debounceMs : UInt64 := defaultDebounceMs
  ticksPerMs : UInt64 := defaultTicksPerMs
  acquisition : Acquisition := .physical
  overrideQueue : Bool := true
  stickInput : StickInput := .debounced
  lines : List Wiring := []
  deriving DecidableEq, Repr

inductive Invalidity
  | noPollInterval
  | noTickRate
  | widePin (line : Line) (pin : UInt8)
  | duplicateLine (line : Line)
  deriving DecidableEq, Repr

def Invalidity.message : Invalidity → String
  | noPollInterval => "poll_interval_ms must be at least 1"
  | noTickRate => "ticks_per_ms must be at least 1"
  | widePin line pin =>
    line.name ++ " uses pin " ++ toString pin ++ ", ports are 32 bits wide"
  | duplicateLine line => (InputFault.duplicateLine line).message

inductive ConfigurationFault
  | unreadable (path : String) (cause : ReadFault)
  | unparsable
  | invalid (cause : Invalidity)
  deriving DecidableEq, Repr

def ConfigurationFault.message : ConfigurationFault → String
  | unreadable path cause => "Failed to read " ++ path ++ ": " ++ cause.message
  | unparsable => "Failed to parse configuration"
  | invalid cause => "Invalid configuration: " ++ cause.message

namespace Configuration

def lineTable (c : Configuration) : Except Invalidity WiringTable :=
  (WiringTable.ofDistinct c.lines).mapError .duplicateLine

def validate (c : Configuration) : Except Invalidity Unit :=
  if c.pollIntervalMs = 0 then .error .noPollInterval
  else if c.ticksPerMs = 0 then .error .noTickRate
  else
    match c.lines.find? fun w => 32 ≤ w.pin.toNat with
    | some w => .error (.widePin w.line w.pin)
    | none => c.lineTable.map fun _ => ()

def settings (c : Configuration) : Settings where
  dwell := dwellOfMillis c.debounceMs c.ticksPerMs
  stickInput := c.stickInput

end Configuration

end Gamepad
