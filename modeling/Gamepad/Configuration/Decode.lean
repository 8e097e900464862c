import Gamepad.Configuration
import Gamepad.Toml.Document

/-!
# Configurations in TOML

Every key may be left out and then has its default, but a line needs its name, port and pin.  A
choice is a name or a table with that only key; a line is a table, or an array of its values.
-/

namespace Gamepad

open Gamepad.Toml

namespace Wiring

def lineOfValue? : Value → Option Line :=
  Value.toChoice? Line.all Line.name

def pullOfValue? : Value → Option Pull :=
  Value.toChoice? Pull.all Pull.name

def ofEntries? (entries : Entries) : Option Wiring := do
  let line ← field entries "name" lineOfValue? none
  let port ← field entries "port" Value.toString? none
  let pin ← field entries "pin" Value.toUInt8? none
  let activeLow ← field entries "active_low" Value.toBool? (some false)
  let pull ← field entries "pull" pullOfValue? (some .none)
  return { line, port, pin, activeLow, pull }

def ofItems? (items : List Value) : Option Wiring := do
  let line ← element items 0 lineOfValue? none
  let port ← element items 1 Value.toString? none
  let pin ← element items 2 Value.toUInt8? none
  let activeLow ← element items 3 Value.toBool? (some false)
  let pull ← element items 4 pullOfValue? (some .none)
  return { line, port, pin, activeLow, pull }

def ofValue? : Value → Option Wiring
  | .table entries => ofEntries? entries
  | .array items => ofItems? items
  | _ => none

end Wiring

namespace Configuration

def linesOfValue? : Value → Option (List Wiring)
  | .array items => items.mapM Wiring.ofValue?
  | _ => none

def ofEntries? (entries : Entries) : Option Configuration := do
  let d : Configuration := {}
  let pollIntervalMs ← field entries "poll_interval_ms" Value.toUInt64? (some d.pollIntervalMs)
  let debounceMs ← field entries "debounce_ms" Value.toUInt64? (some d.debounceMs)
  let ticksPerMs ← field entries "ticks_per_ms" Value.toUInt64? (some d.ticksPerMs)
  let acquisition ← field entries "acquisition"
    (Value.toChoice? Acquisition.all Acquisition.name) (some d.acquisition)
  let overrideQueue ← field entries "override_queue" Value.toBool? (some d.overrideQueue)
  let stickInput ← field entries "stick_input"
    (Value.toChoice? StickInput.all StickInput.name) (some d.stickInput)
  let lines ← field entries "lines" linesOfValue? (some d.lines)
  return {
    pollIntervalMs, debounceMs, ticksPerMs, acquisition, overrideQueue, stickInput, lines }

def ofDocument (entries : Entries) : Except ConfigurationFault Configuration :=
  match ofEntries? entries with
  | none => .error .unparsable
  | some c =>
    match c.validate with
    | .error cause => .error (.invalid cause)
    | .ok () => .ok c

def ofToml (text : String) : Except ConfigurationFault Configuration :=
  match Document.parse? text with
  | none => .error .unparsable
  | some entries => ofDocument entries

end Configuration

end Gamepad
