import Gamepad.Controller
import Gamepad.Dwell
import Gamepad.Fault
import Gamepad.Text

/-! # Events -/

namespace Gamepad

inductive StickInput
  | debounced | raw
  deriving DecidableEq, Repr, Inhabited

namespace StickInput

def all : List StickInput :=
  [debounced, raw]

def name : StickInput → String
  | debounced => "debounced"
  | raw => "raw"

def tag : StickInput → String
  | debounced => "Debounced"
  | raw => "Raw"

end StickInput

/-- Where snapshots come from when no override is pending. -/
inductive Acquisition
  | physical | external | none
  deriving DecidableEq, Repr, Inhabited

namespace Acquisition

def all : List Acquisition :=
  [physical, external, none]

def name : Acquisition → String
  | physical => "physical"
  | external => "external"
  | none => "none"

def tag : Acquisition → String
  | physical => "Physical"
  | external => "External"
  | none => "None"

end Acquisition

inductive Level
  | error | warn | info | debug | trace
  deriving DecidableEq, Repr

namespace Level

def rank : Level → Nat
  | error => 1
  | warn => 2
  | info => 3
  | debug => 4
  | trace => 5

def name : Level → String
  | error => "ERROR"
  | warn => "WARN"
  | info => "INFO"
  | debug => "DEBUG"
  | trace => "TRACE"

def all : List Level :=
  [error, warn, info, debug, trace]

def admits (threshold l : Level) : Bool :=
  l.rank ≤ threshold.rank

end Level

inductive Event
  /- the core -/
  | coreCreated (lines : Nat) (dwell ticksPerMs : UInt64) (stickInput : StickInput)
  | sourceAttached (name : String)
  | heldBack (line : Line) (value : Bool) (now : Tick)
  | polled (now : Tick) (mode : OutputMode) (dpad : Compass)
  | lockChanged (locked : Bool)
  | indicator (on : Bool)
  /- ports and overrides -/
  | portKnown (label : String) (index : Nat)
  | portCached (label : String) (index : Nat)
  | linesBound (lines ports : Nat)
  | overrideUsed
  | overridesDisconnected
  /- configuration -/
  | configurationChosen (path : String)
  | configurationRead (path : String)
  | configurationMissing
  | configured (acquisition : Acquisition) (lines : Nat) (pollMs debounceMs : UInt64)
  | peripheralOpened
  /- the poll loop -/
  | loopSpawned (periodMs : Nat)
  | loopEntered
  | stateChanged (state : ControllerState)
  | loopCancelled (cycles : Nat)
  | loopFailed (fault : InputFault)
  /- typed input -/
  | feederStarted
  | typed (lines : List Line)
  | typedDropped (cause : Rejection)
  | typedIgnored (text word : String)
  | feederBroken
  | feederStopped
  /- the program -/
  | stateSeen (state : ControllerState)
  | stateSeenInFull (state : ControllerState)
  | interrupted
  | shutDown
  deriving DecidableEq

namespace Event

def level : Event → Level
  | heldBack .. | polled .. | portKnown .. | overrideUsed | configurationRead _
  | stateChanged _ | typed _ | stateSeenInFull _ => .debug
  | overridesDisconnected | configurationMissing | typedDropped _ | typedIgnored .. => .warn
  | loopFailed _ | feederBroken => .error
  | _ => .info

def unknownLine (word : String) : String :=
  "unknown input line '" ++ word ++ "'"

def text : Event → String
  | coreCreated lines dwell ticksPerMs stickInput =>
    "Creating input core: " ++ toString lines ++ " lines, dwell " ++ toString dwell ++
      " ticks (" ++ toString ticksPerMs ++ " ticks/ms), stick input " ++ stickInput.tag
  | sourceAttached name => "Attaching " ++ name ++ " input source"
  | heldBack line value now =>
    "Held " ++ line.name ++ " at " ++ toString value ++
      " (bounce at tick " ++ toString now ++ ")"
  | polled now mode dpad =>
    "Polled at tick " ++ toString now ++ ": mode " ++ mode.name ++ ", dpad " ++ dpad.name
  | lockChanged locked => "Input lock " ++ if locked then "engaged" else "released"
  | indicator on => "Lock indicator " ++ if on then "on" else "off"
  | portKnown label index =>
    "Port " ++ label ++ " already cached at index " ++ toString index
  | portCached label index => "Caching port " ++ label ++ " at index " ++ toString index
  | linesBound lines ports =>
    "Bound " ++ toString lines ++ " input lines across " ++ toString ports ++ " ports"
  | overrideUsed => "Using queued override snapshot"
  | overridesDisconnected => "Override queue disconnected, disabling queued overrides"
  | configurationChosen path => "Loading configuration from " ++ path
  | configurationRead path => "Reading configuration from " ++ path
  | configurationMissing => "No configuration file found, using defaults (no input lines bound)"
  | configured acquisition lines pollMs debounceMs =>
    "Configuration: " ++ acquisition.tag ++ " acquisition, " ++ toString lines ++ " lines, " ++
      toString pollMs ++ " ms poll, " ++ toString debounceMs ++ " ms debounce"
  | peripheralOpened => "Opening Raspberry Pi GPIO peripheral"
  | loopSpawned periodMs => "Spawning poll loop with " ++ Text.duration periodMs ++ " period"
  | loopEntered => "Entering poll loop"
  | stateChanged state => "Input state changed: " ++ state.describe
  | loopCancelled cycles => "Poll loop cancelled after " ++ toString cycles ++ " cycles"
  | loopFailed fault => "Poll loop terminated: " ++ fault.message
  | feederStarted => "Reading simulated input from stdin"
  | typed lines => "Simulated input: [" ++ ", ".intercalate (lines.map Line.tag) ++ "]"
  | typedDropped cause =>
    "Dropping simulated input: " ++ (InputFault.overrideRejected cause).message
  | typedIgnored text word => "Ignoring simulated input '" ++ text ++ "': " ++ unknownLine word
  | feederBroken => "Failed to read stdin: stream did not contain valid UTF-8"
  | feederStopped => "Stdin closed, simulated input stopped"
  | stateSeen state => state.summary
  | stateSeenInFull state => "Full state: " ++ state.describe
  | interrupted => "Interrupt received, stopping poll loop"
  | shutDown => "Shut down cleanly"

def record (e : Event) : String :=
  e.level.name ++ " " ++ e.text

def lamp? : Event → Option Bool
  | indicator on => some on
  | _ => none

end Event

def lampCalls (events : List Event) : List Bool :=
  events.filterMap Event.lamp?

def logRecords (threshold : Level) (events : List Event) : List String :=
  (events.filter fun e => threshold.admits e.level).map Event.record

/-- A result together with the events on the way to it. -/
structure Logged (α : Type) where
  value : α
  events : List Event := []

/-- One step of a state machine: its next state, its answer and the events it caused. -/
structure Step (σ α : Type) where
  next : σ
  answer : α
  events : List Event := []

end Gamepad
