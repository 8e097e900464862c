import Gamepad.Clock
import Gamepad.Configuration.Load
import Gamepad.Source
import Gamepad.Text

/-! # The program -/

namespace Gamepad

def Level.ofText? (text : String) : Option Level :=
  let unsigned := if text.startsWith "+" then text.toList.tail else text.toList
  let numeral := unsigned.dropWhile (· == '0')
  all.find? fun level => (toString level.rank).toList == numeral || level.name == text.toUpper

structure Environment where
  configHome : Option String := none
  home : String
  logLevel : Option String := none

/-- A level that is not set, or set to a text that names none, is `info`. -/
def Environment.threshold (environment : Environment) : Level :=
  (environment.logLevel.bind Level.ofText?).getD .info

inductive StartFault
  | configuration (fault : ConfigurationFault)
  | wiring (cause : Invalidity)
  | input (fault : InputFault)
  deriving DecidableEq

def StartFault.message : StartFault → String
  | configuration fault => "Failed to load configuration: " ++ fault.message
  | wiring cause => (ConfigurationFault.invalid cause).message
  | input fault => fault.message

def StartFault.headline (fault : StartFault) : String :=
  Text.firstLine fault.message

def shownRecords (threshold : Level) (events : List Event) : List String :=
  (logRecords threshold events).map Text.spellOut

/-- A program without a peripheral has no ports. -/
instance : Port Empty :=
  ⟨Empty.elim⟩

structure Program where
  core : Core
  source : Source Empty
  target : Option Target
  periodMs : Nat
  ticksPerMs : UInt64

namespace Program

/-- The number of overrides that may wait for a poll. -/
def overrideQueueDepth : Nat := 64

/-- The slot of a source.  The program itself holds a producer, so that a queue never
disconnects. -/
def slot (c : Configuration) : OverrideSlot :=
  if c.overrideQueue then .connected { capacity := overrideQueueDepth } else .disabled

def sourceOf (c : Configuration) : Except InputFault (Source Empty × Option Target) :=
  match c.acquisition with
  | .physical => .error (.bindFailed none "failed to open gpio")
  | .external => .ok (⟨slot c, .held .released⟩, some .held)
  | .none => .ok (⟨slot c, .released⟩, if c.overrideQueue then some .queue else none)

def ofConfiguration (c : Configuration) : Logged (Except StartFault Program) :=
  let configured :=
    Event.configured c.acquisition c.lines.length c.pollIntervalMs c.debounceMs
  match c.lineTable with
  | .error cause => ⟨.error (.wiring cause), [configured]⟩
  | .ok table =>
    let created := Core.create table c.settings c.ticksPerMs
    match sourceOf c with
    | .error fault =>
      ⟨.error (.input fault), configured :: created.events ++ [.peripheralOpened]⟩
    | .ok (source, target) =>
      ⟨.ok {
          core := created.value
          source
          target
          periodMs := c.pollIntervalMs.toNat
          ticksPerMs := c.ticksPerMs },
        configured :: created.events ++
          [.sourceAttached source.name, .loopSpawned c.pollIntervalMs.toNat] ++
          target.toList.map fun _ => .feederStarted⟩

/-- Starts the program; only its first argument counts. -/
def start {m : Type → Type} [Monad m] (files : FileAccess m) (environment : Environment)
    (arguments : List String) : m (Logged (Except StartFault Program)) := do
  let fallback := Configuration.defaultPath environment.configHome environment.home
  let loaded ← Configuration.loadOrDefault files arguments.head? (some fallback)
  match loaded.value with
  | .error fault => return ⟨.error (.configuration fault), loaded.events⟩
  | .ok c =>
    let made := ofConfiguration c
    return { made with events := loaded.events ++ made.events }

def poll (program : Program) (now : Tick) : Step Program (Reading ControllerState) :=
  let read := program.source.read Empty.elim
  let polled := program.core.poll { reading := read.answer.reading, now }
  ⟨{ program with core := polled.next, source := read.next }, polled.answer,
    read.events ++ polled.events⟩

end Program

end Gamepad
