import Gamepad.Lock
import Gamepad.Run
import Gamepad.Wiring

/-!
# The input core

The core turns one reading per cycle into one controller state: the lines pass the dwell filter, a
wired lock line sets the menu lock, the buttons pass the lock and the directions are written anew.
A reading that failed leaves the core as it was.
-/

namespace Gamepad

/-- A snapshot passes the filter: the records after it and the filtered snapshot, with an event for
every line that was held back. -/
def History.pass (h : History) (dwell : UInt64) (raw : Snapshot) (now : Tick) :
    Step History Snapshot :=
  let next := h.observe dwell raw now
  ⟨next, next.filter raw,
    (next.heldBack raw).map fun held => .heldBack held.1 held.2 now⟩

structure Settings where
  dwell : UInt64 := dwellOfMillis defaultDebounceMs defaultTicksPerMs
  stickInput : StickInput := .debounced
  deriving DecidableEq, Repr

structure Core where
  lines : WiringTable
  settings : Settings
  history : History := .initial
  lock : LockGate := {}

/-- What one cycle gets to see. -/
structure Cycle where
  reading : Reading Snapshot
  now : Tick
  payload : Option Touchpad := none

namespace Core

def fresh (lines : WiringTable) (settings : Settings) : Core :=
  { lines, settings }

def create (lines : WiringTable) (settings : Settings) (ticksPerMs : UInt64) : Logged Core :=
  ⟨fresh lines settings,
    [.coreCreated lines.size settings.dwell ticksPerMs settings.stickInput]⟩

def setLocked (core : Core) (locked : Bool) : Step Core Unit :=
  let gate := core.lock.set locked
  ⟨{ core with lock := gate.next }, (), gate.events⟩

/-- The effect of the lock line on the gate; a line that is not wired has none. -/
def followLockLine (core : Core) (filtered : Snapshot) : Step LockGate Unit :=
  if core.lines.contains (.mode .lock) then core.lock.set (filtered (.mode .lock))
  else ⟨core.lock, (), []⟩

def steeringLines (settings : Settings) (raw filtered : Snapshot) : Snapshot :=
  match settings.stickInput with
  | .debounced => filtered
  | .raw => raw

def poll (core : Core) (cycle : Cycle) : Step Core (Reading ControllerState) :=
  match cycle.reading with
  | .error fault => ⟨core, .error fault, []⟩
  | .ok raw =>
    let filtered := core.history.pass core.settings.dwell raw cycle.now
    let gate := core.followLockLine filtered.answer
    let steering := steeringLines core.settings raw filtered.answer
    let state :=
      { (gate.next.apply (.ofButtons filtered.answer)).steer steering with
        touchpad := cycle.payload.getD raw.touchpad }
    ⟨{ core with history := filtered.next, lock := gate.next }, .ok state,
      filtered.events ++ gate.events ++
        [.polled cycle.now (.ofSnapshot steering) state.dpad]⟩

inductive Action
  | poll (cycle : Cycle)
  | setLocked (locked : Bool)

def act (core : Core) : Action → Step Core (Option (Reading ControllerState))
  | .poll cycle =>
    let polled := core.poll cycle
    ⟨polled.next, some polled.answer, polled.events⟩
  | .setLocked locked =>
    let set := core.setLocked locked
    ⟨set.next, none, set.events⟩

def after (core : Core) (actions : List Action) : Core :=
  Step.after act core actions

def run (core : Core) (actions : List Action) :
    List (Step Core (Option (Reading ControllerState))) :=
  Step.run act core actions

end Core

end Gamepad
