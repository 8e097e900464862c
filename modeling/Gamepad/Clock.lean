import Gamepad.Dwell

/-! # Clocks -/

namespace Gamepad

@[ext]
structure ManualClock where
  now : Tick
  ticksPerMs : UInt64
  deriving DecidableEq, Repr

inductive ClockMove
  | set (tick : Tick)
  | advance (ticks : UInt64)
  | advanceMs (milliseconds : UInt64)
  deriving DecidableEq, Repr

namespace ManualClock

def move (clock : ManualClock) : ClockMove → ManualClock
  | .set tick => { clock with now := tick }
  | .advance ticks => { clock with now := clock.now + ticks }
  | .advanceMs ms => { clock with now := clock.now + ms * clock.ticksPerMs }

end ManualClock

/-- What a handle of a manual clock holds: the place of its counter in memory, and a rate. -/
structure ClockHandle where
  counter : Nat
  ticksPerMs : UInt64
  deriving DecidableEq, Repr

/-- A manual clock with everything that was cloned from it. -/
@[ext]
structure SharedClock where
  clock : ManualClock
  counters : List Tick := [clock.now]
  handles : List ClockHandle := [⟨0, clock.ticksPerMs⟩]
  deriving DecidableEq, Repr

inductive HandleAction
  | move (m : ClockMove)
  | clone
  deriving DecidableEq, Repr

namespace SharedClock

/-- The effect of an action through the handle of that number.  A clone refers to the counter of
the handle that it is made from; a handle that is not there has no effect. -/
def act (shared : SharedClock) (handle : Nat) (action : HandleAction) : SharedClock :=
  match shared.handles[handle]? with
  | none => shared
  | some held =>
    match action with
    | .move m =>
      { shared with
        counters := shared.counters.modify held.counter fun now =>
          (ManualClock.move ⟨now, held.ticksPerMs⟩ m).now }
    | .clone => { shared with handles := shared.handles ++ [held] }

def readings (shared : SharedClock) : List Tick :=
  shared.handles.filterMap fun held => shared.counters[held.counter]?

end SharedClock

/-- The ticks of a stopwatch that has run for some nanoseconds. -/
def stopwatchTicks (ticksPerMs : UInt64) (nanoseconds : Nat) : Tick :=
  UInt64.ofNat (nanoseconds * ticksPerMs.toNat / 1000000)

end Gamepad
