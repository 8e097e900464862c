import Gamepad.Clock
import Gamepad.Core

/-!
# The poll loop

The loop polls a core once per period and publishes the states that differ from the one before.  It
ends when it is cancelled, or at the first fault.
-/

namespace Gamepad

/-- The channel of a poll loop: the latest state and everything published so far. -/
structure Channel where
  current : ControllerState := .idle
  published : List ControllerState := []

structure PollLoop where
  channel : Channel := {}
  cycles : Nat := 0

inductive LoopEnd
  | cancelled
  | failed (fault : InputFault)
  /-- The loop broke down without an answer. -/
  | crashed
  deriving DecidableEq

/-- Whether a loop goes on after a cycle. -/
inductive LoopPhase
  | running
  | ended (how : LoopEnd)

def LoopEnd.message? : LoopEnd → Option String
  | failed fault => some ("Input fault: " ++ fault.message)
  | _ => none

namespace Channel

def publish (channel : Channel) (state : ControllerState) : Step Channel Unit :=
  if state = channel.current then ⟨channel, (), []⟩
  else ⟨⟨state, channel.published ++ [state]⟩, (), [.stateChanged state]⟩

end Channel

namespace PollLoop

def cycle (loop : PollLoop) (polled : Reading ControllerState) : Step PollLoop LoopPhase :=
  match polled with
  | .error fault => ⟨loop, .ended (.failed fault), [.loopFailed fault]⟩
  | .ok state =>
    let sent := loop.channel.publish state
    ⟨⟨sent.next, loop.cycles + 1⟩, .running, sent.events⟩

def cancel (loop : PollLoop) : Step PollLoop LoopPhase :=
  ⟨loop, .ended .cancelled, [.loopCancelled loop.cycles]⟩

/-- What the watcher of the channel writes about the states that a cycle published. -/
def watched (events : List Event) : List Event :=
  events.flatMap fun
    | .stateChanged state => [.stateSeen state, .stateSeenInFull state]
    | _ => []

/-- A loop that is cancelled once all these polls are made, unless one of them fails before. -/
def run (loop : PollLoop) : List (Reading ControllerState) → Step PollLoop LoopEnd
  | [] => ⟨loop, .cancelled, loop.cancel.events⟩
  | polled :: rest =>
    let step := loop.cycle polled
    match step.answer with
    | .ended how => ⟨step.next, how, step.events⟩
    | .running =>
      let last := step.next.run rest
      ⟨last.next, last.answer, step.events ++ last.events⟩

end PollLoop

end Gamepad
