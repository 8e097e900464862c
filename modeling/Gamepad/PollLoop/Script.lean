import Gamepad.PollLoop

/-! # Scripted poll loops -/

namespace Gamepad

inductive ScriptedSource
  | yields (s : Snapshot)
  | faults (fault : InputFault)
  | crashes

structure ScriptedPoll where
  advance : UInt64 := 0
  source : ScriptedSource

namespace PollLoop

def play (loop : PollLoop) (core : Core) (clock : ManualClock) :
    List ScriptedPoll → Step PollLoop LoopEnd
  | [] => ⟨loop, .cancelled, loop.cancel.events⟩
  | scripted :: rest =>
    let clock := clock.move (.advance scripted.advance)
    let continueWith (reading : Reading Snapshot) : Step PollLoop LoopEnd :=
      let polled := core.poll { reading, now := clock.now }
      let step := loop.cycle polled.answer
      match step.answer with
      | .ended how => ⟨step.next, how, polled.events ++ step.events⟩
      | .running =>
        let last := step.next.play polled.next clock rest
        ⟨last.next, last.answer, polled.events ++ step.events ++ last.events⟩
    match scripted.source with
    | .yields s => continueWith (.ok s)
    | .faults fault => continueWith (.error fault)
    | .crashes => ⟨loop, .crashed, []⟩

/-- Starts a loop with a period; a loop without one breaks down before it is entered. -/
def perform (core : Core) (clock : ManualClock) (periodMs : Nat) (script : List ScriptedPoll) :
    Step PollLoop LoopEnd :=
  if periodMs = 0 then ⟨{}, .crashed, [.loopSpawned periodMs]⟩
  else
    let played := play {} core clock script
    ⟨played.next, played.answer, .loopSpawned periodMs :: .loopEntered :: played.events⟩

end PollLoop

end Gamepad
