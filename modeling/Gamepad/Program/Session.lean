import Gamepad.Feeder
import Gamepad.Files.Tree
import Gamepad.PollLoop
import Gamepad.Program

/-!
# Sessions

A session is the program in simulated time with a person in front of it, who types, waits for the
log to show what is expected, and interrupts the program at the end.
-/

namespace Gamepad

inductive Stream
  | main | poll | states | feeder | signal
  deriving DecidableEq, Repr

namespace Stream

def name : Stream → String
  | main => "main"
  | poll => "poll"
  | states => "states"
  | feeder => "feeder"
  | signal => "signal"

def all : List Stream :=
  [main, poll, states, feeder, signal]

end Stream

inductive Keystrokes
  | text (bytes : List UInt8)
  | endOfInput

/-- Something is typed, and then so many more records have to show up in a stream. -/
structure SessionStep where
  input : Option Keystrokes := none
  await : Option (Stream × Nat) := none

structure Session where
  program : Program
  loop : PollLoop := {}
  feeder : Option Target
  unfinished : List UInt8 := []
  timeMs : Nat := 0
  nextPollMs : Nat := 0
  log : List (Stream × Event)

/-- The events that come with every poll and are of no interest in a session. -/
def Event.isRoutine : Event → Bool
  | polled .. | heldBack .. | overrideUsed => true
  | _ => false

namespace Session

def firstKeystrokeMs : Nat := 100

def reactionMs : Nat := 20

/-- No record is awaited for longer than this many polls. -/
def patience : Nat := 10000

def write (session : Session) (stream : Stream) (events : List Event) : Session :=
  { session with log := session.log ++ events.map (stream, ·) }

def eventsIn (session : Session) (stream : Stream) : List Event :=
  (session.log.filter fun entry => entry.1 = stream).map Prod.snd

def begin (program : Program) (events : List Event) : Session :=
  write { program, feeder := program.target, log := events.map (.main, ·) } .poll [.loopEntered]

/-- Waits for the next poll and makes it.  A source without ports has no faults, so the loop goes
on. -/
def poll (session : Session) : Session :=
  let now := stopwatchTicks session.program.ticksPerMs (session.nextPollMs * 1000000)
  let polled := session.program.poll now
  let cycle := session.loop.cycle polled.answer
  let next :=
    { session with
      program := polled.next
      loop := cycle.next
      timeMs := session.nextPollMs
      nextPollMs := session.nextPollMs + session.program.periodMs }
  (next.write .poll (polled.events.filter (!·.isRoutine) ++ cycle.events)).write .states
    (PollLoop.watched cycle.events)

def passUntil (session : Session) (moment : Nat) : Session :=
  let polls :=
    if session.nextPollMs ≤ moment then
      (moment - session.nextPollMs) / session.program.periodMs + 1
    else 0
  { Nat.repeat poll polls session with timeMs := moment }

def feedLines (session : Session) (target : Target) (lines : List (List UInt8)) : Session :=
  let fed := Feeder.feedLines target lines (some session.program.source)
  let session := session.write .feeder fed.events
  { session with
    program := { session.program with source := fed.next.getD session.program.source }
    feeder := if fed.answer then session.feeder else none }

def enter (session : Session) (target : Target) : Keystrokes → Session
  | .text bytes =>
    let (lines, rest) := Feeder.completeLines (session.unfinished ++ bytes)
    { session.feedLines target lines with unfinished := rest }
  | .endOfInput =>
    let session := session.feedLines target (Feeder.allLines session.unfinished)
    let session := session.write .feeder (if session.feeder.isSome then [.feederStopped] else [])
    { session with feeder := none }

/-- What is typed while no feeder runs is lost. -/
def type (session : Session) (keys : Keystrokes) : Session :=
  match session.feeder with
  | none => session
  | some target => session.enter target keys

def recordCount (session : Session) (threshold : Level) (stream : Stream) : Nat :=
  (logRecords threshold (session.eventsIn stream)).length

def await (threshold : Level) (stream : Stream) (count : Nat) : Nat → Session → Session
  | 0, session => session
  | polls + 1, session =>
    if count ≤ session.recordCount threshold stream then session
    else await threshold stream count polls session.poll

def act (threshold : Level) (session : Session) (step : SessionStep) : Session :=
  let typed := step.input.elim session session.type
  let answered :=
    match step.await with
    | none => typed
    | some (stream, count) =>
      typed.await threshold stream (session.recordCount threshold stream + count) patience
  answered.passUntil (answered.timeMs + reactionMs)

def interrupt (session : Session) : Session :=
  ((session.write .signal [.interrupted]).write .poll session.loop.cancel.events).write .main
    [.shutDown]

def run (threshold : Level) (session : Session) (steps : List SessionStep) : Session :=
  (steps.foldl (act threshold) (session.passUntil firstKeystrokeMs)).interrupt

end Session

structure Outcome where
  exitCode : Nat
  fault : Option StartFault
  log : List (Stream × Event)

namespace Outcome

def records (outcome : Outcome) (threshold : Level) (stream : Stream) : List String :=
  shownRecords threshold ((outcome.log.filter fun entry => entry.1 = stream).map Prod.snd)

def ofSession (files : FileTree) (environment : Environment) (arguments : List String)
    (steps : List SessionStep) : Outcome :=
  let started := Id.run (Program.start files.access environment arguments)
  match started.value with
  | .error fault => ⟨1, some fault, started.events.map (.main, ·)⟩
  | .ok program =>
    let session := (Session.begin program started.events).run environment.threshold steps
    ⟨0, none, session.log⟩

end Outcome

end Gamepad
