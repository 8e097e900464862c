import Gamepad.Feeder
import Gamepad.PollLoop
import Gamepad.Program
import Std.Async.Signal

/-! # The command line -/

namespace Gamepad.CommandLine

/-- The number of a fault of the machine, some of whose interfaces report it with a minus sign. -/
def faultNumber (code : UInt32) : Nat :=
  if code.toNat < UInt32.size / 2 then code.toNat else UInt32.size - code.toNat

def readFault (fault : IO.Error) : ReadFault :=
  match fault with
  | .noFileOrDirectory .. => .notFound
  | .inappropriateType _ code _ | .invalidArgument _ code _ =>
    match faultNumber code with
    | 20 => .notDirectory
    | 21 => .isDirectory
    | 36 => .nameTooLong
    | _ => .other (toString fault)
  | _ => .other (toString fault)

def machineFiles : FileAccess IO where
  read path := do
    try return .ok (← IO.FS.readBinFile path)
    catch fault => return .error (readFault fault)
  isPresent path := do
    try
      let _ ← IO.FS.realPath path
      return true
    catch _ => return false

def environment : IO Environment := do
  return {
    configHome := ← IO.getEnv "XDG_CONFIG_HOME"
    home := (← IO.getEnv "HOME").getD ""
    logLevel := ← IO.getEnv "LOG_LEVEL" }

def log (threshold : Level) (events : List Event) : IO Unit := do
  let out ← IO.getStdout
  for record in shownRecords threshold events do
    out.putStrLn record
  out.flush

partial def feed (threshold : Level) (interrupted : IO Bool) (target : Target)
    (program : IO.Ref Program) : IO Unit := do
  let typed ← try some <$> (← IO.getStdin).getLine catch _ => pure none
  if ← interrupted then return
  match typed with
  | none => log threshold [.feederBroken]
  | some "" => log threshold [.feederStopped]
  | some text =>
    let line := text.toUTF8.toList
    let (lines, rest) := Feeder.completeLines line
    let fed ← program.modifyGet fun program =>
      let fed := Feeder.feedLines target (lines ++ if rest.isEmpty then [] else [rest])
        (some program.source)
      (fed, { program with source := fed.next.getD program.source })
    log threshold fed.events
    if fed.answer then feed threshold interrupted target program

def attentionMs : Nat := 10

/-- Polls at every multiple of the period until the interrupt; a poll that comes too late is left
out. -/
partial def pollUntil (threshold : Level) (interrupted : IO Bool) (program : IO.Ref Program)
    (loop : PollLoop) (start next : Nat) : IO LoopEnd := do
  if ← interrupted then
    log threshold [.interrupted]
    let last := loop.cancel
    log threshold last.events
    return .cancelled
  let now ← IO.monoNanosNow
  if now < next then
    IO.sleep (UInt32.ofNat (min attentionMs ((next - now) / 1000000 + 1)))
    pollUntil threshold interrupted program loop start next
  else
    let polled ← program.modifyGet fun program =>
      let polled := program.poll (stopwatchTicks program.ticksPerMs (now - start))
      (polled, polled.next)
    let cycle := loop.cycle polled.answer
    log threshold (polled.events ++ cycle.events ++ PollLoop.watched cycle.events)
    match cycle.answer with
    | .ended how => return how
    | .running =>
      let period := (← program.get).periodMs * 1000000
      pollUntil threshold interrupted program cycle.next start
        (start + ((now - start) / period + 1) * period)

def fail (message : String) : IO UInt32 := do
  IO.eprintln ("Error: " ++ message)
  return 1

def run (threshold : Level) (started : Program) : IO UInt32 := do
  let interrupt ← (← Std.Async.Signal.Waiter.mk .sigint false).wait
  let interrupted : IO Bool := IO.hasFinished interrupt
  let program ← IO.mkRef started
  if let some target := started.target then
    let _ ← IO.asTask (feed threshold interrupted target program) .dedicated
  log threshold [.loopEntered]
  let start ← IO.monoNanosNow
  let how ← pollUntil threshold interrupted program {} start start
  match how.message? with
  | some message => fail ("Input pipeline halted: " ++ message)
  | none =>
    log threshold [.shutDown]
    return 0

end Gamepad.CommandLine

open Gamepad Gamepad.CommandLine in
def main (arguments : List String) : IO UInt32 := do
  let environment ← environment
  let threshold := environment.threshold
  let started ← Program.start machineFiles environment arguments
  log threshold started.events
  match started.value with
  | .error fault => fail fault.message
  | .ok program => run threshold program
