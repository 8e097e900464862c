import Gamepad.Clock
import Gamepad.Core
import Gamepad.Port.Simulated
import Gamepad.Source

/-!
# The bench

A bench is a source with simulated ports, a manual clock and the handles of an override queue; a
rig is a bench whose source feeds a core.  A command through a handle not held has no effect.
-/

namespace Gamepad

structure Bench where
  clock : ManualClock
  ports : PortBank := {}
  source : Option (Source String)
  /-- For every handle of the override queue that was ever made, whether it is still held. -/
  handles : List Bool := []

structure Unbindable where
  line : Line
  reason : String
  named : Bool
  deriving DecidableEq, Repr

inductive BenchCommand
  | read
  | clock (m : ClockMove)
  | word (label : String) (word : UInt32)
  | fault (label : String) (reason : Option String)
  | hold (s : Snapshot)
  | push (handle : Nat) (s : Snapshot)
  | cloneHandle (handle : Nat)
  | dropHandle (handle : Nat)
  | dropSource

inductive BenchAnswer
  | acquired (reading : Reading Snapshot)
  | tick (now : Tick)
  | outcome (o : Except Rejection Unit)
  | handle (index : Nat)
  | done

namespace Bench

def binder (unbindable : List Unbindable) (w : Wiring) : Reading (Binding String) :=
  match unbindable.find? fun u => u.line = w.line with
  | some u => .error (.bindFailed (if u.named then some u.line else none) u.reason)
  | none => .ok ⟨w.port, w.pin, w.polarity⟩

def makeSource (acquisition : Acquisition) (table : WiringTable) (unbindable : List Unbindable)
    (slot : OverrideSlot) : Logged (Reading (Source String)) :=
  match acquisition with
  | .none => ⟨.ok ⟨slot, .released⟩, []⟩
  | .external => ⟨.ok ⟨slot, .held .released⟩, []⟩
  | .physical =>
    let bound := BoundLines.bind table (binder unbindable)
    ⟨bound.value.map fun b => ⟨slot, .ports b⟩, bound.events⟩

def portsOf (acquisition : Acquisition) (table : WiringTable) (preset : List (String × UInt32)) :
    PortBank :=
  let bank := preset.foldl
    (fun bank p => bank.update p.1 fun port => { port with word := p.2 }) {}
  match acquisition with
  | .physical => table.entries.foldl (fun bank w => bank.ensure w.port) bank
  | _ => bank

def read (bench : Bench) : Step Bench (Reading Snapshot) :=
  match bench.source with
  | none => ⟨bench, .ok .released, []⟩
  | some source =>
    let step := source.read bench.ports.sense
    ⟨{ bench with source := some step.next, ports := bench.ports.countReads step.answer.read },
      step.answer.reading, step.events⟩

def holds (bench : Bench) (handle : Nat) : Bool :=
  bench.handles.getD handle false

def deliver (bench : Bench) (target : Target) (s : Snapshot) : Step Bench BenchAnswer :=
  let (source, outcome) := target.deliver bench.source s
  ⟨{ bench with source }, .outcome outcome, []⟩

def mapQueue (bench : Bench) (f : OverrideQueue → OverrideQueue) : Bench :=
  { bench with
    source := bench.source.map fun source =>
      { source with overrides := source.overrides.mapQueue f } }

def takeReads (bench : Bench) : List (String × Nat) × Bench :=
  (bench.ports.reads, { bench with ports := bench.ports.forgetReads })

def act (bench : Bench) : BenchCommand → Step Bench BenchAnswer
  | .read =>
    let step := bench.read
    ⟨step.next, .acquired step.answer, step.events⟩
  | .clock m =>
    let clock := bench.clock.move m
    ⟨{ bench with clock }, .tick clock.now, []⟩
  | .word label word =>
    ⟨{ bench with ports := bench.ports.update label fun port => { port with word } }, .done, []⟩
  | .fault label fault =>
    ⟨{ bench with ports := bench.ports.update label fun port => { port with fault } }, .done, []⟩
  | .hold s => bench.deliver .held s
  | .push handle s =>
    if bench.holds handle then bench.deliver .queue s else ⟨bench, .done, []⟩
  | .cloneHandle handle =>
    if bench.holds handle then
      ⟨{ bench.mapQueue OverrideQueue.addProducer with handles := bench.handles ++ [true] },
        .handle bench.handles.length, []⟩
    else ⟨bench, .done, []⟩
  | .dropHandle handle =>
    if bench.holds handle then
      ⟨{ bench.mapQueue OverrideQueue.dropProducer with
          handles := bench.handles.set handle false }, .done, []⟩
    else ⟨bench, .done, []⟩
  | .dropSource => ⟨{ bench with source := none }, .done, []⟩

def after (bench : Bench) (commands : List BenchCommand) : Bench :=
  Step.after act bench commands

def run (bench : Bench) (commands : List BenchCommand) : List (Step Bench BenchAnswer) :=
  Step.run act bench commands

end Bench

structure Rig where
  bench : Bench
  core : Core
  payload : Option Touchpad := none

inductive RigCommand
  | poll
  | lock (locked : Bool)
  | bench (c : BenchCommand)

inductive RigAnswer
  | state (s : Reading ControllerState)
  | locked
  | bench (a : BenchAnswer)

namespace Rig

def attach (core : Core) (bench : Bench) (payload : Option Touchpad) : Logged Rig :=
  ⟨{ bench, core, payload },
    (bench.source.map fun source => .sourceAttached source.name).toList⟩

def poll (rig : Rig) : Step Rig (Reading ControllerState) :=
  let read := rig.bench.read
  let polled := rig.core.poll ⟨read.answer, rig.bench.clock.now, rig.payload⟩
  ⟨{ rig with bench := read.next, core := polled.next }, polled.answer,
    read.events ++ polled.events⟩

def act (rig : Rig) : RigCommand → Step Rig RigAnswer
  | .poll =>
    let step := rig.poll
    ⟨step.next, .state step.answer, step.events⟩
  | .lock locked =>
    let step := rig.core.setLocked locked
    ⟨{ rig with core := step.next }, .locked, step.events⟩
  | .bench c =>
    let step := rig.bench.act c
    ⟨{ rig with bench := step.next }, .bench step.answer, step.events⟩

def after (rig : Rig) (commands : List RigCommand) : Rig :=
  Step.after act rig commands

def run (rig : Rig) (commands : List RigCommand) : List (Step Rig RigAnswer) :=
  Step.run act rig commands

end Rig

end Gamepad
