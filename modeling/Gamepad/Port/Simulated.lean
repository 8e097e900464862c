import Gamepad.Port.Cache

/-! # Simulated ports -/

namespace Gamepad

structure SimulatedPort where
  label : String
  word : UInt32 := 0
  fault : Option String := none
  reads : Nat := 0
  deriving DecidableEq, Repr

namespace SimulatedPort

def showing (label : String) (word : UInt32) : SimulatedPort where
  label := label
  word := word

def sense (port : SimulatedPort) : Reading UInt32 :=
  match port.fault with
  | some reason => .error (.portFault port.label reason)
  | none => .ok port.word

def countRead (port : SimulatedPort) : SimulatedPort :=
  { port with reads := port.reads + 1 }

def forgetReads (port : SimulatedPort) : SimulatedPort :=
  { port with reads := 0 }

end SimulatedPort

structure PortBank where
  ports : List SimulatedPort := []
  deriving DecidableEq

namespace PortBank

def ensure (bank : PortBank) (label : String) : PortBank :=
  if bank.ports.any (·.label = label) then bank else ⟨bank.ports ++ [.showing label 0]⟩

def update (bank : PortBank) (label : String) (f : SimulatedPort → SimulatedPort) : PortBank :=
  ⟨(bank.ensure label).ports.map fun port => if port.label = label then f port else port⟩

/-- The reading of the port of that label; a port that is not in the bank is at rest. -/
def sense (bank : PortBank) (label : String) : Reading UInt32 :=
  match bank.ports.find? fun port => port.label = label with
  | some port => port.sense
  | none => .ok 0

def countReads (bank : PortBank) (labels : List String) : PortBank :=
  labels.foldl (fun bank label => bank.update label SimulatedPort.countRead) bank

def forgetReads (bank : PortBank) : PortBank :=
  ⟨bank.ports.map SimulatedPort.forgetReads⟩

def reads (bank : PortBank) : List (String × Nat) :=
  bank.ports.map fun port => (port.label, port.reads)

end PortBank

end Gamepad
