import Gamepad.Port.Simulated

/-! # Racks -/

namespace Gamepad

structure PortHandle where
  number : Nat
  label : String
  deriving DecidableEq, Repr

instance : Port PortHandle :=
  ⟨PortHandle.label⟩

structure PortRack where
  ports : List SimulatedPort := []
  cache : PortCache PortHandle := PortCache.empty

namespace PortRack

def register (rack : PortRack) (label : String) (word : UInt32) :
    Step PortRack (Reading (Fin portCapacity)) :=
  let registered := rack.cache.register ⟨rack.ports.length, label⟩
  ⟨⟨rack.ports ++ [.showing label word], registered.next⟩, registered.answer, registered.events⟩

def update (rack : PortRack) (number : Nat) (f : SimulatedPort → SimulatedPort) : PortRack :=
  { rack with ports := rack.ports.modify number f }

def sense (rack : PortRack) (handle : PortHandle) : Reading UInt32 :=
  match rack.ports[handle.number]? with
  | some port => port.sense
  | none => .ok 0

/-- Sweeps the cached ports, and answers also how often each port of the rack was read for it. -/
def sweep (rack : PortRack) : Reading PortWords × List Nat :=
  let sweep := rack.cache.sweep rack.sense
  (sweep.words, (List.range rack.ports.length).map fun number =>
    sweep.read.countP fun handle => handle.number = number)

end PortRack

end Gamepad
