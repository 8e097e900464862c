import Gamepad.Event

/-!
# The port cache

A port is a group of pins that are read together as one 32-bit word.  The cache holds the first
handle of each label and has room for four; a sweep reads them in order up to the first fault.
-/

namespace Gamepad

class Port (δ : Type) where
  label : δ → String

instance : Port String :=
  ⟨id⟩

def portCapacity : Nat := 4

/-- The words of a sweep; places without a port hold zero. -/
abbrev PortWords := Vector UInt32 portCapacity

structure PortCache (δ : Type) [Port δ] where
  ports : List δ := []
  nodup : (ports.map Port.label).Nodup := by exact List.nodup_nil
  length_le : ports.length ≤ portCapacity := by exact Nat.zero_le _

structure Sweep (δ : Type) where
  words : Reading PortWords
  read : List δ

namespace PortCache

variable {δ : Type} [Port δ]

def empty : PortCache δ :=
  {}

def labels (cache : PortCache δ) : List String :=
  cache.ports.map Port.label

def size (cache : PortCache δ) : Nat :=
  cache.ports.length

theorem idxOf_lt_capacity {cache : PortCache δ} {label : String} (h : label ∈ cache.labels) :
    cache.labels.idxOf label < portCapacity := by
  have hlt := List.idxOf_lt_length_iff.mpr h
  have hle := cache.length_le
  simp only [labels, List.length_map] at hlt ⊢
  omega

theorem nodup_push {cache : PortCache δ} {port : δ} (h : Port.label port ∉ cache.labels) :
    ((cache.ports ++ [port]).map Port.label).Nodup := by
  rw [List.map_append, List.nodup_append]
  refine ⟨cache.nodup, by simp, ?_⟩
  intro a ha b hb
  simp only [List.map_cons, List.map_nil, List.mem_singleton] at hb
  subst hb
  exact fun heq => h (heq ▸ ha)

/-- Caches a port and answers with its place.  A port whose label is already there keeps the place
of the earlier handle, and a fifth label is refused. -/
def register (cache : PortCache δ) (port : δ) :
    Step (PortCache δ) (Reading (Fin portCapacity)) :=
  let label := Port.label port
  if hknown : label ∈ cache.labels then
    let index : Fin portCapacity := ⟨cache.labels.idxOf label, idxOf_lt_capacity hknown⟩
    ⟨cache, .ok index, [.portKnown label index]⟩
  else if hroom : cache.ports.length < portCapacity then
    ⟨⟨cache.ports ++ [port], nodup_push hknown, by rw [List.length_append]; exact hroom⟩,
      .ok ⟨cache.ports.length, hroom⟩, [.portCached label cache.ports.length]⟩
  else
    ⟨cache, .error (.portCacheFull portCapacity label), []⟩

/-- Reads the ports in order up to the first fault. -/
def sweepPorts (sense : δ → Reading UInt32) : List δ → Reading (List UInt32) × List δ
  | [] => (.ok [], [])
  | port :: rest =>
    match sense port with
    | .error fault => (.error fault, [port])
    | .ok word =>
      let (words, read) := sweepPorts sense rest
      (words.map (word :: ·), port :: read)

def sweep (cache : PortCache δ) (sense : δ → Reading UInt32) : Sweep δ :=
  let (words, read) := sweepPorts sense cache.ports
  ⟨words.map fun ws => Vector.ofFn fun i => ws.getD i 0, read⟩

end PortCache

end Gamepad
