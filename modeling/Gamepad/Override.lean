import Gamepad.Event

/-!
# The override queue

Queued snapshots are used one per reading, oldest first.  Once the last handle is gone and the last
pending snapshot is used, the source notices and goes on without overrides.
-/

namespace Gamepad

/-- The largest capacity a queue can be made with. -/
def maxQueueCapacity : Nat := UInt64.size / 8 - 1

structure OverrideQueue where
  capacity : Nat
  pending : List Snapshot := []
  producers : Nat := 1
  pending_le : pending.length ≤ capacity := by exact Nat.zero_le _

inductive OverrideSlot
  | disabled
  | connected (queue : OverrideQueue)

namespace OverrideQueue

def push (queue : OverrideQueue) (s : Snapshot) : OverrideQueue × Except Rejection Unit :=
  if h : queue.pending.length < queue.capacity then
    ({ queue with
        pending := queue.pending ++ [s]
        pending_le := by rw [List.length_append]; exact h }, .ok ())
  else
    (queue, .error .full)

def addProducer (queue : OverrideQueue) : OverrideQueue :=
  { queue with producers := queue.producers + 1 }

def dropProducer (queue : OverrideQueue) : OverrideQueue :=
  { queue with producers := queue.producers - 1 }

end OverrideQueue

namespace OverrideSlot

def channel? (capacity : Nat) : Option OverrideSlot :=
  if 0 < capacity ∧ capacity ≤ maxQueueCapacity then some (.connected { capacity }) else none

def pending : OverrideSlot → List Snapshot
  | disabled => []
  | connected queue => queue.pending

/-- A slot without a queue has lost its receiving end. -/
def push : OverrideSlot → Snapshot → OverrideSlot × Except Rejection Unit
  | disabled, _ => (disabled, .error .closed)
  | connected queue, s =>
    let (queue, outcome) := queue.push s
    (connected queue, outcome)

def mapQueue (f : OverrideQueue → OverrideQueue) : OverrideSlot → OverrideSlot
  | disabled => disabled
  | connected queue => connected (f queue)

def take : OverrideSlot → Step OverrideSlot (Option Snapshot)
  | disabled => ⟨disabled, none, []⟩
  | connected queue =>
    match h : queue.pending with
    | s :: rest =>
      ⟨connected { queue with
          pending := rest
          pending_le := by
            have hle := queue.pending_le
            rw [h, List.length_cons] at hle
            omega },
        some s, [.overrideUsed]⟩
    | [] =>
      if queue.producers = 0 then ⟨disabled, none, [.overridesDisconnected]⟩
      else ⟨connected queue, none, []⟩

end OverrideSlot

end Gamepad
