import Gamepad.Clock
import Gamepad.Core

/-!
# Runs on a manual clock

A core only gets to see what the clock shows at each poll, so a run on a clock is a run of the core
alone once the readings are filled in.
-/

namespace Gamepad

theorem dwellOfMillis_toNat (milliseconds ticksPerMs : UInt64) :
    (dwellOfMillis milliseconds ticksPerMs).toNat =
      min (milliseconds.toNat * ticksPerMs.toNat) (UInt64.size - 1) := by
  have hlt : min (milliseconds.toNat * ticksPerMs.toNat) (UInt64.size - 1) < UInt64.size := by
    simp only [UInt64.size]
    omega
  rw [dwellOfMillis, UInt64.toNat_ofNat_of_lt' hlt]

theorem ManualClock.advanceMs_toNat
    {clock : ManualClock} {ms : Nat} (wait : UInt64)
    (hnow : clock.now.toNat = ms * clock.ticksPerMs.toNat)
    (hfits : (ms + wait.toNat) * clock.ticksPerMs.toNat < UInt64.size) :
    (clock.move (.advanceMs wait)).now.toNat = (ms + wait.toNat) * clock.ticksPerMs.toNat := by
  rw [Nat.add_mul] at hfits ⊢
  simp only [move, UInt64.toNat_add, UInt64.toNat_mul, hnow, UInt64.size] at hfits ⊢
  omega

namespace Core

/-- What is done to a core and to the clock that it is polled on. -/
inductive TimedAction
  | poll (reading : Reading Snapshot) (payload : Option Touchpad)
  | setLocked (locked : Bool)
  | move (m : ClockMove)

namespace TimedAction

def OnlyWaits : TimedAction → Prop
  | move (.set _) | move (.advance _) => False
  | _ => True

def waitMs : TimedAction → Nat
  | move (.advanceMs ms) => ms.toNat
  | _ => 0

end TimedAction

def totalMs : List TimedAction → Nat
  | [] => 0
  | action :: rest => action.waitMs + totalMs rest

/-- What is done to the core, on a clock that is moved along. -/
def timed (clock : ManualClock) : List TimedAction → List Action
  | [] => []
  | .poll reading payload :: rest => .poll ⟨reading, clock.now, payload⟩ :: timed clock rest
  | .setLocked locked :: rest => .setLocked locked :: timed clock rest
  | .move m :: rest => timed (clock.move m) rest

def clockAfter (clock : ManualClock) : List TimedAction → ManualClock
  | [] => clock
  | .move m :: rest => clockAfter (clock.move m) rest
  | _ :: rest => clockAfter clock rest

theorem timed_append (clock : ManualClock) (before rest : List TimedAction) :
    timed clock (before ++ rest) = timed clock before ++ timed (clockAfter clock before) rest := by
  induction before generalizing clock with
  | nil => rfl
  | cons action before ih => cases action <;> simp [timed, clockAfter, ih]

theorem totalMs_cons (action : TimedAction) (rest : List TimedAction) :
    totalMs (action :: rest) = action.waitMs + totalMs rest := rfl

theorem clockAfter_now
    (clock : ManualClock) {script : List TimedAction}
    (hwaits : ∀ action ∈ script, action.OnlyWaits) :
    (clockAfter clock script).now =
      clock.now + UInt64.ofNat (totalMs script * clock.ticksPerMs.toNat) := by
  induction script generalizing clock with
  | nil => simp [clockAfter, totalMs]
  | cons action rest ih =>
      have hfirst := hwaits action List.mem_cons_self
      have hrest := fun clock => ih clock fun a ha => hwaits a (List.mem_cons_of_mem _ ha)
      rw [totalMs_cons]
      cases action with
      | poll reading payload => simp [clockAfter, hrest, TimedAction.waitMs]
      | setLocked locked => simp [clockAfter, hrest, TimedAction.waitMs]
      | move m =>
          cases m with
          | set tick => exact hfirst.elim
          | advance ticks => exact hfirst.elim
          | advanceMs ms =>
              simp [clockAfter, hrest, TimedAction.waitMs, ManualClock.move, Nat.add_mul,
                UInt64.add_assoc]

end Core

end Gamepad
