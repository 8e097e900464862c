import Gamepad.Clock
import Mathlib.Algebra.GroupWithZero.Nat
import Mathlib.Data.List.DropRight
import Mathlib.Data.List.Induction

/-!
# One counter behind all handles

What is done through any handle is done to one clock.  It shows a sum over all that was done since
it was last set, taken modulo `2 ^ 64` once, although every step wraps by itself.
-/

namespace Gamepad

structure ClockCall where
  handle : Nat
  action : HandleAction
  deriving DecidableEq, Repr

/-! ## What actions come to -/

namespace HandleAction

def setTo? : HandleAction → Option Tick
  | move (.set tick) => some tick
  | _ => none

def ticks : HandleAction → Nat
  | move (.advance ticks) => ticks.toNat
  | _ => 0

def milliseconds : HandleAction → Nat
  | move (.advanceMs ms) => ms.toNat
  | _ => 0

def clones : HandleAction → Nat
  | clone => 1
  | _ => 0

def totalTicks (actions : List HandleAction) : Nat :=
  (actions.map ticks).sum

def totalMs (actions : List HandleAction) : Nat :=
  (actions.map milliseconds).sum

def totalClones (actions : List HandleAction) : Nat :=
  (actions.map clones).sum

def lastSet? (actions : List HandleAction) : Option Tick :=
  (actions.filterMap setTo?).getLast?

def sinceSet (actions : List HandleAction) : List HandleAction :=
  actions.rtakeWhile fun action => action.setTo?.isNone

/-- Neither sets the counter, and they come to the same. -/
structure SameTotals (actions actions' : List HandleAction) : Prop where
  noneSet : ∀ action ∈ actions, action.setTo? = none
  noneSet' : ∀ action ∈ actions', action.setTo? = none
  ticks : totalTicks actions = totalTicks actions'
  milliseconds : totalMs actions = totalMs actions'
  clones : totalClones actions = totalClones actions'

theorem SameTotals.of_perm {actions actions' : List HandleAction} (hperm : actions.Perm actions')
    (hnone : ∀ action ∈ actions', action.setTo? = none) : SameTotals actions actions' where
  noneSet := fun action hmem => hnone action (hperm.mem_iff.mp hmem)
  noneSet' := hnone
  ticks := (hperm.map HandleAction.ticks).sum_nat
  milliseconds := (hperm.map HandleAction.milliseconds).sum_nat
  clones := (hperm.map HandleAction.clones).sum_nat

theorem sum_waits {waits : List HandleAction}
    (hwaits : ∀ action ∈ waits, ∃ part, action = .move (.advanceMs part))
    {amount : HandleAction → Nat} (hamount : ∀ part, amount (.move (.advanceMs part)) = 0) :
    (waits.map amount).sum = 0 := by
  rw [List.sum_eq_zero_iff_forall_eq_nat, List.forall_mem_map]
  intro action hmem
  obtain ⟨part, rfl⟩ := hwaits action hmem
  exact hamount part

theorem SameTotals.of_waits {waits : List HandleAction} {ms : UInt64}
    (hwaits : ∀ action ∈ waits, ∃ part, action = .move (.advanceMs part))
    (hms : totalMs waits = ms.toNat) : SameTotals waits [.move (.advanceMs ms)] where
  noneSet := by
    intro action hmem
    obtain ⟨part, rfl⟩ := hwaits action hmem
    rfl
  noneSet' := by simp [setTo?]
  ticks := sum_waits hwaits fun _ => rfl
  milliseconds := hms
  clones := sum_waits hwaits fun _ => rfl

end HandleAction

open HandleAction

namespace ManualClock

def act (clock : ManualClock) : HandleAction → ManualClock
  | .move m => clock.move m
  | .clone => clock

def after (clock : ManualClock) (actions : List HandleAction) : ManualClock :=
  actions.foldl act clock

/-- The tick that the counter was last set to, or else the one that the clock started with, and all
advances and waits since then, summed up before the counter wraps. -/
def sumAfter (clock : ManualClock) (actions : List HandleAction) : Nat :=
  (((lastSet? actions).getD clock.now).toNat + totalTicks (sinceSet actions) +
    clock.ticksPerMs.toNat * totalMs (sinceSet actions)) % 2 ^ 64

variable (clock : ManualClock)

theorem after_append (before rest : List HandleAction) :
    clock.after (before ++ rest) = (clock.after before).after rest :=
  List.foldl_append

@[simp]
theorem act_ticksPerMs (action : HandleAction) :
    (clock.act action).ticksPerMs = clock.ticksPerMs := by
  cases action with
  | clone => rfl
  | move m => cases m <;> rfl

theorem after_ticksPerMs (actions : List HandleAction) :
    (clock.after actions).ticksPerMs = clock.ticksPerMs := by
  induction actions generalizing clock with
  | nil => rfl
  | cons action rest ih => exact (ih (clock.act action)).trans (clock.act_ticksPerMs action)

theorem act_of_set {action : HandleAction} {tick : Tick} (hset : action.setTo? = some tick) :
    (clock.act action).now = tick := by
  cases action with
  | clone => cases hset
  | move m => cases m <;> cases hset; rfl

theorem act_of_not_set {action : HandleAction} (hset : action.setTo? = none) :
    (clock.act action).now.toNat =
      (clock.now.toNat + action.ticks + clock.ticksPerMs.toNat * action.milliseconds) %
        2 ^ 64 := by
  cases action with
  | clone => exact (Nat.mod_eq_of_lt clock.now.toNat_lt).symm
  | move m =>
      cases m with
      | set tick => cases hset
      | advance ticks => exact UInt64.toNat_add clock.now ticks
      | advanceMs ms =>
          simp only [act, move, HandleAction.ticks, HandleAction.milliseconds, UInt64.toNat_add,
            UInt64.toNat_mul, Nat.add_mod_mod, Nat.add_zero, Nat.mul_comm]

theorem sumAfter_of_set {action : HandleAction} {tick : Tick} (hset : action.setTo? = some tick)
    (actions : List HandleAction) : clock.sumAfter (actions ++ [action]) = tick.toNat := by
  have hsince : sinceSet (actions ++ [action]) = [] :=
    List.rtakeWhile_concat_neg _ _ _ (by simp [hset])
  have hlast : lastSet? (actions ++ [action]) = some tick := by
    simp [lastSet?, hset]
  rw [sumAfter, hsince, hlast]
  exact Nat.mod_eq_of_lt tick.toNat_lt

theorem sumAfter_of_not_set {action : HandleAction} (hset : action.setTo? = none)
    (actions : List HandleAction) :
    clock.sumAfter (actions ++ [action]) =
      (clock.sumAfter actions + action.ticks + clock.ticksPerMs.toNat * action.milliseconds) %
        2 ^ 64 := by
  have hsince : sinceSet (actions ++ [action]) = sinceSet actions ++ [action] :=
    List.rtakeWhile_concat_pos _ _ _ (by simp [hset])
  have hlast : lastSet? (actions ++ [action]) = lastSet? actions := by
    simp [lastSet?, hset]
  simp only [sumAfter, hsince, hlast, totalTicks, totalMs, List.map_append, List.map_singleton,
    List.sum_append, List.sum_singleton, Nat.mul_add]
  -- the sum so far is reduced on one side only
  omega

theorem after_now_toNat (actions : List HandleAction) :
    (clock.after actions).now.toNat = clock.sumAfter actions := by
  -- on the end of the list: the last action decides whether the sum starts anew
  induction actions using List.reverseRecOn with
  | nil => exact (Nat.mod_eq_of_lt clock.now.toNat_lt).symm
  | append_singleton actions action ih =>
      rw [after_append]
      cases hset : action.setTo? with
      | some tick =>
          rw [clock.sumAfter_of_set hset]
          exact congrArg UInt64.toNat (act_of_set _ hset)
      | none =>
          rw [clock.sumAfter_of_not_set hset, ← ih, ← clock.after_ticksPerMs actions]
          exact act_of_not_set _ hset

theorem sumAfter_of_none_set {actions : List HandleAction}
    (hfree : ∀ action ∈ actions, action.setTo? = none) :
    clock.sumAfter actions =
      (clock.now.toNat + totalTicks actions + clock.ticksPerMs.toNat * totalMs actions) %
        2 ^ 64 := by
  have hsince : sinceSet actions = actions :=
    List.rtakeWhile_eq_self_iff.mpr fun action hmem => by simp [hfree action hmem]
  have hlast : lastSet? actions = none := by
    simp [lastSet?, List.filterMap_eq_nil_iff.mpr hfree]
  rw [sumAfter, hsince, hlast, Option.getD_none]

theorem after_eq_of_sameTotals {actions actions' : List HandleAction}
    (hsame : SameTotals actions actions') : clock.after actions = clock.after actions' := by
  apply ManualClock.ext
  · apply UInt64.toNat.inj
    rw [after_now_toNat, after_now_toNat, clock.sumAfter_of_none_set hsame.noneSet,
      clock.sumAfter_of_none_set hsame.noneSet', hsame.ticks, hsame.milliseconds]
  · rw [after_ticksPerMs, after_ticksPerMs]

end ManualClock

/-! ## Handles -/

namespace ClockCall

/-- Every call goes through a handle that is there by then, if so many are there at first. -/
def Held (handles : Nat) : List ClockCall → Prop
  | [] => True
  | call :: rest => call.handle < handles ∧ Held (handles + call.action.clones) rest

instance Held.decidable (handles : Nat) : (calls : List ClockCall) → Decidable (Held handles calls)
  | [] => inferInstanceAs (Decidable True)
  | call :: rest =>
    have := Held.decidable (handles + call.action.clones) rest
    inferInstanceAs (Decidable (_ ∧ _))

theorem Held.before {handles : Nat} {before rest : List ClockCall}
    (hheld : Held handles (before ++ rest)) : Held handles before := by
  induction before generalizing handles with
  | nil => trivial
  | cons call before ih => exact ⟨hheld.1, ih hheld.2⟩

end ClockCall

namespace SharedClock

def after (shared : SharedClock) (calls : List ClockCall) : SharedClock :=
  calls.foldl (fun shared call => shared.act call.handle call.action) shared

/-- All handles refer to the one counter, and hold the rate of the clock. -/
structure IsOneClock (shared : SharedClock) (made clock : ManualClock) (handles : Nat) : Prop where
  made : shared.clock = made
  counters : shared.counters = [clock.now]
  handles : shared.handles = List.replicate handles ⟨0, clock.ticksPerMs⟩

namespace IsOneClock

variable {shared shared' : SharedClock} {made clock : ManualClock} {handles : Nat}

theorem unmoved (made : ManualClock) : IsOneClock { clock := made } made made 1 :=
  ⟨rfl, rfl, rfl⟩

theorem unique (hone : shared.IsOneClock made clock handles)
    (hone' : shared'.IsOneClock made clock handles) : shared = shared' := by
  apply SharedClock.ext
  · exact hone.made.trans hone'.made.symm
  · exact hone.counters.trans hone'.counters.symm
  · exact hone.handles.trans hone'.handles.symm

theorem readings (hone : shared.IsOneClock made clock handles) :
    shared.readings = List.replicate handles clock.now := by
  simp [SharedClock.readings, hone.counters, hone.handles]

theorem act (hone : shared.IsOneClock made clock handles) {handle : Nat} (hheld : handle < handles)
    (action : HandleAction) :
    (shared.act handle action).IsOneClock made (clock.act action) (handles + action.clones) := by
  have hhandle : shared.handles[handle]? = some ⟨0, clock.ticksPerMs⟩ := by
    rw [hone.handles, List.getElem?_replicate_of_lt hheld]
  simp only [SharedClock.act, hhandle]
  cases action with
  | move m =>
      constructor
      · exact hone.made
      · rw [hone.counters]
        rfl
      · rw [ManualClock.act_ticksPerMs]
        exact hone.handles
  | clone =>
      constructor
      · exact hone.made
      · exact hone.counters
      · rw [hone.handles]
        exact List.replicate_succ'.symm

theorem after (hone : shared.IsOneClock made clock handles) {calls : List ClockCall}
    (hheld : ClockCall.Held handles calls) :
    (shared.after calls).IsOneClock made (clock.after (calls.map ClockCall.action))
      (handles + totalClones (calls.map ClockCall.action)) := by
  induction calls generalizing shared clock handles with
  | nil => exact hone
  | cons call rest ih =>
      have hrest := ih (hone.act hheld.1 call.action) hheld.2
      rw [Nat.add_assoc] at hrest
      exact hrest

end IsOneClock

def ofClock (made : ManualClock) : SharedClock :=
  { clock := made }

theorem isOneClock_after
    (made : ManualClock) {calls : List ClockCall} (hheld : ClockCall.Held 1 calls) :
    ((ofClock made).after calls).IsOneClock made (made.after (calls.map ClockCall.action))
      (1 + totalClones (calls.map ClockCall.action)) :=
  (IsOneClock.unmoved made).after hheld

theorem after_eq_of_clock
    {made : ManualClock} {calls calls' : List ClockCall}
    (hheld : ClockCall.Held 1 calls) (hheld' : ClockCall.Held 1 calls')
    (hclock : made.after (calls.map ClockCall.action) = made.after (calls'.map ClockCall.action))
    (hclones : totalClones (calls.map ClockCall.action) =
      totalClones (calls'.map ClockCall.action)) :
    (ofClock made).after calls = (ofClock made).after calls' := by
  have hone := isOneClock_after made hheld
  rw [hclock, hclones] at hone
  exact hone.unique (isOneClock_after made hheld')

theorem after_eq_of_sameTotals
    {made : ManualClock} {before part part' later : List ClockCall}
    (hheld : ClockCall.Held 1 (before ++ part ++ later))
    (hheld' : ClockCall.Held 1 (before ++ part' ++ later))
    (hsame : SameTotals (part.map ClockCall.action) (part'.map ClockCall.action)) :
    (ofClock made).after (before ++ part ++ later) =
      (ofClock made).after (before ++ part' ++ later) := by
  apply after_eq_of_clock hheld hheld'
  · simp only [List.map_append, ManualClock.after_append]
    rw [ManualClock.after_eq_of_sameTotals _ hsame]
  · have hclones := hsame.clones
    simp only [totalClones] at hclones
    simp only [totalClones, List.map_append, List.sum_append, hclones]

/-- At every point of some calls all handles show the sum, and it makes no difference through which
handles the calls go, in which order they are made from one setting to the next, and whether a wait
is cut up. -/
structure ShowsSum (made : ManualClock) (calls : List ClockCall) : Prop where
  readings : ∀ earlier later, calls = earlier ++ later →
    ((ofClock made).after earlier).readings.map UInt64.toNat =
      List.replicate (1 + totalClones (earlier.map ClockCall.action))
        (made.sumAfter (earlier.map ClockCall.action))
  handles : ∀ calls', ClockCall.Held 1 calls' →
    calls'.map ClockCall.action = calls.map ClockCall.action →
      (ofClock made).after calls' = (ofClock made).after calls
  order : ∀ before part part' later, calls = before ++ part ++ later →
    ClockCall.Held 1 (before ++ part' ++ later) →
      (∀ call ∈ part, call.action.setTo? = none) →
        (part'.map ClockCall.action).Perm (part.map ClockCall.action) →
          (ofClock made).after (before ++ part' ++ later) = (ofClock made).after calls
  waits : ∀ before handle ms part' later,
    calls = before ++ [⟨handle, .move (.advanceMs ms)⟩] ++ later →
      ClockCall.Held 1 (before ++ part' ++ later) →
        (∀ call ∈ part', ∃ ms', call.action = .move (.advanceMs ms')) →
          totalMs (part'.map ClockCall.action) = ms.toNat →
            (ofClock made).after (before ++ part' ++ later) = (ofClock made).after calls

theorem handles_show_sum
    (made : ManualClock) {calls : List ClockCall} (hheld : ClockCall.Held 1 calls) :
    ShowsSum made calls where
  readings := by
    rintro earlier later rfl
    rw [(isOneClock_after made hheld.before).readings, List.map_replicate,
      ManualClock.after_now_toNat]
  handles := by
    intro calls' hheld' hactions
    apply after_eq_of_clock hheld' hheld <;> rw [hactions]
  order := by
    rintro before part part' later rfl hheld' hnone hperm
    exact after_eq_of_sameTotals hheld' hheld (.of_perm hperm (List.forall_mem_map.mpr hnone))
  waits := by
    rintro before handle ms part' later rfl hheld' hwaits hms
    exact after_eq_of_sameTotals hheld' hheld (.of_waits (List.forall_mem_map.mpr hwaits) hms)

def waitAndSet : List ClockCall :=
  [⟨0, .clone⟩, ⟨1, .move (.advanceMs 9223372036854775809)⟩, ⟨1, .move (.set 7)⟩]

theorem waitAndSet_shows :
    let made : ManualClock := ⟨18446744073709551610, 1000⟩
    let moves : List ClockCall :=
      [⟨0, .move (.advanceMs 3)⟩, ⟨1, .move (.advance 18446744073709551615)⟩]
    let swapped : List ClockCall :=
      [⟨0, .move (.advance 18446744073709551615)⟩, ⟨0, .move (.advanceMs 3)⟩]
    let calls := waitAndSet ++ moves
    ClockCall.Held 1 calls ∧ ShowsSum made calls ∧
      ((ofClock made).after (waitAndSet.take 2)).readings.map UInt64.toNat = [994, 994] ∧
      ((ofClock made).after calls).readings.map UInt64.toNat = [3006, 3006] ∧
      (ofClock made).after (waitAndSet ++ swapped) = (ofClock made).after calls := by
  intro made moves swapped calls
  have hheld : ClockCall.Held 1 calls := by decide
  have hshows : ShowsSum made calls := handles_show_sum made hheld
  refine ⟨hheld, hshows, ?_, ?_, ?_⟩
  · rw [hshows.readings (waitAndSet.take 2) _ rfl]
    decide
  · rw [hshows.readings calls [] (List.append_nil calls).symm]
    decide
  · rw [← List.append_nil (waitAndSet ++ swapped)]
    exact hshows.order waitAndSet moves swapped [] (List.append_nil calls).symm (by decide)
      (by decide) (.swap _ _ _)

end SharedClock

end Gamepad
