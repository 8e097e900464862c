import Gamepad.Proofs.LockIndicator
import Gamepad.Proofs.TimedRuns
import Mathlib.Data.List.Forall2

/-!
# The tick rate does not show

While neither of two counters wraps, every tick in sight is a number of milliseconds times the rate,
zero among them.  Then a comparison of ticks is one of milliseconds.
-/

namespace Gamepad

theorem elapsed_lt_dwell_iff
    {rate : UInt64} (hrate : 1 ≤ rate) {now since dwell : UInt64} {ms sinceMs dwellMs : Nat}
    (hnow : now.toNat = ms * rate.toNat) (hsince : since.toNat = sinceMs * rate.toNat)
    (hdwell : dwell.toNat = dwellMs * rate.toNat) (hle : sinceMs ≤ ms) :
    now - since < dwell ↔ ms - sinceMs < dwellMs := by
  have hpos : 0 < rate.toNat := UInt64.le_iff_toNat_le.mp hrate
  have hordered : since ≤ now := by
    rw [UInt64.le_iff_toNat_le, hsince, hnow]
    exact Nat.mul_le_mul_right _ hle
  rw [UInt64.lt_iff_toNat_lt, UInt64.toNat_sub_of_le _ _ hordered, hnow, hsince, hdwell,
    ← Nat.sub_mul]
  exact Nat.mul_lt_mul_right hpos

/-! ## Records and cores at two rates -/

/-- Two records of one value, taken at one millisecond, by `ms` at the latest. -/
structure Accepted.AtRates
    (rate rate' : UInt64) (ms : Nat) (held held' : Accepted) : Prop where
  value : held.value = held'.value
  since : ∃ sinceMs ≤ ms,
    held.since.toNat = sinceMs * rate.toNat ∧ held'.since.toNat = sinceMs * rate'.toNat

/-- Two cores that differ only in the rate that they are run at, `ms` milliseconds in. -/
structure Core.AtRates
    (rate rate' : UInt64) (dwellMs ms : Nat) (a b : Core) : Prop where
  lines : a.lines = b.lines
  stickInput : a.settings.stickInput = b.settings.stickInput
  lock : a.lock = b.lock
  dwell : a.settings.dwell.toNat = dwellMs * rate.toNat
  dwell' : b.settings.dwell.toNat = dwellMs * rate'.toNat
  history : ∀ l, Accepted.AtRates rate rate' ms (a.history.get l) (b.history.get l)

section Rates

variable {rate rate' : UInt64} {dwellMs ms : Nat}

theorem Accepted.AtRates.later
    {held held' : Accepted} (hheld : AtRates rate rate' ms held held')
    {later : Nat} (hle : ms ≤ later) : AtRates rate rate' later held held' := by
  obtain ⟨sinceMs, hsince, hticks⟩ := hheld.since
  exact ⟨hheld.value, sinceMs, Nat.le_trans hsince hle, hticks⟩

theorem Core.AtRates.later
    {a b : Core} (hcores : AtRates rate rate' dwellMs ms a b)
    {later : Nat} (hle : ms ≤ later) : AtRates rate rate' dwellMs later a b :=
  { hcores with history := fun l => (hcores.history l).later hle }

variable (hrate : 1 ≤ rate) (hrate' : 1 ≤ rate') {now now' : Tick}
  (hnow : now.toNat = ms * rate.toNat) (hnow' : now'.toNat = ms * rate'.toNat)

include hrate hrate' hnow hnow'

theorem Accepted.AtRates.observe
    {held held' : Accepted} (hheld : AtRates rate rate' ms held held')
    {dwell dwell' : UInt64} (hdwell : dwell.toNat = dwellMs * rate.toNat)
    (hdwell' : dwell'.toNat = dwellMs * rate'.toNat) (raw : Bool) :
    AtRates rate rate' ms (held.observe dwell raw now) (held'.observe dwell' raw now') := by
  obtain ⟨hvalue, sinceMs, hle, hsince, hsince'⟩ := hheld
  have hearly := elapsed_lt_dwell_iff hrate hnow hsince hdwell hle
  have hearly' := elapsed_lt_dwell_iff hrate' hnow' hsince' hdwell' hle
  have hkept : AtRates rate rate' ms held held' := ⟨hvalue, sinceMs, hle, hsince, hsince'⟩
  have hnew : AtRates rate rate' ms ⟨raw, now⟩ ⟨raw, now'⟩ :=
    ⟨rfl, ms, Nat.le_refl ms, hnow, hnow'⟩
  simp only [Accepted.observe, hearly, hearly', ← hvalue]
  by_cases hsame : raw = held.value
  · simpa [hsame] using hkept
  · by_cases hshort : ms - sinceMs < dwellMs
    · simpa [hsame, hshort] using hkept
    · simpa [hsame, hshort] using hnew

namespace Core

variable {a b : Core} (hcores : AtRates rate rate' dwellMs ms a b) (raw : Snapshot)

include hcores

theorem AtRates.filtered : a.filtered raw now = b.filtered raw now' := by
  apply Snapshot.ext
  · intro l
    rw [filtered_get, filtered_get]
    exact ((hcores.history l).observe hrate hrate' hnow hnow' hcores.dwell hcores.dwell'
      (raw.get l)).value
  · rfl

theorem AtRates.gateAfter : a.gateAfter raw now = b.gateAfter raw now' := by
  have hfiltered := hcores.filtered hrate hrate' hnow hnow' raw
  have hlocked : (a.gateAfter raw now).locked = (b.gateAfter raw now').locked := by
    rw [gateAfter_locked, gateAfter_locked, hfiltered, hcores.lines, hcores.lock]
  exact congrArg LockGate.mk hlocked

theorem AtRates.emitted (payload : Option Touchpad) :
    a.emitted raw now payload = b.emitted raw now' payload := by
  have hfiltered := hcores.filtered hrate hrate' hnow hnow' raw
  have hgate := hcores.gateAfter hrate hrate' hnow hnow' raw
  have hsteering : steeringLines a.settings raw = steeringLines b.settings raw := by
    funext filtered
    simp only [steeringLines, hcores.stickInput]
  simp only [Core.emitted, hgate, hfiltered, hsteering]

end Core

end Rates

/-! ## Whole runs -/

structure Step.SameAtRates
    (rate rate' : UInt64) (a b : Step Core (Option (Reading ControllerState))) : Prop where
  answer : a.answer = b.answer
  lock : a.next.lock = b.next.lock
  calls : lampCalls a.events = lampCalls b.events
  records : ∀ l, (a.next.history.get l).value = (b.next.history.get l).value
  since : ∀ l, ∃ sinceMs : Nat,
    (a.next.history.get l).since.toNat = sinceMs * rate.toNat ∧
      (b.next.history.get l).since.toNat = sinceMs * rate'.toNat

namespace Core

section Rates

variable {rate rate' : UInt64} (hrate : 1 ≤ rate) (hrate' : 1 ≤ rate') {dwellMs ms : Nat}

theorem AtRates.sameAtRates
    {a b : Core} (hcores : AtRates rate rate' dwellMs ms a b) {action action' : Action}
    (hanswer : (a.act action).answer = (b.act action').answer)
    (hnext : AtRates rate rate' dwellMs ms (a.act action).next (b.act action').next) :
    Step.SameAtRates rate rate' (a.act action) (b.act action') where
  answer := hanswer
  lock := hnext.lock
  calls := by
    rw [(a.act_shows action).lampCalls, (b.act_shows action').lampCalls, hcores.lock, hnext.lock]
  records := fun l => (hnext.history l).value
  since := by
    intro l
    obtain ⟨sinceMs, _, hticks⟩ := (hnext.history l).since
    exact ⟨sinceMs, hticks⟩

include hrate hrate'

theorem AtRates.poll
    {a b : Core} (hcores : AtRates rate rate' dwellMs ms a b) {now now' : Tick}
    (hnow : now.toNat = ms * rate.toNat) (hnow' : now'.toNat = ms * rate'.toNat)
    (reading : Reading Snapshot) (payload : Option Touchpad) :
    (a.poll ⟨reading, now, payload⟩).answer = (b.poll ⟨reading, now', payload⟩).answer ∧
      AtRates rate rate' dwellMs ms (a.poll ⟨reading, now, payload⟩).next
        (b.poll ⟨reading, now', payload⟩).next := by
  cases reading with
  | error fault => exact ⟨rfl, hcores⟩
  | ok raw =>
      have hemitted := hcores.emitted hrate hrate' hnow hnow' raw payload
      have hgate := hcores.gateAfter hrate hrate' hnow hnow' raw
      constructor
      · rw [poll_ok_answer, poll_ok_answer, hemitted]
      · rw [poll_ok_next, poll_ok_next]
        refine { hcores with lock := hgate, history := ?_ }
        intro l
        simp only [History.observe_get]
        exact (hcores.history l).observe hrate hrate' hnow hnow' hcores.dwell hcores.dwell' _

theorem AtRates.run
    {a b : Core} (hcores : AtRates rate rate' dwellMs ms a b) {clock clock' : ManualClock}
    (hclock : clock.ticksPerMs = rate) (hclock' : clock'.ticksPerMs = rate')
    (hnow : clock.now.toNat = ms * rate.toNat) (hnow' : clock'.now.toNat = ms * rate'.toNat)
    {script : List TimedAction} (hwaits : ∀ action ∈ script, action.OnlyWaits)
    (hfits : (ms + totalMs script) * rate.toNat < UInt64.size)
    (hfits' : (ms + totalMs script) * rate'.toNat < UInt64.size) :
    List.Forall₂ (Step.SameAtRates rate rate')
      (a.run (timed clock script)) (b.run (timed clock' script)) := by
  induction script generalizing ms a b clock clock' with
  | nil => exact .nil
  | cons action rest ih =>
      have hfirst := hwaits action List.mem_cons_self
      have hrest : ∀ action ∈ rest, action.OnlyWaits :=
        fun later hlater => hwaits later (List.mem_cons_of_mem _ hlater)
      rw [totalMs_cons] at hfits hfits'
      cases action with
      | poll reading payload =>
          simp only [TimedAction.waitMs, Nat.zero_add] at hfits hfits'
          obtain ⟨hanswer, hnext⟩ :=
            hcores.poll hrate hrate' hnow hnow' reading payload
          refine .cons (hcores.sameAtRates (congrArg some hanswer) hnext) ?_
          exact ih hnext hclock hclock' hnow hnow' hrest hfits hfits'
      | setLocked locked =>
          simp only [TimedAction.waitMs, Nat.zero_add] at hfits hfits'
          have hnext : AtRates rate rate' dwellMs ms (a.setLocked locked).next
              (b.setLocked locked).next := { hcores with lock := rfl }
          refine .cons (hcores.sameAtRates rfl hnext) ?_
          exact ih hnext hclock hclock' hnow hnow' hrest hfits hfits'
      | move m =>
          cases m with
          | set tick => exact hfirst.elim
          | advance ticks => exact hfirst.elim
          | advanceMs wait =>
              simp only [TimedAction.waitMs, ← Nat.add_assoc] at hfits hfits'
              subst hclock hclock'
              have hreached := ManualClock.advanceMs_toNat wait hnow
                (Nat.lt_of_le_of_lt (Nat.mul_le_mul_right _ (Nat.le_add_right _ _)) hfits)
              have hreached' := ManualClock.advanceMs_toNat wait hnow'
                (Nat.lt_of_le_of_lt (Nat.mul_le_mul_right _ (Nat.le_add_right _ _)) hfits')
              exact ih (hcores.later (Nat.le_add_right ms wait.toNat)) rfl rfl
                hreached hreached' hrest hfits hfits'

end Rates

def freshAtRate
    (lines : WiringTable) (stickInput : StickInput) (debounceMs rate : UInt64) : Core :=
  fresh lines { dwell := dwellOfMillis debounceMs rate, stickInput }

def clockAtRate (startMs : Nat) (rate : UInt64) : ManualClock :=
  ⟨UInt64.ofNat (startMs * rate.toNat), rate⟩

theorem freshAtRate_atRates
    (lines : WiringTable) (stickInput : StickInput) (startMs : Nat) {debounceMs rate rate' : UInt64}
    (hdwell : debounceMs.toNat * rate.toNat < UInt64.size)
    (hdwell' : debounceMs.toNat * rate'.toNat < UInt64.size) :
    AtRates rate rate' debounceMs.toNat startMs (freshAtRate lines stickInput debounceMs rate)
      (freshAtRate lines stickInput debounceMs rate') where
  lines := rfl
  stickInput := rfl
  lock := rfl
  dwell := by
    have hexact := dwellOfMillis_toNat debounceMs rate
    rwa [Nat.min_eq_left (Nat.le_sub_one_of_lt hdwell)] at hexact
  dwell' := by
    have hexact := dwellOfMillis_toNat debounceMs rate'
    rwa [Nat.min_eq_left (Nat.le_sub_one_of_lt hdwell')] at hexact
  history := by
    intro l
    have hzero : (History.initial.get l : Accepted) = {} := by simp [History.initial]
    simp only [freshAtRate, fresh, hzero]
    exact ⟨rfl, 0, Nat.zero_le startMs, by simp, by simp⟩

/-- A run that is told in milliseconds shows the same at every rate, poll by poll. -/
theorem rate_does_not_show
    (lines : WiringTable) (stickInput : StickInput) (debounceMs : UInt64) (startMs : Nat)
    {rate rate' : UInt64} (hrate : 1 ≤ rate) (hrate' : 1 ≤ rate')
    {script : List TimedAction} (hwaits : ∀ action ∈ script, action.OnlyWaits)
    (hdwell : debounceMs.toNat * rate.toNat < UInt64.size)
    (hdwell' : debounceMs.toNat * rate'.toNat < UInt64.size)
    (hfits : (startMs + totalMs script) * rate.toNat < UInt64.size)
    (hfits' : (startMs + totalMs script) * rate'.toNat < UInt64.size) :
    List.Forall₂ (Step.SameAtRates rate rate')
      ((freshAtRate lines stickInput debounceMs rate).run
        (timed (clockAtRate startMs rate) script))
      ((freshAtRate lines stickInput debounceMs rate').run
        (timed (clockAtRate startMs rate') script)) := by
  have hstarts : ∀ rate : UInt64, (startMs + totalMs script) * rate.toNat < UInt64.size →
      (clockAtRate startMs rate).now.toNat = startMs * rate.toNat := by
    intro rate hfits
    apply UInt64.toNat_ofNat_of_lt'
    exact Nat.lt_of_le_of_lt (Nat.mul_le_mul_right _ (Nat.le_add_right _ _)) hfits
  have hfresh := freshAtRate_atRates lines stickInput startMs hdwell hdwell'
  exact hfresh.run hrate hrate' rfl rfl (hstarts rate hfits) (hstarts rate' hfits') hwaits
    hfits hfits'

def pressAtFive : List TimedAction :=
  [.move (.advanceMs 4), .poll (.ok (Snapshot.released.assert [.button .start])) none,
    .setLocked true, .move (.advanceMs 1),
    .poll (.ok (Snapshot.released.assert [.button .start, .stick .up])) none,
    .poll (.error (.portFault "gpio0" "gone")) none, .setLocked false, .move (.advanceMs 4),
    .poll (.ok .released) none]

theorem pressAtFive_same :
    (∀ action ∈ pressAtFive, action.OnlyWaits) ∧
      List.Forall₂ (Step.SameAtRates 1000 32)
        ((freshAtRate {} .debounced 5 1000).run (timed (clockAtRate 0 1000) pressAtFive))
        ((freshAtRate {} .debounced 5 32).run (timed (clockAtRate 0 32) pressAtFive)) ∧
      ((freshAtRate {} .debounced 5 1000).run
          (timed (clockAtRate 0 1000) pressAtFive)).map
          (fun step => step.next.history.get (.button .start)) =
        [⟨false, 0⟩, ⟨false, 0⟩, ⟨true, 5000⟩, ⟨true, 5000⟩, ⟨true, 5000⟩, ⟨true, 5000⟩] := by
  have hwaits : ∀ action ∈ pressAtFive, action.OnlyWaits := by
    simp [pressAtFive, TimedAction.OnlyWaits]
  have hrate : (1 : UInt64) ≤ 1000 := by decide
  have hrate' : (1 : UInt64) ≤ 32 := by decide
  have hsame := rate_does_not_show {} .debounced 5 0 hrate hrate' hwaits
    (by decide) (by decide) (by decide) (by decide)
  exact ⟨hwaits, hsame, by decide +kernel⟩

end Core

end Gamepad
