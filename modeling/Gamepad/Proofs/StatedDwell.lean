import Gamepad.Configuration
import Gamepad.Proofs.DwellTiming
import Gamepad.Proofs.TimedRuns

/-!
# The dwell that a configuration states

The dwell in ticks stops at the largest counter value, while the clock wraps.  Up to half a turn of
the counter, an input that is held for the stated milliseconds passes, whatever the records say.
Beyond, there is always a tick to start from at which the input is too early at both ends.
-/

namespace Gamepad

/-! ## Half a turn of the counter -/

theorem Accepted.trail_eq_of_recent
    {held : Accepted} {dwell : UInt64} {sightings : List Sighting}
    (hrecent : ∀ sighting ∈ sightings, sighting.now - held.since < dwell) :
    ∀ record ∈ held.trail dwell sightings, record = held := by
  induction sightings with
  | nil => simp [trail]
  | cons sighting rest ih =>
      have hkept : held.observe dwell sighting.raw sighting.now = held := by
        simp [observe, hrecent sighting List.mem_cons_self]
      have hrest := ih fun later hlater => hrecent later (List.mem_cons_of_mem _ hlater)
      simpa [trail, hkept] using hrest

theorem not_recent_after_wait
    {dwell since now : UInt64} {ticks : Nat} (hdwell : dwell.toNat = ticks)
    (hhalf : ticks ≤ UInt64.size / 2) (hrecent : now - since < dwell) :
    ¬ now + UInt64.ofNat ticks - since < dwell := by
  have hnow : now = UInt64.ofNat now.toNat := by simp
  rw [hnow] at hrecent ⊢
  rw [← UInt64.ofNat_add]
  simp only [UInt64.size] at hhalf
  apply not_recent_of_recent _ _ hrecent
  · omega
  · simp only [UInt64.size]
    omega

theorem exists_recent_wait
    {dwell : UInt64} {ticks : Nat} (hdwell : dwell.toNat = min ticks (UInt64.size - 1))
    (hhalf : UInt64.size / 2 < ticks) :
    ∃ now : UInt64, now < dwell ∧ now + UInt64.ofNat ticks < dwell := by
  suffices hnat : ∃ now < 2 ^ 64, now < dwell.toNat ∧ (now + ticks) % 2 ^ 64 < dwell.toNat by
    obtain ⟨now, hlt, hfirst, hlast⟩ := hnat
    refine ⟨UInt64.ofNat now, ?_, ?_⟩
    · rwa [UInt64.lt_iff_toNat_lt, UInt64.toNat_ofNat_of_lt' hlt]
    · rwa [UInt64.lt_iff_toNat_lt, ← UInt64.ofNat_add, UInt64.toNat_ofNat']
  simp only [UInt64.size] at hdwell hhalf
  by_cases hfits : ticks < 2 ^ 64
  · -- The wait ends where the counter shows zero.
    exact ⟨2 ^ 64 - ticks, by omega, by omega, by omega⟩
  · -- The dwell is the largest counter value, which only one elapsed time reaches.
    by_cases hlast : ticks % 2 ^ 64 = 2 ^ 64 - 1
    · exact ⟨1, by omega, by omega, by omega⟩
    · exact ⟨0, by omega, by omega, by omega⟩

/-! ## Inputs that are held while the clock waits -/

namespace Core

/-- An input that every successful poll sees, from one to another between which the clock waits for
`ms` milliseconds in all, has passed the filter at the other. -/
def PassesAfter (core : Core) (clock : ManualClock) (ms : Nat) : Prop :=
  ∀ (l : Line) (v : Bool) (first last : Snapshot) (payload payload' : Option Touchpad)
    (between : List TimedAction),
    (∀ action ∈ between, action.OnlyWaits) → totalMs between = ms →
      let seen := core.transcript (timed clock
        (.poll (.ok first) payload :: between ++ [.poll (.ok last) payload']))
      (∀ o ∈ seen, o.raw.get l = v) → ∃ o, seen.getLast? = some o ∧ o.filtered.get l = v

theorem transcript_between
    (core : Core) (clock : ManualClock) (first last : Snapshot) (payload payload' : Option Touchpad)
    {between : List TimedAction} (hwaits : ∀ action ∈ between, action.OnlyWaits) :
    ∃ opening middle closing,
      core.transcript (timed clock
          (.poll (.ok first) payload :: between ++ [.poll (.ok last) payload'])) =
        opening :: middle ++ [closing] ∧
      opening.now = clock.now ∧
      closing.now = clock.now + UInt64.ofNat (totalMs between * clock.ticksPerMs.toNat) := by
  rw [timed_append, transcript_append]
  refine ⟨_, _, _, rfl, rfl, ?_⟩
  rw [← clockAfter_now clock hwaits]
  rfl

theorem passesAfter_of_half_turn
    {core : Core} {clock : ManualClock} {ms : Nat}
    (hdwell : core.settings.dwell.toNat = ms * clock.ticksPerMs.toNat)
    (hhalf : ms * clock.ticksPerMs.toNat ≤ UInt64.size / 2) : core.PassesAfter clock ms := by
  intro l v first last payload payload' between hwaits htotal seen hraw
  obtain ⟨opening, middle, closing, hseen, hopening, hclosing⟩ :=
    core.transcript_between clock first last payload payload' hwaits
  have hfollows := core.transcript_follows
    (timed clock (.poll (.ok first) payload :: between ++ [.poll (.ok last) payload'])) l
  have hne : seen ≠ [] := by
    rw [show seen = _ from hseen]
    simp
  obtain ⟨o, hlast, hvalue⟩ := getLast?_filtered hfollows hne
  refine ⟨o, hlast, ?_⟩
  rw [hvalue]
  -- Otherwise the record never moved, and its tick held back both ends.
  apply Decidable.byContradiction
  intro hswallowed
  have hrecent := Accepted.recent_of_final_ne (sightings_raw hraw) hswallowed
  have hends : ∀ o ∈ seen, o.now - (core.history.get l).since < core.settings.dwell :=
    fun o ho => hrecent (o.sighting l) (List.mem_map_of_mem ho)
  rw [show seen = _ from hseen] at hends
  have hearly := hends opening (by simp)
  have hlate := hends closing (by simp)
  rw [hopening] at hearly
  rw [hclosing, htotal] at hlate
  exact not_recent_after_wait hdwell hhalf hearly hlate

theorem filtered_of_recent
    {core : Core} {actions : List Action} {l : Line}
    (hrecent : ∀ o ∈ core.transcript actions,
      o.now - (core.history.get l).since < core.settings.dwell) :
    ∀ o ∈ core.transcript actions, o.filtered.get l = (core.history.get l).value := by
  have hsightings : ∀ s ∈ (core.transcript actions).map fun o => o.sighting l,
      s.now - (core.history.get l).since < core.settings.dwell := by
    intro s hs
    obtain ⟨o, ho, rfl⟩ := List.mem_map.mp hs
    exact hrecent o ho
  have hkept := Accepted.trail_eq_of_recent hsightings
  intro o ho
  have hmem : o.filtered.get l ∈ (core.transcript actions).map fun o => o.filtered.get l :=
    List.mem_map_of_mem ho
  rw [core.transcript_follows actions l] at hmem
  obtain ⟨record, hrecord, hvalue⟩ := List.mem_map.mp hmem
  rw [← hvalue, hkept record hrecord]

theorem not_passesAfter_of_recent
    (lines : WiringTable) (settings : Settings) {start : Tick} {ticksPerMs ms : UInt64}
    (hearly : start < settings.dwell) (hlate : start + ms * ticksPerMs < settings.dwell) :
    ¬ (fresh lines settings).PassesAfter ⟨start, ticksPerMs⟩ ms.toNat := by
  intro hpasses
  let press : Snapshot := Snapshot.released.assert [.button .south]
  let wait : List TimedAction := [.move (.advanceMs ms)]
  let seen := (fresh lines settings).transcript (timed ⟨start, ticksPerMs⟩
    (.poll (.ok press) none :: wait ++ [.poll (.ok press) none]))
  have hraws : seen.map Observation.raw = [press, press] := rfl
  have hticks : seen.map Observation.now = [start, start + ms * ticksPerMs] := rfl
  have hpressed : ∀ o ∈ seen, o.raw.get (.button .south) = true := by
    intro o ho
    have hraw : o.raw ∈ [press, press] := hraws ▸ List.mem_map_of_mem ho
    have hpress : o.raw = press := by simpa using hraw
    rw [hpress]
    decide
  have hrecent : ∀ o ∈ seen,
      o.now - ((fresh lines settings).history.get (.button .south)).since < settings.dwell := by
    intro o ho
    have hzero : o.now - ({} : Accepted).since = o.now := UInt64.sub_zero o.now
    have hnow : o.now ∈ [start, start + ms * ticksPerMs] := hticks ▸ List.mem_map_of_mem ho
    simp only [List.mem_cons, List.not_mem_nil, or_false] at hnow
    rw [fresh_history, hzero]
    rcases hnow with hfirst | hlast
    · rwa [hfirst]
    · rwa [hlast]
  have hreleased := filtered_of_recent hrecent
  obtain ⟨o, hlast, hpassed⟩ := hpasses (.button .south) true press press none none wait
    (by simp [wait, TimedAction.OnlyWaits]) (by simp [wait, totalMs, TimedAction.waitMs]) hpressed
  have hheld := hreleased o (List.mem_of_getLast? hlast)
  rw [hpassed, fresh_history] at hheld
  contradiction

end Core

/-! ## Configurations -/

namespace Configuration

/-- A core of the configuration, whatever happened to it before, lets an input pass that is held for
the stated milliseconds on a clock of the stated rate. -/
def Debounces (c : Configuration) (table : WiringTable) : Prop :=
  ∀ (before : List Core.Action) (now : Tick),
    ((Core.fresh table c.settings).after before).PassesAfter
      ⟨now, c.ticksPerMs⟩ c.debounceMs.toNat

def statedTicks (c : Configuration) : Nat :=
  c.debounceMs.toNat * c.ticksPerMs.toNat

theorem settings_dwell_toNat (c : Configuration) :
    c.settings.dwell.toNat = min c.statedTicks (UInt64.size - 1) :=
  dwellOfMillis_toNat c.debounceMs c.ticksPerMs

theorem lineTable_of_validate {c : Configuration} (hvalid : c.validate = .ok ()) :
    ∃ table, c.lineTable = .ok table := by
  cases htable : c.lineTable with
  | ok table => exact ⟨table, rfl⟩
  | error cause =>
      simp only [validate, htable] at hvalid
      split at hvalid
      · contradiction
      · split at hvalid
        · contradiction
        · split at hvalid <;> contradiction

theorem debounces_of_half_turn
    {c : Configuration} (table : WiringTable) (hhalf : c.statedTicks ≤ UInt64.size / 2) :
    c.Debounces table := by
  intro before now
  have hfits : min c.statedTicks (UInt64.size - 1) = c.statedTicks := by
    simp only [UInt64.size] at hhalf ⊢
    omega
  have hdwell :
      ((Core.fresh table c.settings).after before).settings.dwell.toNat = c.statedTicks := by
    rw [Core.after_settings]
    exact c.settings_dwell_toNat.trans hfits
  exact Core.passesAfter_of_half_turn hdwell hhalf

theorem not_debounces_of_early
    {c : Configuration} (table : WiringTable) (start : Tick)
    (hearly : start < c.settings.dwell)
    (hlate : start + c.debounceMs * c.ticksPerMs < c.settings.dwell) :
    ¬ c.Debounces table := by
  intro hdebounces
  exact Core.not_passesAfter_of_recent table c.settings hearly hlate (hdebounces [] start)

theorem not_debounces_of_long
    {c : Configuration} (table : WiringTable) (hlong : UInt64.size / 2 < c.statedTicks) :
    ¬ c.Debounces table := by
  obtain ⟨start, hearly, hlate⟩ := exists_recent_wait c.settings_dwell_toNat hlong
  have hwait : UInt64.ofNat c.statedTicks = c.debounceMs * c.ticksPerMs := by
    simp [statedTicks]
  rw [hwait] at hlate
  exact not_debounces_of_early table start hearly hlate

/-- A valid configuration has a wiring table, and a dwell of the stated ticks or the largest there
is.  Its cores debounce by the stated time exactly if that is at most half a turn of the counter. -/
theorem validated_debounces {c : Configuration} (hvalid : c.validate = .ok ()) :
    ∃ table, c.lineTable = .ok table ∧
      c.settings.dwell.toNat = min c.statedTicks (UInt64.size - 1) ∧
      (c.Debounces table ↔ c.statedTicks ≤ UInt64.size / 2) := by
  obtain ⟨table, htable⟩ := lineTable_of_validate hvalid
  refine ⟨table, htable, c.settings_dwell_toNat, ?_, debounces_of_half_turn table⟩
  intro hdebounces
  apply Nat.le_of_not_lt
  intro hlong
  exact not_debounces_of_long table hlong hdebounces

theorem defaults_debounce :
    ({} : Configuration).validate = .ok () ∧
      ∃ table, ({} : Configuration).lineTable = .ok table ∧
        ({} : Configuration).Debounces table := by
  have hvalid : ({} : Configuration).validate = .ok () := by rfl
  obtain ⟨table, htable, -, hdebounces⟩ := validated_debounces hvalid
  exact ⟨hvalid, table, htable, hdebounces.mpr (by decide)⟩

/-- The stated ticks are a whole turn of the counter, so that the clock ends where it began. -/
def wholeTurn : Configuration where
  debounceMs := 4611686018427387904
  ticksPerMs := 4
  acquisition := .external

/-- The stated ticks are two more than half a turn. -/
def overHalfTurn : Configuration where
  debounceMs := 4611686018427387905
  ticksPerMs := 2
  acquisition := .external

/-- A valid configuration can have a shorter dwell than it states; and even one whose dwell is as
stated can ignore a held input. -/
theorem validated_may_ignore_input :
    (wholeTurn.validate = .ok () ∧ wholeTurn.settings.dwell.toNat ≠ wholeTurn.statedTicks ∧
      ∃ table, wholeTurn.lineTable = .ok table ∧ ¬ wholeTurn.Debounces table) ∧
    (overHalfTurn.validate = .ok () ∧
      overHalfTurn.settings.dwell.toNat = overHalfTurn.statedTicks ∧
      ∃ table, overHalfTurn.lineTable = .ok table ∧ ¬ overHalfTurn.Debounces table) := by
  refine ⟨⟨rfl, by decide, {}, rfl, ?_⟩, ⟨rfl, by decide, {}, rfl, ?_⟩⟩
  · exact not_debounces_of_early {} 0 (by decide) (by decide)
  · exact not_debounces_of_early {} 9223372036854775806 (by decide) (by decide)

end Configuration

end Gamepad
