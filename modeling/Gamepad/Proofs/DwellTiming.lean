import Gamepad.Proofs.Transcript

/-!
# Timing of the filtered lines

A signal of a run changes at most once within any time shorter than the dwell.  An input that is
seen for the dwell, but for no more than a full turn of the counter less the dwell, comes through.
-/

namespace Gamepad
namespace Core

def changeTimes
    (times : List Nat) (seen : List Observation) (signal : Observation → Bool) : List Nat :=
  changes false (times.zip (seen.map signal))

/-- At most one of the times lies in any window shorter than the dwell. -/
def OncePerDwell (dwell : UInt64) (times : List Nat) : Prop :=
  ∀ first last, last < first + dwell.toNat →
    times.countP (fun t => decide (first ≤ t ∧ t ≤ last)) ≤ 1

/-- How the signals of a run from creation keep the dwell, when its successful polls were made at
the given true times. -/
structure KeepsDwell (lines : WiringTable) (settings : Settings) (actions : List Action)
    (times : List Nat) : Prop where
  apart : ∀ l : Line,
    (changeTimes times ((fresh lines settings).transcript actions)
      fun o => o.filtered.get l).Pairwise fun s t => s + settings.dwell.toNat ≤ t
  late : ∀ l : Line, ∀ t ∈
    (changeTimes times ((fresh lines settings).transcript actions)
      fun o => o.filtered.get l).head?, settings.dwell ≤ UInt64.ofNat t
  buttons : ∀ b : Button, b ∉ [Button.select, .start, .home] →
    OncePerDwell settings.dwell
      (changeTimes times ((fresh lines settings).transcript actions)
        fun o => o.state.buttons.get b)
  lock : lines.contains (.mode .lock) = true →
    (∀ locked, Action.setLocked locked ∉ actions) →
      OncePerDwell settings.dwell
          (changeTimes times ((fresh lines settings).transcript actions) Observation.locked) ∧
        ∀ before rest, actions = before ++ rest →
          ((fresh lines settings).after before).lock.locked =
            ((((fresh lines settings).transcript before).getLast?.map
              Observation.locked).getD false)

theorem sightings_now (seen : List Observation) (l : Line) :
    (seen.map fun o => o.sighting l).map Sighting.now = seen.map Observation.now := by
  rw [List.map_map]
  rfl

theorem fresh_history (lines : WiringTable) (settings : Settings) (l : Line) :
    (fresh lines settings).history.get l = {} := by
  simp [fresh, History.initial]

theorem changeTimes_line
    (lines : WiringTable) (settings : Settings) (actions : List Action) (times : List Nat)
    (l : Line) :
    (changeTimes times ((fresh lines settings).transcript actions)
        fun o => o.filtered.get l) =
      changes false (times.zip
        ((({} : Accepted).trail settings.dwell
          (((fresh lines settings).transcript actions).map fun o => o.sighting l)).map
            Accepted.value)) := by
  have hfollows := (fresh lines settings).transcript_follows actions l
  rw [fresh_history] at hfollows
  unfold changeTimes
  rw [hfollows]
  rfl

theorem pairwise_changeTimes_line
    (lines : WiringTable) (settings : Settings) (actions : List Action) {times : List Nat}
    (htimes : TrueTimes times
      (((fresh lines settings).transcript actions).map Observation.now))
    (l : Line) :
    (changeTimes times ((fresh lines settings).transcript actions)
      fun o => o.filtered.get l).Pairwise fun s t => s + settings.dwell.toNat ≤ t := by
  rw [← sightings_now _ l] at htimes
  have hpairwise := Accepted.pairwise_changes_trail {} settings.dwell rfl
    (fun time _ => Nat.zero_le time) htimes
  rw [changeTimes_line]
  exact (List.pairwise_cons.mp hpairwise).2

theorem head_changeTimes_line
    (lines : WiringTable) (settings : Settings) (actions : List Action) {times : List Nat}
    (htimes : TrueTimes times
      (((fresh lines settings).transcript actions).map Observation.now))
    (l : Line) :
    ∀ t ∈ (changeTimes times ((fresh lines settings).transcript actions)
      fun o => o.filtered.get l).head?, settings.dwell ≤ UInt64.ofNat t := by
  rw [← sightings_now _ l] at htimes
  have hhead := Accepted.head_changes_trail {} settings.dwell htimes.shown
  rw [changeTimes_line]
  intro t ht
  have hdwell := hhead t ht
  have hzero : ({} : Accepted).since = 0 := rfl
  rwa [hzero, UInt64.sub_zero] at hdwell

theorem oncePerDwell_of_line
    (lines : WiringTable) (settings : Settings) (actions : List Action) {times : List Nat}
    (htimes : TrueTimes times
      (((fresh lines settings).transcript actions).map Observation.now))
    {signal : Observation → Bool} {l : Line}
    (hsignal : ∀ o ∈ (fresh lines settings).transcript actions,
      signal o = o.filtered.get l) :
    OncePerDwell settings.dwell
      (changeTimes times ((fresh lines settings).transcript actions) signal) := by
  have hsame :
      changeTimes times ((fresh lines settings).transcript actions) signal =
        changeTimes times ((fresh lines settings).transcript actions)
          fun o => o.filtered.get l := by
    unfold changeTimes
    rw [List.map_congr_left hsignal]
  rw [hsame]
  intro first last hshort
  exact countP_window_le_one
    (pairwise_changeTimes_line lines settings actions htimes l) hshort

/-- However often the counter wraps, no signal of a run changes twice within the dwell. -/
theorem run_keepsDwell
    (lines : WiringTable) (settings : Settings) (actions : List Action) {times : List Nat}
    (htimes : TrueTimes times
      (((fresh lines settings).transcript actions).map Observation.now)) :
    KeepsDwell lines settings actions times where
  apart := pairwise_changeTimes_line lines settings actions htimes
  late := head_changeTimes_line lines settings actions htimes
  buttons := by
    intro b hb
    have hmenu : b.isMenu = false := by
      cases b <;> simp_all [Button.isMenu]
    apply oncePerDwell_of_line lines settings actions htimes (l := .button b)
    intro o ho
    exact (transcript_shows _ actions ho).1 b hmenu
  lock := by
    intro hwired hmanual
    constructor
    · apply oncePerDwell_of_line lines settings actions htimes (l := .mode .lock)
      intro o ho
      exact (transcript_shows _ actions ho).2 hwired
    · intro before rest hsplit
      apply locked_after
      intro locked hmem
      apply hmanual locked
      rw [hsplit]
      exact List.mem_append_left rest hmem

def pressAcrossWrap : List Action :=
  [.poll ⟨.ok (Snapshot.released.assert [.button .south]), 18446744073709551613, none⟩,
    .poll ⟨.error (.portFault "gpio0" "gone"), 18446744073709551615, none⟩,
    .poll ⟨.ok .released, 1, none⟩,
    .setLocked true,
    .poll ⟨.ok .released, 2, none⟩]

theorem pressAcrossWrap_keepsDwell :
    TrueTimes [UInt64.size - 3, UInt64.size + 1, UInt64.size + 2]
        (((fresh {} { dwell := 5 }).transcript pressAcrossWrap).map Observation.now) ∧
      KeepsDwell {} { dwell := 5 } pressAcrossWrap
        [UInt64.size - 3, UInt64.size + 1, UInt64.size + 2] ∧
      changeTimes [UInt64.size - 3, UInt64.size + 1, UInt64.size + 2]
          ((fresh {} { dwell := 5 }).transcript pressAcrossWrap)
          (fun o => o.filtered.get (.button .south)) =
        [UInt64.size - 3, UInt64.size + 2] := by
  have htimes :
      TrueTimes [UInt64.size - 3, UInt64.size + 1, UInt64.size + 2]
        (((fresh {} { dwell := 5 }).transcript pressAcrossWrap).map Observation.now) :=
    { nondecreasing := by decide
      shown := rfl }
  exact ⟨htimes, run_keepsDwell {} { dwell := 5 } pressAcrossWrap htimes, by decide +kernel⟩

/-! ## Inputs that are held -/

theorem sightings_raw
    {seen : List Observation} {l : Line} {v : Bool} (hraw : ∀ o ∈ seen, o.raw.get l = v) :
    ∀ s ∈ seen.map fun o => o.sighting l, s.raw = v := by
  intro s hs
  obtain ⟨o, ho, rfl⟩ := List.mem_map.mp hs
  exact hraw o ho

theorem getLast?_filtered
    {dwell : UInt64} {l : Line} {record : Accepted} {seen : List Observation}
    (hfollows : FollowsRecord dwell l record seen) (hne : seen ≠ []) :
    ∃ o, seen.getLast? = some o ∧
      o.filtered.get l =
        (record.final dwell (seen.map fun o => o.sighting l)).value := by
  have hsightings : (seen.map fun o => o.sighting l) ≠ [] := by
    simpa using hne
  have hlast := record.getLast?_trail dwell hsightings
  have hmap := congrArg List.getLast? hfollows
  rw [List.getLast?_map, List.getLast?_map, hlast, Option.map_some] at hmap
  obtain ⟨o, ho, hvalue⟩ := Option.map_eq_some_iff.mp hmap
  exact ⟨o, ho, hvalue⟩

theorem filtered_of_value
    {dwell : UInt64} {l : Line} {record : Accepted} {seen : List Observation} {v : Bool}
    (hfollows : FollowsRecord dwell l record seen)
    (hvalue : record.value = v) (hraw : ∀ o ∈ seen, o.raw.get l = v) :
    ∀ o ∈ seen, o.filtered.get l = v := by
  have hkept := Accepted.trail_eq_of_value hvalue dwell (sightings_raw hraw)
  intro o ho
  have hmem : o.filtered.get l ∈
      (record.trail dwell (seen.map fun o => o.sighting l)).map Accepted.value := by
    rw [← hfollows]
    exact List.mem_map_of_mem ho
  obtain ⟨kept, hmemKept, hkeptValue⟩ := List.mem_map.mp hmem
  rw [← hkeptValue, hkept kept hmemKept]
  exact hvalue

/-- An input that every successful poll from `first` to `last` sees has passed the filter at
`last`, whatever the records held before, and stays for as long as it is seen. -/
theorem held_input_passes
    (core : Core) (actions : List Action) (l : Line) (v : Bool)
    {earlier held later : List Observation}
    (hsplit : core.transcript actions = earlier ++ (held ++ later))
    (hraw : ∀ o ∈ held, o.raw.get l = v)
    {times : List Nat} (htimes : TrueTimes times (held.map Observation.now))
    {first last : Nat}
    (hfirst : times.head? = some first) (hlast : times.getLast? = some last)
    (hlong : first + core.settings.dwell.toNat ≤ last)
    (hshort : last + core.settings.dwell.toNat ≤ first + UInt64.size) :
    (∃ o, held.getLast? = some o ∧ o.filtered.get l = v) ∧
      ∀ steady rest, later = steady ++ rest → (∀ o ∈ steady, o.raw.get l = v) →
        ∀ o ∈ steady, o.filtered.get l = v := by
  have hfollows := core.transcript_follows actions l
  rw [hsplit] at hfollows
  obtain ⟨hfollowsHeld, hfollowsLater⟩ := hfollows.split.2.split
  have hne : held ≠ [] := by
    rintro rfl
    have hshown := htimes.shown
    rw [List.map_nil, eq_comm, List.map_eq_nil_iff] at hshown
    rw [hshown] at hfirst
    simp at hfirst
  have hshown :
      (held.map fun o => o.sighting l).map Sighting.now = times.map UInt64.ofNat := by
    rw [sightings_now]
    exact htimes.shown
  have hfinal := Accepted.final_value_of_held
    ((core.history.get l).final core.settings.dwell (earlier.map fun o => o.sighting l))
    (sightings_raw hraw) hshown hfirst hlast hlong hshort
  constructor
  · obtain ⟨o, ho, hvalue⟩ := getLast?_filtered hfollowsHeld hne
    exact ⟨o, ho, hvalue.trans hfinal⟩
  · intro steady rest hlater hsteady
    rw [hlater] at hfollowsLater
    exact filtered_of_value hfollowsLater.split.1 hfinal hsteady

/-- A core whose record of one line is several turns of the counter old, so that its tick looks
recent. -/
def staleCore : Core where
  lines := {}
  settings := { dwell := 5 }
  history := History.initial.set (.button .south) ⟨false, 18446744073709551614⟩

def heldPress : List Action :=
  [.poll ⟨.ok (Snapshot.released.assert [.button .south]), 18446744073709551615, none⟩,
    .poll ⟨.error (.portFault "gpio0" "gone"), 0, none⟩,
    .poll ⟨.ok (Snapshot.released.assert [.button .south]), 2, none⟩,
    .poll ⟨.ok (Snapshot.released.assert [.button .south]), 4, none⟩]

theorem heldPress_passes :
    (∀ o ∈ staleCore.transcript heldPress, o.raw.get (.button .south) = true) ∧
      TrueTimes [7 * UInt64.size - 1, 7 * UInt64.size + 2, 7 * UInt64.size + 4]
        ((staleCore.transcript heldPress).map Observation.now) ∧
      ∃ o, (staleCore.transcript heldPress).getLast? = some o ∧
        o.filtered.get (.button .south) = true := by
  have hraw : ∀ o ∈ staleCore.transcript heldPress, o.raw.get (.button .south) = true := by
    decide +kernel
  have htimes :
      TrueTimes [7 * UInt64.size - 1, 7 * UInt64.size + 2, 7 * UInt64.size + 4]
        ((staleCore.transcript heldPress).map Observation.now) :=
    { nondecreasing := by decide
      shown := rfl }
  have hsplit : staleCore.transcript heldPress =
      [] ++ (staleCore.transcript heldPress ++ []) := by
    simp
  have hpasses := held_input_passes staleCore heldPress (.button .south) true
    hsplit hraw htimes rfl rfl (by decide) (by decide)
  exact ⟨hraw, htimes, hpasses.1⟩

end Core

end Gamepad
