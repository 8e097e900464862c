import Gamepad.Proofs.DwellTiming

/-!
# What the records tell

A record holds the filtered value that its line showed last, and the reading of the counter at which
that value last changed.  Nothing is assumed of the counter.
-/

namespace Gamepad

/-! ## One record -/

namespace Accepted

theorem value_final (held : Accepted) (dwell : UInt64) (sightings : List Sighting) :
    (held.final dwell sightings).value =
      ((held.trail dwell sightings).map Accepted.value).getLastD held.value := by
  induction sightings generalizing held with
  | nil => rfl
  | cons sighting rest ih =>
      rw [final_cons, ih, trail, List.map_cons, List.getLastD_cons]

theorem since_final (held : Accepted) (dwell : UInt64) (sightings : List Sighting) :
    (held.final dwell sightings).since =
      (changes held.value ((sightings.map Sighting.now).zip
        ((held.trail dwell sightings).map Accepted.value))).getLastD held.since := by
  induction sightings generalizing held with
  | nil => rfl
  | cons sighting rest ih =>
      rw [final_cons, ih]
      simp only [trail, List.map_cons, List.zip_cons_cons, changes]
      rcases held.observe_cases dwell sighting.raw sighting.now with
        ⟨hkept, _⟩ | ⟨hnew, hraw, _⟩
      · rw [hkept, if_pos rfl]
      · rw [hnew, if_neg hraw, List.getLastD_cons]

theorem since_of_changed
    {held : Accepted} {dwell : UInt64} {raw : Bool} {now : Tick}
    (hchanged : held.observe dwell raw now ≠ held) : (held.observe dwell raw now).since = now := by
  rcases held.observe_cases dwell raw now with ⟨hkept, _⟩ | ⟨hnew, _⟩
  · exact absurd hkept hchanged
  · rw [hnew]

end Accepted

namespace Core

/-! ## Signals of a transcript -/

def lastValue (seen : List Observation) (signal : Observation → Bool) : Bool :=
  (seen.map signal).getLastD false

def changeTicks (seen : List Observation) (signal : Observation → Bool) : List Tick :=
  changes false (seen.map fun o => (o.now, signal o))

/-- The reading at which a signal changed last, and the tick 0 if it never did. -/
def lastChange (seen : List Observation) (signal : Observation → Bool) : Tick :=
  (changeTicks seen signal).getLastD 0

def recordOf (seen : List Observation) (l : Line) : Accepted :=
  ⟨lastValue seen fun o => o.filtered.get l, lastChange seen fun o => o.filtered.get l⟩

theorem changeTicks_line
    {dwell : UInt64} {l : Line} {seen : List Observation}
    (hfollows : FollowsRecord dwell l {} seen) :
    (changeTicks seen fun o => o.filtered.get l) =
      changes false (((seen.map fun o => o.sighting l).map Sighting.now).zip
        ((({} : Accepted).trail dwell (seen.map fun o => o.sighting l)).map Accepted.value)) := by
  rw [sightings_now, ← hfollows, List.zip_map']
  rfl

theorem final_eq_recordOf
    {dwell : UInt64} {l : Line} {seen : List Observation}
    (hfollows : FollowsRecord dwell l {} seen) :
    ({} : Accepted).final dwell (seen.map fun o => o.sighting l) = recordOf seen l := by
  have hvalue := Accepted.value_final {} dwell (seen.map fun o => o.sighting l)
  have hsince := Accepted.since_final {} dwell (seen.map fun o => o.sighting l)
  rw [← hfollows] at hvalue
  rw [← changeTicks_line hfollows] at hsince
  calc
    ({} : Accepted).final dwell (seen.map fun o => o.sighting l) =
        ⟨(({} : Accepted).final dwell (seen.map fun o => o.sighting l)).value,
          (({} : Accepted).final dwell (seen.map fun o => o.sighting l)).since⟩ := rfl
    _ = recordOf seen l := by
      rw [hvalue, hsince]
      rfl

/-! ## Whole runs -/

theorem fresh_follows
    (lines : WiringTable) (settings : Settings) (actions : List Action) (l : Line) :
    FollowsRecord settings.dwell l {} ((fresh lines settings).transcript actions) := by
  have hfollows := (fresh lines settings).transcript_follows actions l
  rwa [fresh_history] at hfollows

theorem after_history (core : Core) (actions : List Action) (l : Line) :
    (core.after actions).history.get l =
      (core.history.get l).final core.settings.dwell
        ((core.transcript actions).map fun o => o.sighting l) := by
  induction actions generalizing core with
  | nil => rfl
  | cons action rest ih =>
      obtain ⟨_, hsettings, hhistory⟩ := core.act_frame action
      have hafter : core.after (action :: rest) = (core.act action).next.after rest := rfl
      rw [hafter, ih, hsettings, transcript_cons]
      rcases core.act_cases action with ⟨hnone, _⟩ | ⟨raw, now, payload, _, hshown, hnext⟩
      · rw [hnone, hhistory hnone]
        rfl
      · rw [hshown, hnext, History.observe_get]
        rfl

theorem fresh_after_history
    (lines : WiringTable) (settings : Settings) (actions : List Action) (l : Line) :
    ((fresh lines settings).after actions).history.get l =
      recordOf ((fresh lines settings).transcript actions) l := by
  rw [after_history, fresh_history]
  exact final_eq_recordOf (fresh_follows lines settings actions l)

/-- What the records of a core tell of the run that it went through. -/
structure Summarises (history : History) (seen : List Observation) : Prop where
  value : ∀ l, (history.get l).value = lastValue seen fun o => o.filtered.get l
  since : ∀ l, (history.get l).since = lastChange seen fun o => o.filtered.get l
  buttons : ∀ b ∉ [Button.select, .start, .home],
    (history.get (.button b)).value = lastValue seen fun o => o.state.buttons.get b

/-- However the counter ran, the records of a core sum up the filtered values that its successful
polls showed.  Nothing else touches them, and one poll stamps all of its changes alike. -/
theorem records_summarise_run
    (lines : WiringTable) (settings : Settings) (actions : List Action) :
    let core := (fresh lines settings).after actions
    Summarises core.history ((fresh lines settings).transcript actions) ∧
      (∀ locked, (core.setLocked locked).next.history = core.history) ∧
      (∀ fault now payload, (core.poll ⟨.error fault, now, payload⟩).next.history = core.history) ∧
      ∀ raw now payload l,
        let next := (core.poll ⟨.ok raw, now, payload⟩).next.history
        next.get l ≠ core.history.get l → (next.get l).since = now := by
  intro core
  refine ⟨?_, fun _ => rfl, fun _ _ _ => rfl, ?_⟩
  · have hrecord := fresh_after_history lines settings actions
    constructor
    · intro l
      rw [hrecord]
      rfl
    · intro l
      rw [hrecord]
      rfl
    · intro b hb
      have hshown : ∀ o ∈ (fresh lines settings).transcript actions,
          o.state.buttons.get b = o.filtered.get (.button b) :=
        fun o ho => (transcript_shows _ actions ho).1 b (Button.isMenu_eq_false hb)
      rw [hrecord, lastValue, List.map_congr_left hshown]
      rfl
  · intro raw now payload l next hchanged
    have hnext : next.get l =
        (core.history.get l).observe core.settings.dwell (raw.get l) now :=
      History.observe_get _ _ _ _ _
    rw [hnext] at hchanged ⊢
    exact Accepted.since_of_changed hchanged

def clockSetBack : List Action :=
  [.poll ⟨.ok (Snapshot.released.assert [.button .south]), 9, none⟩,
    .poll ⟨.error (.portFault "gpio0" "gone"), 12, none⟩,
    .setLocked true,
    .poll ⟨.ok .released, 3, none⟩,
    .poll ⟨.ok (Snapshot.released.assert [.button .south]), 6, none⟩]

theorem clockSetBack_summarised :
    let core := (fresh {} { dwell := 5 }).after clockSetBack
    let seen := (fresh {} { dwell := 5 }).transcript clockSetBack
    let next := (core.poll
      ⟨.ok (Snapshot.released.assert [.button .south]), 8, none⟩).next.history
    (changeTicks seen fun o => o.filtered.get (.button .south)) = [9, 3] ∧
      Summarises core.history seen ∧
      (core.history.get (.button .south)).since = 3 ∧
      next.get (.button .south) ≠ core.history.get (.button .south) ∧
      (next.get (.button .south)).since = 8 := by
  intro core seen next
  obtain ⟨hsummary, _, _, hstamp⟩ := records_summarise_run {} { dwell := 5 } clockSetBack
  have hticks : (changeTicks seen fun o => o.filtered.get (.button .south)) = [9, 3] := by
    decide +kernel
  have hsince : (core.history.get (.button .south)).since = 3 := by
    rw [hsummary.since, lastChange, hticks]
    rfl
  have hchanged : next.get (.button .south) ≠ core.history.get (.button .south) := by
    decide +kernel
  exact ⟨hticks, hsummary, hsince, hchanged, hstamp _ _ _ _ hchanged⟩

end Core

end Gamepad
