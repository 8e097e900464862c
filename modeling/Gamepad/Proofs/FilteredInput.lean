import Gamepad.Proofs.RecordedChanges

/-!
# The filter adds nothing

A change of the filtered value uses up a change of the raw one that came before it or comes with it,
and the two differ only for as long as the last change is more recent than the dwell.
-/

namespace Gamepad

theorem length_changes_cons
    {κ : Type} (value : Bool) (key : κ) (next : Bool) (rest : List (κ × Bool)) :
    (changes value ((key, next) :: rest)).length =
      (changes next rest).length + (next != value).toNat := by
  rw [changes]
  by_cases hsame : next = value
  · simp [hsame]
  · simp [hsame, bne_iff_ne.mpr hsame]

theorem toNat_bne_triangle (a b c : Bool) :
    (a != b).toNat ≤ (a != c).toNat + (b != c).toNat := by
  revert a b c
  decide

namespace Accepted

/-- The record has changed no more often than the line, whose changes are counted from a value that
may be one change ahead of the record. -/
theorem length_changes_trail_le
    (held : Accepted) (dwell : UInt64) (shown : Bool) (sightings : List Sighting) :
    (changes held.value ((sightings.map Sighting.now).zip
        ((held.trail dwell sightings).map Accepted.value))).length ≤
      (changes shown (sightings.map fun s => (s.now, s.raw))).length +
        (held.value != shown).toNat := by
  induction sightings generalizing held shown with
  | nil => exact Nat.zero_le _
  | cons s rest ih =>
      have hrest := ih (held.observe dwell s.raw s.now) s.raw
      have hstep : ((held.observe dwell s.raw s.now).value != s.raw).toNat +
          ((held.observe dwell s.raw s.now).value != held.value).toNat =
            (held.value != s.raw).toNat := by
        rcases held.observe_cases dwell s.raw s.now with ⟨hkept, _⟩ | ⟨hnew, _⟩
        · simp [hkept]
        · simp [hnew, bne_comm]
      have hahead := toNat_bne_triangle held.value s.raw shown
      simp only [trail, List.map_cons, List.zip_cons_cons, length_changes_cons]
      omega

end Accepted

namespace Core

theorem changeTicks_raw (seen : List Observation) (l : Line) :
    (changeTicks seen fun o => o.raw.get l) =
      changes false ((seen.map fun o => o.sighting l).map fun s => (s.now, s.raw)) := by
  rw [List.map_map]
  rfl

theorem filtered_of_split
    (lines : WiringTable) (settings : Settings) (actions : List Action) (l : Line)
    {earlier later : List Observation} {o : Observation}
    (hsplit : (fresh lines settings).transcript actions = earlier ++ o :: later) :
    o.filtered.get l =
      ((recordOf earlier l).observe settings.dwell (o.raw.get l) o.now).value := by
  have hfollows := fresh_follows lines settings actions l
  rw [hsplit] at hfollows
  obtain ⟨hearlier, hrest⟩ := hfollows.split
  have hrecord := final_eq_recordOf hearlier
  unfold FollowsRecord at hrest
  rw [hrecord] at hrest
  exact (List.cons.inj hrest).1

/-- How the filtered values of a line go by what the line has shown. -/
structure FollowsInput (dwell : UInt64) (l : Line) (seen : List Observation) : Prop where
  shown : ∀ earlier o later, seen = earlier ++ o :: later →
    o.filtered.get l ≠ lastValue earlier (fun o => o.filtered.get l) →
      o.raw.get l = o.filtered.get l
  fewer : ∀ n, (changeTicks (seen.take n) fun o => o.filtered.get l).length ≤
    (changeTicks (seen.take n) fun o => o.raw.get l).length
  recent : ∀ earlier o later, seen = earlier ++ o :: later →
    o.filtered.get l ≠ o.raw.get l →
      o.now - lastChange earlier (fun o => o.filtered.get l) < dwell

/-- However the counter runs, the filtered values of a run from creation follow what was shown. -/
theorem filter_follows_input
    (lines : WiringTable) (settings : Settings) (actions : List Action) (l : Line) :
    FollowsInput settings.dwell l ((fresh lines settings).transcript actions) where
  shown := by
    intro earlier o later hsplit hchanged
    rw [filtered_of_split lines settings actions l hsplit] at hchanged ⊢
    rcases (recordOf earlier l).observe_cases settings.dwell (o.raw.get l) o.now with
      ⟨hkept, _⟩ | ⟨hnew, _⟩
    · rw [hkept] at hchanged
      exact absurd rfl hchanged
    · rw [hnew]
  fewer := by
    intro n
    have hfollows := fresh_follows lines settings actions l
    rw [← List.take_append_drop n ((fresh lines settings).transcript actions)] at hfollows
    rw [changeTicks_line hfollows.split.1, changeTicks_raw]
    exact Accepted.length_changes_trail_le {} settings.dwell false _
  recent := by
    intro earlier o later hsplit hdiffers
    rw [filtered_of_split lines settings actions l hsplit] at hdiffers
    rcases (recordOf earlier l).observe_cases settings.dwell (o.raw.get l) o.now with
      ⟨hkept, hsame | hrecent⟩ | ⟨hnew, _⟩
    · rw [hkept] at hdiffers
      exact absurd hsame.symm hdiffers
    · exact hrecent
    · rw [hnew] at hdiffers
      exact absurd rfl hdiffers

def bouncingPress : List Action :=
  [.poll ⟨.ok (Snapshot.released.assert [.button .south]), 9, none⟩,
    .poll ⟨.ok .released, 11, none⟩,
    .poll ⟨.ok (Snapshot.released.assert [.button .south]), 12, none⟩,
    .poll ⟨.ok .released, 14, none⟩]

example :
    let seen := (fresh {} { dwell := 5 }).transcript bouncingPress
    (changeTicks seen fun o => o.filtered.get (.button .south)) = [9, 14] ∧
      (changeTicks seen fun o => o.raw.get (.button .south)) = [9, 11, 12, 14] := by
  decide +kernel

end Core

end Gamepad
