import Gamepad.Dwell

/-!
# Runs of the dwell filter

This module follows the record of one line.  While the counter shows a true time that never runs
backwards, accepted changes are at least the dwell apart however often it wrapped between them; and
no stored tick can hold back a value that is seen for long enough.
-/

namespace Gamepad

/-- The keys at which a signal takes another value than before, where it starts at `value`. -/
def changes {κ : Type} (value : Bool) : List (κ × Bool) → List κ
  | [] => []
  | (key, next) :: rest =>
    if next = value then changes value rest
    else key :: changes next rest

/-- Readings of a 64-bit counter and the unbounded times at which they were taken. -/
structure TrueTimes (times : List Nat) (readings : List Tick) : Prop where
  nondecreasing : times.Pairwise (· ≤ ·)
  shown : readings = times.map UInt64.ofNat

theorem TrueTimes.tail
    {time : Nat} {times : List Nat} {reading : Tick} {readings : List Tick}
    (htimes : TrueTimes (time :: times) (reading :: readings)) :
    TrueTimes times readings where
  nondecreasing := (List.pairwise_cons.mp htimes.nondecreasing).2
  shown := by
    have hshown := htimes.shown
    rw [List.map_cons, List.cons.injEq] at hshown
    exact hshown.2

theorem countP_window_le_one
    {distance : Nat} {times : List Nat}
    (hapart : times.Pairwise fun s t => s + distance ≤ t)
    {first last : Nat} (hshort : last < first + distance) :
    times.countP (fun t => decide (first ≤ t ∧ t ≤ last)) ≤ 1 := by
  induction times with
  | nil => simp
  | cons time times ih =>
      obtain ⟨hlater, hrest⟩ := List.pairwise_cons.mp hapart
      by_cases hin : first ≤ time ∧ time ≤ last
      · have hnone :
            times.countP (fun t => decide (first ≤ t ∧ t ≤ last)) = 0 := by
          rw [List.countP_eq_zero]
          intro t ht
          have hfar := hlater t ht
          simp only [decide_eq_true_eq]
          omega
        rw [List.countP_cons_of_pos (by simpa using hin)]
        omega
      · rw [List.countP_cons_of_neg (by simpa using hin)]
        exact ih hrest

/-! ## Elapsed time -/

theorem elapsed_toNat (time since : Tick) :
    (time - since).toNat =
      (UInt64.size - since.toNat + time.toNat) % UInt64.size := by
  rw [UInt64.toNat_sub]

theorem elapsed_toInt (time since : Tick) :
    ((time - since).toNat : Int) = ((time.toNat : Int) - since.toNat) % UInt64.size := by
  have htime := time.toNat_lt
  have hsince := since.toNat_lt
  rw [elapsed_toNat]
  simp only [UInt64.size]
  omega

theorem elapsed_toNat_le
    {since time : Nat} (hle : since ≤ time) :
    (UInt64.ofNat time - UInt64.ofNat since).toNat ≤ time - since := by
  rw [elapsed_toNat]
  simp only [UInt64.toNat_ofNat', UInt64.size]
  omega

/-- Of two readings at least the dwell apart, and no further than the dwell before a full turn of
the counter, one is past the dwell after any stored tick. -/
theorem not_recent_of_recent
    {dwell since : UInt64} {first last : Nat}
    (hlong : first + dwell.toNat ≤ last)
    (hshort : last + dwell.toNat ≤ first + UInt64.size)
    (hrecent : UInt64.ofNat first - since < dwell) :
    ¬ UInt64.ofNat last - since < dwell := by
  have hsince := since.toNat_lt
  rw [UInt64.lt_iff_toNat_lt, elapsed_toNat] at hrecent ⊢
  simp only [UInt64.toNat_ofNat', UInt64.size] at hrecent hshort ⊢
  omega

/-! ## One record along a run -/

structure Sighting where
  raw : Bool
  now : Tick
  deriving DecidableEq, Repr

namespace Accepted

/-- The records of a line after each of some sightings. -/
def trail (held : Accepted) (dwell : UInt64) : List Sighting → List Accepted
  | [] => []
  | sighting :: rest =>
    held.observe dwell sighting.raw sighting.now ::
      (held.observe dwell sighting.raw sighting.now).trail dwell rest

def final (held : Accepted) (dwell : UInt64) (sightings : List Sighting) : Accepted :=
  sightings.foldl (fun record s => record.observe dwell s.raw s.now) held

theorem final_cons
    (held : Accepted) (dwell : UInt64) (sighting : Sighting) (rest : List Sighting) :
    held.final dwell (sighting :: rest) =
      (held.observe dwell sighting.raw sighting.now).final dwell rest := rfl

@[simp]
theorem trail_length (held : Accepted) (dwell : UInt64) (sightings : List Sighting) :
    (held.trail dwell sightings).length = sightings.length := by
  induction sightings generalizing held with
  | nil => rfl
  | cons sighting rest ih => simp [trail, ih]

theorem trail_append
    (held : Accepted) (dwell : UInt64) (before rest : List Sighting) :
    held.trail dwell (before ++ rest) =
      held.trail dwell before ++ (held.final dwell before).trail dwell rest := by
  induction before generalizing held with
  | nil => rfl
  | cons sighting before ih =>
      rw [List.cons_append, trail, trail, final_cons, ih, List.cons_append]

theorem getLast?_trail
    (held : Accepted) (dwell : UInt64) {sightings : List Sighting} (hne : sightings ≠ []) :
    (held.trail dwell sightings).getLast? = some (held.final dwell sightings) := by
  induction sightings generalizing held with
  | nil => exact absurd rfl hne
  | cons sighting rest ih =>
      rw [trail, final_cons]
      by_cases hnil : rest = []
      · rw [hnil]
        rfl
      · rw [List.getLast?_cons, ih _ hnil]
        rfl

theorem observe_cases
    (held : Accepted) (dwell : UInt64) (raw : Bool) (now : Tick) :
    (held.observe dwell raw now = held ∧
        (raw = held.value ∨ now - held.since < dwell)) ∨
      (held.observe dwell raw now = ⟨raw, now⟩ ∧
        raw ≠ held.value ∧ dwell ≤ now - held.since) := by
  unfold observe
  by_cases hsame : raw = held.value
  · left
    simp [hsame]
  · by_cases hearly : now - held.since < dwell
    · left
      simp [hsame, hearly]
    · right
      rw [if_neg hsame, if_neg hearly]
      exact ⟨rfl, hsame, UInt64.not_lt.mp hearly⟩

/-- The stored tick is the reading of the true time `since`: every later change comes at least the
dwell after it, and after each other. -/
theorem pairwise_changes_trail
    (held : Accepted) (dwell : UInt64) {since : Nat} {times : List Nat}
    {sightings : List Sighting}
    (hsince : held.since = UInt64.ofNat since)
    (hbefore : ∀ time ∈ times, since ≤ time)
    (htimes : TrueTimes times (sightings.map Sighting.now)) :
    (since :: changes held.value
        (times.zip ((held.trail dwell sightings).map Accepted.value))).Pairwise
      fun s t => s + dwell.toNat ≤ t := by
  induction sightings generalizing held since times with
  | nil => simp [trail, changes]
  | cons sighting rest ih =>
      cases times with
      | nil => simp [changes]
      | cons time times =>
          have hnow : sighting.now = UInt64.ofNat time := by
            have hshown := htimes.shown
            simp only [List.map_cons, List.cons.injEq] at hshown
            exact hshown.1
          have hle : since ≤ time := hbefore time List.mem_cons_self
          have hafter : ∀ t ∈ times, time ≤ t :=
            (List.pairwise_cons.mp htimes.nondecreasing).1
          have htail : TrueTimes times (rest.map Sighting.now) := htimes.tail
          simp only [trail, List.map_cons, List.zip_cons_cons, changes]
          rcases held.observe_cases dwell sighting.raw sighting.now with
            ⟨hkept, _⟩ | ⟨hnew, hraw, hdwell⟩
          · rw [hkept, if_pos rfl]
            exact ih held hsince
              (fun t ht => Nat.le_trans hle (hafter t ht)) htail
          · -- The record now shows `time`, which takes the place of `since` from here on.
            have hrest := ih ⟨sighting.raw, sighting.now⟩ hnow hafter htail
            have helapsed : dwell.toNat ≤ time - since := by
              rw [hsince, hnow, UInt64.le_iff_toNat_le] at hdwell
              exact Nat.le_trans hdwell (elapsed_toNat_le hle)
            have hapart : since + dwell.toNat ≤ time := by omega
            rw [hnew, if_neg hraw]
            refine List.pairwise_cons.mpr ⟨?_, hrest⟩
            intro t ht
            rcases List.mem_cons.mp ht with rfl | hmem
            · exact hapart
            · have hlater := (List.pairwise_cons.mp hrest).1 t hmem
              omega

theorem head_changes_trail
    (held : Accepted) (dwell : UInt64) {times : List Nat} {sightings : List Sighting}
    (hshown : sightings.map Sighting.now = times.map UInt64.ofNat) :
    ∀ time ∈ (changes held.value
        (times.zip ((held.trail dwell sightings).map Accepted.value))).head?,
      dwell ≤ UInt64.ofNat time - held.since := by
  induction sightings generalizing times with
  | nil => simp [trail, changes]
  | cons sighting rest ih =>
      cases times with
      | nil => simp [changes]
      | cons time times =>
          simp only [List.map_cons, List.cons.injEq] at hshown
          obtain ⟨hnow, hshown⟩ := hshown
          simp only [trail, List.map_cons, List.zip_cons_cons, changes]
          rcases held.observe_cases dwell sighting.raw sighting.now with
            ⟨hkept, _⟩ | ⟨hnew, hraw, hdwell⟩
          · rw [hkept, if_pos rfl]
            exact ih hshown
          · rw [hnew, if_neg hraw]
            intro t ht
            have ht : time = t := by simpa using ht
            rw [← ht, ← hnow]
            exact hdwell

theorem trail_eq_of_value
    {held : Accepted} {v : Bool} (hvalue : held.value = v)
    (dwell : UInt64) {sightings : List Sighting}
    (hraw : ∀ sighting ∈ sightings, sighting.raw = v) :
    ∀ record ∈ held.trail dwell sightings, record = held := by
  induction sightings with
  | nil => simp [trail]
  | cons sighting rest ih =>
      have hfirst : sighting.raw = held.value := by
        rw [hvalue]
        exact hraw sighting List.mem_cons_self
      have hkept : held.observe dwell sighting.raw sighting.now = held := by
        unfold observe
        rw [if_pos hfirst]
      intro record hrecord
      rw [trail, hkept] at hrecord
      rcases List.mem_cons.mp hrecord with rfl | hmem
      · rfl
      · exact ih (fun s hs => hraw s (List.mem_cons_of_mem _ hs)) record hmem

theorem final_eq_of_value
    {held : Accepted} {v : Bool} (hvalue : held.value = v)
    (dwell : UInt64) {sightings : List Sighting}
    (hraw : ∀ sighting ∈ sightings, sighting.raw = v) :
    held.final dwell sightings = held := by
  by_cases hnil : sightings = []
  · rw [hnil]
    rfl
  · have hlast := held.getLast?_trail dwell hnil
    exact trail_eq_of_value hvalue dwell hraw _ (List.mem_of_getLast? hlast)

theorem recent_of_final_ne
    {held : Accepted} {dwell : UInt64} {v : Bool} {sightings : List Sighting}
    (hraw : ∀ sighting ∈ sightings, sighting.raw = v)
    (hne : (held.final dwell sightings).value ≠ v) :
    ∀ sighting ∈ sightings, sighting.now - held.since < dwell := by
  induction sightings with
  | nil => simp
  | cons sighting rest ih =>
      have hfirst : sighting.raw = v := hraw sighting List.mem_cons_self
      have hrest : ∀ s ∈ rest, s.raw = v :=
        fun s hs => hraw s (List.mem_cons_of_mem _ hs)
      rw [final_cons] at hne
      rcases held.observe_cases dwell sighting.raw sighting.now with
        ⟨hkept, hsame | hrecent⟩ | ⟨hnew, _, _⟩
      · have hvalue : held.value = v := hsame.symm.trans hfirst
        rw [hkept, final_eq_of_value hvalue dwell hrest] at hne
        exact absurd hvalue hne
      · rw [hkept] at hne
        intro s hs
        rcases List.mem_cons.mp hs with rfl | hmem
        · exact hrecent
        · exact ih hrest hne s hmem
      · rw [hnew, final_eq_of_value hfirst dwell hrest] at hne
        exact absurd hfirst hne

theorem final_value_of_held
    (held : Accepted) {dwell : UInt64} {v : Bool} {times : List Nat}
    {sightings : List Sighting}
    (hraw : ∀ sighting ∈ sightings, sighting.raw = v)
    (hshown : sightings.map Sighting.now = times.map UInt64.ofNat)
    {first last : Nat}
    (hfirst : times.head? = some first) (hlast : times.getLast? = some last)
    (hlong : first + dwell.toNat ≤ last)
    (hshort : last + dwell.toNat ≤ first + UInt64.size) :
    (held.final dwell sightings).value = v := by
  have hseen : ∀ time ∈ times, ∃ s ∈ sightings, s.now = UInt64.ofNat time := by
    intro time htime
    have hmem : UInt64.ofNat time ∈ sightings.map Sighting.now := by
      rw [hshown]
      exact List.mem_map_of_mem htime
    exact List.mem_map.mp hmem
  obtain ⟨sFirst, hmemFirst, hnowFirst⟩ := hseen first (List.mem_of_head? hfirst)
  obtain ⟨sLast, hmemLast, hnowLast⟩ := hseen last (List.mem_of_getLast? hlast)
  -- Otherwise the record never moved, and one stored tick held back both ends.
  apply Decidable.byContradiction
  intro hne
  have hrecent := recent_of_final_ne hraw hne
  have hearly := hrecent sFirst hmemFirst
  have hlate := hrecent sLast hmemLast
  rw [hnowFirst] at hearly
  rw [hnowLast] at hlate
  exact not_recent_of_recent hlong hshort hearly hlate

end Accepted

end Gamepad
