import Gamepad.Proofs.DwellFilter

/-!
# Symmetries of the filter

The filter treats a release like a press, and no place of the counter is special to it.
-/

namespace Gamepad

/-- A shift of all ticks, with or without a complement of all values. -/
structure Recoding where
  shift : Tick
  complements : Bool
  deriving DecidableEq, Repr

namespace Recoding

variable (r : Recoding)

def value (v : Bool) : Bool :=
  if r.complements then !v else v

def tick (t : Tick) : Tick :=
  t + r.shift

def sighting (s : Sighting) : Sighting :=
  ⟨r.value s.raw, r.tick s.now⟩

def record (a : Accepted) : Accepted :=
  ⟨r.value a.value, r.tick a.since⟩

theorem value_inj {v w : Bool} : r.value v = r.value w ↔ v = w := by
  unfold value
  cases r.complements <;> simp

theorem tick_sub_tick (now since : Tick) : r.tick now - r.tick since = now - since := by
  unfold tick
  grind

theorem observe_record (held : Accepted) (dwell : UInt64) (s : Sighting) :
    (r.record held).observe dwell (r.sighting s).raw (r.sighting s).now =
      r.record (held.observe dwell s.raw s.now) := by
  have hvalue : r.value s.raw = (r.record held).value ↔ s.raw = held.value := r.value_inj
  have helapsed : r.tick s.now - (r.record held).since = s.now - held.since :=
    r.tick_sub_tick s.now held.since
  simp only [Accepted.observe, sighting, hvalue, helapsed]
  by_cases hsame : s.raw = held.value
  · rw [if_pos hsame, if_pos hsame]
  · by_cases hearly : s.now - held.since < dwell
    · rw [if_neg hsame, if_neg hsame, if_pos hearly, if_pos hearly]
    · rw [if_neg hsame, if_neg hsame, if_neg hearly, if_neg hearly]
      rfl

theorem trail_record (held : Accepted) (dwell : UInt64) (sightings : List Sighting) :
    (r.record held).trail dwell (sightings.map r.sighting) =
      (held.trail dwell sightings).map r.record := by
  induction sightings generalizing held with
  | nil => rfl
  | cons s rest ih =>
      rw [List.map_cons, Accepted.trail, Accepted.trail, List.map_cons,
        r.observe_record held dwell s, ih]

theorem final_record (held : Accepted) (dwell : UInt64) (sightings : List Sighting) :
    (r.record held).final dwell (sightings.map r.sighting) =
      r.record (held.final dwell sightings) := by
  induction sightings generalizing held with
  | nil => rfl
  | cons s rest ih =>
      rw [List.map_cons, Accepted.final_cons, Accepted.final_cons,
        r.observe_record held dwell s, ih]

end Recoding

namespace Accepted

/-- Recoding a record and what the line shows recodes what the filter returns at every sighting and
the record that it ends with. -/
theorem filter_recoded
    (held : Accepted) (dwell : UInt64) (sightings : List Sighting) (r : Recoding) :
    ((r.record held).trail dwell (sightings.map r.sighting)).map Accepted.value =
        ((held.trail dwell sightings).map Accepted.value).map r.value ∧
      (r.record held).final dwell (sightings.map r.sighting) =
        r.record (held.final dwell sightings) := by
  refine ⟨?_, r.final_record held dwell sightings⟩
  rw [r.trail_record held dwell sightings, List.map_map, List.map_map]
  rfl

example :
    let r : Recoding := ⟨UInt64.ofNat (2 ^ 64 - 12), true⟩
    let press : List Sighting := [⟨true, 10⟩, ⟨false, 11⟩, ⟨true, 13⟩, ⟨false, 15⟩]
    (press.map r.sighting).map Sighting.now =
        [UInt64.ofNat (2 ^ 64 - 2), UInt64.ofNat (2 ^ 64 - 1), 1, 3] ∧
      ((⟨false, 4⟩ : Accepted).trail 5 press).map Accepted.value = [true, true, true, false] ∧
      ((r.record ⟨false, 4⟩).trail 5 (press.map r.sighting)).map Accepted.value =
        [false, false, false, true] := by
  decide +kernel

end Accepted

end Gamepad
