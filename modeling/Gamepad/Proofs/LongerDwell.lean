import Gamepad.Proofs.DwellFilter

/-!
# Two dwells on one line

Of two filters that see the same, the one with the shorter dwell is never behind.  An early
acceptance can keep it from one that the longer dwell makes, so what is carried along is the number
of values that each has accepted, and that a record which is only level is the older one.
-/

namespace Gamepad

theorem mem_of_mem_changes
    {κ : Type} {value : Bool} {signal : List (κ × Bool)} {key : κ}
    (hkey : key ∈ changes value signal) : key ∈ signal.map Prod.fst := by
  induction signal generalizing value with
  | nil => simp [changes] at hkey
  | cons first rest ih =>
      rw [List.map_cons, List.mem_cons]
      unfold changes at hkey
      split at hkey
      next => exact .inr (ih hkey)
      next => exact (List.mem_cons.mp hkey).imp id ih

namespace Accepted

/-- The steps at which a record accepts another value, where the first sighting is at `start`. -/
def transitionsFrom
    (start : Nat) (held : Accepted) (dwell : UInt64) (sightings : List Sighting) : List Nat :=
  changes held.value
    ((List.range' start sightings.length).zip ((held.trail dwell sightings).map Accepted.value))

def transitions (held : Accepted) (dwell : UInt64) (sightings : List Sighting) : List Nat :=
  held.transitionsFrom 0 dwell sightings

theorem transitionsFrom_cons
    (start : Nat) (held : Accepted) (dwell : UInt64) (s : Sighting) (rest : List Sighting) :
    held.transitionsFrom start dwell (s :: rest) =
      if (held.observe dwell s.raw s.now).value = held.value then
        (held.observe dwell s.raw s.now).transitionsFrom (start + 1) dwell rest
      else start :: (held.observe dwell s.raw s.now).transitionsFrom (start + 1) dwell rest := by
  simp only [transitionsFrom, trail, List.map_cons, List.length_cons, List.range'_succ,
    List.zip_cons_cons, changes]
  split
  next hsame => rw [hsame]
  next => rfl

theorem transitionsFrom_append
    (start : Nat) (held : Accepted) (dwell : UInt64) (before rest : List Sighting) :
    held.transitionsFrom start dwell (before ++ rest) =
      held.transitionsFrom start dwell before ++
        (held.final dwell before).transitionsFrom (start + before.length) dwell rest := by
  induction before generalizing start held with
  | nil => rfl
  | cons s before ih =>
      rw [List.cons_append, transitionsFrom_cons, transitionsFrom_cons, ih, final_cons,
        List.length_cons, Nat.add_assoc, Nat.add_comm 1]
      split
      next => rfl
      next => rfl

theorem mem_transitionsFrom
    {start : Nat} {held : Accepted} {dwell : UInt64} {sightings : List Sighting} {step : Nat}
    (hstep : step ∈ held.transitionsFrom start dwell sightings) :
    start ≤ step ∧ step < start + sightings.length := by
  obtain ⟨⟨key, value⟩, hmem, rfl⟩ := List.mem_map.mp (mem_of_mem_changes hstep)
  have hrange : key ∈ List.range' start sightings.length := (List.of_mem_zip hmem).1
  simpa [List.mem_range'_1] using hrange

/-! ## Which record is ahead -/

/-- The record `a` has accepted `m` values where `b` has accepted `n`, from one record on. -/
structure Leads (m n : Nat) (a b : Accepted) : Prop where
  count : n ≤ m
  value : a.value = b.value ↔ m % 2 = n % 2
  older : m = n → a.since ≤ b.since

theorem Leads.start (held : Accepted) : Leads 0 0 held held where
  count := Nat.le_refl 0
  value := by simp
  older := fun _ => UInt64.le_refl held.since

theorem elapsed_le_of_older
    {since since' now : Tick} (holder : since ≤ since') (hpast : since' ≤ now) :
    now - since' ≤ now - since := by
  rw [UInt64.le_iff_toNat_le] at holder hpast ⊢
  rw [UInt64.toNat_sub_of_le _ _ (UInt64.le_iff_toNat_le.mpr hpast),
    UInt64.toNat_sub_of_le _ _ (UInt64.le_iff_toNat_le.mpr (Nat.le_trans holder hpast))]
  omega

def accepts (before after : Accepted) : Nat :=
  if after.value = before.value then 0 else 1

theorem length_transitionsFrom_cons
    (start : Nat) (held : Accepted) (dwell : UInt64) (s : Sighting) (rest : List Sighting) :
    (held.transitionsFrom start dwell (s :: rest)).length =
      accepts held (held.observe dwell s.raw s.now) +
        ((held.observe dwell s.raw s.now).transitionsFrom (start + 1) dwell rest).length := by
  rw [transitionsFrom_cons]
  unfold accepts
  split
  next => rw [Nat.zero_add]
  next => rw [List.length_cons, Nat.add_comm]

theorem since_observe_le
    {held : Accepted} {now : Tick} (hpast : held.since ≤ now) (dwell : UInt64) (raw : Bool) :
    (held.observe dwell raw now).since ≤ now := by
  rcases held.observe_cases dwell raw now with ⟨hkept, _⟩ | ⟨hnew, _⟩
  · rw [hkept]
    exact hpast
  · rw [hnew]
    exact UInt64.le_refl now

section Dwells

variable {short long : UInt64} (hdwells : short ≤ long)

include hdwells

theorem not_held_back
    {a b : Accepted} (hvalue : a.value = b.value) (holder : a.since ≤ b.since)
    {raw : Bool} {now : Tick} (hpast : b.since ≤ now)
    (hraw : raw ≠ b.value) (hlate : long ≤ now - b.since) :
    ¬ (raw = a.value ∨ now - a.since < short) := by
  have helapsed := elapsed_le_of_older holder hpast
  rintro (hsame | hearly)
  · exact hraw (hsame.trans hvalue)
  · have hdwell : short ≤ now - a.since :=
      UInt64.le_trans hdwells (UInt64.le_trans hlate helapsed)
    exact UInt64.not_lt.mpr hdwell hearly

theorem Leads.observe
    {m n : Nat} {a b : Accepted} (hleads : Leads m n a b) (raw : Bool) {now : Tick}
    (hpast : a.since ≤ now) (hpast' : b.since ≤ now) :
    Leads (m + accepts a (a.observe short raw now)) (n + accepts b (b.observe long raw now))
      (a.observe short raw now) (b.observe long raw now) := by
  obtain ⟨hcount, hvalue, holder⟩ := hleads
  rcases a.observe_cases short raw now with ⟨hkept, hheld⟩ | ⟨hnew, hraw, _⟩
  · rcases b.observe_cases long raw now with ⟨hkept', _⟩ | ⟨hnew', hraw', hlate⟩
    · rw [hkept, hkept']
      simpa [accepts] using Leads.mk hcount hvalue holder
    · -- Only the longer dwell accepts, so it was behind and is at most level now.
      have hbehind : m ≠ n := by
        intro hlevel
        exact not_held_back hdwells (hvalue.mpr (hlevel ▸ rfl)) (holder hlevel) hpast' hraw'
          hlate hheld
      rw [hkept, hnew']
      simp only [accepts, if_neg hraw', if_true, Nat.add_zero]
      refine ⟨by omega, ?_, fun _ => hpast⟩
      rw [Bool.eq_not_of_ne hraw', Bool.eq_not, Ne, hvalue]
      omega
  · rcases b.observe_cases long raw now with ⟨hkept', _⟩ | ⟨hnew', hraw', _⟩
    · rw [hnew, hkept']
      simp only [accepts, if_neg hraw, if_true, Nat.add_zero]
      refine ⟨by omega, ?_, by omega⟩
      rw [Bool.eq_not_of_ne hraw, Bool.not_eq, Ne, hvalue]
      omega
    · have hsame : a.value = b.value :=
        Bool.not_inj ((Bool.eq_not_of_ne hraw).symm.trans (Bool.eq_not_of_ne hraw'))
      have hparity := hvalue.mp hsame
      rw [hnew, hnew']
      simp only [accepts, if_neg hraw, if_neg hraw']
      exact ⟨by omega, by simp; omega, fun _ => UInt64.le_refl now⟩

theorem Leads.run
    {m n : Nat} {a b : Accepted} (hleads : Leads m n a b) (start : Nat)
    {sightings : List Sighting} (hordered : (sightings.map Sighting.now).Pairwise (· ≤ ·))
    (hpast : ∀ s ∈ sightings, a.since ≤ s.now) (hpast' : ∀ s ∈ sightings, b.since ≤ s.now) :
    n + (b.transitionsFrom start long sightings).length ≤
      m + (a.transitionsFrom start short sightings).length := by
  induction sightings generalizing m n a b start with
  | nil => exact hleads.count
  | cons s rest ih =>
      obtain ⟨hlater, hrest⟩ := List.pairwise_cons.mp hordered
      have hsince := since_observe_le (hpast s List.mem_cons_self) short s.raw
      have hsince' := since_observe_le (hpast' s List.mem_cons_self) long s.raw
      have hnow : ∀ later ∈ rest, s.now ≤ later.now :=
        fun later hmem => hlater later.now (List.mem_map_of_mem hmem)
      have hahead := ih
        (hleads.observe hdwells s.raw (hpast s List.mem_cons_self) (hpast' s List.mem_cons_self))
        (start + 1) hrest
        (fun later hmem => UInt64.le_trans hsince (hnow later hmem))
        (fun later hmem => UInt64.le_trans hsince' (hnow later hmem))
      rw [length_transitionsFrom_cons, length_transitionsFrom_cons]
      omega

end Dwells

/-! ## Whole runs -/

theorem transitions_take_prefix
    (held : Accepted) (dwell : UInt64) (sightings : List Sighting) (n : Nat) :
    ∃ later, held.transitions dwell sightings =
        held.transitions dwell (sightings.take n) ++ later ∧
      (∀ step ∈ held.transitions dwell (sightings.take n), step < n) ∧
      ∀ step ∈ later, n ≤ step := by
  have hsplit := held.transitionsFrom_append 0 dwell (sightings.take n) (sightings.drop n)
  rw [List.take_append_drop, Nat.zero_add] at hsplit
  refine ⟨_, hsplit, ?_, ?_⟩
  · intro step hstep
    have hlt := (mem_transitionsFrom hstep).2
    rw [List.length_take] at hlt
    omega
  · intro step hstep
    obtain ⟨hge, hlt⟩ := mem_transitionsFrom hstep
    rw [List.length_take] at hge hlt
    rw [List.length_drop] at hlt
    omega

/-- From one record on, and while the counter does not run backwards, a filter with a longer dwell
has never accepted more values than one with a shorter dwell, and none of them earlier. -/
theorem longer_dwell_passes_later
    (held : Accepted) {short long : UInt64} (hdwells : short ≤ long) {sightings : List Sighting}
    (hordered : (held.since :: sightings.map Sighting.now).Pairwise (· ≤ ·)) :
    (∀ n, (held.transitions long (sightings.take n)).length ≤
        (held.transitions short (sightings.take n)).length) ∧
      ∀ k step : Nat, (held.transitions long sightings)[k]? = some step →
        ∃ earlier : Nat, (held.transitions short sightings)[k]? = some earlier ∧
          earlier ≤ step := by
  obtain ⟨hpast, hlater⟩ := List.pairwise_cons.mp hordered
  have hcount : ∀ n, (held.transitions long (sightings.take n)).length ≤
      (held.transitions short (sightings.take n)).length := by
    intro n
    have hsince : ∀ s ∈ sightings.take n, held.since ≤ s.now :=
      fun s hs => hpast s.now (List.mem_map_of_mem (List.mem_of_mem_take hs))
    have hahead := (Leads.start held).run hdwells 0
      (hlater.sublist ((List.take_sublist n sightings).map Sighting.now)) hsince hsince
    simpa [transitions] using hahead
  refine ⟨hcount, ?_⟩
  intro k step hstep
  -- Up to and with its step, the transition of the longer dwell is the `k + 1`st at least.
  obtain ⟨later, hlong, _, hbeyond⟩ := held.transitions_take_prefix long sightings (step + 1)
  obtain ⟨later', hshort, hearly, _⟩ := held.transitions_take_prefix short sightings (step + 1)
  have hk : k < (held.transitions long (sightings.take (step + 1))).length := by
    apply Decidable.byContradiction
    intro hge
    rw [hlong, List.getElem?_append_right (Nat.not_lt.mp hge)] at hstep
    exact Nat.not_succ_le_self step (hbeyond step (List.mem_of_getElem? hstep))
  have hk' := Nat.lt_of_lt_of_le hk (hcount (step + 1))
  refine ⟨_, ?_, Nat.le_of_lt_succ (hearly _ (List.getElem_mem hk'))⟩
  rw [hshort, List.getElem?_append_left hk', List.getElem?_eq_getElem hk']

/-- A bounce that a dwell of two ticks passes.  It then holds back the press at tick 5, which a
dwell of five ticks accepts. -/
def bounceThenPress : List Sighting :=
  [⟨true, 2⟩, ⟨false, 4⟩, ⟨true, 5⟩, ⟨false, 6⟩, ⟨false, 10⟩]

theorem bounceThenPress_passes_later :
    (2 : UInt64) ≤ 5 ∧
      (({} : Accepted).since :: bounceThenPress.map Sighting.now).Pairwise (· ≤ ·) ∧
      ({} : Accepted).transitions 2 bounceThenPress = [0, 1] ∧
      ({} : Accepted).transitions 5 bounceThenPress = [2, 4] ∧
      ∃ earlier : Nat,
        (({} : Accepted).transitions 2 bounceThenPress)[1]? = some earlier ∧ earlier ≤ 4 := by
  have hdwells : (2 : UInt64) ≤ 5 := by decide
  have hordered :
      (({} : Accepted).since :: bounceThenPress.map Sighting.now).Pairwise (· ≤ ·) := by
    decide
  have hlater := (longer_dwell_passes_later {} hdwells hordered).2 1 4 (by decide)
  exact ⟨hdwells, hordered, by decide, by decide, hlater⟩

end Accepted

end Gamepad
