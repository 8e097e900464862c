import Gamepad.Configuration
import Gamepad.Proofs.PhysicalRead
import Mathlib.Data.List.Nodup
import Mathlib.Data.List.Perm.Subperm

/-!
# What validation accepts

The width of a pin is checked once more when the table is bound, but there nothing is left to find:
as long as a line is bound to the bit of its pin, only a fifth port can be refused.
-/

namespace Gamepad

namespace Configuration

structure Sound (c : Configuration) : Prop where
  pollInterval : 1 ≤ c.pollIntervalMs
  tickRate : 1 ≤ c.ticksPerMs
  pins : ∀ w ∈ c.lines, w.pin.toNat < 32
  lines : (c.lines.map (·.line)).Nodup

/-- The first rule that a configuration breaks, at the first place where it does. -/
inductive FirstBroken (c : Configuration) : Invalidity → Prop
  | pollInterval (hpoll : c.pollIntervalMs = 0) : FirstBroken c .noPollInterval
  | tickRate (hpoll : 1 ≤ c.pollIntervalMs) (hrate : c.ticksPerMs = 0) :
    FirstBroken c .noTickRate
  | pin {before rest : List Wiring} {w : Wiring}
      (hpoll : 1 ≤ c.pollIntervalMs) (hrate : 1 ≤ c.ticksPerMs)
      (hlines : c.lines = before ++ w :: rest)
      (hbefore : ∀ v ∈ before, v.pin.toNat < 32) (hwide : 32 ≤ w.pin.toNat) :
    FirstBroken c (.widePin w.line w.pin)
  | line {before rest : List Wiring} {w : Wiring}
      (hpoll : 1 ≤ c.pollIntervalMs) (hrate : 1 ≤ c.ticksPerMs)
      (hpins : ∀ v ∈ c.lines, v.pin.toNat < 32)
      (hlines : c.lines = before ++ w :: rest)
      (hbefore : (before.map (·.line)).Nodup) (hrepeat : w.line ∈ before.map (·.line)) :
    FirstBroken c (.duplicateLine w.line)

end Configuration

/-- Binding a table can only run out of ports, and does when its lines are found on a fifth one. -/
structure BoundLines.OnlyRunsOut {δ : Type} [Port δ] (table : WiringTable)
    (binder : Wiring → Reading (Binding δ)) : Prop where
  fault : ∀ fault, (bind table binder).value = .error fault →
    ∃ label, fault = .portCacheFull 4 label
  fails_iff : (∃ fault, (bind table binder).value = .error fault) ↔
    4 < (foundLabels binder table.entries).length
  fails_iff_of_named : (∀ w ∈ table.entries, foundLabel? binder w = some w.port) →
    ((∃ fault, (bind table binder).value = .error fault) ↔ 4 < table.portOrder.length)

/-! ## Lines that are wired twice -/

namespace WiringTable

theorem nodup_or_first_repeat (ws : List Wiring) :
    (ws.map (·.line)).Nodup ∨
      ∃ before w rest, ws = before ++ w :: rest ∧ (before.map (·.line)).Nodup ∧
        w.line ∈ before.map (·.line) := by
  induction ws using List.reverseRecOn with
  | nil => exact .inl List.nodup_nil
  | append_singleton ws w ih =>
      rcases ih with hnodup | ⟨before, v, rest, rfl, hbefore, hrepeat⟩
      · by_cases hline : w.line ∈ ws.map (·.line)
        · exact .inr ⟨ws, w, [], rfl, hnodup, hline⟩
        · left
          rw [List.map_append, List.map_singleton, ← List.concat_eq_append]
          exact List.Nodup.concat hline hnodup
      · exact .inr ⟨before, v, rest ++ [w], by simp, hbefore, hrepeat⟩

theorem firstRepeat_of_nodup
    {seen : List Line} {ws : List Wiring} (hnodup : (ws.map (·.line)).Nodup)
    (hfresh : ∀ w ∈ ws, w.line ∉ seen) : firstRepeat seen ws = none := by
  induction ws generalizing seen with
  | nil => rfl
  | cons w ws ih =>
      obtain ⟨hw, hrest⟩ := List.nodup_cons.mp hnodup
      rw [firstRepeat, if_neg (hfresh w List.mem_cons_self)]
      apply ih hrest
      intro v hv hseen
      rcases List.mem_cons.mp hseen with hsame | hseen
      · exact hw (List.mem_map.mpr ⟨v, hv, hsame⟩)
      · exact hfresh v (List.mem_cons_of_mem w hv) hseen

theorem firstRepeat_of_repeat
    {seen : List Line} {before : List Wiring} {w : Wiring} (rest : List Wiring)
    (hbefore : (before.map (·.line)).Nodup) (hfresh : ∀ v ∈ before, v.line ∉ seen)
    (hrepeat : w.line ∈ before.map (·.line) ∨ w.line ∈ seen) :
    firstRepeat seen (before ++ w :: rest) = some w.line := by
  induction before generalizing seen with
  | nil =>
      have hseen : w.line ∈ seen := by simpa using hrepeat
      rw [List.nil_append, firstRepeat, if_pos hseen]
  | cons v before ih =>
      obtain ⟨hv, hothers⟩ := List.nodup_cons.mp hbefore
      rw [List.cons_append, firstRepeat, if_neg (hfresh v List.mem_cons_self)]
      apply ih hothers
      · intro u hu hseen
        rcases List.mem_cons.mp hseen with hsame | hseen
        · exact hv (List.mem_map.mpr ⟨u, hu, hsame⟩)
        · exact hfresh u (List.mem_cons_of_mem v hu) hseen
      · rcases hrepeat with hmem | hseen
        · rcases List.mem_cons.mp hmem with hsame | hmem
          · exact .inr (hsame ▸ List.mem_cons_self)
          · exact .inl hmem
        · exact .inr (List.mem_cons_of_mem _ hseen)

theorem ofDistinct_of_nodup {ws : List Wiring} (hnodup : (ws.map (·.line)).Nodup) :
    ofDistinct ws = .ok ⟨ws, hnodup⟩ := by
  have hnone : firstRepeat [] ws = none := firstRepeat_of_nodup hnodup (by simp)
  unfold ofDistinct
  split
  next line hsome => cases hnone.symm.trans hsome
  next => rfl

theorem ofDistinct_of_repeat
    {before : List Wiring} {w : Wiring} (rest : List Wiring) (hbefore : (before.map (·.line)).Nodup)
    (hrepeat : w.line ∈ before.map (·.line)) :
    ofDistinct (before ++ w :: rest) = .error w.line := by
  have hsome : firstRepeat [] (before ++ w :: rest) = some w.line :=
    firstRepeat_of_repeat rest hbefore (by simp) (.inl hrepeat)
  unfold ofDistinct
  split
  next line hline => rw [Option.some.inj (hline.symm.trans hsome)]
  next hnone => cases hnone.symm.trans hsome

theorem size_le (table : WiringTable) : table.size ≤ 21 := by
  have hlength := (table.nodup.subperm fun l _ => Enumerable.mem_all l).length_le
  rw [List.length_map] at hlength
  exact hlength

end WiringTable

/-! ## The verdict -/

namespace Configuration

theorem one_le_iff_ne_zero (n : UInt64) : 1 ≤ n ↔ n ≠ 0 := by
  rw [UInt64.le_iff_toNat_le, Ne, ← UInt64.toNat_inj]
  simp only [UInt64.reduceToNat]
  omega

theorem lineTable_of_nodup {c : Configuration} (hnodup : (c.lines.map (·.line)).Nodup) :
    c.lineTable = .ok ⟨c.lines, hnodup⟩ := by
  simp only [lineTable, WiringTable.ofDistinct_of_nodup hnodup]
  rfl

theorem Sound.validate {c : Configuration} (hsound : c.Sound) : c.validate = .ok () := by
  have hpoll := (one_le_iff_ne_zero _).mp hsound.pollInterval
  have hrate := (one_le_iff_ne_zero _).mp hsound.tickRate
  have hpins : (c.lines.find? fun w => 32 ≤ w.pin.toNat) = none := by
    simpa using hsound.pins
  simp only [Configuration.validate, if_neg hpoll, if_neg hrate, hpins,
    lineTable_of_nodup hsound.lines]
  rfl

theorem FirstBroken.validate
    {c : Configuration} {cause : Invalidity} (hbroken : c.FirstBroken cause) :
    c.validate = .error cause := by
  cases hbroken with
  | pollInterval hpoll => simp only [Configuration.validate, if_pos hpoll]
  | tickRate hpoll hrate =>
      rw [one_le_iff_ne_zero] at hpoll
      simp only [Configuration.validate, if_neg hpoll, if_pos hrate]
  | @pin before rest w hpoll hrate hlines hbefore hwide =>
      rw [one_le_iff_ne_zero] at hpoll hrate
      have hfirst : (c.lines.find? fun v => 32 ≤ v.pin.toNat) = some w := by
        rw [List.find?_eq_some_iff_append]
        exact ⟨by simpa using hwide, before, rest, hlines, by simpa using hbefore⟩
      simp only [Configuration.validate, if_neg hpoll, if_neg hrate, hfirst]
  | @line before rest w hpoll hrate hpins hlines hbefore hrepeat =>
      rw [one_le_iff_ne_zero] at hpoll hrate
      have hnone : (c.lines.find? fun v => 32 ≤ v.pin.toNat) = none := by
        simpa using hpins
      have htable := WiringTable.ofDistinct_of_repeat rest hbefore hrepeat
      rw [← hlines] at htable
      simp only [Configuration.validate, if_neg hpoll, if_neg hrate, hnone, lineTable, htable]
      rfl

theorem sound_or_firstBroken (c : Configuration) : c.Sound ∨ ∃ cause, c.FirstBroken cause := by
  by_cases hpoll : c.pollIntervalMs = 0
  · exact .inr ⟨_, .pollInterval hpoll⟩
  rw [← Ne, ← one_le_iff_ne_zero] at hpoll
  by_cases hrate : c.ticksPerMs = 0
  · exact .inr ⟨_, .tickRate hpoll hrate⟩
  rw [← Ne, ← one_le_iff_ne_zero] at hrate
  cases hpins : c.lines.find? fun w => 32 ≤ w.pin.toNat with
  | some w =>
      obtain ⟨hwide, before, rest, hlines, hbefore⟩ := List.find?_eq_some_iff_append.mp hpins
      exact .inr ⟨_, .pin hpoll hrate hlines (by simpa using hbefore) (by simpa using hwide)⟩
  | none =>
      have hnarrow : ∀ w ∈ c.lines, w.pin.toNat < 32 := by simpa using hpins
      rcases WiringTable.nodup_or_first_repeat c.lines with
        hnodup | ⟨before, w, rest, hlines, hbefore, hrepeat⟩
      · exact .inl ⟨hpoll, hrate, hnarrow, hnodup⟩
      · exact .inr ⟨_, .line hpoll hrate hnarrow hlines hbefore hrepeat⟩

theorem validate_eq_ok_iff (c : Configuration) : c.validate = .ok () ↔ c.Sound := by
  refine ⟨?_, Sound.validate⟩
  intro hvalid
  rcases c.sound_or_firstBroken with hsound | ⟨cause, hbroken⟩
  · exact hsound
  · cases hvalid.symm.trans hbroken.validate

theorem validate_eq_error_iff (c : Configuration) (cause : Invalidity) :
    c.validate = .error cause ↔ c.FirstBroken cause := by
  refine ⟨?_, FirstBroken.validate⟩
  intro hinvalid
  rcases c.sound_or_firstBroken with hsound | ⟨first, hbroken⟩
  · cases hinvalid.symm.trans hsound.validate
  · obtain rfl := Except.error.inj (hbroken.validate.symm.trans hinvalid)
    exact hbroken

end Configuration

/-! ## Binding what was accepted -/

namespace BoundLines

variable {δ : Type} [Port δ] {table : WiringTable} {binder : Wiring → Reading (Binding δ)}

theorem onlyRunsOut_of_narrow
    (hnarrow : ∀ w ∈ table.entries, ∃ binding, binder w = .ok binding ∧ binding.bit.toNat < 32) :
    OnlyRunsOut table binder := by
  have hfails : (∃ fault, (bind table binder).value = .error fault) ↔
      4 < (foundLabels binder table.entries).length := by
    have hsucceeds : (∃ bound, (bind table binder).value = .ok bound) ↔
        (foundLabels binder table.entries).length ≤ 4 := by
      rw [bind_eq_ok_iff, and_iff_right hnarrow]
    rw [← Nat.not_le, ← hsucceeds]
    cases (bind table binder).value <;> simp
  refine ⟨?_, hfails, ?_⟩
  · intro fault hfault
    obtain ⟨before, w, hw, hrefused⟩ := refused_of_bind hfault
    obtain ⟨binding, hfound, hbit⟩ := hnarrow w hw
    cases hrefused with
    | unfound hanswer => cases hfound.symm.trans hanswer
    | wideBit hanswer hwide =>
        obtain rfl := Except.ok.inj (hfound.symm.trans hanswer)
        omega
    | fifthPort => exact ⟨_, rfl⟩
  · intro hnamed
    rw [hfails, foundLabels_of_named hnamed, WiringTable.portOrder]

end BoundLines

namespace Configuration

/-- Validation accepts the sound configurations and reports the first broken rule of any other.
What it accepts can be bound as long as its lines are found on at most four ports. -/
theorem validate_is_exact (c : Configuration) :
    (c.validate = .ok () ↔ c.Sound) ∧
      (∀ cause, c.validate = .error cause ↔ c.FirstBroken cause) ∧
      (c.validate = .ok () → ∃ table, c.lineTable = .ok table ∧ table.entries = c.lines ∧
        table.size ≤ 21 ∧
        ∀ {δ : Type} [Port δ] (binder : Wiring → Reading (Binding δ)),
          (∀ w ∈ c.lines, ∃ binding, binder w = .ok binding ∧ binding.bit = w.pin) →
            BoundLines.OnlyRunsOut table binder) := by
  refine ⟨c.validate_eq_ok_iff, c.validate_eq_error_iff, ?_⟩
  intro hvalid
  have hsound := c.validate_eq_ok_iff.mp hvalid
  refine ⟨_, lineTable_of_nodup hsound.lines, rfl, WiringTable.size_le _, ?_⟩
  intro δ _ binder hfinds
  apply BoundLines.onlyRunsOut_of_narrow
  intro w hw
  obtain ⟨binding, hfound, hbit⟩ := hfinds w hw
  exact ⟨binding, hfound, hbit ▸ hsound.pins w hw⟩

def fivePorts : Configuration where
  lines :=
    [{ line := .button .south, port := "gpio0", pin := 31 },
      { line := .button .east, port := "gpio1", pin := 31 },
      { line := .button .west, port := "gpio2", pin := 31 },
      { line := .button .north, port := "gpio3", pin := 31 },
      { line := .button .home, port := "gpio4", pin := 31 }]

theorem fivePorts_run_out :
    fivePorts.validate = .ok () ∧
      ∃ table, fivePorts.lineTable = .ok table ∧ ∃ label,
        (BoundLines.bind table fun w => .ok ⟨w.port, w.pin, w.polarity⟩).value =
          .error (.portCacheFull 4 label) := by
  obtain ⟨haccepts, -, hbinds⟩ := validate_is_exact fivePorts
  have hvalid := haccepts.mpr ⟨by decide, by decide, by decide, by decide⟩
  obtain ⟨table, htable, hentries, -, hbound⟩ := hbinds hvalid
  have hruns := hbound (fun w => .ok ⟨w.port, w.pin, w.polarity⟩) (fun _ _ => ⟨_, rfl, rfl⟩)
  have hports : 4 < table.portOrder.length := by
    rw [WiringTable.portOrder, hentries]
    decide
  obtain ⟨fault, hfault⟩ := (hruns.fails_iff_of_named fun _ _ => rfl).mpr hports
  obtain ⟨label, rfl⟩ := hruns.fault fault hfault
  exact ⟨hvalid, table, htable, label, hfault⟩

end Configuration

end Gamepad
