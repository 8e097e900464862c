import Gamepad.Core
import Gamepad.Proofs.DwellFilter

/-!
# One poll of the core

The second half states what a poll is to yield in terms of single lines, integers and tables only,
and proves that the core yields exactly that.
-/

namespace Gamepad

theorem Button.isMenu_iff (b : Button) :
    b.isMenu = true ↔ b ∈ [Button.select, .start, .home] := by
  cases b <;> decide

theorem Button.isMenu_eq_false {b : Button} (hb : b ∉ [Button.select, .start, .home]) :
    b.isMenu = false := by
  rw [← Bool.not_eq_true, b.isMenu_iff]
  exact hb

namespace Core

/-! ## The parts of a poll -/

def filtered (core : Core) (raw : Snapshot) (now : Tick) : Snapshot :=
  (core.history.pass core.settings.dwell raw now).answer

def gateAfter (core : Core) (raw : Snapshot) (now : Tick) : LockGate :=
  (core.followLockLine (core.filtered raw now)).next

def emitted (core : Core) (raw : Snapshot) (now : Tick) (payload : Option Touchpad) :
    ControllerState :=
  { ((core.gateAfter raw now).apply (.ofButtons (core.filtered raw now))).steer
      (steeringLines core.settings raw (core.filtered raw now)) with
    touchpad := payload.getD raw.touchpad }

theorem poll_ok_answer
    (core : Core) (raw : Snapshot) (now : Tick) (payload : Option Touchpad) :
    (core.poll ⟨.ok raw, now, payload⟩).answer = .ok (core.emitted raw now payload) := rfl

theorem poll_ok_next
    (core : Core) (raw : Snapshot) (now : Tick) (payload : Option Touchpad) :
    (core.poll ⟨.ok raw, now, payload⟩).next =
      { core with
        history := core.history.observe core.settings.dwell raw now
        lock := core.gateAfter raw now } := rfl

theorem filtered_get (core : Core) (raw : Snapshot) (now : Tick) (l : Line) :
    (core.filtered raw now).get l =
      ((core.history.get l).observe core.settings.dwell (raw.get l) now).value := by
  simp [filtered, History.pass]

theorem gateAfter_locked (core : Core) (raw : Snapshot) (now : Tick) :
    (core.gateAfter raw now).locked =
      if core.lines.contains (.mode .lock) = true then (core.filtered raw now).get (.mode .lock)
      else core.lock.locked := by
  unfold gateAfter followLockLine
  split <;> rfl

theorem emitted_button
    (core : Core) (raw : Snapshot) (now : Tick) (payload : Option Touchpad) (b : Button) :
    (core.emitted raw now payload).buttons.get b =
      ((core.filtered raw now).get (.button b) &&
        !((core.gateAfter raw now).locked && b.isMenu)) := by
  have hbuttons :
      (core.emitted raw now payload).buttons =
        ((core.gateAfter raw now).apply (.ofButtons (core.filtered raw now))).buttons := rfl
  rw [hbuttons]
  cases hlocked : (core.gateAfter raw now).locked with
  | false => simp [LockGate.apply, hlocked, ControllerState.ofButtons]
  | true =>
      simp [LockGate.apply, hlocked, ControllerState.ofButtons, ControllerState.releaseMenu]

end Core

/-! ## What a poll is to yield -/

def Compass.axes : Compass → Int × Int
  | north => (0, -1)
  | northEast => (1, -1)
  | east => (1, 0)
  | southEast => (1, 1)
  | south => (0, 1)
  | southWest => (-1, 1)
  | west => (-1, 0)
  | northWest => (-1, -1)
  | neutral => (0, 0)

theorem Compass.axes_injective {c d : Compass} (heq : c.axes = d.axes) : c = d := by
  cases c <;> cases d <;> first | rfl | simp [axes] at heq

def axisBytes : List (Int × UInt8) :=
  [(-1, 0x00), (0, 0x80), (1, 0xFF)]

theorem axisBytes_unique
    {axis : Int} {byte byte' : UInt8}
    (h : (axis, byte) ∈ axisBytes) (h' : (axis, byte') ∈ axisBytes) : byte = byte' := by
  simp only [axisBytes, List.mem_cons, Prod.mk.injEq, List.not_mem_nil, or_false] at h h'
  grind

def Stick.Shows (stick : Stick) (axes : Int × Int) : Prop :=
  (axes.1, stick.x) ∈ axisBytes ∧ (axes.2, stick.y) ∈ axisBytes

theorem Stick.Shows.unique
    {stick stick' : Stick} {axes : Int × Int}
    (h : stick.Shows axes) (h' : stick'.Shows axes) : stick = stick' := by
  obtain ⟨x, y⟩ := stick
  obtain ⟨x', y'⟩ := stick'
  have hx : x = x' := axisBytes_unique h.1 h'.1
  have hy : y = y' := axisBytes_unique h.2 h'.2
  rw [hx, hy]

/-- The axes of four direction lines: right less left, and down less up. -/
def axesOf (lines : Line → Bool) : Int × Int :=
  ((lines (.stick .right)).toNat - (lines (.stick .left)).toNat,
    (lines (.stick .down)).toNat - (lines (.stick .up)).toNat)

/-- The first of left stick, right stick and pad whose switch is on carries the directions of some
lines, and the other two rest. -/
structure ControllerState.Carries (out : ControllerState) (lines : Line → Bool) : Prop where
  leftStick : out.leftStick.Shows
    (if lines (.mode .ls) then axesOf lines else (0, 0))
  rightStick : out.rightStick.Shows
    (if !lines (.mode .ls) && lines (.mode .rs) then axesOf lines else (0, 0))
  dpad : out.dpad.axes =
    if !lines (.mode .ls) && !lines (.mode .rs) then axesOf lines else (0, 0)

namespace Core

/-- The value of a line that a poll at `now` goes by: the raw one if it is the recorded one already
or the dwell has passed since the recorded tick, with ticks counted modulo `2 ^ 64`. -/
def accepted (core : Core) (raw : Snapshot) (now : Tick) (l : Line) : Bool :=
  let record := core.history.get l
  if raw.get l = record.value ∨
      (core.settings.dwell.toNat : Int) ≤ ((now.toNat : Int) - record.since.toNat) % UInt64.size then
    raw.get l
  else record.value

/-- What a poll that read `raw` at `now` is to yield. -/
structure Yields (core : Core) (raw : Snapshot) (now : Tick) (payload : Option Touchpad)
    (next : Core) (out : ControllerState) : Prop where
  locked : next.lock.locked =
    if Line.mode .lock ∈ core.lines.entries.map (·.line) then core.accepted raw now (.mode .lock)
    else core.lock.locked
  buttons : ∀ b, out.buttons.get b =
    if next.lock.locked = true ∧ b ∈ [Button.select, .start, .home] then false
    else core.accepted raw now (.button b)
  directions : out.Carries
    (match core.settings.stickInput with
      | .debounced => core.accepted raw now
      | .raw => raw.get)
  touchpad : out.touchpad =
    match payload with
    | some shown => shown
    | none => raw.touchpad
  history : ∀ l, next.history.get l =
    if core.accepted raw now l = (core.history.get l).value then core.history.get l
    else ⟨core.accepted raw now l, now⟩
  lines : next.lines = core.lines
  settings : next.settings = core.settings

theorem accepted_eq_filtered (core : Core) (raw : Snapshot) (now : Tick) (l : Line) :
    core.accepted raw now l = (core.filtered raw now).get l := by
  rw [filtered_get]
  have hlate :
      (core.settings.dwell.toNat : Int) ≤
          ((now.toNat : Int) - (core.history.get l).since.toNat) % UInt64.size ↔
        core.settings.dwell ≤ now - (core.history.get l).since := by
    rw [← elapsed_toInt, UInt64.le_iff_toNat_le]
    omega
  simp only [accepted, hlate]
  rcases (core.history.get l).observe_cases core.settings.dwell (raw.get l) now with
    ⟨hkept, hsame | hrecent⟩ | ⟨hnew, _, hdwell⟩
  · rw [hkept, if_pos (.inl hsame)]
    exact hsame
  · rw [hkept]
    split
    next hpasses =>
      rcases hpasses with hsame | hdwell
      · exact hsame
      · exact absurd hrecent (UInt64.not_lt.mpr hdwell)
    next => rfl
  · rw [hnew, if_pos (.inr hdwell)]

theorem observe_eq_of_accepted
    (core : Core) (raw : Snapshot) (now : Tick) (l : Line) :
    (core.history.observe core.settings.dwell raw now).get l =
      if core.accepted raw now l = (core.history.get l).value then core.history.get l
      else ⟨core.accepted raw now l, now⟩ := by
  rw [accepted_eq_filtered, filtered_get, History.observe_get]
  rcases (core.history.get l).observe_cases core.settings.dwell (raw.get l) now with
    ⟨hkept, _⟩ | ⟨hnew, hraw, _⟩
  · rw [hkept, if_pos rfl]
  · rw [hnew, if_neg hraw]

end Core

theorem deflect_axis_mem (negative positive : Bool) :
    ((positive.toNat : Int) - negative.toNat,
      Stick.deflect (Intent.axis negative positive)) ∈ axisBytes := by
  cases negative <;> cases positive <;> decide

theorem Intent.stick_shows (s : Snapshot) :
    (Intent.ofSnapshot s).stick.Shows (axesOf s.get) :=
  ⟨deflect_axis_mem (s.get (.stick .left)) (s.get (.stick .right)),
    deflect_axis_mem (s.get (.stick .up)) (s.get (.stick .down))⟩

theorem Stick.centred_shows : Stick.centred.Shows (0, 0) := by
  unfold Stick.Shows
  decide

theorem Intent.compass_axes (s : Snapshot) :
    (Intent.ofSnapshot s).compass.axes = axesOf s.get := by
  simp only [Intent.ofSnapshot, Intent.ofDirections, axesOf]
  cases s.get (.stick .left) <;> cases s.get (.stick .right) <;>
    cases s.get (.stick .up) <;> cases s.get (.stick .down) <;> rfl

theorem ControllerState.steer_carries (state : ControllerState) (s : Snapshot) :
    (state.steer s).Carries s.get := by
  have hmode :
      OutputMode.ofSnapshot s =
        if s.get (.mode .ls) then .leftStick
        else if s.get (.mode .rs) then .rightStick
        else .pad := rfl
  have hstick := Intent.stick_shows s
  have hcompass := Intent.compass_axes s
  have hcentred := Stick.centred_shows
  cases hls : s.get (.mode .ls) with
  | true =>
      constructor
      · simpa [steer, hmode, hls] using hstick
      · simpa [steer, hmode, hls] using hcentred
      · simp [steer, hmode, hls, Compass.axes]
  | false =>
      cases hrs : s.get (.mode .rs) with
      | true =>
          constructor
          · simpa [steer, hmode, hls, hrs] using hcentred
          · simpa [steer, hmode, hls, hrs] using hstick
          · simp [steer, hmode, hls, hrs, Compass.axes]
      | false =>
          constructor
          · simpa [steer, hmode, hls, hrs] using hcentred
          · simpa [steer, hmode, hls, hrs] using hcentred
          · simpa [steer, hmode, hls, hrs] using hcompass

theorem ControllerState.Carries.unique
    {out out' : ControllerState} {lines : Line → Bool}
    (h : out.Carries lines) (h' : out'.Carries lines) :
    out'.leftStick = out.leftStick ∧ out'.rightStick = out.rightStick ∧ out'.dpad = out.dpad :=
  ⟨h'.leftStick.unique h.leftStick, h'.rightStick.unique h.rightStick,
    Compass.axes_injective (h'.dpad.trans h.dpad.symm)⟩

theorem WiringTable.contains_iff (table : WiringTable) (l : Line) :
    table.contains l = true ↔ l ∈ table.entries.map (·.line) := by
  simp [contains]

namespace Core

theorem emitted_carries
    (core : Core) (raw : Snapshot) (now : Tick) (payload : Option Touchpad) :
    (core.emitted raw now payload).Carries
      (match core.settings.stickInput with
        | .debounced => core.accepted raw now
        | .raw => raw.get) := by
  have hcarries := ControllerState.steer_carries
    ((core.gateAfter raw now).apply (.ofButtons (core.filtered raw now)))
    (steeringLines core.settings raw (core.filtered raw now))
  have hlines :
      (steeringLines core.settings raw (core.filtered raw now)).get =
        match core.settings.stickInput with
        | .debounced => core.accepted raw now
        | .raw => raw.get := by
    unfold steeringLines
    cases core.settings.stickInput with
    | debounced =>
        funext l
        exact (core.accepted_eq_filtered raw now l).symm
    | raw => rfl
  rw [hlines] at hcarries
  exact ⟨hcarries.leftStick, hcarries.rightStick, hcarries.dpad⟩

theorem poll_yields (core : Core) (raw : Snapshot) (now : Tick) (payload : Option Touchpad) :
    core.Yields raw now payload (core.poll ⟨.ok raw, now, payload⟩).next
      (core.emitted raw now payload) where
  locked := by
    have hgate := core.gateAfter_locked raw now
    simp only [WiringTable.contains_iff] at hgate
    rw [accepted_eq_filtered]
    exact hgate
  buttons := by
    intro b
    rw [poll_ok_next, emitted_button, accepted_eq_filtered]
    have hmenu := b.isMenu_iff.symm
    cases hlocked : (core.gateAfter raw now).locked <;>
      cases hb : b.isMenu <;> simp [hmenu, hb]
  directions := core.emitted_carries raw now payload
  touchpad := by
    cases payload with
    | none => rfl
    | some shown => rfl
  history := core.observe_eq_of_accepted raw now
  lines := rfl
  settings := rfl

theorem Yields.unique
    {core next next' : Core} {raw : Snapshot} {now : Tick} {payload : Option Touchpad}
    {out out' : ControllerState}
    (h : core.Yields raw now payload next out)
    (h' : core.Yields raw now payload next' out') :
    next' = next ∧ out' = out := by
  have hlocked : next'.lock.locked = next.lock.locked := h'.locked.trans h.locked.symm
  constructor
  · have hhistory : next'.history = next.history :=
      Table.ext fun l => (h'.history l).trans (h.history l).symm
    have hlines := h'.lines.trans h.lines.symm
    have hsettings := h'.settings.trans h.settings.symm
    cases next
    cases next'
    simp only [mk.injEq]
    exact ⟨hlines, hsettings, hhistory, congrArg LockGate.mk hlocked⟩
  · have hbuttons : out'.buttons = out.buttons := by
      apply Table.ext
      intro b
      rw [h'.buttons b, h.buttons b, hlocked]
    have htouchpad := h'.touchpad.trans h.touchpad.symm
    obtain ⟨hleft, hright, hdpad⟩ := h.directions.unique h'.directions
    cases out
    cases out'
    simp only [ControllerState.mk.injEq]
    exact ⟨hbuttons, hdpad, hleft, hright, htouchpad⟩

/-- A poll that got a reading succeeds, and yields what it is to yield and nothing else. -/
theorem poll_answers_exactly
    (core : Core) (raw : Snapshot) (now : Tick) (payload : Option Touchpad) :
    ∃ out, (core.poll ⟨.ok raw, now, payload⟩).answer = .ok out ∧
      core.Yields raw now payload (core.poll ⟨.ok raw, now, payload⟩).next out ∧
      ∀ next' out', core.Yields raw now payload next' out' →
        next' = (core.poll ⟨.ok raw, now, payload⟩).next ∧ out' = out := by
  have hyields := core.poll_yields raw now payload
  refine ⟨core.emitted raw now payload, core.poll_ok_answer raw now payload, hyields, ?_⟩
  intro next' out' hyields'
  exact hyields.unique hyields'

end Core

end Gamepad
