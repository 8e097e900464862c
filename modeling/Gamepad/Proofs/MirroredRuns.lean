import Gamepad.Proofs.LockIndicator

/-!
# Mirror symmetry

Exchanging left and right in everything that a run reads reflects every state that it emits, and
the same holds of up and down.  One poll is symmetric because the reflected outcome is what the
reflected poll is to yield, and it yields nothing else.
-/

namespace Gamepad

inductive Axis
  | horizontal | vertical
  deriving DecidableEq, Repr

/-! ## Reflections -/

def Direction.mirrored : Direction → Axis → Direction
  | left, .horizontal => right
  | right, .horizontal => left
  | up, .vertical => down
  | down, .vertical => up
  | d, _ => d

/-- The line at the other end of an axis; a line that is not on the axis is its own reflection. -/
def Line.mirrored : Line → Axis → Line
  | stick d, axis => stick (d.mirrored axis)
  | l, _ => l

def Snapshot.mirrored (s : Snapshot) (axis : Axis) : Snapshot :=
  { s with lines := Table.ofFn fun l => s.get (l.mirrored axis) }

def Compass.mirrored : Compass → Axis → Compass
  | north, .horizontal => north
  | northEast, .horizontal => northWest
  | east, .horizontal => west
  | southEast, .horizontal => southWest
  | south, .horizontal => south
  | southWest, .horizontal => southEast
  | west, .horizontal => east
  | northWest, .horizontal => northEast
  | north, .vertical => south
  | northEast, .vertical => southEast
  | east, .vertical => east
  | southEast, .vertical => northEast
  | south, .vertical => north
  | southWest, .vertical => northWest
  | west, .vertical => west
  | northWest, .vertical => southWest
  | neutral, _ => neutral

def Stick.opposite (byte : UInt8) : UInt8 :=
  if byte = 0x00 then 0xFF
  else if byte = 0xFF then 0x00
  else byte

def Stick.mirrored (stick : Stick) : Axis → Stick
  | .horizontal => { stick with x := opposite stick.x }
  | .vertical => { stick with y := opposite stick.y }

def ControllerState.mirrored (state : ControllerState) (axis : Axis) : ControllerState :=
  { state with
    dpad := state.dpad.mirrored axis
    leftStick := state.leftStick.mirrored axis
    rightStick := state.rightStick.mirrored axis }

/-- No output of the state points to either end of an axis. -/
def ControllerState.NeutralOn (state : ControllerState) : Axis → Prop
  | .horizontal =>
    state.dpad.axes.1 = 0 ∧ state.leftStick.x = Stick.rest ∧ state.rightStick.x = Stick.rest
  | .vertical =>
    state.dpad.axes.2 = 0 ∧ state.leftStick.y = Stick.rest ∧ state.rightStick.y = Stick.rest

def History.mirrored (h : History) (axis : Axis) : History :=
  Table.ofFn fun l => h.get (l.mirrored axis)

@[simp]
theorem Snapshot.mirrored_get (s : Snapshot) (axis : Axis) (l : Line) :
    (s.mirrored axis).get l = s.get (l.mirrored axis) := by
  simp [mirrored, Snapshot.get]

@[simp]
theorem History.mirrored_get (h : History) (axis : Axis) (l : Line) :
    (h.mirrored axis).get l = h.get (l.mirrored axis) := by
  simp [mirrored]

theorem History.initial_mirrored (axis : Axis) : initial.mirrored axis = initial := by
  apply Table.ext
  intro l
  rw [mirrored_get]
  simp [initial]

/-! ## Directions -/

def Axis.negate (axes : Int × Int) : Axis → Int × Int
  | horizontal => (-axes.1, axes.2)
  | vertical => (axes.1, -axes.2)

theorem Axis.negate_zero (axis : Axis) : axis.negate (0, 0) = (0, 0) := by
  cases axis <;> rfl

theorem Axis.negate_ite (axis : Axis) (b : Bool) (axes : Int × Int) :
    axis.negate (if b then axes else (0, 0)) = if b then axis.negate axes else (0, 0) := by
  cases b
  · exact axis.negate_zero
  · rfl

theorem axesOf_mirrored (lines : Line → Bool) (axis : Axis) :
    axesOf (fun l => lines (l.mirrored axis)) = axis.negate (axesOf lines) := by
  cases axis with
  | horizontal => exact Prod.ext (Int.neg_sub _ _).symm rfl
  | vertical => exact Prod.ext rfl (Int.neg_sub _ _).symm

theorem Compass.mirrored_axes (c : Compass) (axis : Axis) :
    (c.mirrored axis).axes = axis.negate c.axes := by
  cases c <;> cases axis <;> rfl

theorem opposite_mem_axisBytes {sign : Int} {byte : UInt8} (hmem : (sign, byte) ∈ axisBytes) :
    (-sign, Stick.opposite byte) ∈ axisBytes := by
  simp only [axisBytes, List.mem_cons, Prod.mk.injEq, List.not_mem_nil, or_false] at hmem
  rcases hmem with ⟨rfl, rfl⟩ | ⟨rfl, rfl⟩ | ⟨rfl, rfl⟩ <;> decide

theorem Stick.Shows.mirrored {stick : Stick} {axes : Int × Int} (hshows : stick.Shows axes)
    (axis : Axis) : (stick.mirrored axis).Shows (axis.negate axes) := by
  cases axis with
  | horizontal => exact ⟨opposite_mem_axisBytes hshows.1, hshows.2⟩
  | vertical => exact ⟨hshows.1, opposite_mem_axisBytes hshows.2⟩

theorem ControllerState.Carries.mirrored
    {out : ControllerState} {lines : Line → Bool} (hcarries : out.Carries lines) (axis : Axis) :
    (out.mirrored axis).Carries fun l => lines (l.mirrored axis) where
  leftStick := by
    have hleft := hcarries.leftStick.mirrored axis
    rw [axis.negate_ite, ← axesOf_mirrored] at hleft
    exact hleft
  rightStick := by
    have hright := hcarries.rightStick.mirrored axis
    rw [axis.negate_ite, ← axesOf_mirrored] at hright
    exact hright
  dpad := by
    have hdpad := congrArg axis.negate hcarries.dpad
    rw [← Compass.mirrored_axes, axis.negate_ite, ← axesOf_mirrored] at hdpad
    exact hdpad

/-! ## One poll -/

namespace Core

def mirrored (core : Core) (axis : Axis) : Core :=
  { core with history := core.history.mirrored axis }

theorem accepted_mirrored
    (core : Core) (raw : Snapshot) (now : Tick) (axis : Axis) (l : Line) :
    (core.mirrored axis).accepted (raw.mirrored axis) now l =
      core.accepted raw now (l.mirrored axis) := by
  simp only [accepted, mirrored, Snapshot.mirrored_get, History.mirrored_get]

theorem Yields.mirrored
    {core next : Core} {raw : Snapshot} {now : Tick} {payload : Option Touchpad}
    {out : ControllerState} (hyields : core.Yields raw now payload next out) (axis : Axis) :
    (core.mirrored axis).Yields (raw.mirrored axis) now payload (next.mirrored axis)
      (out.mirrored axis) where
  locked := by
    rw [accepted_mirrored]
    exact hyields.locked
  buttons := by
    intro b
    rw [accepted_mirrored]
    exact hyields.buttons b
  directions := by
    have hcarries := hyields.directions.mirrored axis
    have hlines : ((core.mirrored axis).accepted (raw.mirrored axis) now) =
        fun l => core.accepted raw now (l.mirrored axis) :=
      funext fun l => core.accepted_mirrored raw now axis l
    have hraw : (raw.mirrored axis).get = fun l => raw.get (l.mirrored axis) :=
      funext fun l => raw.mirrored_get axis l
    rw [hlines, hraw]
    cases hsource : core.settings.stickInput with
    | debounced => simpa [Core.mirrored, hsource] using hcarries
    | raw => simpa [Core.mirrored, hsource] using hcarries
  touchpad := hyields.touchpad
  history := by
    intro l
    rw [accepted_mirrored]
    simp only [Core.mirrored, History.mirrored_get]
    exact hyields.history (l.mirrored axis)
  lines := hyields.lines
  settings := hyields.settings

theorem poll_mirrored
    (core : Core) (raw : Snapshot) (now : Tick) (payload : Option Touchpad) (axis : Axis) :
    ((core.mirrored axis).poll ⟨.ok (raw.mirrored axis), now, payload⟩).next =
        (core.poll ⟨.ok raw, now, payload⟩).next.mirrored axis ∧
      (core.mirrored axis).emitted (raw.mirrored axis) now payload =
        (core.emitted raw now payload).mirrored axis :=
  ((core.poll_yields raw now payload).mirrored axis).unique
    ((core.mirrored axis).poll_yields (raw.mirrored axis) now payload)

/-! ## Whole runs -/

def Action.mirrored : Action → Axis → Action
  | poll cycle, axis => poll { cycle with reading := cycle.reading.map (·.mirrored axis) }
  | setLocked locked, _ => setLocked locked

/-- What a step looks like from outside: its answer, the lock flag after it, and the calls to the
indicator. -/
structure Appearance where
  answer : Option (Reading ControllerState)
  locked : Bool
  calls : List Bool

def Appearance.mirrored (seen : Appearance) (axis : Axis) : Appearance :=
  { seen with answer := seen.answer.map (Except.map (·.mirrored axis)) }

def appearance (step : Step Core (Option (Reading ControllerState))) : Appearance :=
  ⟨step.answer, step.next.lock.locked, lampCalls step.events⟩

def appearances (core : Core) (actions : List Action) : List Appearance :=
  (core.run actions).map appearance

theorem act_mirrored (core : Core) (axis : Axis) (action : Action) :
    ((core.mirrored axis).act (action.mirrored axis)).next = (core.act action).next.mirrored axis ∧
      ((core.mirrored axis).act (action.mirrored axis)).answer =
        (core.act action).answer.map (Except.map (·.mirrored axis)) := by
  cases action with
  | setLocked locked => exact ⟨rfl, rfl⟩
  | poll cycle =>
      obtain ⟨reading, now, payload⟩ := cycle
      cases reading with
      | error fault => exact ⟨rfl, rfl⟩
      | ok raw =>
          obtain ⟨hnext, hemitted⟩ := core.poll_mirrored raw now payload axis
          exact ⟨hnext, congrArg (fun state => some (Except.ok state)) hemitted⟩

theorem appearance_mirrored (core : Core) (axis : Axis) (action : Action) :
    appearance ((core.mirrored axis).act (action.mirrored axis)) =
      (appearance (core.act action)).mirrored axis := by
  obtain ⟨hnext, hanswer⟩ := core.act_mirrored axis action
  have hcalls : lampCalls ((core.mirrored axis).act (action.mirrored axis)).events =
      lampCalls (core.act action).events := by
    -- Both show the change of the lock, which is the same in both.
    rw [(act_shows _ _).lampCalls, (act_shows _ _).lampCalls, hnext]
    rfl
  unfold appearance
  rw [hnext, hanswer, hcalls]
  rfl

theorem appearances_mirrored (core : Core) (axis : Axis) (actions : List Action) :
    (core.mirrored axis).appearances (actions.map (·.mirrored axis)) =
      (core.appearances actions).map (·.mirrored axis) := by
  induction actions generalizing core with
  | nil => rfl
  | cons action rest ih =>
      have hrest := ih (core.act action).next
      rw [← (core.act_mirrored axis action).1] at hrest
      exact congrArg₂ List.cons (core.appearance_mirrored axis action) hrest

theorem fresh_mirrored (lines : WiringTable) (settings : Settings) (axis : Axis) :
    (fresh lines settings).mirrored axis = fresh lines settings := by
  unfold mirrored fresh
  rw [History.initial_mirrored]

end Core

/-! ## Runs that are their own reflection -/

theorem axisBytes_rest
    {sign : Int} {byte : UInt8} (hmem : (sign, byte) ∈ axisBytes)
    (hself : Stick.opposite byte = byte) : byte = Stick.rest := by
  simp only [axisBytes, List.mem_cons, Prod.mk.injEq, List.not_mem_nil, or_false] at hmem
  rcases hmem with ⟨-, rfl⟩ | ⟨-, rfl⟩ | ⟨-, rfl⟩ <;> revert hself <;> decide

theorem Compass.axes_of_mirrored
    {c : Compass} {axis : Axis} (hself : c.mirrored axis = c) : axis.negate c.axes = c.axes := by
  rw [← Compass.mirrored_axes, hself]

theorem ControllerState.Carries.neutralOn
    {state : ControllerState} {lines : Line → Bool} (hcarries : state.Carries lines) {axis : Axis}
    (hself : state.mirrored axis = state) : state.NeutralOn axis := by
  have hdpad := Compass.axes_of_mirrored (congrArg ControllerState.dpad hself)
  have hleft := congrArg ControllerState.leftStick hself
  have hright := congrArg ControllerState.rightStick hself
  cases axis with
  | horizontal =>
      have hsign : -state.dpad.axes.1 = state.dpad.axes.1 := congrArg Prod.fst hdpad
      refine ⟨by omega, ?_, ?_⟩
      · exact axisBytes_rest hcarries.leftStick.1 (congrArg Stick.x hleft)
      · exact axisBytes_rest hcarries.rightStick.1 (congrArg Stick.x hright)
  | vertical =>
      have hsign : -state.dpad.axes.2 = state.dpad.axes.2 := congrArg Prod.snd hdpad
      refine ⟨by omega, ?_, ?_⟩
      · exact axisBytes_rest hcarries.leftStick.2 (congrArg Stick.y hleft)
      · exact axisBytes_rest hcarries.rightStick.2 (congrArg Stick.y hright)

namespace Core

theorem carries_of_mem_appearances
    {core : Core} {actions : List Action} {seen : Appearance}
    (hseen : seen ∈ core.appearances actions) {state : ControllerState}
    (hanswer : seen.answer = some (.ok state)) : ∃ lines, state.Carries lines := by
  induction actions generalizing core with
  | nil => simp [appearances, run] at hseen
  | cons action rest ih =>
      rcases List.mem_cons.mp hseen with rfl | hlater
      · cases action with
        | setLocked locked => cases hanswer
        | poll cycle =>
            obtain ⟨reading, now, payload⟩ := cycle
            cases reading with
            | error fault => cases hanswer
            | ok raw =>
                obtain rfl : core.emitted raw now payload = state :=
                  Except.ok.inj (Option.some.inj hanswer)
                exact ⟨_, core.emitted_carries raw now payload⟩
      · exact ih hlater

/-- Exchanging the two lines of an axis in all that a run from creation reads reflects what it
emits, and exchanging those of both axes reflects it on both.  A run that is its own reflection
emits nothing that points along the axis. -/
theorem mirror_symmetric (lines : WiringTable) (settings : Settings) (actions : List Action) :
    (∀ axis, (fresh lines settings).appearances (actions.map (·.mirrored axis)) =
        ((fresh lines settings).appearances actions).map (·.mirrored axis)) ∧
      (fresh lines settings).appearances
          ((actions.map (·.mirrored .horizontal)).map (·.mirrored .vertical)) =
        (((fresh lines settings).appearances actions).map (·.mirrored .horizontal)).map
          (·.mirrored .vertical) ∧
      ∀ axis, actions.map (·.mirrored axis) = actions →
        ∀ seen ∈ (fresh lines settings).appearances actions,
          ∀ state, seen.answer = some (.ok state) → state.NeutralOn axis := by
  have hmirrored : ∀ axis actions,
      (fresh lines settings).appearances (actions.map (·.mirrored axis)) =
        ((fresh lines settings).appearances actions).map (·.mirrored axis) := by
    intro axis actions
    have hruns := (fresh lines settings).appearances_mirrored axis actions
    rwa [fresh_mirrored] at hruns
  refine ⟨fun axis => hmirrored axis actions, ?_, ?_⟩
  · rw [hmirrored .vertical, hmirrored .horizontal]
  · intro axis hself seen hseen state hanswer
    obtain ⟨_, hcarries⟩ := carries_of_mem_appearances hseen hanswer
    apply hcarries.neutralOn
    have hsame := hmirrored axis actions
    rw [hself] at hsame
    have hfixed : seen.mirrored axis = seen :=
      List.map_inj_left.mp (hsame.symm.trans (List.map_id _).symm) seen hseen
    have hfixedAnswer := congrArg Appearance.answer hfixed
    unfold Appearance.mirrored at hfixedAnswer
    rw [hanswer] at hfixedAnswer
    exact Except.ok.inj (Option.some.inj hfixedAnswer)

def bothWays : List Action :=
  [.poll ⟨.ok (Snapshot.released.assert [.stick .left, .stick .right, .stick .up]), 9, none⟩,
    .setLocked true,
    .poll ⟨.error (.portFault "gpio0" "gone"), 12, none⟩,
    .poll ⟨.ok (Snapshot.released.assert
      [.stick .left, .stick .right, .stick .down, .mode .rs]), 20, none⟩]

theorem bothWays_neutral :
    let seen := (fresh {} { dwell := 5 }).appearances bothWays
    bothWays.map (·.mirrored .horizontal) = bothWays ∧
      (∀ s ∈ seen, ∀ state, s.answer = some (.ok state) → state.NeutralOn .horizontal) ∧
      (seen.map fun s => (s.answer.bind Except.toOption).map fun state =>
        (state.dpad, state.rightStick)) =
          [some (.north, .centred), none, none, some (.neutral, ⟨0x80, 0xFF⟩)] := by
  intro seen
  have hself : bothWays.map (·.mirrored .horizontal) = bothWays := by
    have hup : (Snapshot.released.assert [.stick .left, .stick .right, .stick .up]).mirrored
        .horizontal = Snapshot.released.assert [.stick .left, .stick .right, .stick .up] := by
      decide +kernel
    have hdown : (Snapshot.released.assert
          [.stick .left, .stick .right, .stick .down, .mode .rs]).mirrored .horizontal =
        Snapshot.released.assert [.stick .left, .stick .right, .stick .down, .mode .rs] := by
      decide +kernel
    simp only [bothWays, List.map_cons, List.map_nil, Action.mirrored, Except.map, hup, hdown]
  obtain ⟨_, _, hneutral⟩ := mirror_symmetric {} { dwell := 5 } bothWays
  exact ⟨hself, hneutral .horizontal hself, by decide +kernel⟩

example :
    let shown (axis? : Option Axis) :=
      ((fresh {} { dwell := 5 }).appearances
        ([.poll ⟨.ok (Snapshot.released.assert [.stick .left]), 9, none⟩,
          .poll ⟨.ok (Snapshot.released.assert [.stick .right]), 11, none⟩,
          .poll ⟨.ok (Snapshot.released.assert [.stick .right]), 14, none⟩].map fun action =>
            axis?.elim action action.mirrored)).map fun s =>
              (s.answer.bind Except.toOption).map ControllerState.dpad
    shown none = [some .west, some .neutral, some .east] ∧
      shown (some .horizontal) = [some .east, some .neutral, some .west] ∧
      shown (some .vertical) = [some .west, some .neutral, some .east] := by
  decide +kernel

end Core

end Gamepad
