import Gamepad.Proofs.TwoRuns

/-!
# Lines do not interfere

Every field of an emitted state depends on a few lines only: a button on its own line, the menu
buttons on the lock besides, and the directions on the four stick lines and two of the mode lines.
-/

namespace Gamepad

/-- Two cycles that both fail, or that read at one tick snapshots which agree on some lines. -/
inductive Cycle.AgreeOn (S : Set Line) : Cycle → Cycle → Prop
  | failed {fault fault' : InputFault} {now now' : Tick} {payload payload' : Option Touchpad} :
      AgreeOn S ⟨.error fault, now, payload⟩ ⟨.error fault', now', payload'⟩
  | read {raw raw' : Snapshot} {now : Tick} {payload payload' : Option Touchpad}
      (hraw : ∀ l ∈ S, raw.get l = raw'.get l) :
      AgreeOn S ⟨.ok raw, now, payload⟩ ⟨.ok raw', now, payload'⟩

def Cycle.touchpad? (cycle : Cycle) : Option Touchpad :=
  cycle.reading.toOption.map fun raw => cycle.payload.getD raw.touchpad

def ControllerState.directions (state : ControllerState) : Compass × Stick × Stick :=
  (state.dpad, state.leftStick, state.rightStick)

namespace Polled

/-- How two polls agree if what they got to see agrees on some lines ever since. -/
structure AgreeOn (S : Set Line) (p p' : Polled) : Prop where
  records : ∀ l ∈ S, p.next.history.get l = p'.next.history.get l
  filtered : ∀ l ∈ S,
    p.shown.map (fun o => o.filtered.get l) = p'.shown.map fun o => o.filtered.get l
  buttons : ∀ b ∉ [Button.select, .start, .home], Line.button b ∈ S →
    p.shown.map (fun o => o.state.buttons.get b) = p'.shown.map fun o => o.state.buttons.get b
  directions : (∀ d, Line.stick d ∈ S) → Line.mode .ls ∈ S → Line.mode .rs ∈ S →
    p.shown.map (fun o => o.state.directions) = p'.shown.map fun o => o.state.directions
  touchpad : p.cycle.touchpad? = p'.cycle.touchpad? →
    p.shown.map (fun o => o.state.touchpad) = p'.shown.map fun o => o.state.touchpad

/-- How they agree besides if the lock was set alike and its line is among them. -/
structure LockAgreesOn (S : Set Line) (p p' : Polled) : Prop where
  locked : p.next.lock = p'.next.lock
  menu : ∀ b ∈ [Button.select, .start, .home], Line.button b ∈ S →
    p.shown.map (fun o => o.state.buttons.get b) = p'.shown.map fun o => o.state.buttons.get b

end Polled

/-! ## One poll -/

theorem LockGate.eq_of_locked
    {gate gate' : LockGate} (hlocked : gate.locked = gate'.locked) : gate = gate' :=
  congrArg LockGate.mk hlocked

theorem ControllerState.steer_directions
    (state : ControllerState) {s s' : Snapshot}
    (hsticks : ∀ d, s.get (.stick d) = s'.get (.stick d))
    (hls : s.get (.mode .ls) = s'.get (.mode .ls))
    (hrs : s.get (.mode .rs) = s'.get (.mode .rs)) :
    (state.steer s).directions = (state.steer s').directions := by
  have hintent : Intent.ofSnapshot s = Intent.ofSnapshot s' := by
    unfold Intent.ofSnapshot
    rw [funext hsticks]
  have hmode : OutputMode.ofSnapshot s = OutputMode.ofSnapshot s' := by
    unfold OutputMode.ofSnapshot
    rw [hls, hrs]
  simp only [directions, steer, hintent, hmode]

namespace Core

theorem emitted_directions
    (core : Core) (raw : Snapshot) (now : Tick) (payload : Option Touchpad) :
    (core.emitted raw now payload).directions =
      (ControllerState.idle.steer
        (steeringLines core.settings raw (core.filtered raw now))).directions := rfl

structure AgreeOn (S : Set Line) (a b : Core) : Prop where
  lines : a.lines = b.lines
  settings : a.settings = b.settings
  history : ∀ l ∈ S, a.history.get l = b.history.get l

section Agreeing

variable {S : Set Line} {a b : Core} (hagree : AgreeOn S a b)
  {raw raw' : Snapshot} (hraw : ∀ l ∈ S, raw.get l = raw'.get l) (now : Tick)

include hagree hraw

theorem AgreeOn.observe {l : Line} (hl : l ∈ S) :
    (a.history.observe a.settings.dwell raw now).get l =
      (b.history.observe b.settings.dwell raw' now).get l := by
  rw [History.observe_get, History.observe_get, hagree.history l hl, hagree.settings, hraw l hl]

theorem AgreeOn.filtered {l : Line} (hl : l ∈ S) :
    (a.filtered raw now).get l = (b.filtered raw' now).get l := by
  rw [filtered_get, filtered_get, hagree.history l hl, hagree.settings, hraw l hl]

theorem AgreeOn.steering {l : Line} (hl : l ∈ S) :
    (steeringLines a.settings raw (a.filtered raw now)).get l =
      (steeringLines b.settings raw' (b.filtered raw' now)).get l := by
  unfold steeringLines
  rw [hagree.settings]
  cases b.settings.stickInput with
  | debounced => exact hagree.filtered hraw now hl
  | raw => exact hraw l hl

theorem AgreeOn.gateAfter
    (hgate : a.lock = b.lock) (hlock : a.lines.contains (.mode .lock) = true → .mode .lock ∈ S) :
    a.gateAfter raw now = b.gateAfter raw' now := by
  apply LockGate.eq_of_locked
  rw [gateAfter_locked, gateAfter_locked, ← hagree.lines, hgate]
  split
  next hwired => exact hagree.filtered hraw now (hlock hwired)
  next => rfl

end Agreeing

theorem AgreeOn.poll
    {S : Set Line} {a b : Core} (hagree : AgreeOn S a b)
    {c d : Cycle} (hcycle : Cycle.AgreeOn S c d) :
    Polled.AgreeOn S ⟨a, c⟩ ⟨b, d⟩ ∧ AgreeOn S (a.poll c).next (b.poll d).next := by
  cases hcycle with
  | failed =>
      constructor
      · exact ⟨hagree.history, fun _ _ => rfl, fun _ _ _ => rfl, fun _ _ _ => rfl,
          fun _ => rfl⟩
      · exact hagree
  | @read raw raw' now payload payload' hraw =>
      constructor
      · constructor
        · intro l hl
          exact hagree.observe hraw now hl
        · intro l hl
          exact congrArg some (hagree.filtered hraw now hl)
        · -- Such a button passes the gate whether it is locked or not.
          intro button hbutton hl
          simp only [Polled.shown_of_ok, Option.map_some, emitted_button,
            Button.isMenu_eq_false hbutton, Bool.and_false, hagree.filtered hraw now hl]
        · intro hsticks hls hrs
          simp only [Polled.shown_of_ok, Option.map_some, emitted_directions]
          apply congrArg some
          apply ControllerState.steer_directions
          · intro d
            exact hagree.steering hraw now (hsticks d)
          · exact hagree.steering hraw now hls
          · exact hagree.steering hraw now hrs
        · intro htouch
          exact htouch
      · exact ⟨hagree.lines, hagree.settings, fun l hl => hagree.observe hraw now hl⟩

structure LockAgreesOn (S : Set Line) (a b : Core) : Prop extends AgreeOn S a b where
  lock : a.lock = b.lock
  follows : a.lines.contains (.mode .lock) = true → Line.mode .lock ∈ S

theorem LockAgreesOn.poll
    {S : Set Line} {a b : Core} (hagree : LockAgreesOn S a b)
    {c d : Cycle} (hcycle : Cycle.AgreeOn S c d) :
    Polled.LockAgreesOn S ⟨a, c⟩ ⟨b, d⟩ ∧ LockAgreesOn S (a.poll c).next (b.poll d).next := by
  have hnext := (hagree.toAgreeOn.poll hcycle).2
  cases hcycle with
  | failed => exact ⟨⟨hagree.lock, fun _ _ _ => rfl⟩, hnext, hagree.lock, hagree.follows⟩
  | @read raw raw' now payload payload' hraw =>
      have hgate := hagree.toAgreeOn.gateAfter hraw now hagree.lock hagree.follows
      constructor
      · refine ⟨hgate, ?_⟩
        intro button _ hl
        simp only [Polled.shown_of_ok, Option.map_some, emitted_button, hgate,
          hagree.toAgreeOn.filtered hraw now hl]
      · exact ⟨hnext, hgate, hagree.follows⟩

/-- Whatever the other lines show and however the lock is set, what a run shows of some lines
depends on these lines only; and what it shows of the lock and of the menu buttons depends on
the settings of the lock besides, and on the lock line if that is wired. -/
theorem lines_do_not_interfere
    (lines : WiringTable) (settings : Settings) (S : Set Line) {actions actions' : List Action}
    (hcycles : List.Forall₂ (Cycle.AgreeOn S) (cycles actions) (cycles actions')) :
    List.Forall₂ (Polled.AgreeOn S)
        ((fresh lines settings).polls actions) ((fresh lines settings).polls actions') ∧
      (List.Forall₂ (Action.Alike (Cycle.AgreeOn S)) actions actions' →
        (lines.contains (.mode .lock) = true → Line.mode .lock ∈ S) →
          List.Forall₂ (Polled.LockAgreesOn S)
              ((fresh lines settings).polls actions) ((fresh lines settings).polls actions') ∧
            ((fresh lines settings).after actions).lock =
              ((fresh lines settings).after actions').lock) := by
  have hstart : AgreeOn S (fresh lines settings) (fresh lines settings) :=
    ⟨rfl, rfl, fun _ _ => rfl⟩
  constructor
  · exact forall₂_polls (fun a b c d hagree hcycle => AgreeOn.poll hagree hcycle)
      (fun a b gate gate' hagree => ⟨hagree.lines, hagree.settings, hagree.history⟩)
      hstart hcycles
  · intro hactions hfollows
    have hset : ∀ a b locked, LockAgreesOn S a b →
        LockAgreesOn S (a.setLocked locked).next (b.setLocked locked).next :=
      fun a b locked hagree => ⟨⟨hagree.lines, hagree.settings, hagree.history⟩, rfl,
        hagree.follows⟩
    obtain ⟨hpolls, hafter⟩ := forall₂_polls_of_actions
      (fun a b c d hagree hcycle => LockAgreesOn.poll hagree hcycle) hset
      ⟨hstart, rfl, hfollows⟩ hactions
    exact ⟨hpolls, hafter.lock⟩

def startUnderLock (others : List Line) (payload : Option Touchpad) (fault : InputFault) :
    List Action :=
  [.poll ⟨.ok (Snapshot.released.assert (.button .start :: others)), 9, payload⟩,
    .setLocked true,
    .poll ⟨.error fault, 9, payload⟩,
    .poll ⟨.ok (Snapshot.released.assert (.button .start :: .mode .lock :: others)), 12, none⟩]

theorem startUnderLock_undisturbed :
    let S : Set Line := {.button .start, .mode .lock}
    let alone := startUnderLock [] none (.portFault "gpio0" "gone")
    let crowded := startUnderLock [.button .south, .stick .left] (some { first := ⟨true, 3, 4⟩ })
      (.portFault "gpio1" "noise")
    List.Forall₂ (Action.Alike (Cycle.AgreeOn S)) alone crowded ∧
      List.Forall₂ (Polled.AgreeOn S)
        ((fresh {} { dwell := 5 }).polls alone) ((fresh {} { dwell := 5 }).polls crowded) ∧
      List.Forall₂ (Polled.LockAgreesOn S)
        ((fresh {} { dwell := 5 }).polls alone) ((fresh {} { dwell := 5 }).polls crowded) := by
  intro S alone crowded
  have hfirst : ∀ l ∈ S, (Snapshot.released.assert [.button .start]).get l =
      (Snapshot.released.assert [.button .start, .button .south, .stick .left]).get l := by
    rintro l (rfl | rfl) <;> decide
  have hlast : ∀ l ∈ S, (Snapshot.released.assert [.button .start, .mode .lock]).get l =
      (Snapshot.released.assert
        [.button .start, .mode .lock, .button .south, .stick .left]).get l := by
    rintro l (rfl | rfl) <;> decide
  have hactions : List.Forall₂ (Action.Alike (Cycle.AgreeOn S)) alone crowded :=
    .cons (.poll (.read hfirst)) (.cons (.setLocked true)
      (.cons (.poll .failed) (.cons (.poll (.read hlast)) .nil)))
  have hcycles : List.Forall₂ (Cycle.AgreeOn S) (cycles alone) (cycles crowded) :=
    .cons (.read hfirst) (.cons .failed (.cons (.read hlast) .nil))
  obtain ⟨hagree, hlock⟩ := lines_do_not_interfere {} { dwell := 5 } S hcycles
  exact ⟨hactions, hagree, (hlock hactions (fun _ => .inr rfl)).1⟩

end Core

end Gamepad
