import Gamepad.Proofs.Noninterference

/-!
# Directions are written anew

What steering makes of the pad and the sticks is fixed by the snapshot alone, so of many snapshots
written one after another only the last one can be seen.
-/

namespace Gamepad

theorem Stick.Shows.rests {stick : Stick} (hshows : stick.Shows (0, 0)) :
    stick.x = 0x80 ∧ stick.y = 0x80 :=
  ⟨axisBytes_unique hshows.1 (by decide), axisBytes_unique hshows.2 (by decide)⟩

namespace ControllerState

def AtRest (state : ControllerState) : OutputMode → Prop
  | .pad => state.dpad = .neutral
  | .leftStick => state.leftStick.x = 0x80 ∧ state.leftStick.y = 0x80
  | .rightStick => state.rightStick.x = 0x80 ∧ state.rightStick.y = 0x80

theorem Carries.atRest
    {out : ControllerState} {s : Snapshot} (hcarries : out.Carries s.get)
    {output : OutputMode} (hother : output ≠ OutputMode.ofSnapshot s) : out.AtRest output := by
  have hmode :
      OutputMode.ofSnapshot s =
        if s.get (.mode .ls) then .leftStick
        else if s.get (.mode .rs) then .rightStick
        else .pad := rfl
  rw [hmode] at hother
  -- the mode is another one, so the switches do not single this output out
  cases output with
  | pad =>
      have hdpad := hcarries.dpad
      rw [if_neg (by grind)] at hdpad
      exact Compass.axes_injective hdpad
  | leftStick =>
      have hstick := hcarries.leftStick
      rw [if_neg (by grind)] at hstick
      exact hstick.rests
  | rightStick =>
      have hstick := hcarries.rightStick
      rw [if_neg (by grind)] at hstick
      exact hstick.rests

theorem steer_eq_iff {state out : ControllerState} {s : Snapshot} :
    state.steer s = out ↔
      out.buttons = state.buttons ∧ out.touchpad = state.touchpad ∧ out.Carries s.get := by
  constructor
  · rintro rfl
    exact ⟨rfl, rfl, state.steer_carries s⟩
  · rintro ⟨hbuttons, htouchpad, hcarries⟩
    obtain ⟨hleft, hright, hdpad⟩ := hcarries.unique (state.steer_carries s)
    cases out
    simp only [steer, mk.injEq]
    exact ⟨hbuttons.symm, hdpad, hleft, hright, htouchpad.symm⟩

theorem steer_steer (state : ControllerState) (s t : Snapshot) :
    (state.steer t).steer s = state.steer s :=
  steer_eq_iff.mpr ⟨rfl, rfl, state.steer_carries s⟩

theorem foldl_steer (state : ControllerState) (earlier : List Snapshot) (s : Snapshot) :
    (earlier ++ [s]).foldl steer state = state.steer s := by
  induction earlier generalizing state with
  | nil => rfl
  | cons t earlier ih =>
      calc
        (earlier ++ [s]).foldl steer (state.steer t) = (state.steer t).steer s := ih _
        _ = state.steer s := state.steer_steer s t

structure Steered (state : ControllerState) (s : Snapshot) (out : ControllerState) : Prop where
  carries : out.Carries s.get
  directions : ∀ other : ControllerState, (other.steer s).directions = out.directions
  others : ∀ output ≠ OutputMode.ofSnapshot s, out.AtRest output
  buttons : ∀ b, out.buttons.get b = state.buttons.get b
  touchpad : out.touchpad = state.touchpad

/-- Steering overwrites all directions and nothing else, so the last of many snapshots decides. -/
theorem steer_overwrites_directions (state : ControllerState) (s : Snapshot) :
    state.Steered s (state.steer s) ∧
      (∀ earlier : List Snapshot, (earlier ++ [s]).foldl steer state = state.steer s) ∧
      ∀ n, (List.replicate n s).foldl steer (state.steer s) = state.steer s := by
  have hcarries := state.steer_carries s
  refine ⟨?_, fun earlier => state.foldl_steer earlier s, ?_⟩
  · constructor
    · exact hcarries
    · intro other
      obtain ⟨hleft, hright, hdpad⟩ := hcarries.unique (other.steer_carries s)
      simp only [ControllerState.directions, hleft, hright, hdpad]
    · intro output hother
      exact hcarries.atRest hother
    · intro b
      rfl
    · rfl
  · intro n
    have hlast := state.foldl_steer (List.replicate n s) s
    rwa [← List.replicate_succ', List.replicate_succ] at hlast

end ControllerState

end Gamepad
