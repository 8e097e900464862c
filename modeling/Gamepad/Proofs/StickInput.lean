import Gamepad.Proofs.LockIndicator
import Gamepad.Proofs.Noninterference

/-!
# Where the directions are read from

Two cores that differ only in the lines their directions follow are told apart by the directions of
the states that they emit, and by nothing else.
-/

namespace Gamepad

/-- Two states that agree in every field but those that carry directions. -/
structure ControllerState.SameButDirections (state state' : ControllerState) : Prop where
  buttons : state.buttons = state'.buttons
  touchpad : state.touchpad = state'.touchpad

inductive Reading.SameButDirections :
    Reading ControllerState → Reading ControllerState → Prop
  | failed (fault : InputFault) : SameButDirections (.error fault) (.error fault)
  | read {state state' : ControllerState} (hstate : state.SameButDirections state') :
      SameButDirections (.ok state) (.ok state')

structure Step.SameButDirections
    (step step' : Step Core (Option (Reading ControllerState))) : Prop where
  answer : Option.Rel Reading.SameButDirections step.answer step'.answer
  history : step.next.history = step'.next.history
  lock : step.next.lock = step'.next.lock
  calls : lampCalls step.events = lampCalls step'.events

/-- Two snapshots that agree on the lines that the directions are read from. -/
structure Snapshot.SteersAlike (s s' : Snapshot) : Prop where
  sticks : ∀ d, s.get (.stick d) = s'.get (.stick d)
  ls : s.get (.mode .ls) = s'.get (.mode .ls)
  rs : s.get (.mode .rs) = s'.get (.mode .rs)

namespace Polled

/-- A poll that reads `s` emits a state with the directions of `lines s`. -/
def SteersBy (p : Polled) (lines : Snapshot → Snapshot) : Prop :=
  ∀ s, p.cycle.reading = .ok s →
    ∃ state, p.answer = .ok state ∧
      state.directions = (ControllerState.idle.steer (lines s)).directions

theorem steersBy_raw {p : Polled} (hraw : p.core.settings.stickInput = .raw) :
    p.SteersBy id := by
  obtain ⟨core, ⟨reading, now, payload⟩⟩ := p
  rintro s rfl
  refine ⟨_, core.poll_ok_answer s now payload, ?_⟩
  have hlines : Core.steeringLines core.settings s (core.filtered s now) = s := by
    unfold Core.steeringLines
    rw [hraw]
  rw [Core.emitted_directions, hlines, id_eq]

theorem steersBy_debounced {p : Polled} (hdebounced : p.core.settings.stickInput = .debounced) :
    p.SteersBy p.next.history.filter := by
  obtain ⟨core, ⟨reading, now, payload⟩⟩ := p
  rintro s rfl
  refine ⟨_, core.poll_ok_answer s now payload, ?_⟩
  have hlines : Core.steeringLines core.settings s (core.filtered s now) =
      core.filtered s now := by
    unfold Core.steeringLines
    rw [hdebounced]
  rw [Core.emitted_directions, hlines, next_of_ok]
  rfl

theorem SteersBy.alike
    {p p' : Polled} (hp : p.SteersBy id) (hp' : p'.SteersBy id) {s s' : Snapshot}
    (hreading : p.cycle.reading = .ok s) (hreading' : p'.cycle.reading = .ok s')
    (halike : s.SteersAlike s') :
    p.answer.map ControllerState.directions = p'.answer.map ControllerState.directions := by
  obtain ⟨state, hanswer, hdirections⟩ := hp s hreading
  obtain ⟨state', hanswer', hdirections'⟩ := hp' s' hreading'
  have hsteer := ControllerState.idle.steer_directions halike.sticks halike.ls halike.rs
  rw [hanswer, hanswer']
  exact congrArg Except.ok (hdirections.trans (hsteer.trans hdirections'.symm))

end Polled

namespace Core

def steeredBy (core : Core) (stickInput : StickInput) : Core :=
  { core with settings := { core.settings with stickInput } }

/-! ## Two cores -/

theorem act_steeredBy_next (core : Core) (stickInput : StickInput) (action : Action) :
    ((core.steeredBy stickInput).act action).next =
      (core.act action).next.steeredBy stickInput := by
  cases action with
  | setLocked locked => rfl
  | poll cycle =>
      obtain ⟨reading, now, payload⟩ := cycle
      cases reading with
      | error fault => rfl
      | ok raw => rfl

theorem emitted_steeredBy
    (core : Core) (stickInput stickInput' : StickInput) (raw : Snapshot) (now : Tick)
    (payload : Option Touchpad) :
    ((core.steeredBy stickInput).emitted raw now payload).SameButDirections
      ((core.steeredBy stickInput').emitted raw now payload) :=
  ⟨rfl, rfl⟩

theorem act_sameButDirections
    (core : Core) (stickInput stickInput' : StickInput) (action : Action) :
    Step.SameButDirections ((core.steeredBy stickInput).act action)
      ((core.steeredBy stickInput').act action) where
  answer := by
    cases action with
    | setLocked locked => exact .none
    | poll cycle =>
        obtain ⟨reading, now, payload⟩ := cycle
        cases reading with
        | error fault => exact .some (.failed fault)
        | ok raw =>
            exact .some (.read (core.emitted_steeredBy stickInput stickInput' raw now payload))
  history := by
    rw [act_steeredBy_next, act_steeredBy_next]
    rfl
  lock := by
    rw [act_steeredBy_next, act_steeredBy_next]
    rfl
  calls := by
    rw [(act_shows _ action).lampCalls, (act_shows _ action).lampCalls, act_steeredBy_next,
      act_steeredBy_next]
    rfl

theorem run_sameButDirections
    (core : Core) (stickInput stickInput' : StickInput) (actions : List Action) :
    List.Forall₂ Step.SameButDirections ((core.steeredBy stickInput).run actions)
      ((core.steeredBy stickInput').run actions) := by
  induction actions generalizing core with
  | nil => exact .nil
  | cons action rest ih =>
      have hrest := ih (core.act action).next
      rw [← act_steeredBy_next, ← act_steeredBy_next] at hrest
      exact .cons (core.act_sameButDirections stickInput stickInput' action) hrest

/-! ## No dwell -/

/-- What a core without a filter answers: every snapshot goes through the lock as it was read. -/
def unfiltered (lines : WiringTable) (gate : LockGate) :
    List Action → List (Option (Reading ControllerState))
  | [] => []
  | .setLocked locked :: rest => none :: unfiltered lines ⟨locked⟩ rest
  | .poll ⟨.error fault, _, _⟩ :: rest => some (.error fault) :: unfiltered lines gate rest
  | .poll ⟨.ok raw, _, payload⟩ :: rest =>
    let gate := if lines.contains (.mode .lock) then ⟨raw.get (.mode .lock)⟩ else gate
    some (.ok { (gate.apply (.ofButtons raw)).steer raw with
      touchpad := payload.getD raw.touchpad }) :: unfiltered lines gate rest

section NoDwell

variable {core : Core} (hdwell : core.settings.dwell = 0)

include hdwell

theorem filtered_of_no_dwell (raw : Snapshot) (now : Tick) : core.filtered raw now = raw := by
  apply Snapshot.ext
  · intro l
    rw [filtered_get, hdwell]
    rcases (core.history.get l).observe_cases 0 (raw.get l) now with
      ⟨hkept, hsame | hearly⟩ | ⟨hnew, _⟩
    · rw [hkept, hsame]
    · exact absurd hearly UInt64.not_lt_zero
    · rw [hnew]
  · rfl

theorem gateAfter_of_no_dwell (raw : Snapshot) (now : Tick) :
    core.gateAfter raw now =
      if core.lines.contains (.mode .lock) then ⟨raw.get (.mode .lock)⟩ else core.lock := by
  apply LockGate.eq_of_locked
  rw [gateAfter_locked, filtered_of_no_dwell hdwell]
  split <;> rfl

theorem emitted_of_no_dwell (raw : Snapshot) (now : Tick) (payload : Option Touchpad) :
    core.emitted raw now payload =
      { ((core.gateAfter raw now).apply (.ofButtons raw)).steer raw with
        touchpad := payload.getD raw.touchpad } := by
  have hlines : steeringLines core.settings raw raw = raw := by
    unfold steeringLines
    cases core.settings.stickInput <;> rfl
  rw [emitted, filtered_of_no_dwell hdwell, hlines]

theorem run_of_no_dwell (actions : List Action) :
    (core.run actions).map Step.answer = unfiltered core.lines core.lock actions := by
  induction actions generalizing core with
  | nil => rfl
  | cons action rest ih =>
      have hframe := core.act_frame action
      have hrest := @ih (core.act action).next (by rw [hframe.2.1, hdwell])
      rw [hframe.1] at hrest
      have hrun : core.run (action :: rest) =
          core.act action :: (core.act action).next.run rest := rfl
      rw [hrun, List.map_cons, hrest]
      cases action with
      | setLocked locked => rfl
      | poll cycle =>
          obtain ⟨reading, now, payload⟩ := cycle
          cases reading with
          | error fault => rfl
          | ok raw =>
              have hanswer : (core.act (.poll ⟨.ok raw, now, payload⟩)).answer =
                  some (.ok (core.emitted raw now payload)) := rfl
              have hlock : (core.act (.poll ⟨.ok raw, now, payload⟩)).next.lock =
                  core.gateAfter raw now := rfl
              rw [hanswer, hlock, emitted_of_no_dwell hdwell, gateAfter_of_no_dwell hdwell]
              rfl

end NoDwell

/-! ## Whole runs -/

/-- Whether they follow the filtered or the raw lines, only the directions show it.  They are those
of the lines they follow, at that poll alone in the case of raw ones; and where there is no dwell,
both cores show what a core without a filter shows. -/
theorem stick_input_confined (core : Core) (actions : List Action) :
    List.Forall₂ Step.SameButDirections ((core.steeredBy .debounced).run actions)
        ((core.steeredBy .raw).run actions) ∧
      (∀ p ∈ (core.steeredBy .debounced).polls actions, p.SteersBy p.next.history.filter) ∧
      (∀ p ∈ (core.steeredBy .raw).polls actions, p.SteersBy id ∧
        ∀ other actions', ∀ p' ∈ (steeredBy other .raw).polls actions',
          ∀ s s', p.cycle.reading = .ok s → p'.cycle.reading = .ok s' → s.SteersAlike s' →
            p.answer.map ControllerState.directions =
              p'.answer.map ControllerState.directions) ∧
      (core.settings.dwell = 0 → ∀ stickInput,
        ((core.steeredBy stickInput).run actions).map Step.answer =
          unfiltered core.lines core.lock actions) := by
  have hraw : ∀ core actions, ∀ p ∈ (steeredBy core .raw).polls actions, p.SteersBy id := by
    intro core actions p hp
    apply Polled.steersBy_raw
    rw [(polls_frame hp).2]
    rfl
  refine ⟨core.run_sameButDirections .debounced .raw actions, ?_, ?_, ?_⟩
  · intro p hp
    apply Polled.steersBy_debounced
    rw [(polls_frame hp).2]
    rfl
  · intro p hp
    refine ⟨hraw core actions p hp, ?_⟩
    intro other actions' p' hp' s s' hreading hreading' halike
    exact (hraw core actions p hp).alike (hraw other actions' p' hp') hreading hreading' halike
  · intro hdwell stickInput
    exact @run_of_no_dwell (core.steeredBy stickInput) hdwell actions

def nudge (buttons : List Line) : Snapshot :=
  Snapshot.released.assert (.stick .left :: buttons)

def earlyNudge : List Action :=
  [.poll ⟨.ok (nudge []), 2, none⟩, .setLocked true,
    .poll ⟨.error (.portFault "gpio0" "gone"), 3, none⟩, .poll ⟨.ok (nudge []), 9, none⟩]

theorem earlyNudge_confined :
    let slow := fresh {} { dwell := 5 }
    let quick := fresh {} { dwell := 0 }
    let crowd := nudge [.button .start, .mode .lock]
    let first : Polled := ⟨slow.steeredBy .raw, ⟨.ok (nudge []), 2, none⟩⟩
    let alone : Polled := ⟨quick.steeredBy .raw, ⟨.ok crowd, 70, none⟩⟩
    first ∈ (slow.steeredBy .raw).polls earlyNudge ∧
      alone ∈ (quick.steeredBy .raw).polls [.poll ⟨.ok crowd, 70, none⟩] ∧
      (nudge []).SteersAlike crowd ∧
      first.answer.map ControllerState.directions =
        alone.answer.map ControllerState.directions ∧
      quick.settings.dwell = 0 ∧
      ((quick.steeredBy .debounced).run earlyNudge).map Step.answer =
        unfiltered {} {} earlyNudge ∧
      (((slow.steeredBy .raw).polls earlyNudge).map fun p =>
        (p.shown.map fun o => o.state.dpad)) = [some .west, none, some .west] ∧
      (((slow.steeredBy .debounced).polls earlyNudge).map fun p =>
        (p.shown.map fun o => o.state.dpad)) = [some .neutral, none, some .west] := by
  intro slow quick crowd first alone
  have hfirst : first ∈ (slow.steeredBy .raw).polls earlyNudge := List.mem_cons_self
  have halone : alone ∈ (quick.steeredBy .raw).polls [.poll ⟨.ok crowd, 70, none⟩] :=
    List.mem_cons_self
  have halike : (nudge []).SteersAlike crowd :=
    ⟨by intro d; cases d <;> decide, by decide, by decide⟩
  have hdwell : quick.settings.dwell = 0 := rfl
  obtain ⟨_, _, hraw, _⟩ := stick_input_confined slow earlyNudge
  obtain ⟨_, _, _, hquick⟩ := stick_input_confined quick earlyNudge
  have hsame := (hraw first hfirst).2 quick _ alone halone (nudge []) crowd rfl rfl halike
  exact ⟨hfirst, halone, halike, hsame, hdwell, hquick hdwell .debounced, by decide +kernel,
    by decide +kernel⟩

end Core

end Gamepad
