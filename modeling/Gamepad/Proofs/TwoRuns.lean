import Gamepad.Proofs.Transcript
import Mathlib.Data.List.Forall2

/-!
# Two runs side by side

Two runs are compared poll by poll: what relates their cores is carried from one poll to the next,
and past the settings of the lock in between.
-/

namespace Gamepad

/-- A poll that was made in a run: the core it was made on and what it got to see. -/
structure Polled where
  core : Core
  cycle : Cycle

namespace Polled

def answer (p : Polled) : Reading ControllerState :=
  (p.core.poll p.cycle).answer

def next (p : Polled) : Core :=
  (p.core.poll p.cycle).next

def shown (p : Polled) : Option Observation :=
  p.core.observation? (.poll p.cycle)

theorem shown_of_ok (core : Core) (raw : Snapshot) (now : Tick) (payload : Option Touchpad) :
    (⟨core, ⟨.ok raw, now, payload⟩⟩ : Polled).shown = some {
      now := now
      raw := raw
      filtered := core.filtered raw now
      state := core.emitted raw now payload
      locked := (core.gateAfter raw now).locked } := rfl

theorem shown_of_error
    (core : Core) (fault : InputFault) (now : Tick) (payload : Option Touchpad) :
    (⟨core, ⟨.error fault, now, payload⟩⟩ : Polled).shown = none := rfl

theorem exists_of_shown {p : Polled} {o : Observation} (hshown : p.shown = some o) :
    ∃ core raw now payload, p = ⟨core, ⟨.ok raw, now, payload⟩⟩ ∧
      o = {
        now := now
        raw := raw
        filtered := core.filtered raw now
        state := core.emitted raw now payload
        locked := (core.gateAfter raw now).locked } := by
  obtain ⟨core, ⟨reading, now, payload⟩⟩ := p
  cases reading with
  | error fault =>
      rw [shown_of_error] at hshown
      contradiction
  | ok raw =>
      rw [shown_of_ok, Option.some.injEq] at hshown
      exact ⟨core, raw, now, payload, rfl, hshown.symm⟩

theorem next_of_ok (core : Core) (raw : Snapshot) (now : Tick) (payload : Option Touchpad) :
    (⟨core, ⟨.ok raw, now, payload⟩⟩ : Polled).next =
      { core with
        history := core.history.observe core.settings.dwell raw now
        lock := core.gateAfter raw now } := rfl

theorem next_of_error
    (core : Core) (fault : InputFault) (now : Tick) (payload : Option Touchpad) :
    (⟨core, ⟨.error fault, now, payload⟩⟩ : Polled).next = core := rfl

end Polled

namespace Core

def Action.cycle? : Action → Option Cycle
  | .poll cycle => some cycle
  | .setLocked _ => none

def cycles (actions : List Action) : List Cycle :=
  actions.filterMap Action.cycle?

def polls (core : Core) : List Action → List Polled
  | [] => []
  | .poll cycle :: rest => ⟨core, cycle⟩ :: (core.poll cycle).next.polls rest
  | .setLocked locked :: rest => (core.setLocked locked).next.polls rest

theorem polls_frame
    {core : Core} {actions : List Action} {p : Polled} (hmem : p ∈ core.polls actions) :
    p.core.lines = core.lines ∧ p.core.settings = core.settings := by
  induction actions generalizing core with
  | nil => simp [polls] at hmem
  | cons action rest ih =>
      obtain ⟨hlines, hsettings, _⟩ := core.act_frame action
      have hlater : p ∈ (core.act action).next.polls rest →
          p.core.lines = core.lines ∧ p.core.settings = core.settings := by
        intro hp
        rw [← hlines, ← hsettings]
        exact ih hp
      cases action with
      | poll cycle =>
          rcases List.mem_cons.mp hmem with rfl | hp
          · exact ⟨rfl, rfl⟩
          · exact hlater hp
      | setLocked locked => exact hlater hmem

theorem polls_of_cycles_cons
    (core : Core) {actions : List Action} {cycle : Cycle} {rest : List Cycle}
    (hcycles : cycles actions = cycle :: rest) :
    ∃ gate more, cycles more = rest ∧
      core.polls actions =
        ⟨{ core with lock := gate }, cycle⟩ ::
          ({ core with lock := gate }.poll cycle).next.polls more := by
  induction actions generalizing core with
  | nil => simp [cycles] at hcycles
  | cons action actions ih =>
      cases action with
      | poll first =>
          obtain ⟨rfl, hrest⟩ := List.cons.inj hcycles
          exact ⟨core.lock, actions, hrest, rfl⟩
      | setLocked locked => exact ih (core.setLocked locked).next hcycles

theorem polls_of_cycles_nil
    (core : Core) {actions : List Action} (hcycles : cycles actions = []) :
    core.polls actions = [] := by
  induction actions generalizing core with
  | nil => rfl
  | cons action actions ih =>
      cases action with
      | poll first => simp [cycles, Action.cycle?] at hcycles
      | setLocked locked => exact ih (core.setLocked locked).next hcycles

section Related

variable {alike : Core → Core → Prop} {cycleAlike : Cycle → Cycle → Prop}
  {polledAlike : Polled → Polled → Prop}

theorem forall₂_polls
    (hpoll : ∀ a b c d, alike a b → cycleAlike c d →
      polledAlike ⟨a, c⟩ ⟨b, d⟩ ∧ alike (a.poll c).next (b.poll d).next)
    (hlock : ∀ a b gate gate', alike a b →
      alike { a with lock := gate } { b with lock := gate' })
    {a b : Core} (halike : alike a b) {actions actions' : List Action}
    (hcycles : List.Forall₂ cycleAlike (cycles actions) (cycles actions')) :
    List.Forall₂ polledAlike (a.polls actions) (b.polls actions') := by
  -- By induction on what the polls see: the runs may differ in the settings between two polls.
  generalize hseen : cycles actions = seen at hcycles
  generalize hseen' : cycles actions' = seen' at hcycles
  induction hcycles generalizing a b actions actions' with
  | nil =>
      rw [polls_of_cycles_nil a hseen, polls_of_cycles_nil b hseen']
      exact .nil
  | cons hcycle _ ih =>
      obtain ⟨gate, more, hmore, hpolls⟩ := polls_of_cycles_cons a hseen
      obtain ⟨gate', more', hmore', hpolls'⟩ := polls_of_cycles_cons b hseen'
      obtain ⟨hpolled, hnext⟩ := hpoll _ _ _ _ (hlock a b gate gate' halike) hcycle
      rw [hpolls, hpolls']
      exact .cons hpolled (ih hnext hmore hmore')

inductive Action.Alike (cycleAlike : Cycle → Cycle → Prop) : Action → Action → Prop
  | poll {c d : Cycle} (hcycle : cycleAlike c d) : Alike cycleAlike (.poll c) (.poll d)
  | setLocked (locked : Bool) : Alike cycleAlike (.setLocked locked) (.setLocked locked)

theorem forall₂_polls_of_actions
    (hpoll : ∀ a b c d, alike a b → cycleAlike c d →
      polledAlike ⟨a, c⟩ ⟨b, d⟩ ∧ alike (a.poll c).next (b.poll d).next)
    (hset : ∀ a b locked, alike a b →
      alike (a.setLocked locked).next (b.setLocked locked).next)
    {a b : Core} (halike : alike a b) {actions actions' : List Action}
    (hactions : List.Forall₂ (Action.Alike cycleAlike) actions actions') :
    List.Forall₂ polledAlike (a.polls actions) (b.polls actions') ∧
      alike (a.after actions) (b.after actions') := by
  induction hactions generalizing a b with
  | nil => exact ⟨.nil, halike⟩
  | cons haction _ ih =>
      cases haction with
      | poll hcycle =>
          obtain ⟨hpolled, hnext⟩ := hpoll _ _ _ _ halike hcycle
          exact ⟨.cons hpolled (ih hnext).1, (ih hnext).2⟩
      | setLocked locked => exact ih (hset a b locked halike)

end Related

end Core

end Gamepad
