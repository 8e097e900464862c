import Gamepad.Proofs.Noninterference

/-!
# Setting the lock by hand

A wired lock is set anew by every poll that succeeds, so nothing is left of the settings by hand.  A
lock that is not wired is what it was last set to, and only the menu buttons show it.
-/

namespace Gamepad

/-- Two states that agree in every field but the menu buttons. -/
structure ControllerState.SameButMenu (state state' : ControllerState) : Prop where
  buttons : ∀ b ∉ [Button.select, .start, .home], state.buttons.get b = state'.buttons.get b
  dpad : state.dpad = state'.dpad
  leftStick : state.leftStick = state'.leftStick
  rightStick : state.rightStick = state'.rightStick
  touchpad : state.touchpad = state'.touchpad

inductive Reading.SameButMenu : Reading ControllerState → Reading ControllerState → Prop
  | failed (fault : InputFault) : SameButMenu (.error fault) (.error fault)
  | read {state state' : ControllerState} (hstate : state.SameButMenu state') :
      SameButMenu (.ok state) (.ok state')

/-! ## One poll -/

namespace Core

section Relocked

variable (core : Core) (gate : LockGate)
  (raw : Snapshot) (now : Tick) (payload : Option Touchpad)

theorem emitted_relocked :
    (core.emitted raw now payload).SameButMenu
      ({ core with lock := gate }.emitted raw now payload) := by
  refine ⟨?_, rfl, rfl, rfl, rfl⟩
  intro b hb
  rw [emitted_button, emitted_button, Button.isMenu_eq_false hb, Bool.and_false, Bool.and_false]
  rfl

theorem gateAfter_relocked (hwired : core.lines.contains (.mode .lock) = true) :
    { core with lock := gate }.gateAfter raw now = core.gateAfter raw now := by
  apply LockGate.eq_of_locked
  rw [gateAfter_locked, gateAfter_locked, if_pos hwired, if_pos hwired]
  rfl

end Relocked

end Core

namespace Polled

/-- The menu buttons of the state that the poll emits, if the lock is `locked` then. -/
def MenuUnder (p : Polled) (locked : Bool) : Prop :=
  ∀ o, p.shown = some o → ∀ b ∈ [Button.select, .start, .home],
    o.state.buttons.get b = if locked then false else o.filtered.get (.button b)

theorem menuUnder_next (p : Polled) : p.MenuUnder p.next.lock.locked := by
  intro o hshown b hb
  obtain ⟨core, raw, now, payload, rfl, rfl⟩ := exists_of_shown hshown
  simp only
  rw [Core.emitted_button, next_of_ok, (Button.isMenu_iff b).mpr hb, Bool.and_true]
  cases (core.gateAfter raw now).locked with
  | false => rw [Bool.not_false, Bool.and_true, if_neg Bool.false_ne_true]
  | true => rw [Bool.not_true, Bool.and_false, if_pos rfl]

theorem locked_of_wired
    (p : Polled) (hwired : p.core.lines.contains (.mode .lock) = true) {o : Observation}
    (hshown : p.shown = some o) : o.locked = o.filtered.get (.mode .lock) := by
  obtain ⟨core, raw, now, payload, rfl, rfl⟩ := exists_of_shown hshown
  simp only
  rw [Core.gateAfter_locked, if_pos hwired]

theorem lock_of_unwired
    (p : Polled) (hunwired : p.core.lines.contains (.mode .lock) = false) :
    p.next.lock = p.core.lock := by
  obtain ⟨core, ⟨reading, now, payload⟩⟩ := p
  cases reading with
  | error fault => rw [next_of_error]
  | ok raw =>
      apply LockGate.eq_of_locked
      rw [next_of_ok, Core.gateAfter_locked, if_neg (Bool.eq_false_iff.mp hunwired)]

/-- Two polls that see the same, on cores that agree but for their locks. -/
structure LockAside (p p' : Polled) : Prop where
  core : ∃ gate, p'.core = { p.core with lock := gate }
  cycle : p'.cycle = p.cycle

structure Same (p p' : Polled) : Prop where
  answer : p.answer = p'.answer
  history : p.next.history = p'.next.history
  locked : p.shown.map Observation.locked = p'.shown.map Observation.locked

structure SameButMenu (p p' : Polled) : Prop where
  answer : Reading.SameButMenu p.answer p'.answer
  history : p.next.history = p'.next.history

variable {p p' : Polled}

theorem LockAside.same
    (h : p.LockAside p') (hwired : p.core.lines.contains (.mode .lock) = true) :
    p.Same p' := by
  obtain ⟨core, ⟨reading, now, payload⟩⟩ := p
  obtain ⟨core', cycle'⟩ := p'
  obtain ⟨⟨gate, rfl⟩, rfl⟩ := h
  cases reading with
  | error fault => exact ⟨rfl, rfl, rfl⟩
  | ok raw =>
      have hgate := core.gateAfter_relocked gate raw now hwired
      constructor
      · have hemitted : { core with lock := gate }.emitted raw now payload =
            core.emitted raw now payload := by
          unfold Core.emitted
          rw [hgate]
          rfl
        exact congrArg Except.ok hemitted.symm
      · rfl
      · rw [shown_of_ok, shown_of_ok, hgate]
        rfl

theorem LockAside.sameButMenu (h : p.LockAside p') : p.SameButMenu p' := by
  obtain ⟨core, ⟨reading, now, payload⟩⟩ := p
  obtain ⟨core', cycle'⟩ := p'
  obtain ⟨⟨gate, rfl⟩, rfl⟩ := h
  cases reading with
  | error fault => exact ⟨.failed fault, rfl⟩
  | ok raw => exact ⟨.read (core.emitted_relocked gate raw now payload), rfl⟩

end Polled

/-! ## Whole runs -/

namespace Core

def Action.setting? : Action → Option Bool
  | .poll _ => none
  | .setLocked locked => some locked

def lockSettings (actions : List Action) : List Bool :=
  actions.filterMap Action.setting?

theorem locked_after_of_unwired
    (core : Core) (actions : List Action)
    (hunwired : core.lines.contains (.mode .lock) = false) :
    (core.after actions).lock.locked = (lockSettings actions).getLastD core.lock.locked := by
  induction actions generalizing core with
  | nil => rfl
  | cons action rest ih =>
      obtain ⟨hlines, _, _⟩ := core.act_frame action
      have hrest := ih (core.act action).next (hlines ▸ hunwired)
      have hafter : core.after (action :: rest) = (core.act action).next.after rest := rfl
      rw [hafter, hrest]
      cases action with
      | poll cycle =>
          have hlock : (core.act (.poll cycle)).next.lock = core.lock :=
            Polled.lock_of_unwired ⟨core, cycle⟩ hunwired
          rw [hlock]
          rfl
      | setLocked locked =>
          -- A setting is the flag that the rest of the run starts with.
          exact (List.getLastD_cons ..).symm

theorem polls_lockAside
    (core : Core) {actions actions' : List Action} (hcycles : cycles actions = cycles actions') :
    List.Forall₂ Polled.LockAside (core.polls actions) (core.polls actions') := by
  have hpoll : ∀ a b c d, (∃ gate, b = { a with lock := gate }) → c = d →
      Polled.LockAside ⟨a, c⟩ ⟨b, d⟩ ∧
        ∃ gate, (b.poll d).next = { (a.poll c).next with lock := gate } := by
    rintro a b ⟨reading, now, payload⟩ d ⟨gate, rfl⟩ rfl
    refine ⟨⟨⟨gate, rfl⟩, rfl⟩, ?_⟩
    cases reading with
    | error fault => exact ⟨gate, rfl⟩
    | ok raw => exact ⟨_, rfl⟩
  apply forall₂_polls hpoll
  · rintro a b gate gate' ⟨_, rfl⟩
    exact ⟨gate', rfl⟩
  · exact ⟨core.lock, rfl⟩
  · rw [List.forall₂_eq_eq_eq]
    exact hcycles

/-- Whatever is set by hand, no menu button is reported while the lock is on afterwards.  A wired
lock follows its line, and runs that differ in the settings by hand are the same poll by poll.  A
lock that is not wired is touched by no poll, and only the menu buttons tell such runs apart. -/
theorem manual_lock_confined
    (lines : WiringTable) (settings : Settings) (actions : List Action) :
    let start := fresh lines settings
    (∀ p ∈ start.polls actions, p.MenuUnder p.next.lock.locked) ∧
      (lines.contains (.mode .lock) = true →
        (∀ p ∈ start.polls actions, ∀ o, p.shown = some o →
          o.locked = o.filtered.get (.mode .lock)) ∧
        ∀ actions', cycles actions = cycles actions' →
          List.Forall₂ Polled.Same (start.polls actions) (start.polls actions')) ∧
      (lines.contains (.mode .lock) = false →
        (∀ p ∈ start.polls actions,
          p.next.lock = p.core.lock ∧ p.MenuUnder p.core.lock.locked) ∧
        (start.after actions).lock.locked = (lockSettings actions).getLastD false ∧
        ∀ actions', cycles actions = cycles actions' →
          List.Forall₂ Polled.SameButMenu (start.polls actions) (start.polls actions')) := by
  intro start
  refine ⟨fun p _ => p.menuUnder_next, ?_, ?_⟩
  · intro hwired
    have hcores : ∀ p ∈ start.polls actions, p.core.lines.contains (.mode .lock) = true := by
      intro p hp
      rw [(polls_frame hp).1]
      exact hwired
    refine ⟨fun p hp o hshown => p.locked_of_wired (hcores p hp) hshown, ?_⟩
    intro actions' hcycles
    have hpairs := (List.forall₂_and_left _ _).mpr ⟨hcores, start.polls_lockAside hcycles⟩
    exact hpairs.imp fun p p' ⟨hcore, haside⟩ => haside.same hcore
  · intro hunwired
    refine ⟨?_, start.locked_after_of_unwired actions hunwired, ?_⟩
    · intro p hp
      have hlock : p.next.lock = p.core.lock := by
        apply p.lock_of_unwired
        rw [(polls_frame hp).1]
        exact hunwired
      refine ⟨hlock, ?_⟩
      rw [← hlock]
      exact p.menuUnder_next
    · intro actions' hcycles
      exact (start.polls_lockAside hcycles).imp fun p p' haside => haside.sameButMenu

def lockLine : WiringTable where
  entries := [{ line := .mode .lock, port := "gpio0", pin := 12 }]
  nodup := by decide

def startThenLock : List Cycle :=
  [⟨.ok (Snapshot.released.assert [.button .start]), 9, none⟩,
    ⟨.error (.portFault "gpio0" "gone"), 9, none⟩,
    ⟨.ok (Snapshot.released.assert [.button .start, .mode .lock]), 20, none⟩]

def lockedByHand (hand : Cycle → Bool) : List Action :=
  startThenLock.flatMap fun cycle => [.setLocked (hand cycle), .poll cycle]

theorem lockedByHand_confined :
    let byHand := lockedByHand fun cycle => cycle.now = 9
    let untouched := startThenLock.map Action.poll
    cycles byHand = cycles untouched ∧
      List.Forall₂ Polled.Same
        ((fresh lockLine { dwell := 5 }).polls byHand)
        ((fresh lockLine { dwell := 5 }).polls untouched) ∧
      List.Forall₂ Polled.SameButMenu
        ((fresh {} { dwell := 5 }).polls byHand) ((fresh {} { dwell := 5 }).polls untouched) ∧
      ((fresh {} { dwell := 5 }).after byHand).lock.locked = false := by
  intro byHand untouched
  have hcycles : cycles byHand = cycles untouched := rfl
  obtain ⟨_, hwired, _⟩ := manual_lock_confined lockLine { dwell := 5 } byHand
  obtain ⟨_, _, hunwired⟩ := manual_lock_confined {} { dwell := 5 } byHand
  obtain ⟨_, hafter, hpairs⟩ := hunwired rfl
  exact ⟨hcycles, (hwired (by decide)).2 untouched hcycles, hpairs untouched hcycles, hafter⟩

end Core

end Gamepad
