import Gamepad.Bench
import Gamepad.Proofs.Poll
import Mathlib.Data.List.Chain

/-!
# The lock indicator

Every step shows the change that it made to the lock in one piece, if it made one, and nothing else
of it.  So the calls to the indicator and the records in the log can be read off the flag.
-/

namespace Gamepad

/-! ## Changes of a flag -/

/-- The values that a flag takes whenever it changes, where it starts at `value`. -/
def newValues (value : Bool) (flags : List Bool) : List Bool :=
  changes value (flags.map fun flag => (flag, flag))

theorem newValues_cons (value flag : Bool) (rest : List Bool) :
    newValues value (flag :: rest) =
      if flag = value then newValues value rest else flag :: newValues flag rest := rfl

theorem getLastD_append {α : Type} (xs ys : List α) (a : α) :
    (xs ++ ys).getLastD a = ys.getLastD (xs.getLastD a) := by
  induction xs generalizing a with
  | nil => rfl
  | cons x xs ih => rw [List.cons_append, List.getLastD_cons, List.getLastD_cons, ih]

theorem newValues_append (value : Bool) (flags more : List Bool) :
    newValues value (flags ++ more) =
      newValues value flags ++ newValues (flags.getLastD value) more := by
  induction flags generalizing value with
  | nil => rfl
  | cons flag rest ih =>
      rw [List.cons_append, newValues_cons, newValues_cons, List.getLastD_cons]
      by_cases hsame : flag = value
      · simp [hsame, ih]
      · simp [hsame, ih]

theorem newValues_alternate (value : Bool) (flags : List Bool) :
    (value :: newValues value flags).IsChain (· ≠ ·) := by
  induction flags generalizing value with
  | nil => exact List.isChain_singleton value
  | cons flag rest ih =>
      rw [newValues_cons]
      by_cases hsame : flag = value
      · simpa [hsame] using ih value
      · simp only [hsame, if_false]
        exact List.isChain_cons_cons.mpr ⟨Ne.symm hsame, ih flag⟩

theorem newValues_getLastD (value : Bool) (flags : List Bool) :
    (newValues value flags).getLastD value = flags.getLastD value := by
  induction flags generalizing value with
  | nil => rfl
  | cons flag rest ih =>
      rw [newValues_cons, List.getLastD_cons]
      by_cases hsame : flag = value
      · simpa [hsame] using ih value
      · simp only [hsame, if_false, List.getLastD_cons]
        exact ih flag

/-! ## What a step shows of the lock -/

def Event.ofLock : Event → Bool
  | lockChanged _ | indicator _ => true
  | _ => false

def lockEvents (events : List Event) : List Event :=
  events.filter Event.ofLock

theorem lockEvents_append (events more : List Event) :
    lockEvents (events ++ more) = lockEvents events ++ lockEvents more :=
  List.filter_append ..

theorem lampCalls_lockEvents (events : List Event) :
    lampCalls (lockEvents events) = lampCalls events := by
  unfold lampCalls lockEvents
  rw [List.filterMap_filter]
  congr 1
  funext e
  cases e <;> rfl

def lockNotice (locked : Bool) : List Event :=
  [.lockChanged locked, .indicator locked]

/-- Some events show the change of a lock in one piece, if it changed, and nothing else of it. -/
def ShowsChange (before after : Bool) (events : List Event) : Prop :=
  ∃ earlier later,
    events = earlier ++ (if after = before then [] else lockNotice after) ++ later ∧
      lockEvents earlier = [] ∧ lockEvents later = []

theorem ShowsChange.of_quiet
    {events : List Event} (hquiet : lockEvents events = []) (locked : Bool) :
    ShowsChange locked locked events :=
  ⟨events, [], by simp, hquiet, rfl⟩

theorem ShowsChange.lockEvents
    {before after : Bool} {events : List Event} (hshows : ShowsChange before after events) :
    lockEvents events = if after = before then [] else lockNotice after := by
  obtain ⟨earlier, later, hevents, hearlier, hlater⟩ := hshows
  rw [hevents, lockEvents_append, lockEvents_append, hearlier, hlater]
  by_cases hsame : after = before
  · simp [hsame, Gamepad.lockEvents]
  · simp [hsame, Gamepad.lockEvents, lockNotice, Event.ofLock]

theorem ShowsChange.lampCalls
    {before after : Bool} {events : List Event} (hshows : ShowsChange before after events) :
    lampCalls events = if after = before then [] else [after] := by
  rw [← lampCalls_lockEvents, hshows.lockEvents]
  by_cases hsame : after = before
  · rw [if_pos hsame, if_pos hsame]
    rfl
  · rw [if_neg hsame, if_neg hsame]
    rfl

namespace Core

theorem setLocked_shows (core : Core) (locked : Bool) :
    ShowsChange core.lock.locked (core.setLocked locked).next.lock.locked
      (core.setLocked locked).events :=
  ⟨[], [], (List.append_nil _).symm, rfl, rfl⟩

theorem followLockLine_events (core : Core) (raw : Snapshot) (now : Tick) :
    (core.followLockLine (core.filtered raw now)).events =
      if (core.gateAfter raw now).locked = core.lock.locked then []
      else lockNotice (core.gateAfter raw now).locked := by
  unfold gateAfter followLockLine
  split
  next => rfl
  next => simp

theorem poll_ok_events
    (core : Core) (raw : Snapshot) (now : Tick) (payload : Option Touchpad) :
    (core.poll ⟨.ok raw, now, payload⟩).events =
      (core.history.pass core.settings.dwell raw now).events ++
        (core.followLockLine (core.filtered raw now)).events ++
        [.polled now (.ofSnapshot (steeringLines core.settings raw (core.filtered raw now)))
          (core.emitted raw now payload).dpad] := rfl

theorem poll_shows (core : Core) (cycle : Cycle) :
    ShowsChange core.lock.locked (core.poll cycle).next.lock.locked
      (core.poll cycle).events := by
  obtain ⟨reading, now, payload⟩ := cycle
  cases reading with
  | error fault => exact .of_quiet rfl core.lock.locked
  | ok raw =>
      rw [poll_ok_events, poll_ok_next, followLockLine_events]
      refine ⟨_, _, rfl, ?_, rfl⟩
      simp only [History.pass, lockEvents, List.filter_eq_nil_iff, List.mem_map]
      rintro _ ⟨held, _, rfl⟩
      exact Bool.false_ne_true

theorem act_shows (core : Core) (action : Action) :
    ShowsChange core.lock.locked (core.act action).next.lock.locked
      (core.act action).events := by
  cases action with
  | poll cycle => exact core.poll_shows cycle
  | setLocked locked => exact core.setLocked_shows locked

end Core

theorem OverrideSlot.lockEvents_take (slot : OverrideSlot) : lockEvents slot.take.events = [] := by
  cases slot with
  | disabled => rfl
  | connected queue =>
      simp only [take]
      split
      next => rfl
      next => split <;> rfl

theorem Bench.lockEvents_act (bench : Bench) (c : BenchCommand) :
    lockEvents (bench.act c).events = [] := by
  cases c with
  | read =>
      cases hsource : bench.source with
      | none =>
          simp only [act, read, hsource]
          rfl
      | some source =>
          simp only [act, read, hsource]
          exact source.overrides.lockEvents_take
  | push handle s => simp only [act]; split <;> rfl
  | cloneHandle handle => simp only [act]; split <;> rfl
  | dropHandle handle => simp only [act]; split <;> rfl
  | _ => rfl

namespace Rig

def locked (rig : Rig) : Bool :=
  rig.core.lock.locked

theorem act_shows (rig : Rig) (c : RigCommand) :
    ShowsChange rig.locked (rig.act c).next.locked (rig.act c).events := by
  cases c with
  | poll =>
      obtain ⟨earlier, later, hevents, hearlier, hlater⟩ :=
        rig.core.poll_shows ⟨rig.bench.read.answer, rig.bench.clock.now, rig.payload⟩
      have hread : lockEvents rig.bench.read.events = [] := rig.bench.lockEvents_act .read
      refine ⟨rig.bench.read.events ++ earlier, later, ?_, ?_, hlater⟩
      · simp only [act, poll, locked, hevents, List.append_assoc]
      · rw [lockEvents_append, hread, hearlier, List.nil_append]
  | lock value => exact rig.core.setLocked_shows value
  | bench c => exact .of_quiet (rig.bench.lockEvents_act c) rig.locked

end Rig

/-! ## Whole runs -/

section Run

variable {σ κ α : Type} {act : σ → κ → Step σ α} {locked : σ → Bool}

def flagsAfter (locked : σ → Bool) (steps : List (Step σ α)) : List Bool :=
  steps.map fun step => locked step.next

theorem flagsAfter_getLastD (state : σ) (commands : List κ) :
    (flagsAfter locked (Step.run act state commands)).getLastD (locked state) =
      locked (Step.after act state commands) := by
  induction commands generalizing state with
  | nil => rfl
  | cons command rest ih =>
      simp only [flagsAfter, Step.run_cons, List.map_cons, List.getLastD_cons, Step.after_cons]
      exact ih (act state command).next

theorem lockEvents_run
    (hshows : ∀ state command, ShowsChange (locked state) (locked (act state command).next)
      (act state command).events)
    (state : σ) (commands : List κ) :
    lockEvents (Step.allEvents (Step.run act state commands)) =
      (newValues (locked state) (flagsAfter locked (Step.run act state commands))).flatMap
        lockNotice := by
  induction commands generalizing state with
  | nil => rfl
  | cons command rest ih =>
      have hfirst := (hshows state command).lockEvents
      have hrest := ih (act state command).next
      simp only [Step.allEvents, flagsAfter] at hrest ⊢
      rw [Step.run_cons, List.flatMap_cons, List.map_cons, lockEvents_append, hfirst, hrest,
        newValues_cons]
      by_cases hsame : locked (act state command).next = locked state
      · simp [hsame]
      · simp [hsame]

end Run

/-- What some events show of a lock whose flag went through the given values, and of nothing
else: the calls to a lamp, and the records of a log that stands behind the indicator. -/
structure MirrorsLock (events : List Event) (flags : List Bool) : Prop where
  calls : Indicator.lamp.lit events = newValues false flags
  alternate : (false :: Indicator.lamp.lit events).IsChain (· ≠ ·)
  last : (Indicator.lamp.lit events).getLastD false = flags.getLastD false
  logged : logRecords .info (lockEvents (Indicator.log.logged events)) =
    (Indicator.lamp.lit events).flatMap fun on =>
      if on then ["INFO Input lock engaged", "INFO Lock indicator on"]
      else ["INFO Input lock released", "INFO Lock indicator off"]

theorem lockNotice_records (on : Bool) :
    logRecords .info (lockNotice on) =
      if on then ["INFO Input lock engaged", "INFO Lock indicator on"]
      else ["INFO Input lock released", "INFO Lock indicator off"] := by
  revert on
  decide

theorem mirrorsLock_of_lockEvents
    {events : List Event} {flags : List Bool}
    (hevents : lockEvents events = (newValues false flags).flatMap lockNotice) :
    MirrorsLock events flags := by
  have hcalls : Indicator.lamp.lit events = newValues false flags := by
    have hlamp : lampCalls events = newValues false flags := by
      rw [← lampCalls_lockEvents, hevents, lampCalls, List.filterMap_flatMap]
      exact List.flatMap_singleton' _
    exact hlamp
  have hlogged : Indicator.log.logged events = events := rfl
  constructor
  · exact hcalls
  · rw [hcalls]
    exact newValues_alternate false flags
  · rw [hcalls]
    exact newValues_getLastD false flags
  · rw [hcalls, hlogged, hevents, logRecords, List.filter_flatMap, List.map_flatMap]
    exact List.flatMap_congr fun on _ => lockNotice_records on

namespace Rig

/-- From its creation on, by hand or by its line, before and after a source is attached: the lock
is shown at every change and at no other time. -/
theorem indicator_mirrors_lock
    (lines : WiringTable) (settings : Settings) (ticksPerMs : UInt64) (prelock : List Bool)
    (bench : Bench) (payload : Option Touchpad) (commands : List RigCommand) :
    let created := Core.create lines settings ticksPerMs
    let byHand := prelock.map Core.Action.setLocked
    let unbound := created.value.run byHand
    let attached := attach (created.value.after byHand) bench payload
    let polling := attached.value.run commands
    let flags := flagsAfter (fun core => core.lock.locked) unbound ++ flagsAfter locked polling
    let events := created.events ++ Step.allEvents unbound ++
      (attached.events ++ Step.allEvents polling)
    MirrorsLock events flags ∧
      flags.getLastD false = (attached.value.after commands).locked ∧
      (∀ value, let core := created.value.after byHand
        ShowsChange core.lock.locked value (core.setLocked value).events) ∧
      ∀ c, let rig := attached.value.after commands
        ShowsChange rig.locked (rig.act c).next.locked (rig.act c).events ∧
          Indicator.lamp.lit (rig.act c).events =
            if (rig.act c).next.locked = rig.locked then [] else [(rig.act c).next.locked] := by
  intro created byHand unbound attached polling flags events
  have hcreated : lockEvents created.events = [] := rfl
  have hattached : lockEvents attached.events = [] := by
    cases hsource : bench.source <;> simp [attached, attach, hsource, lockEvents, Event.ofLock]
  have hunbound := lockEvents_run Core.act_shows created.value byHand
  have hpolling := lockEvents_run act_shows attached.value commands
  have hlocked : (flagsAfter (fun core : Core => core.lock.locked) unbound).getLastD false =
      attached.value.locked :=
    flagsAfter_getLastD created.value byHand
  refine ⟨?_, ?_, fun value => Core.setLocked_shows _ value, ?_⟩
  · apply mirrorsLock_of_lockEvents
    simp only [events, flags, lockEvents_append, hcreated, hattached, List.nil_append]
    rw [newValues_append, hlocked, List.flatMap_append]
    exact congrArg₂ (· ++ ·) hunbound hpolling
  · calc
      flags.getLastD false =
          (flagsAfter locked polling).getLastD
            ((flagsAfter (fun core : Core => core.lock.locked) unbound).getLastD false) :=
        getLastD_append ..
      _ = (attached.value.after commands).locked := by
        rw [hlocked]
        exact flagsAfter_getLastD attached.value commands
  · intro c rig
    have hshows := rig.act_shows c
    exact ⟨hshows, hshows.lampCalls⟩

end Rig

end Gamepad
