import Gamepad.Proofs.LockIndicator
import Gamepad.Proofs.ManualLock

/-!
# Polls without news

A poll that reads every line at its recorded value leaves the records alone, whatever the counter
shows.  All that it can move is a wired lock that was set by hand, which the next poll sets anew.
-/

namespace Gamepad

namespace Accepted

theorem observe_of_value
    {held : Accepted} {raw : Bool} (hraw : raw = held.value) (dwell : UInt64) (now : Tick) :
    held.observe dwell raw now = held := by
  unfold observe
  rw [if_pos hraw]

theorem observe_observe (held : Accepted) (dwell : UInt64) (raw : Bool) (now : Tick) :
    (held.observe dwell raw now).observe dwell raw now = held.observe dwell raw now := by
  rcases held.observe_cases dwell raw now with ⟨hkept, _⟩ | ⟨hnew, _⟩
  · rw [hkept, hkept]
  · rw [hnew]
    exact observe_of_value rfl dwell now

end Accepted

theorem History.observe_of_values
    {history : History} {raw : Snapshot} (hraw : ∀ l, raw.get l = (history.get l).value)
    (dwell : UInt64) (now : Tick) : history.observe dwell raw now = history := by
  apply Table.ext
  intro l
  rw [observe_get]
  exact Accepted.observe_of_value (hraw l) dwell now

theorem History.observe_observe
    (history : History) (dwell : UInt64) (raw : Snapshot) (now : Tick) :
    (history.observe dwell raw now).observe dwell raw now = history.observe dwell raw now := by
  apply Table.ext
  intro l
  rw [observe_get, observe_get, Accepted.observe_observe]

namespace Core

/-! ## One poll -/

/-- The cycle reads every line at its recorded value. -/
def ShowsNoNews (core : Core) (cycle : Cycle) : Prop :=
  ∃ raw, cycle.reading = .ok raw ∧ ∀ l, raw.get l = (core.history.get l).value

/-- Two cores that differ at most in a wired lock. -/
structure SameButWiredLock (a b : Core) : Prop where
  core : ∃ gate, b = { a with lock := gate }
  lock : a.lines.contains (.mode .lock) = true ∨ b.lock = a.lock

theorem SameButWiredLock.refl (core : Core) : SameButWiredLock core core :=
  ⟨⟨core.lock, rfl⟩, .inr rfl⟩

theorem poll_of_noNews {core : Core} {cycle : Cycle} (hquiet : core.ShowsNoNews cycle) :
    (core.poll cycle).next.history = core.history ∧
      SameButWiredLock (core.poll cycle).next core := by
  obtain ⟨reading, now, payload⟩ := cycle
  obtain ⟨raw, rfl, hraw⟩ := hquiet
  have hhistory := History.observe_of_values hraw core.settings.dwell now
  rw [poll_ok_next, hhistory]
  refine ⟨rfl, ⟨core.lock, rfl⟩, ?_⟩
  rcases Bool.eq_false_or_eq_true (core.lines.contains (.mode .lock)) with hwired | hunwired
  · exact .inl hwired
  · exact .inr (Polled.lock_of_unwired ⟨core, ⟨.ok raw, now, payload⟩⟩ hunwired).symm

theorem SameButWiredLock.trans
    {a b c : Core} (hab : SameButWiredLock a b) (hbc : SameButWiredLock b c) :
    SameButWiredLock a c := by
  obtain ⟨⟨gate, rfl⟩, hlock⟩ := hab
  obtain ⟨⟨gate', rfl⟩, hlock'⟩ := hbc
  refine ⟨⟨gate', rfl⟩, ?_⟩
  rcases hlock with hwired | hsame
  · exact .inl hwired
  · exact hlock'.imp_right fun hsame' => hsame'.trans hsame

def recordsShown (step : Step Core (Option (Reading ControllerState))) :
    Option (Reading ControllerState) × History :=
  (step.answer, step.next.history)

theorem SameButWiredLock.act {a b : Core} (hsame : SameButWiredLock a b) (action : Action) :
    recordsShown (a.act action) = recordsShown (b.act action) ∧
      SameButWiredLock (a.act action).next (b.act action).next := by
  obtain ⟨⟨gate, rfl⟩, hwired | hlock⟩ := hsame
  · cases action with
    | setLocked locked => exact ⟨rfl, ⟨⟨locked⟩, rfl⟩, .inl hwired⟩
    | poll cycle =>
        have haside : Polled.LockAside ⟨a, cycle⟩ ⟨{ a with lock := gate }, cycle⟩ :=
          ⟨⟨gate, rfl⟩, rfl⟩
        obtain ⟨hanswer, hhistory, _⟩ := haside.same hwired
        refine ⟨Prod.ext (congrArg some hanswer) hhistory, ?_, .inl ?_⟩
        · obtain ⟨reading, now, payload⟩ := cycle
          cases reading with
          | error fault => exact ⟨gate, rfl⟩
          | ok raw => exact ⟨_, rfl⟩
        · rw [(a.act_frame (.poll cycle)).1]
          exact hwired
  · obtain rfl : gate = a.lock := hlock
    exact ⟨rfl, .refl _⟩

section Repeated

variable (core : Core) (raw : Snapshot) (now : Tick) (payload : Option Touchpad)

theorem filtered_again :
    (core.poll ⟨.ok raw, now, payload⟩).next.filtered raw now = core.filtered raw now := by
  have hhistory := core.history.observe_observe core.settings.dwell raw now
  exact congrArg (History.filter · raw) hhistory

theorem gateAfter_again :
    (core.poll ⟨.ok raw, now, payload⟩).next.gateAfter raw now = core.gateAfter raw now := by
  apply LockGate.eq_of_locked
  rw [gateAfter_locked, filtered_again, poll_ok_next]
  split
  next hwired => rw [gateAfter_locked, if_pos hwired]
  next => rfl

theorem poll_again_next :
    ((core.poll ⟨.ok raw, now, payload⟩).next.poll ⟨.ok raw, now, payload⟩).next =
      (core.poll ⟨.ok raw, now, payload⟩).next := by
  have hgate := core.gateAfter_again raw now payload
  have hhistory := core.history.observe_observe core.settings.dwell raw now
  rw [poll_ok_next, hgate, poll_ok_next]
  exact congrArg (fun history => { core with history, lock := core.gateAfter raw now }) hhistory

theorem poll_again_answer :
    ((core.poll ⟨.ok raw, now, payload⟩).next.poll ⟨.ok raw, now, payload⟩).answer =
      .ok (core.emitted raw now payload) := by
  have hfiltered := core.filtered_again raw now payload
  have hgate := core.gateAfter_again raw now payload
  rw [poll_ok_answer]
  unfold emitted
  rw [hfiltered, hgate]
  rfl

end Repeated

/-! ## Longer runs -/

/-- A step of a run that was made longer: one of its own, or a poll that was put in. -/
inductive Entry
  | own (action : Action)
  | added (cycle : Cycle)

namespace Entry

def action : Entry → Action
  | own action => action
  | added cycle => .poll cycle

def own? : Entry → Option Action
  | own action => some action
  | added _ => none

end Entry

/-- Every poll that was put in shows no news where it stands. -/
def AddsNoNews (core : Core) : List Entry → Prop
  | [] => True
  | .own action :: rest => (core.act action).next.AddsNoNews rest
  | .added cycle :: rest => core.ShowsNoNews cycle ∧ (core.poll cycle).next.AddsNoNews rest

/-- The steps of a run at the entries that are its own. -/
def ownSteps {α : Type} : List Entry → List α → List α
  | .own _ :: entries, step :: steps => step :: ownSteps entries steps
  | .added _ :: entries, _ :: steps => ownSteps entries steps
  | _, _ => []

theorem AddsNoNews.split
    {core : Core} {before rest : List Entry} (hquiet : core.AddsNoNews (before ++ rest)) :
    (core.after (before.map Entry.action)).AddsNoNews rest := by
  induction before generalizing core with
  | nil => exact hquiet
  | cons e before ih =>
      cases e with
      | own action => exact ih hquiet
      | added cycle => exact ih hquiet.2

theorem AddsNoNews.run
    {a b : Core} {entries : List Entry} (hquiet : a.AddsNoNews entries)
    (hsame : SameButWiredLock a b) :
    (ownSteps entries (a.run (entries.map Entry.action))).map recordsShown =
        (b.run (entries.filterMap Entry.own?)).map recordsShown ∧
      SameButWiredLock (a.after (entries.map Entry.action))
        (b.after (entries.filterMap Entry.own?)) := by
  induction entries generalizing a b with
  | nil => exact ⟨rfl, hsame⟩
  | cons e entries ih =>
      cases e with
      | own action =>
          obtain ⟨hshown, hnext⟩ := hsame.act action
          obtain ⟨hsteps, hafter⟩ := ih hquiet hnext
          exact ⟨congrArg₂ List.cons hshown hsteps, hafter⟩
      | added cycle =>
          -- The shorter run stands still here.
          exact ih hquiet.2 ((poll_of_noNews hquiet.1).2.trans hsame)

/-- Polls without news do not show in any other step of a run, and the second of two equal polls
has no news. -/
theorem no_news_no_change
    (core : Core) {entries : List Entry} (hquiet : core.AddsNoNews entries) :
    ((ownSteps entries (core.run (entries.map Entry.action))).map recordsShown =
        (core.run (entries.filterMap Entry.own?)).map recordsShown) ∧
      (∀ before cycle rest, entries = before ++ .added cycle :: rest →
        let here := core.after (before.map Entry.action)
        (here.poll cycle).next.history = here.history) ∧
      ∀ raw now payload,
        let first := core.poll ⟨.ok raw, now, payload⟩
        let second := first.next.poll ⟨.ok raw, now, payload⟩
        ∃ state, first.answer = .ok state ∧ second.answer = .ok state ∧
          second.next = first.next ∧ lampCalls second.events = [] := by
  refine ⟨(hquiet.run (.refl core)).1, ?_, ?_⟩
  · rintro before cycle rest rfl here
    exact (poll_of_noNews hquiet.split.1).1
  · intro raw now payload first second
    have hnext := core.poll_again_next raw now payload
    refine ⟨core.emitted raw now payload, rfl, core.poll_again_answer raw now payload, hnext, ?_⟩
    have hlamp := (first.next.poll_shows ⟨.ok raw, now, payload⟩).lampCalls
    rw [hnext, if_pos rfl] at hlamp
    exact hlamp

def pressesApart : List Entry :=
  [.own (.poll ⟨.ok (Snapshot.released.assert [.button .south]), 9, none⟩),
    .own (.setLocked true),
    .added ⟨.ok (Snapshot.released.assert [.button .south]), 3, none⟩,
    .added ⟨.ok (Snapshot.released.assert [.button .south]), 13, none⟩,
    .own (.poll ⟨.ok (Snapshot.released.assert [.button .south, .button .start]), 14, none⟩),
    .added ⟨.ok (Snapshot.released.assert [.button .south, .button .start]), 14, none⟩]

theorem pressesApart_unchanged :
    let core := fresh lockLine { dwell := 5 }
    core.AddsNoNews pressesApart ∧
      (ownSteps pressesApart (core.run (pressesApart.map Entry.action))).map recordsShown =
        (core.run (pressesApart.filterMap Entry.own?)).map recordsShown ∧
      (core.after [.poll ⟨.ok (Snapshot.released.assert [.button .south]), 9, none⟩,
        .setLocked true]).lock.locked = true ∧
      (core.after (pressesApart.map Entry.action)).lock.locked = false := by
  intro core
  have hquiet : core.AddsNoNews pressesApart := by
    refine ⟨⟨_, rfl, ?_⟩, ⟨_, rfl, ?_⟩, ⟨_, rfl, ?_⟩, trivial⟩
    · decide +kernel
    · decide +kernel
    · decide +kernel
  exact ⟨hquiet, (no_news_no_change core hquiet).1, rfl, by decide +kernel⟩

end Core

end Gamepad
