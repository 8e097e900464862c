import Gamepad.Proofs.AlikeBenches
import Gamepad.Proofs.Poll

/-!
# Failed polls

When the reading of its source fails, a poll has at most noticed that the override queue is gone.
So every later command gets the answer it would have got without the poll.
-/

namespace Gamepad

/-! ## Readings that fail -/

namespace Bench

theorem read_of_error
    {capacity : Nat} {bench : Bench} (haccounted : bench.Accounted capacity)
    {fault : InputFault} (hfailed : bench.read.answer = .error fault) :
    Alike bench.read.next bench ∧ besidesNotice bench.read.events = [] := by
  cases hsource : bench.source with
  | none =>
      simp only [read, hsource] at hfailed
      cases hfailed
  | some source =>
      have hnone : source.overrides.pending = [] := by
        rcases source.overrides.take_cases with ⟨s, hanswer, _, _⟩ | ⟨_, _, hpending, _⟩
        · simp only [read, hsource, Source.read, hanswer] at hfailed
          cases hfailed
        · exact hpending
      have hlevels := bench.ports.level_countReads (source.read bench.ports.sense).answer.read
      rcases source.overrides.take_of_pending_nil hnone with
        htake | ⟨queue, hqueue, hgone, htake⟩
      · -- The slot is as before.
        have hnext : (source.read bench.ports.sense).next = source := by
          simp only [Source.read, htake]
        simp only [read, hsource]
        refine ⟨⟨rfl, hlevels, ?_, rfl⟩, ?_⟩
        · rw [hnext, hsource]
          exact .same _
        · simp only [Source.read, htake]
          rfl
      · -- The slot was given up, which it is only if nobody holds a handle.
        have hidle : bench.handles.count true = 0 := by
          have hcounted := haccounted source hsource
          rw [hqueue] at hcounted
          exact hcounted.2.symm.trans hgone
        have hpending : queue.pending = [] := by
          rw [hqueue] at hnone
          exact hnone
        simp only [read, hsource]
        refine ⟨⟨rfl, hlevels, ?_, rfl⟩, ?_⟩
        · obtain ⟨overrides, fallback⟩ := source
          cases hqueue
          simp only [Source.read, htake, hsource]
          exact .quit fallback hpending hidle
        · simp only [Source.read, htake]
          rfl

/-- A bench over a fresh queue of some capacity with one handle to it, or without a queue. -/
def setUp (clock : ManualClock) (ports : PortBank) (queue : Option Nat)
    (fallback : Fallback String) : Bench :=
  match queue with
  | some capacity => opened clock ports capacity fallback
  | none => { clock, ports, source := some ⟨.disabled, fallback⟩ }

theorem setUp_accounted
    (clock : ManualClock) (ports : PortBank) (queue : Option Nat) (fallback : Fallback String) :
    ∃ capacity, (setUp clock ports queue fallback).Accounted capacity := by
  cases queue with
  | some capacity =>
      refine ⟨capacity, ?_⟩
      intro source hsource
      obtain rfl := Option.some.inj hsource
      exact ⟨rfl, rfl⟩
  | none =>
      refine ⟨0, ?_⟩
      intro source hsource
      obtain rfl := Option.some.inj hsource
      rfl

end Bench

/-! ## Rigs that cannot be told apart -/

namespace Core

theorem poll_of_error (core : Core) (fault : InputFault) (now : Tick) (payload : Option Touchpad) :
    core.poll ⟨.error fault, now, payload⟩ = ⟨core, .error fault, []⟩ := rfl

end Core

namespace Rig

structure Alike (a b : Rig) : Prop where
  bench : a.bench.Alike b.bench
  core : a.core = b.core
  payload : a.payload = b.payload

theorem Alike.poll {a b : Rig} (halike : Alike a b) : Step.Alike Alike a.poll b.poll := by
  obtain ⟨bench, core, payload⟩ := a
  obtain ⟨bench', core', payload'⟩ := b
  obtain ⟨hbench, rfl, rfl⟩ := halike
  obtain ⟨hanswer, hevents, hnext⟩ := hbench.read
  have hcycle : (⟨bench.read.answer, bench.clock.now, payload⟩ : Cycle) =
      ⟨bench'.read.answer, bench'.clock.now, payload⟩ := by
    rw [hanswer, hbench.clock]
  simp only [Rig.poll, hcycle]
  refine ⟨rfl, ?_, hnext, rfl, rfl⟩
  unfold besidesNotice at hevents ⊢
  rw [List.filter_append, List.filter_append, hevents]

theorem Alike.act {a b : Rig} (halike : Alike a b) (c : RigCommand) :
    Step.Alike Alike (a.act c) (b.act c) := by
  cases c with
  | poll =>
      have hpoll := halike.poll
      exact ⟨congrArg RigAnswer.state hpoll.answer, hpoll.events, hpoll.next⟩
  | lock locked =>
      have hset : a.core.setLocked locked = b.core.setLocked locked := by rw [halike.core]
      simp only [Rig.act, hset]
      exact ⟨rfl, rfl, halike.bench, rfl, halike.payload⟩
  | bench c =>
      have hact := halike.bench.act c
      exact ⟨congrArg RigAnswer.bench hact.answer, hact.events, hact.next, halike.core,
        halike.payload⟩

/-- What a step lets see: its answer, the core after it with its records and its lock, the
overrides that wait, the calls to the lock indicator, and everything else that was logged but for
the notice that the queue is gone. -/
structure Sight where
  answer : RigAnswer
  core : Core
  pending : List Snapshot
  lampCalls : List Bool
  records : List Event

def sight (step : Step Rig RigAnswer) : Sight where
  answer := step.answer
  core := step.next.core
  pending := step.next.bench.pending
  lampCalls := Gamepad.lampCalls step.events
  records := besidesNotice step.events

theorem sight_of_alike
    {a b : Step Rig RigAnswer} (halike : Step.Alike Alike a b) : sight a = sight b := by
  have hlamp : lampCalls a.events = lampCalls b.events := by
    rw [← lampCalls_besidesNotice, halike.events, lampCalls_besidesNotice]
  simp only [sight, halike.answer, halike.next.core, halike.next.bench.pending, hlamp,
    halike.events]

theorem Alike.run {a b : Rig} (halike : Alike a b) (commands : List RigCommand) :
    (a.run commands).map sight = (b.run commands).map sight := by
  induction commands generalizing a b with
  | nil => rfl
  | cons c rest ih =>
      have hact := halike.act c
      unfold Rig.run at ih ⊢
      rw [Step.run_cons, Step.run_cons, List.map_cons, List.map_cons, sight_of_alike hact,
        ih hact.next]

theorem map_sight_run_append (rig : Rig) (before rest : List RigCommand) :
    (rig.run (before ++ rest)).map sight =
      (rig.run before).map sight ++ ((rig.after before).run rest).map sight := by
  unfold Rig.run
  rw [Step.run_append, List.map_append]
  rfl

/-! ## A poll that fails -/

theorem act_accounted
    {capacity : Nat} {rig : Rig} (haccounted : rig.bench.Accounted capacity) (c : RigCommand) :
    (rig.act c).next.bench.Accounted capacity := by
  cases c with
  | poll => exact haccounted.act .read
  | lock locked => exact haccounted
  | bench c => exact haccounted.act c

theorem after_accounted
    {capacity : Nat} {rig : Rig} (haccounted : rig.bench.Accounted capacity)
    (commands : List RigCommand) : (rig.after commands).bench.Accounted capacity := by
  induction commands generalizing rig with
  | nil => exact haccounted
  | cons c rest ih => exact ih (act_accounted haccounted c)

theorem poll_of_error
    {capacity : Nat} {rig : Rig} (haccounted : rig.bench.Accounted capacity)
    {fault : InputFault} (hfailed : rig.poll.answer = .error fault) :
    Step.Alike Alike rig.poll ⟨rig, .error fault, []⟩ := by
  have hreading : rig.bench.read.answer = .error fault := by
    cases hanswer : rig.bench.read.answer with
    | error cause =>
        simp only [Rig.poll, hanswer, Core.poll_of_error] at hfailed
        cases hfailed
        rfl
    | ok raw =>
        simp only [Rig.poll, hanswer, Core.poll_ok_answer] at hfailed
        cases hfailed
  obtain ⟨halike, hevents⟩ := Bench.read_of_error haccounted hreading
  simp only [Rig.poll, hreading, Core.poll_of_error, List.append_nil]
  exact ⟨rfl, hevents, halike, rfl, rfl⟩

def setUp (core : Core) (clock : ManualClock) (ports : PortBank) (queue : Option Nat)
    (fallback : Fallback String) (payload : Option Touchpad) : Rig :=
  (attach core (.setUp clock ports queue fallback) payload).value

def lostPort : Rig :=
  setUp (.fresh {} { dwell := 0 }) ⟨0, 1⟩ {} (some 1)
    (.ports
      { cache := ⟨["gpio0"], by decide, by decide⟩
        slots := [⟨.button .south, ⟨0, by decide⟩, 0, .activeHigh⟩] }) none

def beforeLoss : List RigCommand :=
  [.bench (.push 0 .released), .bench (.dropHandle 0), .bench (.fault "gpio0" (some "gone")),
    .poll]

def afterLoss : List RigCommand :=
  [.bench (.fault "gpio0" none), .bench (.word "gpio0" 1), .lock true, .poll]

end Rig

end Gamepad
