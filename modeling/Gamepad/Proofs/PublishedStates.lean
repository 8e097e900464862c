import Gamepad.PollLoop
import Gamepad.Run
import Mathlib.Data.List.Destutter

/-!
# What a poll loop publishes

The channel of a loop holds the state of the last cycle, and what was published are the polled
states without the repetitions.  A look sees the last cycle that was completed.
-/

namespace Gamepad

inductive LoopAction
  | tick
  | cancel
  | look (subscriber : Nat)
  deriving DecidableEq

/-- A subscriber sees a state, when so many cycles were completed. -/
structure Look where
  subscriber : Nat
  cycles : Nat
  seen : ControllerState
  deriving DecidableEq

/-- A loop among its subscribers, with what the polls will yield that it has not made yet. -/
structure WatchedLoop where
  loop : PollLoop := {}
  phase : LoopPhase := .running
  upcoming : List (Reading ControllerState)

namespace WatchedLoop

/-- Only a look has an answer.  A loop that has ended polls no more. -/
def act (watched : WatchedLoop) : LoopAction → Step WatchedLoop (Option Look)
  | .look subscriber =>
    ⟨watched, some ⟨subscriber, watched.loop.cycles, watched.loop.channel.current⟩, []⟩
  | .tick =>
    match watched.phase, watched.upcoming with
    | .running, polled :: rest =>
      let step := watched.loop.cycle polled
      ⟨⟨step.next, step.answer, rest⟩, none, step.events⟩
    | _, _ => ⟨watched, none, []⟩
  | .cancel =>
    match watched.phase with
    | .running =>
      let step := watched.loop.cancel
      ⟨{ watched with loop := step.next, phase := step.answer }, none, step.events⟩
    | .ended _ => ⟨watched, none, []⟩

def after (watched : WatchedLoop) (schedule : List LoopAction) : WatchedLoop :=
  Step.after act watched schedule

def run (watched : WatchedLoop) (schedule : List LoopAction) :
    List (Step WatchedLoop (Option Look)) :=
  Step.run act watched schedule

def events (watched : WatchedLoop) (schedule : List LoopAction) : List Event :=
  Step.allEvents (watched.run schedule)

def looks (watched : WatchedLoop) (schedule : List LoopAction) : List Look :=
  (watched.run schedule).filterMap Step.answer

end WatchedLoop

/-- The polls that a loop makes at most, one at every tick until it is cancelled. -/
def duePolls (schedule : List LoopAction) (polls : List (Reading ControllerState)) :
    List (Reading ControllerState) :=
  polls.take ((schedule.takeWhile (· ≠ .cancel)).count .tick)

/-! ## One cycle -/

theorem destutter'_append_singleton
    {α : Type} [DecidableEq α] (a : α) (l : List α) (x : α) :
    (l ++ [x]).destutter' (· ≠ ·) a =
      l.destutter' (· ≠ ·) a ++ if x = l.getLastD a then [] else [x] := by
  induction l generalizing a with
  | nil =>
      by_cases hsame : a = x
      · simp [hsame]
      · simp [hsame, Ne.symm hsame]
  | cons b l ih =>
      rw [List.cons_append, List.destutter'_cons, List.destutter'_cons, List.getLastD_cons]
      split
      next => rw [ih, List.cons_append]
      next hsame =>
        rw [not_not] at hsame
        rw [ih, hsame]

/-- How a loop stands once these states were polled. -/
structure PollLoop.Completed (loop : PollLoop) (states : List ControllerState) : Prop where
  current : loop.channel.current = states.getLastD .idle
  published : .idle :: loop.channel.published =
    (ControllerState.idle :: states).destutter (· ≠ ·)
  cycles : loop.cycles = states.length

namespace PollLoop

theorem start_completed : Completed {} [] :=
  ⟨rfl, rfl, rfl⟩

section Cycle

variable {loop : PollLoop} {state : ControllerState}

theorem cycle_of_same (hsame : state = loop.channel.current) :
    loop.cycle (.ok state) = ⟨⟨loop.channel, loop.cycles + 1⟩, .running, []⟩ := by
  simp only [cycle, Channel.publish, if_pos hsame]

theorem cycle_of_new (hnew : state ≠ loop.channel.current) :
    loop.cycle (.ok state) =
      ⟨⟨⟨state, loop.channel.published ++ [state]⟩, loop.cycles + 1⟩, .running,
        [.stateChanged state]⟩ := by
  simp only [cycle, Channel.publish, if_neg hnew]

end Cycle

theorem cycle_completed
    {loop : PollLoop} {states : List ControllerState} (hcompleted : loop.Completed states)
    (state : ControllerState) :
    ∃ new, (loop.cycle (.ok state)).next.Completed (states ++ [state]) ∧
      (loop.cycle (.ok state)).next.channel.published = loop.channel.published ++ new ∧
      (loop.cycle (.ok state)).events = new.map .stateChanged := by
  obtain ⟨hcurrent, hpublished, hcycles⟩ := hcompleted
  have hdestutter := destutter'_append_singleton ControllerState.idle states state
  rw [← hcurrent] at hdestutter
  rw [List.destutter_cons'] at hpublished
  by_cases hsame : state = loop.channel.current
  · rw [cycle_of_same hsame]
    refine ⟨[], ⟨?_, ?_, ?_⟩, (List.append_nil _).symm, rfl⟩
    · simp [hsame]
    · rw [List.destutter_cons', hdestutter, if_pos hsame, List.append_nil, ← hpublished]
    · simp [hcycles]
  · rw [cycle_of_new hsame]
    refine ⟨[state], ⟨?_, ?_, ?_⟩, rfl, rfl⟩
    · simp
    · rw [List.destutter_cons', hdestutter, if_neg hsame, ← hpublished, List.cons_append]
    · simp [hcycles]

theorem Completed.getElem?_length
    {loop : PollLoop} {states : List ControllerState} (hcompleted : loop.Completed states)
    (later : List ControllerState) :
    (ControllerState.idle :: (states ++ later))[states.length]? =
      some loop.channel.current := by
  rw [hcompleted.current]
  cases states using List.reverseRecOn with
  | nil => rfl
  | append_singleton states last =>
      simp

end PollLoop

/-! ## Whole runs -/

@[simp]
theorem duePolls_nil (schedule : List LoopAction) : duePolls schedule [] = [] :=
  List.take_nil

@[simp]
theorem duePolls_look
    (subscriber : Nat) (rest : List LoopAction) (polls : List (Reading ControllerState)) :
    duePolls (.look subscriber :: rest) polls = duePolls rest polls := by
  simp [duePolls]

@[simp]
theorem duePolls_cancel (rest : List LoopAction) (polls : List (Reading ControllerState)) :
    duePolls (.cancel :: rest) polls = [] := by
  simp [duePolls]

@[simp]
theorem duePolls_tick
    (rest : List LoopAction) (polled : Reading ControllerState)
    (polls : List (Reading ControllerState)) :
    duePolls (.tick :: rest) (polled :: polls) = polled :: duePolls rest polls := by
  simp [duePolls]

namespace WatchedLoop

theorem after_cons (watched : WatchedLoop) (action : LoopAction) (rest : List LoopAction) :
    watched.after (action :: rest) = (watched.act action).next.after rest := rfl

theorem events_cons (watched : WatchedLoop) (action : LoopAction) (rest : List LoopAction) :
    watched.events (action :: rest) =
      (watched.act action).events ++ (watched.act action).next.events rest := rfl

theorem looks_cons (watched : WatchedLoop) (action : LoopAction) (rest : List LoopAction) :
    watched.looks (action :: rest) =
      (watched.act action).answer.toList ++ (watched.act action).next.looks rest := by
  unfold looks run
  rw [Step.run_cons, List.filterMap_cons]
  cases (watched.act action).answer <;> rfl

/-- How a loop gets on with the polls that are due, if it completes these states: all of them
succeed, or it ends with the first fault and makes no further poll. -/
inductive GetsOn (upcoming : List (Reading ControllerState)) (states : List ControllerState) :
    List (Reading ControllerState) → Prop → WatchedLoop → List Event → Prop
  | waiting {loop : PollLoop} {stop : Prop} (hstop : ¬ stop) :
      GetsOn upcoming states (states.map .ok) stop
        ⟨loop, .running, upcoming.drop states.length⟩ []
  | cancelled {loop : PollLoop} {stop : Prop} (hstop : stop) :
      GetsOn upcoming states (states.map .ok) stop
        ⟨loop, .ended .cancelled, upcoming.drop states.length⟩ [.loopCancelled loop.cycles]
  | failed {loop : PollLoop} {stop : Prop} (fault : InputFault)
      (unmade : List (Reading ControllerState)) :
      GetsOn upcoming states (states.map .ok ++ .error fault :: unmade) stop
        ⟨loop, .ended (.failed fault), upcoming.drop (states.length + 1)⟩ [.loopFailed fault]

/-- What a run shows of a loop that had completed the states `before` when it began. -/
structure Follows (watched : WatchedLoop) (before states : List ControllerState)
    (due : List (Reading ControllerState)) (stop : Prop) (after : WatchedLoop)
    (events : List Event) (looks : List Look) : Prop where
  completed : after.loop.Completed (before ++ states)
  shown : ∃ new notice,
    after.loop.channel.published = watched.loop.channel.published ++ new ∧
      events = new.map .stateChanged ++ notice ∧
      GetsOn watched.upcoming states due stop after notice
  alone : ∀ how, after.phase = .ended how → watched.loop.run due = ⟨after.loop, how, events⟩
  seen : ∀ look ∈ looks, before.length ≤ look.cycles ∧
    (ControllerState.idle :: (before ++ states))[look.cycles]? = some look.seen
  ordered : looks.Pairwise fun look later => look.cycles ≤ later.cycles

theorem act_of_ended
    {watched : WatchedLoop} {how : LoopEnd} (hended : watched.phase = .ended how)
    (action : LoopAction) :
    (watched.act action).next = watched ∧ (watched.act action).events = [] ∧
      ∀ look ∈ (watched.act action).answer,
        look.cycles = watched.loop.cycles ∧ look.seen = watched.loop.channel.current := by
  cases action with
  | look subscriber => simp [act]
  | tick => simp [act, hended]
  | cancel => simp [act, hended]

theorem after_of_ended
    (watched : WatchedLoop) {how : LoopEnd} (hended : watched.phase = .ended how)
    (schedule : List LoopAction) :
    watched.after schedule = watched ∧ watched.events schedule = [] ∧
      ∀ look ∈ watched.looks schedule,
        look.cycles = watched.loop.cycles ∧ look.seen = watched.loop.channel.current := by
  induction schedule with
  | nil => exact ⟨rfl, rfl, by simp [looks, run]⟩
  | cons action rest ih =>
      obtain ⟨hnext, hevents, hlook⟩ := act_of_ended hended action
      obtain ⟨hafter, hrest, hlooks⟩ := ih
      rw [after_cons, events_cons, looks_cons, hnext, hevents, hafter, hrest]
      refine ⟨rfl, rfl, ?_⟩
      intro look hmem
      rcases List.mem_append.mp hmem with hfirst | hlater
      · exact hlook look (Option.mem_toList.mp hfirst)
      · exact hlooks look hlater

section Follows

variable {loop : PollLoop} {before : List ControllerState} (hcompleted : loop.Completed before)
  {upcoming : List (Reading ControllerState)}

include hcompleted

theorem looks_settled
    {looks : List Look}
    (hlooks : ∀ look ∈ looks,
      look.cycles = loop.cycles ∧ look.seen = loop.channel.current) :
    (∀ look ∈ looks, before.length ≤ look.cycles ∧
        (ControllerState.idle :: (before ++ []))[look.cycles]? = some look.seen) ∧
      looks.Pairwise fun look later => look.cycles ≤ later.cycles := by
  constructor
  · intro look hmem
    obtain ⟨hcycles, hseen⟩ := hlooks look hmem
    rw [hcycles, hseen, hcompleted.cycles]
    exact ⟨Nat.le_refl _, hcompleted.getElem?_length []⟩
  · apply List.pairwise_of_forall_mem_list
    intro look hmem later hlater
    exact Nat.le_of_eq ((hlooks look hmem).1.trans (hlooks later hlater).1.symm)

theorem follows_nil :
    Follows ⟨loop, .running, upcoming⟩ before [] [] False ⟨loop, .running, upcoming⟩ [] [] where
  completed := by rwa [List.append_nil]
  shown := ⟨[], [], (List.append_nil _).symm, rfl, .waiting id⟩
  alone := nofun
  seen := by simp
  ordered := List.Pairwise.nil

theorem follows_ended
    {due left : List (Reading ControllerState)} {stop : Prop} {how : LoopEnd}
    {notice : List Event} (hgets : GetsOn upcoming [] due stop ⟨loop, .ended how, left⟩ notice)
    (hrun : loop.run due = ⟨loop, how, notice⟩) {looks : List Look}
    (hlooks : ∀ look ∈ looks,
      look.cycles = loop.cycles ∧ look.seen = loop.channel.current) :
    Follows ⟨loop, .running, upcoming⟩ before [] due stop ⟨loop, .ended how, left⟩ notice
      looks where
  completed := by rwa [List.append_nil]
  shown := ⟨[], notice, (List.append_nil _).symm, rfl, hgets⟩
  alone := by
    intro how' hended
    obtain rfl := LoopPhase.ended.inj hended
    exact hrun
  seen := (looks_settled hcompleted hlooks).1
  ordered := (looks_settled hcompleted hlooks).2

theorem Follows.look
    {states : List ControllerState} {due : List (Reading ControllerState)} {stop : Prop}
    {after : WatchedLoop} {events : List Event} {looks : List Look}
    (hrest : Follows ⟨loop, .running, upcoming⟩ before states due stop after events looks)
    (subscriber : Nat) :
    Follows ⟨loop, .running, upcoming⟩ before states due stop after events
      (⟨subscriber, loop.cycles, loop.channel.current⟩ :: looks) where
  completed := hrest.completed
  shown := hrest.shown
  alone := hrest.alone
  seen := by
    intro look hmem
    rcases List.mem_cons.mp hmem with rfl | hlater
    · rw [hcompleted.cycles]
      exact ⟨Nat.le_refl _, hcompleted.getElem?_length states⟩
    · exact hrest.seen look hlater
  ordered := by
    refine List.pairwise_cons.mpr ⟨?_, hrest.ordered⟩
    intro look hlater
    rw [hcompleted.cycles]
    exact (hrest.seen look hlater).1

theorem Follows.tick
    (state : ControllerState) {states : List ControllerState}
    {due : List (Reading ControllerState)} {stop : Prop} {after : WatchedLoop}
    {events : List Event} {looks : List Look}
    (hrest : Follows ⟨(loop.cycle (.ok state)).next, .running, upcoming⟩ (before ++ [state])
      states due stop after events looks) :
    Follows ⟨loop, .running, .ok state :: upcoming⟩ before (state :: states)
      (.ok state :: due) stop after ((loop.cycle (.ok state)).events ++ events) looks := by
  obtain ⟨new, _, hpublished, hevents⟩ := PollLoop.cycle_completed hcompleted state
  obtain ⟨hfinal, ⟨more, notice, hmore, rfl, hgets⟩, halone, hseen, hordered⟩ := hrest
  rw [List.append_assoc, List.singleton_append] at hfinal hseen
  refine ⟨hfinal, ⟨new ++ more, notice, ?_, ?_, ?_⟩, ?_, ?_, hordered⟩
  · rw [hmore, hpublished, List.append_assoc]
  · rw [hevents, List.map_append, List.append_assoc]
  · cases hgets with
    | waiting hstop => exact .waiting hstop
    | cancelled hstop => exact .cancelled hstop
    | failed fault unmade => exact .failed fault unmade
  · intro how hended
    have hrun := halone how hended
    have hcons : loop.run (.ok state :: due) =
        ⟨((loop.cycle (.ok state)).next.run due).next,
          ((loop.cycle (.ok state)).next.run due).answer,
          (loop.cycle (.ok state)).events ++ ((loop.cycle (.ok state)).next.run due).events⟩ :=
      rfl
    rw [hcons, hrun]
  · intro look hmem
    obtain ⟨hlater, hstate⟩ := hseen look hmem
    rw [List.length_append, List.length_singleton] at hlater
    exact ⟨Nat.le_of_succ_le hlater, hstate⟩

theorem exists_follows
    (upcoming : List (Reading ControllerState)) (schedule : List LoopAction) :
    ∃ states, Follows ⟨loop, .running, upcoming⟩ before states (duePolls schedule upcoming)
      (.cancel ∈ schedule) (after ⟨loop, .running, upcoming⟩ schedule)
      (events ⟨loop, .running, upcoming⟩ schedule)
      (looks ⟨loop, .running, upcoming⟩ schedule) := by
  -- By induction on the schedule; once the loop has ended, the rest of it is looks only.
  induction schedule generalizing loop before upcoming with
  | nil =>
      have hstop : (LoopAction.cancel ∈ ([] : List LoopAction)) = False := by simp
      rw [hstop]
      exact ⟨[], follows_nil hcompleted⟩
  | cons action rest ih =>
      rw [after_cons, events_cons, looks_cons]
      cases action with
      | look subscriber =>
          obtain ⟨states, hrest⟩ := ih hcompleted upcoming
          have hstop : (.cancel ∈ LoopAction.look subscriber :: rest) =
              (LoopAction.cancel ∈ rest) := by simp
          rw [duePolls_look, hstop]
          exact ⟨states, hrest.look hcompleted subscriber⟩
      | cancel =>
          obtain ⟨hafter, hevents, hlooks⟩ :=
            after_of_ended ⟨loop, .ended .cancelled, upcoming⟩ rfl rest
          have hact : act ⟨loop, .running, upcoming⟩ .cancel =
              ⟨⟨loop, .ended .cancelled, upcoming⟩, none, [.loopCancelled loop.cycles]⟩ := rfl
          rw [hact, hafter, hevents, duePolls_cancel]
          exact ⟨[], follows_ended hcompleted (.cancelled List.mem_cons_self) rfl hlooks⟩
      | tick =>
          have hstop : (.cancel ∈ LoopAction.tick :: rest) =
              (LoopAction.cancel ∈ rest) := by simp
          rw [hstop]
          cases upcoming with
          | nil =>
              obtain ⟨states, hrest⟩ := ih hcompleted []
              rw [duePolls_nil] at hrest ⊢
              exact ⟨states, hrest⟩
          | cons polled polls =>
              rw [duePolls_tick]
              cases polled with
              | error fault =>
                  obtain ⟨hafter, hevents, hlooks⟩ :=
                    after_of_ended ⟨loop, .ended (.failed fault), polls⟩ rfl rest
                  have hact : act ⟨loop, .running, .error fault :: polls⟩ .tick =
                      ⟨⟨loop, .ended (.failed fault), polls⟩, none, [.loopFailed fault]⟩ := rfl
                  rw [hact, hafter, hevents]
                  exact ⟨[], follows_ended hcompleted (.failed fault _) rfl hlooks⟩
              | ok state =>
                  obtain ⟨_, hnext, _⟩ := PollLoop.cycle_completed hcompleted state
                  obtain ⟨states, hrest⟩ := ih hnext polls
                  exact ⟨state :: states, hrest.tick hcompleted state⟩

end Follows

/-- Whatever the polls yield, and however ticks, looks and the cancellation come one after the
other: the channel holds the last polled state, what was published are the changes, a fault ends
the loop at once, and a look sees the state of the last cycle that was completed. -/
theorem loop_publishes_changes
    (polls : List (Reading ControllerState)) (schedule : List LoopAction) :
    let start : WatchedLoop := { upcoming := polls }
    let watched := start.after schedule
    ∃ states notice,
      watched.loop.Completed states ∧
        (ControllerState.idle :: watched.loop.channel.published).IsChain (· ≠ ·) ∧
        start.events schedule = watched.loop.channel.published.map .stateChanged ++ notice ∧
        GetsOn polls states (duePolls schedule polls) (.cancel ∈ schedule) watched notice ∧
        (∀ look ∈ start.looks schedule,
          (ControllerState.idle :: states)[look.cycles]? = some look.seen) ∧
        ((start.looks schedule).Pairwise fun look later => look.cycles ≤ later.cycles) ∧
        ∀ how, watched.phase = .ended how →
          PollLoop.run {} (duePolls schedule polls) =
            ⟨watched.loop, how, start.events schedule⟩ := by
  intro start watched
  obtain ⟨states, hcompleted, ⟨new, notice, hnew, hevents, hgets⟩, halone, hseen, hordered⟩ :=
    exists_follows PollLoop.start_completed polls schedule
  have hpublished : watched.loop.channel.published = new := hnew
  refine ⟨states, notice, hcompleted, ?_, ?_, hgets, fun look hmem => (hseen look hmem).2,
    hordered, halone⟩
  · rw [hcompleted.published]
    exact List.isChain_destutter _ _
  · rw [hpublished]
    exact hevents

theorem press_published_before_fault :
    let held := ControllerState.ofButtons (Snapshot.released.assert [.button .south])
    let fault : InputFault := .portFault "gpio0" "gone"
    let polls : List (Reading ControllerState) :=
      [.ok .idle, .ok held, .ok held, .ok .idle, .error fault, .ok held]
    let schedule : List LoopAction :=
      [.look 0, .tick, .tick, .look 1, .tick, .tick, .look 0, .tick, .tick, .cancel, .look 1]
    let start : WatchedLoop := { upcoming := polls }
    let watched := start.after schedule
    let early : Look := ⟨1, 2, held⟩
    early ∈ start.looks schedule ∧ watched.phase = .ended (.failed fault) ∧
      watched.loop.channel.published = [held, .idle] ∧
      ∃ states, watched.loop.Completed states ∧
        (ControllerState.idle :: states)[early.cycles]? = some early.seen ∧
        PollLoop.run {} (duePolls schedule polls) =
          ⟨watched.loop, .failed fault, start.events schedule⟩ := by
  intro held fault polls schedule start watched early
  have hearly : early ∈ start.looks schedule := by decide +kernel
  have hended : watched.phase = .ended (.failed fault) := rfl
  have hpublished : watched.loop.channel.published = [held, .idle] := by decide +kernel
  obtain ⟨states, _, hcompleted, _, _, _, hseen, _, halone⟩ :=
    loop_publishes_changes polls schedule
  exact ⟨hearly, hended, hpublished, states, hcompleted, hseen early hearly,
    halone (.failed fault) hended⟩

end WatchedLoop

end Gamepad
