import Gamepad.Bench

/-!
# Conservation in the override queue

The queue of a bench counts the handles that are held, so a source gives its queue up only when
nobody can push any more and nothing is pending.  Every other promise follows from that.
-/

namespace Gamepad

/-! ## The slot -/

namespace OverrideSlot

/-- The queue of a slot has the given capacity and counts the given number of handles, and a slot
without a queue is left with none. -/
def Accounted (capacity handles : Nat) : OverrideSlot → Prop
  | disabled => handles = 0
  | connected queue => queue.capacity = capacity ∧ queue.producers = handles

theorem take_cases (slot : OverrideSlot) :
    (∃ s, slot.take.answer = some s ∧ slot.take.events = [.overrideUsed] ∧
        slot.pending = s :: slot.take.next.pending) ∨
      (slot.take.answer = none ∧ Event.overrideUsed ∉ slot.take.events ∧
        slot.pending = [] ∧ slot.take.next.pending = []) := by
  cases slot with
  | disabled => exact .inr ⟨rfl, List.not_mem_nil, rfl, rfl⟩
  | connected queue =>
      simp only [take]
      split
      next s rest hpending => exact .inl ⟨s, rfl, rfl, hpending⟩
      next hpending =>
        right
        split
        next => exact ⟨rfl, by simp, hpending, rfl⟩
        next => exact ⟨rfl, List.not_mem_nil, hpending, hpending⟩

theorem Accounted.take
    {capacity handles : Nat} {slot : OverrideSlot} (h : slot.Accounted capacity handles) :
    slot.take.next.Accounted capacity handles := by
  cases slot with
  | disabled => exact h
  | connected queue =>
      simp only [OverrideSlot.take]
      split
      next => exact h
      next =>
        split
        next hnone => exact h.2.symm.trans hnone
        next => exact h

theorem Accounted.connected
    {capacity handles : Nat} {slot : OverrideSlot}
    (h : slot.Accounted capacity handles) (hheld : 0 < handles) :
    ∃ queue, slot = .connected queue ∧ queue.capacity = capacity ∧
      queue.producers = handles := by
  cases slot with
  | disabled =>
      have hzero : handles = 0 := h
      omega
  | connected queue => exact ⟨queue, rfl, h⟩

theorem Accounted.push
    {capacity handles : Nat} {slot : OverrideSlot}
    (h : slot.Accounted capacity handles) (s : Snapshot) :
    (slot.push s).1.Accounted capacity handles := by
  cases slot with
  | disabled => exact h
  | connected queue =>
      simp only [OverrideSlot.push, OverrideQueue.push]
      split
      next => exact h
      next => exact h

theorem Accounted.length_le
    {capacity handles : Nat} {slot : OverrideSlot}
    (h : slot.Accounted capacity handles) :
    slot.pending.length ≤ capacity := by
  cases slot with
  | disabled => exact Nat.zero_le capacity
  | connected queue => exact h.1 ▸ queue.pending_le

theorem push_connected (queue : OverrideQueue) (s : Snapshot) :
    (connected queue).push s = (connected (queue.push s).1, (queue.push s).2) := rfl

theorem push_of_lt
    {queue : OverrideQueue} (hroom : queue.pending.length < queue.capacity) (s : Snapshot) :
    ((connected queue).push s).2 = .ok () ∧
      ((connected queue).push s).1.pending = queue.pending ++ [s] := by
  rw [push_connected]
  unfold OverrideQueue.push
  rw [dif_pos hroom]
  exact ⟨rfl, rfl⟩

theorem push_of_not_lt
    {queue : OverrideQueue} (hfull : ¬ queue.pending.length < queue.capacity) (s : Snapshot) :
    (connected queue).push s = (connected queue, .error .full) := by
  rw [push_connected]
  unfold OverrideQueue.push
  rw [dif_neg hfull]

theorem push_outcomes (slot : OverrideSlot) (s : Snapshot) :
    ((slot.push s).2 = .ok () ∧ (slot.push s).1.pending = slot.pending ++ [s]) ∨
      ∃ cause, (slot.push s).2 = .error cause ∧ (slot.push s).1 = slot := by
  cases slot with
  | disabled => exact .inr ⟨.closed, rfl, rfl⟩
  | connected queue =>
      by_cases hroom : queue.pending.length < queue.capacity
      · exact .inl (push_of_lt hroom s)
      · rw [push_of_not_lt hroom]
        exact .inr ⟨.full, rfl, rfl⟩

theorem pending_mapQueue
    (slot : OverrideSlot) {f : OverrideQueue → OverrideQueue}
    (hkeeps : ∀ queue, (f queue).pending = queue.pending) :
    (slot.mapQueue f).pending = slot.pending := by
  cases slot with
  | disabled => rfl
  | connected queue => exact hkeeps queue

@[simp]
theorem pending_addProducer (slot : OverrideSlot) :
    (slot.mapQueue OverrideQueue.addProducer).pending = slot.pending :=
  slot.pending_mapQueue fun _ => rfl

@[simp]
theorem pending_dropProducer (slot : OverrideSlot) :
    (slot.mapQueue OverrideQueue.dropProducer).pending = slot.pending :=
  slot.pending_mapQueue fun _ => rfl

end OverrideSlot

/-! ## The commands of a bench -/

def BenchCommand.through? : BenchCommand → Option Nat
  | .push handle _ | .cloneHandle handle | .dropHandle handle => some handle
  | _ => none

def BenchAnswer.accepted? : BenchCommand → BenchAnswer → Option Snapshot
  | .push _ s, .outcome (.ok ()) => some s
  | _, _ => none

def BenchAnswer.reading? : BenchAnswer → Option (Reading Snapshot)
  | .acquired reading => some reading
  | _ => none

def BenchAnswer.served? (answer : BenchAnswer) (events : List Event) : Option Snapshot :=
  match answer with
  | .acquired (.ok s) => if Event.overrideUsed ∈ events then some s else none
  | _ => none

theorem served?_eq_none_of_reading
    {answer : BenchAnswer} {events : List Event} (hreading : answer.reading? = none) :
    answer.served? events = none := by
  cases answer with
  | acquired reading => simp [BenchAnswer.reading?] at hreading
  | _ => rfl

theorem served?_eq_none_of_events
    {answer : BenchAnswer} {events : List Event} (hevents : Event.overrideUsed ∉ events) :
    answer.served? events = none := by
  cases answer with
  | acquired reading =>
      cases reading with
      | error fault => rfl
      | ok s => simp [BenchAnswer.served?, hevents]
  | _ => rfl

theorem count_true_pos
    {handles : List Bool} {handle : Nat} (hheld : handles.getD handle false = true) :
    0 < handles.count true := by
  rw [List.count_pos_iff]
  cases hget : handles[handle]? with
  | none => simp [List.getD_eq_getElem?_getD, hget] at hheld
  | some held =>
      have hvalue : held = true := by
        simpa [List.getD_eq_getElem?_getD, hget] using hheld
      exact hvalue ▸ List.mem_of_getElem? hget

theorem count_true_set
    {handles : List Bool} {handle : Nat} (hheld : handles.getD handle false = true) :
    (handles.set handle false).count true = handles.count true - 1 := by
  have hlt : handle < handles.length := by
    apply Decidable.byContradiction
    intro hge
    simp [List.getD_eq_getElem?_getD, List.getElem?_eq_none (Nat.not_lt.mp hge)] at hheld
  have hget : handles[handle] = true := by
    simpa [List.getD_eq_getElem?_getD, List.getElem?_eq_getElem hlt] using hheld
  rw [List.count_set hlt, hget]
  simp

/-- What a command does to the slot of a living source and to the handles, with its answer and its
events. -/
inductive QueueEffect (slot : OverrideSlot) (handles : List Bool) :
    BenchCommand → BenchAnswer → List Event → OverrideSlot → List Bool → Prop
  | quiet {c : BenchCommand} {answer : BenchAnswer}
      (haccepted : BenchAnswer.accepted? c answer = none)
      (hreading : answer.reading? = none) :
      QueueEffect slot handles c answer [] slot handles
  | read {reading : Reading Snapshot}
      (htaken : ∀ s, slot.take.answer = some s → reading = .ok s) :
      QueueEffect slot handles .read (.acquired reading) slot.take.events slot.take.next handles
  | push {handle : Nat} (s : Snapshot) (hheld : handles.getD handle false = true) :
      QueueEffect slot handles (.push handle s) (.outcome (slot.push s).2) [] (slot.push s).1
        handles
  | clone {handle : Nat} (hheld : handles.getD handle false = true) :
      QueueEffect slot handles (.cloneHandle handle) (.handle handles.length) []
        (slot.mapQueue OverrideQueue.addProducer) (handles ++ [true])
  | drop {handle : Nat} (hheld : handles.getD handle false = true) :
      QueueEffect slot handles (.dropHandle handle) .done []
        (slot.mapQueue OverrideQueue.dropProducer) (handles.set handle false)

theorem QueueEffect.accounted
    {capacity : Nat} {slot slot' : OverrideSlot} {handles handles' : List Bool}
    {c : BenchCommand} {answer : BenchAnswer} {events : List Event}
    (heffect : QueueEffect slot handles c answer events slot' handles')
    (haccounted : slot.Accounted capacity (handles.count true)) :
    slot'.Accounted capacity (handles'.count true) := by
  cases heffect with
  | quiet _ _ => exact haccounted
  | read _ => exact haccounted.take
  | push s _ => exact haccounted.push s
  | clone hheld =>
      obtain ⟨queue, hqueue, hcapacity, hproducers⟩ :=
        haccounted.connected (count_true_pos hheld)
      rw [hqueue, List.count_append, List.count_singleton_self]
      exact ⟨hcapacity, congrArg (· + 1) hproducers⟩
  | drop hheld =>
      obtain ⟨queue, hqueue, hcapacity, hproducers⟩ :=
        haccounted.connected (count_true_pos hheld)
      rw [hqueue, count_true_set hheld]
      exact ⟨hcapacity, congrArg (· - 1) hproducers⟩

theorem QueueEffect.flow
    {slot slot' : OverrideSlot} {handles handles' : List Bool}
    {c : BenchCommand} {answer : BenchAnswer} {events : List Event}
    (heffect : QueueEffect slot handles c answer events slot' handles') :
    slot.pending ++ (BenchAnswer.accepted? c answer).toList =
      (answer.served? events).toList ++ slot'.pending := by
  cases heffect with
  | quiet haccepted hreading =>
      rw [haccepted, served?_eq_none_of_reading hreading]
      simp
  | read htaken =>
      rcases slot.take_cases with
        ⟨s, hanswer, hevents, hpending⟩ | ⟨hanswer, hevents, hpending, hnext⟩
      · rw [htaken s hanswer, hpending, hevents]
        simp [BenchAnswer.accepted?, BenchAnswer.served?]
      · rw [hpending, hnext, served?_eq_none_of_events hevents]
        rfl
  | push s _ =>
      rw [served?_eq_none_of_reading rfl]
      rcases slot.push_outcomes s with ⟨houtcome, hpending⟩ | ⟨cause, houtcome, hsame⟩
      · rw [houtcome, hpending]
        rfl
      · rw [houtcome, hsame]
        exact List.append_nil _
  | clone _ =>
      rw [OverrideSlot.pending_addProducer]
      exact List.append_nil _
  | drop _ =>
      rw [OverrideSlot.pending_dropProducer]
      exact List.append_nil _

theorem QueueEffect.reading
    {slot slot' : OverrideSlot} {handles handles' : List Bool}
    {c : BenchCommand} {answer : BenchAnswer} {events : List Event}
    (heffect : QueueEffect slot handles c answer events slot' handles') :
    (answer.reading? = none ∧ ∃ added, slot'.pending = slot.pending ++ added) ∨
      ∃ reading, answer.reading? = some reading ∧
        (slot.pending = [] ∨ ∃ s, reading = .ok s ∧ slot.pending = s :: slot'.pending) := by
  cases heffect with
  | quiet _ hreading => exact .inl ⟨hreading, [], (List.append_nil _).symm⟩
  | read htaken =>
      right
      refine ⟨_, rfl, ?_⟩
      rcases slot.take_cases with ⟨s, hanswer, _, hpending⟩ | ⟨_, _, hpending, _⟩
      · exact .inr ⟨s, htaken s hanswer, hpending⟩
      · exact .inl hpending
  | push s _ =>
      left
      refine ⟨rfl, ?_⟩
      rcases slot.push_outcomes s with ⟨_, hpending⟩ | ⟨_, _, hsame⟩
      · exact ⟨[s], hpending⟩
      · rw [hsame]
        exact ⟨[], (List.append_nil _).symm⟩
  | clone _ =>
      refine .inl ⟨rfl, [], ?_⟩
      rw [OverrideSlot.pending_addProducer, List.append_nil]
  | drop _ =>
      refine .inl ⟨rfl, [], ?_⟩
      rw [OverrideSlot.pending_dropProducer, List.append_nil]

namespace Bench

theorem act_not_held
    {bench : Bench} {handle : Nat} (hheld : ¬ bench.holds handle = true)
    {c : BenchCommand} (hthrough : c.through? = some handle) :
    bench.act c = ⟨bench, .done, []⟩ := by
  cases c with
  | push _ s =>
      cases hthrough
      simp only [act, if_neg hheld]
  | cloneHandle _ =>
      cases hthrough
      simp only [act, if_neg hheld]
  | dropHandle _ =>
      cases hthrough
      simp only [act, if_neg hheld]
  | _ => cases hthrough

theorem act_effect
    {bench : Bench} {source : Source String} (hsource : bench.source = some source)
    {c : BenchCommand} (hstays : c ≠ .dropSource) :
    ∃ after, (bench.act c).next.source = some after ∧
      QueueEffect source.overrides bench.handles c (bench.act c).answer (bench.act c).events
        after.overrides (bench.act c).next.handles := by
  cases c with
  | read =>
      refine ⟨(source.read bench.ports.sense).next, ?_, ?_⟩
      · simp only [act, read, hsource]
      · simp only [act, read, hsource]
        apply QueueEffect.read
        intro s hs
        simp only [Source.read, hs]
  | clock m => exact ⟨source, hsource, .quiet rfl rfl⟩
  | word label word => exact ⟨source, hsource, .quiet rfl rfl⟩
  | fault label reason => exact ⟨source, hsource, .quiet rfl rfl⟩
  | hold s =>
      refine ⟨source.hold s, ?_, ?_⟩
      · simp only [act, deliver, Target.deliver, hsource, Option.map_some]
      · exact .quiet rfl rfl
  | push handle s =>
      by_cases hheld : bench.holds handle = true
      · refine ⟨(source.push s).1, ?_, ?_⟩
        · simp only [act, if_pos hheld, deliver, Target.deliver, hsource]
        · simp only [act, if_pos hheld, deliver, Target.deliver, hsource]
          exact .push s hheld
      · rw [act_not_held hheld rfl]
        exact ⟨source, hsource, .quiet rfl rfl⟩
  | cloneHandle handle =>
      by_cases hheld : bench.holds handle = true
      · refine ⟨{ source with
          overrides := source.overrides.mapQueue OverrideQueue.addProducer }, ?_, ?_⟩
        · simp only [act, if_pos hheld, mapQueue, hsource, Option.map_some]
        · simp only [act, if_pos hheld]
          exact .clone hheld
      · rw [act_not_held hheld rfl]
        exact ⟨source, hsource, .quiet rfl rfl⟩
  | dropHandle handle =>
      by_cases hheld : bench.holds handle = true
      · refine ⟨{ source with
          overrides := source.overrides.mapQueue OverrideQueue.dropProducer }, ?_, ?_⟩
        · simp only [act, if_pos hheld, mapQueue, hsource, Option.map_some]
        · simp only [act, if_pos hheld]
          exact .drop hheld
      · rw [act_not_held hheld rfl]
        exact ⟨source, hsource, .quiet rfl rfl⟩
  | dropSource => exact absurd rfl hstays

theorem act_source_none
    {bench : Bench} (hsource : bench.source = none) (c : BenchCommand) :
    (bench.act c).next.source = none := by
  cases c with
  | read => simp only [act, read, hsource]
  | clock m => exact hsource
  | word label word => exact hsource
  | fault label reason => exact hsource
  | hold s => simp only [act, deliver, Target.deliver, hsource, Option.map_none]
  | push handle s =>
      by_cases hheld : bench.holds handle = true
      · simp only [act, if_pos hheld, deliver, Target.deliver, hsource]
      · rw [act_not_held hheld rfl]
        exact hsource
  | cloneHandle handle =>
      by_cases hheld : bench.holds handle = true
      · simp only [act, if_pos hheld, mapQueue, hsource, Option.map_none]
      · rw [act_not_held hheld rfl]
        exact hsource
  | dropHandle handle =>
      by_cases hheld : bench.holds handle = true
      · simp only [act, if_pos hheld, mapQueue, hsource, Option.map_none]
      · rw [act_not_held hheld rfl]
        exact hsource
  | dropSource => rfl

theorem after_source_none
    {bench : Bench} (hsource : bench.source = none) (commands : List BenchCommand) :
    (bench.after commands).source = none := by
  induction commands generalizing bench with
  | nil => exact hsource
  | cons c rest ih => exact ih (act_source_none hsource c)

theorem act_effect_of_alive
    {bench : Bench} {c : BenchCommand} (halive : (bench.act c).next.source ≠ none) :
    ∃ source after, bench.source = some source ∧ (bench.act c).next.source = some after ∧
      QueueEffect source.overrides bench.handles c (bench.act c).answer (bench.act c).events
        after.overrides (bench.act c).next.handles := by
  cases hsource : bench.source with
  | none => exact absurd (act_source_none hsource c) halive
  | some source =>
      have hstays : c ≠ .dropSource := by
        rintro rfl
        exact halive rfl
      obtain ⟨after, hafter, heffect⟩ := act_effect hsource hstays
      exact ⟨source, after, rfl, hafter, heffect⟩

/-! ## Whole runs -/

def pending (bench : Bench) : List Snapshot :=
  match bench.source with
  | some source => source.overrides.pending
  | none => []

theorem pending_of_some
    {bench : Bench} {source : Source String} (hsource : bench.source = some source) :
    bench.pending = source.overrides.pending := by
  unfold pending
  rw [hsource]

theorem pending_of_none {bench : Bench} (hsource : bench.source = none) :
    bench.pending = [] := by
  unfold pending
  rw [hsource]

def acceptedPushes (bench : Bench) (commands : List BenchCommand) : List Snapshot :=
  (commands.zip (bench.run commands)).filterMap fun p => BenchAnswer.accepted? p.1 p.2.answer

def servedOverrides (bench : Bench) (commands : List BenchCommand) : List Snapshot :=
  (bench.run commands).filterMap fun step => step.answer.served? step.events

def readings (bench : Bench) (commands : List BenchCommand) : List (Reading Snapshot) :=
  (bench.run commands).filterMap fun step => step.answer.reading?

theorem acceptedPushes_cons (bench : Bench) (c : BenchCommand) (rest : List BenchCommand) :
    bench.acceptedPushes (c :: rest) =
      (BenchAnswer.accepted? c (bench.act c).answer).toList ++
        (bench.act c).next.acceptedPushes rest := by
  unfold acceptedPushes run
  rw [Step.run_cons, List.zip_cons_cons, List.filterMap_cons]
  cases BenchAnswer.accepted? c (bench.act c).answer <;> rfl

theorem servedOverrides_cons (bench : Bench) (c : BenchCommand) (rest : List BenchCommand) :
    bench.servedOverrides (c :: rest) =
      ((bench.act c).answer.served? (bench.act c).events).toList ++
        (bench.act c).next.servedOverrides rest := by
  unfold servedOverrides run
  rw [Step.run_cons, List.filterMap_cons]
  cases (bench.act c).answer.served? (bench.act c).events <;> rfl

theorem readings_cons (bench : Bench) (c : BenchCommand) (rest : List BenchCommand) :
    bench.readings (c :: rest) =
      (bench.act c).answer.reading?.toList ++ (bench.act c).next.readings rest := by
  unfold readings run
  rw [Step.run_cons, List.filterMap_cons]
  cases (bench.act c).answer.reading? <;> rfl

def Accounted (capacity : Nat) (bench : Bench) : Prop :=
  ∀ source, bench.source = some source →
    source.overrides.Accounted capacity (bench.handles.count true)

theorem Accounted.act
    {capacity : Nat} {bench : Bench} (haccounted : bench.Accounted capacity)
    (c : BenchCommand) : (bench.act c).next.Accounted capacity := by
  intro source hsource
  have halive : (bench.act c).next.source ≠ none := by
    rw [hsource]
    exact Option.some_ne_none source
  obtain ⟨before, after, hbefore, hafter, heffect⟩ := act_effect_of_alive halive
  have hsame : after = source := Option.some.inj (hafter.symm.trans hsource)
  subst hsame
  exact heffect.accounted (haccounted before hbefore)

theorem Accounted.after
    {capacity : Nat} {bench : Bench} (haccounted : bench.Accounted capacity)
    (commands : List BenchCommand) : (bench.after commands).Accounted capacity := by
  induction commands generalizing bench with
  | nil => exact haccounted
  | cons c rest ih => exact ih (haccounted.act c)

/-- Over a run that the source survives, what was pending and what is accepted comes out as what
is served and what is pending, in the same order. -/
theorem after_flow
    {bench : Bench} {commands : List BenchCommand}
    (halive : (bench.after commands).source ≠ none) :
    bench.pending ++ bench.acceptedPushes commands =
      bench.servedOverrides commands ++ (bench.after commands).pending := by
  induction commands generalizing bench with
  | nil => exact List.append_nil _
  | cons c rest ih =>
      have hnext : (bench.act c).next.source ≠ none := by
        intro hnone
        exact halive (after_source_none hnone rest)
      obtain ⟨before, after, hbefore, hafter, heffect⟩ := act_effect_of_alive hnext
      have hflow := heffect.flow
      rw [← pending_of_some hbefore, ← pending_of_some hafter] at hflow
      have hrest := ih (show ((bench.act c).next.after rest).source ≠ none from halive)
      calc
        bench.pending ++ bench.acceptedPushes (c :: rest) =
            (bench.pending ++ (BenchAnswer.accepted? c (bench.act c).answer).toList) ++
              (bench.act c).next.acceptedPushes rest := by
          rw [acceptedPushes_cons, List.append_assoc]
        _ = ((bench.act c).answer.served? (bench.act c).events).toList ++
              ((bench.act c).next.pending ++ (bench.act c).next.acceptedPushes rest) := by
          rw [hflow, List.append_assoc]
        _ = bench.servedOverrides (c :: rest) ++ (bench.after (c :: rest)).pending := by
          rw [hrest, servedOverrides_cons, List.append_assoc]
          rfl

theorem readings_pending
    {bench : Bench} (hsource : bench.source ≠ none) {more : List BenchCommand}
    (hstays : BenchCommand.dropSource ∉ more) :
    bench.readings more <+: bench.pending.map .ok ∨
      bench.pending.map .ok <+: bench.readings more := by
  induction more generalizing bench with
  | nil => exact .inl (List.nil_prefix)
  | cons c rest ih =>
      obtain ⟨source, hsome⟩ := Option.ne_none_iff_exists'.mp hsource
      have hkeeps : c ≠ .dropSource := by
        rintro rfl
        exact hstays List.mem_cons_self
      obtain ⟨after, hafter, heffect⟩ := act_effect hsome hkeeps
      have hnext : (bench.act c).next.source ≠ none := by
        rw [hafter]
        exact Option.some_ne_none after
      have hrest := ih hnext (fun hmem => hstays (List.mem_cons_of_mem c hmem))
      have hreading := heffect.reading
      rw [← pending_of_some hsome, ← pending_of_some hafter] at hreading
      rw [readings_cons]
      rcases hreading with
        ⟨hnone, added, hadded⟩ | ⟨reading, hsomeReading, hempty | ⟨s, hs, hpending⟩⟩
      · -- A push may have added to the end, which the prefix does not see.
        rw [hnone, Option.toList_none, List.nil_append]
        rw [hadded, List.map_append] at hrest
        rcases hrest with hshort | hlong
        · exact List.prefix_or_prefix_of_prefix hshort (List.prefix_append _ _)
        · exact .inr ((List.prefix_append _ _).trans hlong)
      · rw [hempty]
        exact .inr List.nil_prefix
      · rw [hsomeReading, hs, hpending, Option.toList_some, List.singleton_append,
          List.map_cons, List.cons_prefix_cons, List.cons_prefix_cons]
        exact hrest.imp (⟨rfl, ·⟩) (⟨rfl, ·⟩)

theorem act_push_none
    {bench : Bench} (hsource : bench.source = none) {handle : Nat}
    (hheld : bench.holds handle = true) (s : Snapshot) :
    bench.act (.push handle s) = ⟨bench, .outcome (.error .closed), []⟩ := by
  have hsame : { bench with source := none } = bench := by
    cases bench
    cases hsource
    rfl
  simp only [act, if_pos hheld, deliver, Target.deliver, hsource]
  rw [hsame]

theorem act_push_some
    {bench : Bench} {source : Source String} (hsource : bench.source = some source)
    {handle : Nat} (hheld : bench.holds handle = true) (s : Snapshot) :
    bench.act (.push handle s) =
      ⟨{ bench with source := some (source.push s).1 }, .outcome (source.push s).2, []⟩ := by
  simp only [act, if_pos hheld, deliver, Target.deliver, hsource]

theorem push_cases
    {capacity : Nat} {bench : Bench} (haccounted : bench.Accounted capacity)
    {handle : Nat} (hheld : bench.holds handle = true) (s : Snapshot) :
    (bench.source = none ∧
        bench.act (.push handle s) = ⟨bench, .outcome (.error .closed), []⟩) ∨
      (bench.source ≠ none ∧ bench.pending.length < capacity ∧
        (bench.act (.push handle s)).answer = .outcome (.ok ()) ∧
        (bench.act (.push handle s)).next.pending = bench.pending ++ [s]) ∨
      (bench.source ≠ none ∧ ¬ bench.pending.length < capacity ∧
        bench.act (.push handle s) = ⟨bench, .outcome (.error .full), []⟩) := by
  cases hsource : bench.source with
  | none => exact .inl ⟨rfl, act_push_none hsource hheld s⟩
  | some source =>
      right
      -- Somebody holds a handle, so the slot still has its queue.
      obtain ⟨queue, hqueue, hcapacity, _⟩ :=
        (haccounted source hsource).connected (count_true_pos hheld)
      rw [act_push_some hsource hheld, pending_of_some hsource, hqueue, ← hcapacity]
      by_cases hroom : queue.pending.length < queue.capacity
      · left
        obtain ⟨houtcome, hpending⟩ := OverrideSlot.push_of_lt hroom s
        refine ⟨Option.some_ne_none source, hroom, ?_, ?_⟩
        · simp only [Source.push, hqueue, houtcome]
        · rw [pending_of_some rfl]
          simp only [Source.push, hqueue]
          exact hpending
      · right
        refine ⟨Option.some_ne_none source, hroom, ?_⟩
        have hsame : { bench with source := some source } = bench := by
          cases bench
          cases hsource
          rfl
        simp only [Source.push, hqueue, OverrideSlot.push_of_not_lt hroom]
        rw [← hqueue, hsame]

theorem read_cases (bench : Bench) :
    (∃ s, (bench.act .read).answer = .acquired (.ok s) ∧
        bench.pending = s :: (bench.act .read).next.pending) ∨
      (bench.pending = [] ∧ (bench.act .read).next.pending = [] ∧
        Event.overrideUsed ∉ (bench.act .read).events) := by
  cases hsource : bench.source with
  | none =>
      right
      refine ⟨pending_of_none hsource, pending_of_none (act_source_none hsource .read), ?_⟩
      simp only [act, read, hsource]
      exact List.not_mem_nil
  | some source =>
      have hnext : (bench.act .read).next.source =
          some (source.read bench.ports.sense).next := by
        simp only [act, read, hsource]
      have hslot : (source.read bench.ports.sense).next.overrides =
          source.overrides.take.next := rfl
      rw [pending_of_some hsource, pending_of_some hnext, hslot]
      rcases source.overrides.take_cases with
        ⟨s, hanswer, _, hpending⟩ | ⟨_, hevents, hpending, hempty⟩
      · left
        refine ⟨s, ?_, hpending⟩
        simp only [act, read, hsource, Source.read, hanswer]
      · right
        refine ⟨hpending, hempty, ?_⟩
        simp only [act, read, hsource, Source.read]
        exact hevents

/-! ## The contract of the queue -/

/-- A bench over a fresh queue of some capacity, with one handle to it. -/
def opened (clock : ManualClock) (ports : PortBank) (capacity : Nat)
    (fallback : Fallback String) : Bench where
  clock := clock
  ports := ports
  source := some ⟨.connected { capacity }, fallback⟩
  handles := [true]

theorem overrides_of_makeSource
    {acquisition : Acquisition} {table : WiringTable} {unbindable : List Unbindable}
    {slot : OverrideSlot} {source : Source String}
    (hmade : (makeSource acquisition table unbindable slot).value = .ok source) :
    source.overrides = slot := by
  cases acquisition with
  | none =>
      cases hmade
      rfl
  | external =>
      cases hmade
      rfl
  | physical =>
      simp only [makeSource] at hmade
      cases hbound : (BoundLines.bind table (binder unbindable)).value with
      | error fault =>
          rw [hbound] at hmade
          cases hmade
      | ok bound =>
          rw [hbound] at hmade
          cases hmade
          rfl

/-- What the queue of a bench promises once some pushes were accepted and some overrides served. -/
structure QueueContract
    (capacity : Nat) (bench : Bench) (accepted served : List Snapshot) : Prop where
  conserved : bench.source ≠ none → accepted = served ++ bench.pending
  bounded : bench.pending.length ≤ capacity
  push_accepted_iff : ∀ handle s, bench.holds handle = true →
    ((bench.act (.push handle s)).answer = .outcome (.ok ()) ↔
      bench.source ≠ none ∧ bench.pending.length < capacity)
  push_accepted : ∀ handle s, bench.holds handle = true →
    (bench.act (.push handle s)).answer = .outcome (.ok ()) →
      (bench.act (.push handle s)).next.pending = bench.pending ++ [s]
  push_rejected : ∀ handle s, bench.holds handle = true →
    (bench.act (.push handle s)).answer ≠ .outcome (.ok ()) →
      (bench.act (.push handle s)).next = bench ∧
        ∃ cause, (bench.act (.push handle s)).answer = .outcome (.error cause) ∧
          cause.message =
            if bench.source.isSome then "no available capacity" else "channel closed"
  read_takes : ∀ s rest, bench.pending = s :: rest →
    (bench.act .read).answer = .acquired (.ok s) ∧ (bench.act .read).next.pending = rest
  read_leaves : bench.pending = [] →
    (bench.act .read).next.pending = [] ∧ Event.overrideUsed ∉ (bench.act .read).events
  drained : bench.source ≠ none → ∀ more, BenchCommand.dropSource ∉ more →
    bench.readings more <+: bench.pending.map .ok ∨
      bench.pending.map .ok <+: bench.readings more

theorem Accounted.queueContract
    {capacity : Nat} {bench : Bench} (haccounted : bench.Accounted capacity)
    {accepted served : List Snapshot}
    (hconserved : bench.source ≠ none → accepted = served ++ bench.pending) :
    QueueContract capacity bench accepted served where
  conserved := hconserved
  bounded := by
    cases hsource : bench.source with
    | none =>
        rw [pending_of_none hsource]
        exact Nat.zero_le capacity
    | some source =>
        rw [pending_of_some hsource]
        exact (haccounted source hsource).length_le
  push_accepted_iff := by
    intro handle s hheld
    rcases push_cases haccounted hheld s with
      ⟨hgone, hact⟩ | ⟨halive, hroom, hanswer, _⟩ | ⟨_, hfull, hact⟩
    · simp [hact, hgone]
    · simp [hanswer, halive, hroom]
    · simp [hact, hfull]
  push_accepted := by
    intro handle s hheld haccepted
    rcases push_cases haccounted hheld s with
      ⟨_, hact⟩ | ⟨_, _, _, hpending⟩ | ⟨_, _, hact⟩
    · simp [hact] at haccepted
    · exact hpending
    · simp [hact] at haccepted
  push_rejected := by
    intro handle s hheld hrejected
    rcases push_cases haccounted hheld s with
      ⟨hgone, hact⟩ | ⟨_, _, hanswer, _⟩ | ⟨halive, _, hact⟩
    · rw [hact]
      refine ⟨rfl, .closed, rfl, ?_⟩
      rw [hgone]
      rfl
    · exact absurd hanswer hrejected
    · rw [hact]
      refine ⟨rfl, .full, rfl, ?_⟩
      rw [if_pos (Option.isSome_iff_ne_none.mpr halive)]
      rfl
  read_takes := by
    intro s rest hpending
    rcases bench.read_cases with ⟨first, hanswer, hfirst⟩ | ⟨hempty, _, _⟩
    · rw [hpending, List.cons.injEq] at hfirst
      obtain ⟨rfl, hrest⟩ := hfirst
      exact ⟨hanswer, hrest.symm⟩
    · rw [hpending] at hempty
      simp at hempty
  read_leaves := by
    intro hpending
    rcases bench.read_cases with ⟨first, _, hfirst⟩ | ⟨_, hnext, hevents⟩
    · rw [hpending] at hfirst
      simp at hfirst
    · exact ⟨hnext, hevents⟩
  drained := fun hsource _ hstays => readings_pending hsource hstays

/-- However pushes, readings and the lifetimes of the handles and of the source interleave, the
queue keeps its contract. -/
theorem queue_keeps_contract
    (clock : ManualClock) (ports : PortBank) (capacity : Nat) (fallback : Fallback String)
    (commands : List BenchCommand) :
    QueueContract capacity ((opened clock ports capacity fallback).after commands)
      ((opened clock ports capacity fallback).acceptedPushes commands)
      ((opened clock ports capacity fallback).servedOverrides commands) := by
  have hopened : (opened clock ports capacity fallback).Accounted capacity := by
    intro source hsource
    obtain rfl := Option.some.inj hsource
    exact ⟨rfl, rfl⟩
  apply (hopened.after commands).queueContract
  intro halive
  exact after_flow halive

end Bench

end Gamepad
