import Gamepad.Proofs.FailedPoll
import Gamepad.Proofs.ServedReadings

/-!
# Queues that nobody holds

Once every handle is dropped and nothing is pending, a source acts as if it had been made without a
queue.  The next reading gives the queue up, which shows in one warning and in nothing else.
-/

namespace Gamepad

def disconnectWarning : String :=
  "WARN Override queue disconnected, disabling queued overrides"

/-! ## The slot -/

namespace OverrideSlot

/-- Nobody can push into the queue any more, and nothing is pending. -/
def Abandoned : OverrideSlot → Prop
  | disabled => False
  | connected queue => queue.pending = [] ∧ queue.producers = 0

theorem take_log (slot : OverrideSlot) :
    (slot.Abandoned ∧ slot.take.next = .disabled ∧
        logRecords .warn slot.take.events = [disconnectWarning]) ∨
      (¬ slot.Abandoned ∧ (slot.take.next = .disabled ↔ slot = .disabled) ∧
        logRecords .warn slot.take.events = []) := by
  cases slot with
  | disabled => exact .inr ⟨id, Iff.rfl, rfl⟩
  | connected queue =>
      simp only [take, Abandoned]
      split
      next s rest hpending =>
        right
        refine ⟨?_, by simp, rfl⟩
        rintro ⟨hnil, _⟩
        rw [hnil] at hpending
        contradiction
      next hpending =>
        split
        next hgone => exact .inl ⟨⟨hpending, hgone⟩, rfl, rfl⟩
        next hheld => exact .inr ⟨fun h => hheld h.2, by simp, rfl⟩

theorem push_eq_disabled_iff (slot : OverrideSlot) (s : Snapshot) :
    (slot.push s).1 = .disabled ↔ slot = .disabled := by
  cases slot with
  | disabled => exact Iff.rfl
  | connected queue => simp [push_connected]

theorem mapQueue_eq_disabled_iff
    (slot : OverrideSlot) (f : OverrideQueue → OverrideQueue) :
    slot.mapQueue f = .disabled ↔ slot = .disabled := by
  cases slot with
  | disabled => exact Iff.rfl
  | connected queue => simp [mapQueue]

theorem abandoned_iff
    {capacity handles : Nat} {slot : OverrideSlot} (haccounted : slot.Accounted capacity handles) :
    slot.Abandoned ↔ slot.pending = [] ∧ handles = 0 ∧ slot ≠ .disabled := by
  cases slot with
  | disabled => simp [Abandoned]
  | connected queue =>
      obtain ⟨_, hproducers⟩ := haccounted
      simp [Abandoned, pending, hproducers]

end OverrideSlot

theorem QueueEffect.disabled_iff
    {slot slot' : OverrideSlot} {handles handles' : List Bool}
    {c : BenchCommand} {answer : BenchAnswer} {events : List Event}
    (heffect : QueueEffect slot handles c answer events slot' handles') (hread : c ≠ .read) :
    slot' = .disabled ↔ slot = .disabled := by
  cases heffect with
  | quiet _ _ => exact Iff.rfl
  | read _ => exact absurd rfl hread
  | push s _ => exact slot.push_eq_disabled_iff s
  | clone _ => exact slot.mapQueue_eq_disabled_iff _
  | drop _ => exact slot.mapQueue_eq_disabled_iff _

theorem QueueEffect.disabled
    {slot' : OverrideSlot} {handles handles' : List Bool}
    {c : BenchCommand} {answer : BenchAnswer} {events : List Event}
    (heffect : QueueEffect .disabled handles c answer events slot' handles') :
    slot' = .disabled := by
  cases heffect with
  | quiet _ _ => rfl
  | read _ => rfl
  | push s _ => rfl
  | clone _ => rfl
  | drop _ => rfl

def Source.unqueued {δ : Type} [Port δ] (source : Source δ) : Source δ :=
  { source with overrides := .disabled }

namespace Bench

/-! ## The warning -/

/-- No handle is held, and nothing is pending in the queue of the source. -/
def QueueGone (bench : Bench) : Prop :=
  bench.source ≠ none ∧ true ∉ bench.handles ∧ bench.pending = []

/-- The source is without a queue. -/
def Unqueued (bench : Bench) : Prop :=
  bench.source.map Source.overrides = some .disabled

/-- The command is a reading that finds the queue gone while the source still has it. -/
def GivesUp (bench : Bench) (c : BenchCommand) : Prop :=
  c = .read ∧ bench.QueueGone ∧ ¬ bench.Unqueued

theorem act_events_of_ne_read (bench : Bench) {c : BenchCommand} (hread : c ≠ .read) :
    (bench.act c).events = [] := by
  cases c with
  | read => exact absurd rfl hread
  | push handle s => simp only [act]; split <;> rfl
  | cloneHandle handle => simp only [act]; split <;> rfl
  | dropHandle handle => simp only [act]; split <;> rfl
  | _ => rfl

theorem unqueued_of_some {bench : Bench} {source : Source String}
    (hsource : bench.source = some source) :
    bench.Unqueued ↔ source.overrides = .disabled := by
  simp [Unqueued, hsource]

theorem queueGone_iff
    {capacity : Nat} {bench : Bench} (haccounted : bench.Accounted capacity)
    {source : Source String} (hsource : bench.source = some source) :
    source.overrides.Abandoned ↔ bench.QueueGone ∧ ¬ bench.Unqueued := by
  have hpresent : bench.source ≠ none := by
    rw [hsource]
    exact Option.some_ne_none source
  rw [OverrideSlot.abandoned_iff (haccounted source hsource), List.count_eq_zero,
    unqueued_of_some hsource, ← pending_of_some hsource]
  unfold QueueGone
  tauto

theorem act_read_log
    {capacity : Nat} {bench : Bench} (haccounted : bench.Accounted capacity)
    {source : Source String} (hsource : bench.source = some source) :
    (bench.GivesUp .read ∧ (bench.act .read).next.Unqueued ∧
        logRecords .warn (bench.act .read).events = [disconnectWarning]) ∨
      (¬ bench.GivesUp .read ∧ ((bench.act .read).next.Unqueued ↔ bench.Unqueued) ∧
        logRecords .warn (bench.act .read).events = []) := by
  have hgone := queueGone_iff haccounted hsource
  have hnext : (bench.act .read).next.Unqueued ↔ source.overrides.take.next = .disabled := by
    simp [Unqueued, act, read_of_source hsource, Source.read]
  have hevents : (bench.act .read).events = source.overrides.take.events := by
    simp [act, read_of_source hsource, Source.read]
  rw [hnext, unqueued_of_some hsource, hevents]
  rcases source.overrides.take_log with ⟨habandoned, htake⟩ | ⟨hheld, htake⟩
  · exact .inl ⟨⟨rfl, hgone.mp habandoned⟩, htake⟩
  · exact .inr ⟨fun hgives => hheld (hgone.mpr hgives.2), htake⟩

theorem act_log
    {capacity : Nat} {bench : Bench} (haccounted : bench.Accounted capacity) (c : BenchCommand) :
    (bench.GivesUp c ∧ logRecords .warn (bench.act c).events = [disconnectWarning]) ∨
      (¬ bench.GivesUp c ∧ logRecords .warn (bench.act c).events = []) := by
  by_cases hread : c = .read
  · subst hread
    cases hsource : bench.source with
    | none =>
        right
        refine ⟨fun hgives => hgives.2.1.1 hsource, ?_⟩
        simp only [act, read, hsource]
        rfl
    | some source =>
        rcases act_read_log haccounted hsource with ⟨hgives, _, hlog⟩ | ⟨hkeeps, _, hlog⟩
        · exact .inl ⟨hgives, hlog⟩
        · exact .inr ⟨hkeeps, hlog⟩
  · right
    refine ⟨fun hgives => hread hgives.1, ?_⟩
    rw [act_events_of_ne_read bench hread]
    rfl

theorem act_unqueued_iff
    {capacity : Nat} {bench : Bench} (haccounted : bench.Accounted capacity) {c : BenchCommand}
    (halive : (bench.act c).next.source ≠ none) :
    (bench.act c).next.Unqueued ↔ bench.Unqueued ∨ bench.GivesUp c := by
  obtain ⟨source, after, hsource, hafter, heffect⟩ := act_effect_of_alive halive
  by_cases hread : c = .read
  · subst hread
    rcases act_read_log haccounted hsource with ⟨hgives, hnext, _⟩ | ⟨hkeeps, hnext, _⟩
    · exact iff_of_true hnext (.inr hgives)
    · rw [hnext, or_iff_left hkeeps]
  · rw [or_iff_left fun hgives => hread hgives.1, unqueued_of_some hafter,
      unqueued_of_some hsource]
    exact heffect.disabled_iff hread

def ReadSinceGone (start : Bench) (commands : List BenchCommand) : Prop :=
  ∃ earlier, earlier ++ [.read] <+: commands ∧ (start.after earlier).QueueGone

theorem after_append_singleton (start : Bench) (commands : List BenchCommand) (c : BenchCommand) :
    start.after (commands ++ [c]) = ((start.after commands).act c).next :=
  Step.after_append act start commands [c]

theorem readSinceGone_append_singleton
    (start : Bench) (commands : List BenchCommand) (c : BenchCommand) :
    start.ReadSinceGone (commands ++ [c]) ↔
      start.ReadSinceGone commands ∨ (c = .read ∧ (start.after commands).QueueGone) := by
  unfold ReadSinceGone
  constructor
  · rintro ⟨earlier, hprefix, hgone⟩
    rcases List.prefix_concat_iff.mp hprefix with hlast | hbefore
    · obtain ⟨rfl, hread⟩ := List.append_inj' hlast rfl
      exact .inr ⟨(List.cons.inj hread).1.symm, hgone⟩
    · exact .inl ⟨earlier, hbefore, hgone⟩
  · rintro (⟨earlier, hbefore, hgone⟩ | ⟨rfl, hgone⟩)
    · exact ⟨earlier, hbefore.trans (List.prefix_append _ _), hgone⟩
    · exact ⟨commands, List.prefix_rfl, hgone⟩

section Warned

variable {capacity : Nat} {start : Bench} (haccounted : start.Accounted capacity)
  (hqueued : ¬ start.Unqueued) (commands : List BenchCommand)

include haccounted hqueued

theorem unqueued_after_iff (halive : (start.after commands).source ≠ none) :
    (start.after commands).Unqueued ↔ start.ReadSinceGone commands := by
  induction commands using List.reverseRecOn with
  | nil => exact iff_of_false hqueued (by simp [ReadSinceGone])
  | append_singleton commands c ih =>
      rw [after_append_singleton] at halive ⊢
      have hbefore : (start.after commands).source ≠ none :=
        fun hnone => halive (act_source_none hnone c)
      rw [act_unqueued_iff (haccounted.after commands) halive, readSinceGone_append_singleton,
        ← ih hbefore, GivesUp]
      tauto

theorem givesUp_after_iff (c : BenchCommand) :
    (start.after commands).GivesUp c ↔
      c = .read ∧ (start.after commands).QueueGone ∧ ¬ start.ReadSinceGone commands := by
  have hunqueued : (start.after commands).QueueGone →
      ((start.after commands).Unqueued ↔ start.ReadSinceGone commands) :=
    fun hgone => unqueued_after_iff haccounted hqueued commands hgone.1
  unfold GivesUp
  tauto

theorem run_log :
    (start.ReadSinceGone commands ∧
        logRecords .warn (Step.allEvents (start.run commands)) = [disconnectWarning]) ∨
      (¬ start.ReadSinceGone commands ∧
        logRecords .warn (Step.allEvents (start.run commands)) = []) := by
  induction commands using List.reverseRecOn with
  | nil => exact .inr ⟨by simp [ReadSinceGone], rfl⟩
  | append_singleton commands c ih =>
      have hlog : logRecords .warn (Step.allEvents (start.run (commands ++ [c]))) =
          logRecords .warn (Step.allEvents (start.run commands)) ++
            logRecords .warn ((start.after commands).act c).events := by
        unfold run
        rw [Step.run_append]
        simp [Step.allEvents, logRecords, after]
      have hgives := givesUp_after_iff haccounted hqueued commands c
      rw [hlog, readSinceGone_append_singleton]
      rcases ih with ⟨hread, hbefore⟩ | ⟨hunread, hbefore⟩ <;>
        rcases act_log (haccounted.after commands) c with ⟨hstep, hnotice⟩ | ⟨hstep, hnotice⟩ <;>
        rw [hbefore, hnotice]
      · exact absurd hread (hgives.mp hstep).2.2
      · exact .inl ⟨.inl hread, rfl⟩
      · exact .inl ⟨.inr ⟨(hgives.mp hstep).1, (hgives.mp hstep).2.1⟩, rfl⟩
      · refine .inr ⟨?_, rfl⟩
        rintro (hread | ⟨hread, hgone⟩)
        · exact hunread hread
        · exact hstep (hgives.mpr ⟨hread, hgone, hunread⟩)

end Warned

/-! ## The source without its queue -/

theorem act_unqueued
    {a b : Bench} (hsources : b.source = a.source.map Source.unqueued) (c : BenchCommand) :
    (b.act c).next.source = (a.act c).next.source.map Source.unqueued := by
  cases hsource : a.source with
  | none =>
      rw [hsource] at hsources
      rw [act_source_none hsource, act_source_none hsources]
      rfl
  | some source =>
      rw [hsource] at hsources
      by_cases hstays : c = .dropSource
      · subst hstays
        rfl
      · obtain ⟨next, hnext, hfallback⟩ := act_fallback hsource hstays
        obtain ⟨next', hnext', hfallback'⟩ := act_fallback hsources hstays
        obtain ⟨_, hsame, heffect⟩ := act_effect hsources hstays
        obtain rfl := Option.some.inj (hnext'.symm.trans hsame)
        have hslot : next'.overrides = .disabled := QueueEffect.disabled heffect
        have hfallbacks : next'.fallback = next.fallback := hfallback'.trans hfallback.symm
        rw [hnext, hnext']
        obtain ⟨overrides, fallback⟩ := next'
        cases hslot
        cases hfallbacks
        rfl

theorem after_unqueued
    {a b : Bench} (hsources : b.source = a.source.map Source.unqueued)
    (commands : List BenchCommand) :
    (b.after commands).source = (a.after commands).source.map Source.unqueued := by
  induction commands generalizing a b with
  | nil => exact hsources
  | cons c rest ih => exact ih (act_unqueued hsources c)

theorem act_events_of_unqueued
    {bench : Bench} (hsource : bench.source = bench.source.map Source.unqueued)
    (c : BenchCommand) : (bench.act c).events = [] := by
  by_cases hread : c = .read
  · subst hread
    obtain ⟨clock, ports, source, handles⟩ := bench
    cases source with
    | none => rfl
    | some source =>
        have hslot : source.overrides = .disabled :=
          congrArg Source.overrides (Option.some.inj hsource)
        simp only [act, read, Source.read, hslot]
        rfl
  · exact act_events_of_ne_read bench hread

theorem run_events_of_unqueued
    {bench : Bench} (hsource : bench.source = bench.source.map Source.unqueued)
    (commands : List BenchCommand) : Step.allEvents (bench.run commands) = [] := by
  induction commands generalizing bench with
  | nil => rfl
  | cons c rest ih =>
      have hrest := ih (act_unqueued hsource c)
      unfold run Step.allEvents at hrest ⊢
      rw [Step.run_cons, List.flatMap_cons, act_events_of_unqueued hsource c, hrest]
      rfl

/-! ## Readings without the queue -/

theorem act_ports_of_through
    (bench : Bench) {c : BenchCommand} {handle : Nat} (hthrough : c.through? = some handle) :
    (bench.act c).next.ports = bench.ports := by
  cases c with
  | push _ s => simp only [act]; split <;> rfl
  | cloneHandle _ => simp only [act]; split <;> rfl
  | dropHandle _ => simp only [act]; split <;> rfl
  | _ => cases hthrough

theorem Alike.read_ports {a b : Bench} (halike : Alike a b) (hports : a.ports = b.ports) :
    a.read.next.ports = b.read.next.ports := by
  obtain ⟨clock, ports, source, handles⟩ := a
  obtain ⟨clock', ports', source', handles'⟩ := b
  obtain ⟨rfl, _, hsource, rfl⟩ := halike
  obtain rfl : ports = ports' := hports
  cases hsource with
  | same => rfl
  | quit fallback hpending hidle =>
      have hanswer := (quit_reads_alike fallback hpending hidle ports.sense).answer
      exact congrArg (fun acquired : Acquired String => ports.countReads acquired.read) hanswer

theorem Alike.act_ports
    {a b : Bench} (halike : Alike a b) (hports : a.ports = b.ports) (c : BenchCommand) :
    (a.act c).next.ports = (b.act c).next.ports := by
  have hthrough : ∀ {handle}, c.through? = some handle →
      (a.act c).next.ports = (b.act c).next.ports := by
    intro handle hthrough
    rw [act_ports_of_through a hthrough, act_ports_of_through b hthrough, hports]
  cases c with
  | read => exact halike.read_ports hports
  | word label word => simp only [Bench.act, hports]
  | fault label reason => simp only [Bench.act, hports]
  | push handle s => exact hthrough rfl
  | cloneHandle handle => exact hthrough rfl
  | dropHandle handle => exact hthrough rfl
  | clock m => exact hports
  | hold s => exact hports
  | dropSource => exact hports

def shown (step : Step Bench BenchAnswer) : BenchAnswer × PortBank :=
  (step.answer, step.next.ports)

theorem Alike.run_shown
    {a b : Bench} (halike : Alike a b) (hports : a.ports = b.ports)
    (commands : List BenchCommand) :
    (a.run commands).map shown = (b.run commands).map shown := by
  induction commands generalizing a b with
  | nil => rfl
  | cons c rest ih =>
      have hstep := halike.act c
      have hnext := halike.act_ports hports c
      exact congrArg₂ List.cons (Prod.ext hstep.answer hnext) (ih hstep.next hnext)

theorem alike_unqueued
    {capacity : Nat} {bench : Bench} (haccounted : bench.Accounted capacity)
    (hidle : true ∉ bench.handles) (hpending : bench.pending = []) :
    Alike { bench with source := bench.source.map Source.unqueued } bench := by
  refine ⟨rfl, rfl, ?_, rfl⟩
  obtain ⟨clock, ports, source, handles⟩ := bench
  cases source with
  | none => exact .same _
  | some source =>
      obtain ⟨overrides, fallback⟩ := source
      cases overrides with
      | disabled => exact .same _
      | connected queue => exact .quit fallback hpending (List.count_eq_zero.mpr hidle)

/-- A source whose queue is abandoned answers as the same source made without a queue, whatever
happens from then on.  It warns in the first reading that finds the queue gone, and never again. -/
theorem abandoned_queue_is_none
    (clock : ManualClock) (ports : PortBank) (capacity : Nat) (fallback : Fallback String)
    (commands : List BenchCommand) :
    let start := setUp clock ports (some capacity) fallback
    let plain := setUp clock ports none fallback
    let bench := start.after commands
    (true ∉ bench.handles → bench.pending = [] → ∀ more,
        (bench.run more).map shown =
          ({ bench with source := (plain.after commands).source }.run more).map shown) ∧
      logRecords .warn (Step.allEvents (start.run commands)) <+: [disconnectWarning] ∧
      (∀ c, disconnectWarning ∈ logRecords .warn (bench.act c).events ↔
        c = .read ∧ bench.QueueGone ∧ ¬ start.ReadSinceGone commands) ∧
      logRecords .warn (Step.allEvents (plain.run commands)) = [] := by
  intro start plain bench
  obtain ⟨_, haccounted⟩ := setUp_accounted clock ports (some capacity) fallback
  have hqueued : ¬ start.Unqueued := by
    intro hunqueued
    cases Option.some.inj hunqueued
  have hplain : plain.source = start.source.map Source.unqueued := rfl
  refine ⟨?_, ?_, ?_, ?_⟩
  · intro hidle hpending more
    rw [after_unqueued hplain commands]
    have halike := alike_unqueued (haccounted.after commands) hidle hpending
    exact (halike.run_shown rfl more).symm
  · rcases run_log haccounted hqueued commands with ⟨_, hlog⟩ | ⟨_, hlog⟩
    · rw [hlog]
    · rw [hlog]
      exact List.nil_prefix
  · intro c
    rw [← givesUp_after_iff haccounted hqueued commands c]
    rcases act_log (haccounted.after commands) c with ⟨hgives, hlog⟩ | ⟨hkeeps, hlog⟩
    · rw [hlog]
      exact iff_of_true List.mem_cons_self hgives
    · rw [hlog]
      exact iff_of_false List.not_mem_nil hkeeps
  · rw [run_events_of_unqueued rfl commands]
    rfl

/-- The last override is served after its producer is gone.  Then the port is lost. -/
def drained : List BenchCommand :=
  [.push 0 .released, .dropHandle 0, .read, .fault "gpio0" (some "gone")]

def regained : List BenchCommand :=
  [.read, .fault "gpio0" none, .word "gpio0" 1, .read]

theorem drained_queue_is_none :
    ∃ bound, (BoundLines.bind southOnly fun w => .ok ⟨w.port, w.pin, w.polarity⟩).value =
        .ok bound ∧
      let bench := (setUp ⟨0, 1⟩ {} (some 1) (.ports bound)).after drained
      let plain := (setUp ⟨0, 1⟩ {} none (.ports bound)).after drained
      true ∉ bench.handles ∧ bench.pending = [] ∧
        (bench.run regained).map shown =
          ({ bench with source := plain.source }.run regained).map shown ∧
        bench.read.answer = .error (.portFault "gpio0" "gone") ∧
        logRecords .warn bench.read.events = [disconnectWarning] := by
  refine ⟨_, rfl, ?_⟩
  intro bench plain
  have hidle : true ∉ bench.handles := by decide
  have hpending : bench.pending = [] := rfl
  have hsame := (abandoned_queue_is_none ⟨0, 1⟩ {} 1 _ drained).1 hidle hpending regained
  exact ⟨hidle, hpending, hsame, rfl, rfl⟩

end Bench

end Gamepad
