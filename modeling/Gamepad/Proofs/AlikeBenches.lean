import Gamepad.Proofs.OverrideQueue

/-!
# Benches that cannot be told apart

Two benches may differ in how often their ports were read, and one of them may have noticed already
that its empty queue is gone.  Only the notice of that may come at another time.
-/

namespace Gamepad

/-! ## The levels of the ports -/

namespace PortBank

def port (bank : PortBank) (label : String) : SimulatedPort :=
  (bank.ports.find? fun port => port.label = label).getD (.showing label 0)

def level (bank : PortBank) (label : String) : SimulatedPort :=
  (bank.port label).forgetReads

theorem sense_eq_level (bank : PortBank) (label : String) :
    bank.sense label = (bank.level label).sense := by
  unfold sense level port
  cases bank.ports.find? fun port => port.label = label <;> rfl

theorem find?_ensure (bank : PortBank) (label l : String) :
    ((bank.ensure label).ports.find? fun port => port.label = l) =
      if l = label then some (bank.port label)
      else bank.ports.find? fun port => port.label = l := by
  unfold ensure port
  cases hfound : bank.ports.find? fun port => port.label = label with
  | some found =>
      have hany : bank.ports.any (fun port => port.label = label) = true := by
        rw [List.any_eq_true]
        refine ⟨found, List.mem_of_find?_eq_some hfound, ?_⟩
        simpa using List.find?_some hfound
      rw [if_pos hany]
      by_cases hl : l = label
      · rw [if_pos hl, hl, hfound]
        rfl
      · rw [if_neg hl]
  | none =>
      have hany : ¬ bank.ports.any (fun port => port.label = label) = true := by
        rw [List.find?_eq_none] at hfound
        rw [List.any_eq_true]
        rintro ⟨found, hmem, hlabel⟩
        exact hfound found hmem hlabel
      rw [if_neg hany, List.find?_append]
      by_cases hl : l = label
      · rw [if_pos hl, hl, hfound]
        simp [SimulatedPort.showing]
      · have hother : ¬ label = l := fun heq => hl heq.symm
        simp [hl, hother, SimulatedPort.showing]

theorem port_update
    (bank : PortBank) (label : String) {f : SimulatedPort → SimulatedPort}
    (hlabel : ∀ port, (f port).label = port.label) (l : String) :
    (bank.update label f).port l = if l = label then f (bank.port label) else bank.port l := by
  have hkeeps : ((fun port : SimulatedPort => decide (port.label = l)) ∘
        fun port => if port.label = label then f port else port) =
      fun port => decide (port.label = l) := by
    funext port
    by_cases hport : port.label = label <;> simp [hport, hlabel]
  have hown : (bank.port label).label = label := by
    unfold port
    cases hfound : bank.ports.find? fun port => port.label = label with
    | none => rfl
    | some found => simpa using List.find?_some hfound
  have hupdate : (bank.update label f).port l =
      (((bank.ensure label).ports.find? fun port => port.label = l).map fun port =>
        if port.label = label then f port else port).getD (.showing l 0) := by
    unfold update
    rw [port, List.find?_map, hkeeps]
  rw [hupdate, find?_ensure]
  by_cases hl : l = label
  · rw [if_pos hl, if_pos hl, Option.map_some, Option.getD_some, if_pos hown]
  · rw [if_neg hl, if_neg hl]
    unfold port
    cases hfound : bank.ports.find? fun port => port.label = l with
    | none => rfl
    | some found =>
        have hfar : found.label ≠ label := by
          have hsame : found.label = l := by simpa using List.find?_some hfound
          exact fun heq => hl (hsame.symm.trans heq)
        rw [Option.map_some, if_neg hfar]

theorem level_update
    (bank : PortBank) (label : String) {f : SimulatedPort → SimulatedPort}
    (hlabel : ∀ port, (f port).label = port.label)
    (hreads : ∀ port, (f port).forgetReads = f port.forgetReads) :
    (bank.update label f).level =
      fun l => if l = label then f (bank.level label) else bank.level l := by
  funext l
  unfold level
  rw [port_update bank label hlabel]
  split
  next => exact hreads _
  next => rfl

theorem level_countReads (bank : PortBank) (labels : List String) :
    (bank.countReads labels).level = bank.level := by
  induction labels generalizing bank with
  | nil => rfl
  | cons label rest ih =>
      have hcount : (bank.update label SimulatedPort.countRead).level = bank.level := by
        funext l
        unfold level
        have hcount : ∀ port : SimulatedPort, port.countRead.label = port.label := fun _ => rfl
        rw [port_update bank label hcount]
        split
        next hl =>
          rw [hl]
          rfl
        next => rfl
      exact (ih _).trans hcount

end PortBank

/-! ## Steps that look the same -/

/-- Some events without the notice that the queue of overrides is gone. -/
def besidesNotice (events : List Event) : List Event :=
  events.filter (· ≠ .overridesDisconnected)

theorem lampCalls_besidesNotice (events : List Event) :
    lampCalls (besidesNotice events) = lampCalls events := by
  unfold lampCalls besidesNotice
  rw [List.filterMap_filter]
  congr 1
  funext e
  by_cases hnotice : e = .overridesDisconnected
  · rw [hnotice]
    rfl
  · simp [hnotice]

/-- Two steps with one answer, with the same events but for that notice, and to states that are
alike. -/
structure Step.Alike {σ α : Type} (alike : σ → σ → Prop) (a b : Step σ α) : Prop where
  answer : a.answer = b.answer
  events : besidesNotice a.events = besidesNotice b.events
  next : alike a.next b.next

/-! ## Sources and benches -/

theorem OverrideSlot.take_of_pending_nil
    {slot : OverrideSlot} (hpending : slot.pending = []) :
    slot.take = ⟨slot, none, []⟩ ∨
      ∃ queue, slot = .connected queue ∧ queue.producers = 0 ∧
        slot.take = ⟨.disabled, none, [.overridesDisconnected]⟩ := by
  cases slot with
  | disabled => exact .inl rfl
  | connected queue =>
      simp only [take]
      split
      next s rest hsome =>
        have hnil : queue.pending = [] := hpending
        rw [hnil] at hsome
        simp at hsome
      next =>
        split
        next hgone => exact .inr ⟨queue, rfl, hgone, rfl⟩
        next => exact .inl rfl

/-- The sources are the same, or the first has given up a queue that is empty and that nobody holds
a handle to. -/
inductive SourceAlike (handles : List Bool) :
    Option (Source String) → Option (Source String) → Prop
  | same (source : Option (Source String)) : SourceAlike handles source source
  | quit {queue : OverrideQueue} (fallback : Fallback String)
      (hpending : queue.pending = []) (hidle : handles.count true = 0) :
      SourceAlike handles (some ⟨.disabled, fallback⟩) (some ⟨.connected queue, fallback⟩)

theorem quit_reads_alike
    {handles : List Bool} {queue : OverrideQueue} (fallback : Fallback String)
    (hpending : queue.pending = []) (hidle : handles.count true = 0)
    (sense : String → Reading UInt32) :
    Step.Alike (fun a b => SourceAlike handles (some a) (some b))
      ((⟨.disabled, fallback⟩ : Source String).read sense)
      ((⟨.connected queue, fallback⟩ : Source String).read sense) := by
  rcases (OverrideSlot.connected queue).take_of_pending_nil hpending with
    htake | ⟨_, _, _, htake⟩
  · simp only [Source.read, htake]
    exact ⟨rfl, rfl, .quit fallback hpending hidle⟩
  · simp only [Source.read, htake]
    exact ⟨rfl, rfl, .same _⟩

namespace Bench

structure Alike (a b : Bench) : Prop where
  clock : a.clock = b.clock
  levels : a.ports.level = b.ports.level
  source : SourceAlike a.handles a.source b.source
  handles : a.handles = b.handles

theorem Alike.pending {a b : Bench} (halike : Alike a b) : a.pending = b.pending := by
  have hsource := halike.source
  unfold Bench.pending
  generalize a.source = source at hsource
  generalize b.source = source' at hsource
  cases hsource with
  | same => rfl
  | quit fallback hpending _ => exact hpending.symm

theorem Alike.sense {a b : Bench} (halike : Alike a b) : a.ports.sense = b.ports.sense := by
  funext label
  rw [PortBank.sense_eq_level, PortBank.sense_eq_level, halike.levels]

theorem Alike.read {a b : Bench} (halike : Alike a b) : Step.Alike Alike a.read b.read := by
  have hsense := halike.sense
  obtain ⟨clock, ports, source, handles⟩ := a
  obtain ⟨clock', ports', source', handles'⟩ := b
  obtain ⟨rfl, hlevels, hsource, rfl⟩ := halike
  have hcounted : ∀ labels labels',
      (ports.countReads labels).level = (ports'.countReads labels').level := by
    intro labels labels'
    rw [PortBank.level_countReads, PortBank.level_countReads]
    exact hlevels
  cases hsource with
  | same =>
      cases source with
      | none => exact ⟨rfl, rfl, rfl, hlevels, .same _, rfl⟩
      | some source =>
          simp only [Bench.read, hsense]
          exact ⟨rfl, rfl, rfl, hcounted _ _, .same _, rfl⟩
  | quit fallback hpending hidle =>
      have hread := quit_reads_alike fallback hpending hidle ports'.sense
      simp only [Bench.read, hsense]
      exact ⟨congrArg Acquired.reading hread.answer, hread.events, rfl, hcounted _ _,
        hread.next, rfl⟩

theorem Alike.update
    {a b : Bench} (halike : Alike a b) (label : String) {f : SimulatedPort → SimulatedPort}
    (hlabel : ∀ port, (f port).label = port.label)
    (hreads : ∀ port, (f port).forgetReads = f port.forgetReads) :
    Alike { a with ports := a.ports.update label f } { b with ports := b.ports.update label f } where
  clock := halike.clock
  levels := by
    rw [PortBank.level_update _ _ hlabel hreads, PortBank.level_update _ _ hlabel hreads,
      halike.levels]
  source := halike.source
  handles := halike.handles

theorem Alike.source_eq
    {a b : Bench} (halike : Alike a b) {handle : Nat} (hheld : b.holds handle = true) :
    a.source = b.source := by
  have hsource := halike.source
  rw [halike.handles] at hsource
  have hpos : 0 < b.handles.count true := count_true_pos hheld
  generalize a.source = source at hsource
  generalize b.source = source' at hsource
  cases hsource with
  | same => rfl
  | quit _ _ hidle => omega

theorem Alike.hold {a b : Bench} (halike : Alike a b) (s : Snapshot) :
    Step.Alike Alike (a.act (.hold s)) (b.act (.hold s)) := by
  have hsource : SourceAlike a.handles (a.source.map (·.hold s)) (b.source.map (·.hold s)) := by
    have hsource := halike.source
    generalize a.source = source at hsource ⊢
    generalize b.source = source' at hsource ⊢
    cases hsource with
    | same => exact .same _
    | quit fallback hpending hidle => exact .quit (fallback.hold s) hpending hidle
  exact ⟨rfl, rfl, halike.clock, halike.levels, hsource, halike.handles⟩

theorem Alike.through
    {a b : Bench} (halike : Alike a b) {c : BenchCommand} {handle : Nat}
    (hthrough : c.through? = some handle) : Step.Alike Alike (a.act c) (b.act c) := by
  have hholds : a.holds handle = b.holds handle := by
    unfold holds
    rw [halike.handles]
  by_cases hheld : b.holds handle = true
  · have hsource := halike.source_eq hheld
    have hhandles := halike.handles
    rw [hheld] at hholds
    cases c with
    | push _ s =>
        cases hthrough
        simp only [act, if_pos hheld, if_pos hholds, deliver, hsource]
        exact ⟨rfl, rfl, halike.clock, halike.levels, .same _, hhandles⟩
    | cloneHandle _ =>
        cases hthrough
        simp only [act, if_pos hheld, if_pos hholds, mapQueue, hsource, hhandles]
        exact ⟨rfl, rfl, halike.clock, halike.levels, .same _, rfl⟩
    | dropHandle _ =>
        cases hthrough
        simp only [act, if_pos hheld, if_pos hholds, mapQueue, hsource, hhandles]
        exact ⟨rfl, rfl, halike.clock, halike.levels, .same _, rfl⟩
    | _ => cases hthrough
  · rw [act_not_held hheld hthrough, act_not_held (hholds ▸ hheld) hthrough]
    exact ⟨rfl, rfl, halike⟩

theorem Alike.act {a b : Bench} (halike : Alike a b) (c : BenchCommand) :
    Step.Alike Alike (a.act c) (b.act c) := by
  cases c with
  | read =>
      have hread := halike.read
      exact ⟨congrArg BenchAnswer.acquired hread.answer, hread.events, hread.next⟩
  | clock m =>
      have hmoved : a.clock.move m = b.clock.move m := by rw [halike.clock]
      exact ⟨congrArg (fun clock : ManualClock => BenchAnswer.tick clock.now) hmoved, rfl,
        hmoved, halike.levels, halike.source, halike.handles⟩
  | word label word =>
      exact ⟨rfl, rfl, halike.update label (fun _ => rfl) (fun _ => rfl)⟩
  | fault label reason =>
      exact ⟨rfl, rfl, halike.update label (fun _ => rfl) (fun _ => rfl)⟩
  | hold s => exact halike.hold s
  | push handle s => exact halike.through rfl
  | cloneHandle handle => exact halike.through rfl
  | dropHandle handle => exact halike.through rfl
  | dropSource => exact ⟨rfl, rfl, halike.clock, halike.levels, .same none, halike.handles⟩

end Bench

end Gamepad
