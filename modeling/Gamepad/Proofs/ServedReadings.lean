import Gamepad.Proofs.AlikeBenches
import Gamepad.Proofs.PhysicalRead

/-!
# What a reading serves

A pending override is used up by one reading, which then looks at nothing else.  Without one the
source acquires a snapshot by itself.
-/

namespace Gamepad

/-! ## The acquisition of a source -/

/-- What a source acquires by itself when `held` was held out to it last. -/
def Acquired.IsOwn
    (acquired : Acquired String) (table : WiringTable) (held : Snapshot)
    (ports : String → Reading UInt32) : Acquisition → Prop
  | .none => acquired = ⟨.ok .released, []⟩
  | .external => acquired = ⟨.ok held, []⟩
  | .physical => acquired.Shows table ports

def Fallback.IsFor
    (fallback : Fallback String) (table : WiringTable) (held : Snapshot) : Acquisition → Prop
  | .none => fallback = .released
  | .external => fallback = .held held
  | .physical => ∃ bound, fallback = .ports bound ∧ bound.Binds table.entries

namespace Fallback.IsFor

variable {fallback : Fallback String} {table : WiringTable} {held : Snapshot}
  {acquisition : Acquisition}

theorem hold (hfor : fallback.IsFor table held acquisition) (s : Snapshot) :
    (fallback.hold s).IsFor table s acquisition := by
  cases acquisition with
  | none =>
      obtain rfl := hfor
      rfl
  | external =>
      obtain rfl := hfor
      rfl
  | physical =>
      obtain ⟨bound, rfl, hbinds⟩ := hfor
      exact ⟨bound, rfl, hbinds⟩

theorem acquire
    (hfor : fallback.IsFor table held acquisition) (ports : String → Reading UInt32) :
    (fallback.acquire ports).IsOwn table held ports acquisition := by
  cases acquisition with
  | none =>
      obtain rfl := hfor
      rfl
  | external =>
      obtain rfl := hfor
      rfl
  | physical =>
      obtain ⟨bound, rfl, hbinds⟩ := hfor
      exact hbinds.shows ports

end Fallback.IsFor

namespace Bench

theorem finds_of_binder
    {unbindable : List Unbindable} (w : Wiring) (binding : Binding String)
    (hfound : binder unbindable w = .ok binding) : BoundLines.Finds (binder unbindable) w := by
  unfold BoundLines.Finds
  unfold binder at hfound ⊢
  split at hfound
  next => contradiction
  next => exact ⟨w.port, rfl, rfl⟩

theorem isFor_of_makeSource
    {acquisition : Acquisition} {table : WiringTable} {unbindable : List Unbindable}
    {slot : OverrideSlot} {source : Source String}
    (hmade : (makeSource acquisition table unbindable slot).value = .ok source) :
    source.fallback.IsFor table .released acquisition := by
  cases acquisition with
  | none =>
      obtain rfl := Except.ok.inj hmade
      rfl
  | external =>
      obtain rfl := Except.ok.inj hmade
      rfl
  | physical =>
      simp only [makeSource] at hmade
      cases hbound : (BoundLines.bind table (binder unbindable)).value with
      | error fault => simp [hbound, Except.map] at hmade
      | ok bound =>
          rw [hbound] at hmade
          obtain rfl := Except.ok.inj hmade
          exact ⟨bound, rfl, BoundLines.binds_of_bind finds_of_binder hbound⟩

end Bench

/-! ## The snapshot that is held out -/

def BenchCommand.held? : BenchCommand → Option Snapshot
  | .hold s => some s
  | _ => none

/-- What is held out after some commands, `held` being held out before. -/
def heldAfter (held : Snapshot) (commands : List BenchCommand) : Snapshot :=
  (commands.filterMap BenchCommand.held?).getLastD held

theorem heldAfter_cons (held : Snapshot) (c : BenchCommand) (rest : List BenchCommand) :
    heldAfter held (c :: rest) = heldAfter (c.held?.getD held) rest := by
  unfold heldAfter
  rw [List.filterMap_cons]
  cases c.held? with
  | none => rfl
  | some s => exact List.getLastD_cons

namespace Bench

theorem act_fallback
    {bench : Bench} {source : Source String} (hsource : bench.source = some source)
    {c : BenchCommand} (hstays : c ≠ .dropSource) :
    ∃ after, (bench.act c).next.source = some after ∧
      after.fallback = (c.held?.map source.fallback.hold).getD source.fallback := by
  obtain ⟨clock, ports, _, handles⟩ := bench
  obtain rfl : _ = some source := hsource
  cases c with
  | push handle s =>
      simp only [act]
      split
      next => exact ⟨_, rfl, rfl⟩
      next => exact ⟨_, rfl, rfl⟩
  | cloneHandle handle =>
      simp only [act]
      split
      next => exact ⟨_, rfl, rfl⟩
      next => exact ⟨_, rfl, rfl⟩
  | dropHandle handle =>
      simp only [act]
      split
      next => exact ⟨_, rfl, rfl⟩
      next => exact ⟨_, rfl, rfl⟩
  | dropSource => contradiction
  | _ => exact ⟨_, rfl, rfl⟩

theorem after_isFor
    {acquisition : Acquisition} {table : WiringTable} {commands : List BenchCommand}
    (hstays : BenchCommand.dropSource ∉ commands) {bench : Bench} {source : Source String}
    (hsource : bench.source = some source) {held : Snapshot}
    (hfor : source.fallback.IsFor table held acquisition) :
    ∃ after, (bench.after commands).source = some after ∧
      after.fallback.IsFor table (heldAfter held commands) acquisition := by
  induction commands generalizing bench source held with
  | nil => exact ⟨source, hsource, hfor⟩
  | cons c rest ih =>
      rw [List.mem_cons, not_or] at hstays
      obtain ⟨next, hnext, hfallback⟩ := act_fallback hsource (Ne.symm hstays.1)
      have hheld : next.fallback.IsFor table (c.held?.getD held) acquisition := by
        rw [hfallback]
        cases c.held? with
        | none => exact hfor
        | some s => exact hfor.hold s
      rw [heldAfter_cons]
      exact ih hstays.2 hnext hheld

/-! ## One reading, and many in a row -/

/-- A reading uses up the oldest pending override, and without one it is what the source acquires
by itself; `own` is that. -/
structure Serves (bench : Bench) (own : Acquired String) : Prop where
  queued : ∀ s rest, bench.pending = s :: rest →
    bench.read.answer = .ok s ∧ bench.read.next.pending = rest ∧
      bench.read.next.ports = bench.ports
  unqueued : bench.pending = [] →
    bench.read.answer = own.reading ∧ bench.read.next.pending = [] ∧
      bench.read.next.ports = bench.ports.countReads own.read
  keeps : bench.read.next.source.map Source.fallback = bench.source.map Source.fallback ∧
    bench.read.next.clock = bench.clock ∧ bench.read.next.handles = bench.handles
  inRow : ∀ n, bench.readings (List.replicate n .read) =
    (bench.pending.take n).map .ok ++ List.replicate (n - bench.pending.length) own.reading

theorem read_of_source
    {bench : Bench} {source : Source String} (hsource : bench.source = some source) :
    bench.read =
      ⟨{ bench with
          source := some (source.read bench.ports.sense).next
          ports := bench.ports.countReads (source.read bench.ports.sense).answer.read },
        (source.read bench.ports.sense).answer.reading,
        (source.read bench.ports.sense).events⟩ := by
  simp only [read, hsource]

theorem read_queued
    {bench : Bench} {s : Snapshot} {rest : List Snapshot} (hpending : bench.pending = s :: rest) :
    bench.read.answer = .ok s ∧ bench.read.next.pending = rest ∧
      bench.read.next.ports = bench.ports := by
  cases hsource : bench.source with
  | none =>
      rw [pending_of_none hsource] at hpending
      contradiction
  | some source =>
      rw [pending_of_some hsource] at hpending
      rw [read_of_source hsource, pending_of_some rfl]
      simp only [Source.read]
      rcases source.overrides.take_cases with ⟨first, hanswer, _, htaken⟩ | ⟨_, _, hempty, _⟩
      · rw [hpending, List.cons.injEq] at htaken
        obtain ⟨rfl, rfl⟩ := htaken
        rw [hanswer]
        exact ⟨rfl, rfl, rfl⟩
      · rw [hempty] at hpending
        contradiction

theorem read_unqueued
    {bench : Bench} {source : Source String} (hsource : bench.source = some source)
    (hpending : bench.pending = []) :
    let own := source.fallback.acquire bench.ports.sense
    bench.read.answer = own.reading ∧ bench.read.next.pending = [] ∧
      bench.read.next.ports = bench.ports.countReads own.read := by
  rw [pending_of_some hsource] at hpending
  have hacquired := Source.read_of_pending_nil hpending bench.ports.sense
  rw [read_of_source hsource, pending_of_some rfl, hacquired]
  refine ⟨rfl, ?_, rfl⟩
  rcases source.overrides.take_cases with ⟨_, _, _, hsome⟩ | ⟨_, _, _, hnext⟩
  · rw [hpending] at hsome
    contradiction
  · exact hnext

theorem read_keeps
    {bench : Bench} {source : Source String} (hsource : bench.source = some source) :
    ∃ next, bench.read.next.source = some next ∧ next.fallback = source.fallback ∧
      bench.read.next.ports.sense = bench.ports.sense := by
  rw [read_of_source hsource]
  refine ⟨_, rfl, rfl, ?_⟩
  funext label
  rw [PortBank.sense_eq_level, PortBank.sense_eq_level, PortBank.level_countReads]

theorem readings_replicate
    (n : Nat) {bench : Bench} {source : Source String} (hsource : bench.source = some source) :
    bench.readings (List.replicate n .read) =
      (bench.pending.take n).map .ok ++
        List.replicate (n - bench.pending.length)
          (source.fallback.acquire bench.ports.sense).reading := by
  induction n generalizing bench source with
  | zero => simp [readings, run]
  | succ n ih =>
      obtain ⟨next, hnext, hfallback, hsense⟩ := read_keeps hsource
      have hrest : bench.read.next.readings (List.replicate n .read) = _ := ih hnext
      rw [hfallback, hsense] at hrest
      rw [List.replicate_succ, readings_cons]
      change [bench.read.answer] ++ bench.read.next.readings (List.replicate n .read) = _
      rw [hrest]
      cases hpending : bench.pending with
      | nil =>
          obtain ⟨hanswer, hempty, _⟩ := read_unqueued hsource hpending
          simp [hanswer, hempty, List.replicate_succ]
      | cons s rest =>
          obtain ⟨hanswer, hleft, _⟩ := read_queued hpending
          simp [hanswer, hleft]

theorem serves_own
    {bench : Bench} {source : Source String} (hsource : bench.source = some source) :
    bench.Serves (source.fallback.acquire bench.ports.sense) where
  queued := fun _ _ hpending => read_queued hpending
  unqueued := read_unqueued hsource
  keeps := by
    rw [read_of_source hsource, hsource]
    exact ⟨rfl, rfl, rfl⟩
  inRow := fun n => readings_replicate n hsource

/-- Whatever happens to a source while it lives, what was pushed and not yet served is pending in
its order; a reading serves the oldest of it, and without any the source's own acquisition. -/
theorem overrides_served_first
    {acquisition : Acquisition} {table : WiringTable} {unbindable : List Unbindable}
    {slot : OverrideSlot} {source : Source String}
    (hmade : (makeSource acquisition table unbindable slot).value = .ok source)
    (clock : ManualClock) (ports : PortBank) (handles : List Bool)
    {commands : List BenchCommand} (hstays : BenchCommand.dropSource ∉ commands) :
    let start : Bench := { clock, ports, source := some source, handles }
    let bench := start.after commands
    slot.pending ++ start.acceptedPushes commands =
        start.servedOverrides commands ++ bench.pending ∧
      ∃ own : Acquired String,
        own.IsOwn table (heldAfter .released commands) bench.ports.sense acquisition ∧
          bench.Serves own := by
  intro start bench
  have hsource : start.source = some source := rfl
  obtain ⟨after, hafter, hlast⟩ := after_isFor hstays hsource (isFor_of_makeSource hmade)
  refine ⟨?_, _, hlast.acquire bench.ports.sense, serves_own hafter⟩
  have halive : bench.source ≠ none := by
    rw [hafter]
    exact Option.some_ne_none after
  have hflow := after_flow halive
  rwa [pending_of_some hsource, overrides_of_makeSource hmade] at hflow

def southOnly : WiringTable where
  entries := [{ line := .button .south, port := "gpio0", pin := 4 }]
  nodup := by decide

def west : Snapshot :=
  Snapshot.released.assert [.button .west]

theorem lostPort_serves_override :
    ∃ source, (makeSource .physical southOnly [] (.connected { capacity := 1 })).value =
        .ok source ∧
      let start : Bench :=
        { clock := ⟨0, 1⟩, source := some source, handles := [true] }
      let bench := start.after [.fault "gpio0" (some "gone"), .push 0 west]
      bench.read.next.ports = bench.ports ∧
        bench.readings [.read, .read] = [.ok west, .error (.portFault "gpio0" "gone")] := by
  obtain ⟨source, hmade⟩ : ∃ source,
      (makeSource .physical southOnly [] (.connected { capacity := 1 })).value = .ok source :=
    ⟨_, rfl⟩
  refine ⟨source, hmade, ?_⟩
  intro start bench
  have hstays :
      BenchCommand.dropSource ∉ [BenchCommand.fault "gpio0" (some "gone"), .push 0 west] := by
    simp
  obtain ⟨hflow, own, hown, hserves⟩ :=
    overrides_served_first hmade ⟨0, 1⟩ {} [true] hstays
  have hpending : bench.pending = [west] := by
    obtain ⟨overrides, fallback⟩ := source
    obtain rfl : overrides = _ := overrides_of_makeSource hmade
    exact hflow.symm
  have hlost : own.reading = .error (.portFault "gpio0" "gone") :=
    (Acquired.Shows.faulted hown [] "gpio0" [] _ (by decide) (by simp) (by rfl)).1
  refine ⟨(hserves.queued west [] hpending).2.2, ?_⟩
  have hreadings := hserves.inRow 2
  rw [hpending, hlost] at hreadings
  exact hreadings

end Bench

end Gamepad
