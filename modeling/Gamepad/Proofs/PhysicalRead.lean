import Gamepad.Proofs.BindingFaults
import Gamepad.Proofs.OverrideQueue

/-!
# Readings of a bound source

Lines that the binder finds where they are wired are placed at the position of their port among the
labels of the table.  So a sweep finds the word of every line where it was placed.
-/

namespace Gamepad

/-- The ports of a table in the order in which they first appear. -/
def WiringTable.portOrder (table : WiringTable) : List String :=
  (table.entries.map (·.port)).eraseDups

/-- A snapshot shows every wired line as the bit of its pin in the word of its port, inverted if
the line is active low, and nothing else. -/
structure Snapshot.Decodes (s : Snapshot) (table : WiringTable) (words : String → UInt32) :
    Prop where
  wired : ∀ w ∈ table.entries,
    s.get w.line = ((words w.port).toNat.testBit w.pin.toNat ^^ w.activeLow)
  unwired : ∀ l, l ∉ table.entries.map (·.line) → s.get l = false
  touchpad : s.touchpad = {}

/-- What a reading yields when every port of a table answers as `ports` says. -/
structure Acquired.Shows {δ : Type} [Port δ]
    (acquired : Acquired δ) (table : WiringTable) (ports : String → Reading UInt32) : Prop where
  decoded : ∀ words : String → UInt32,
    (∀ label ∈ table.portOrder, ports label = .ok (words label)) →
      (∃ s, acquired.reading = .ok s ∧ s.Decodes table words) ∧
        acquired.read.map Port.label = table.portOrder
  faulted : ∀ before label rest fault, table.portOrder = before ++ label :: rest →
    (∀ earlier ∈ before, ∃ word, ports earlier = .ok word) → ports label = .error fault →
      acquired.reading = .error fault ∧ acquired.read.map Port.label = before ++ [label]
  once : (acquired.read.map Port.label).Nodup

/-! ## Binding -/

/-- A bound line stands for a wiring when its place is that of the port among the labels. -/
structure BoundLine.Places (slot : BoundLine) (labels : List String) (w : Wiring) : Prop where
  line : slot.line = w.line
  bit : slot.bit.val = w.pin.toNat
  polarity : slot.polarity = w.polarity
  port : labels[slot.port.val]? = some w.port

namespace BoundLines

variable {δ : Type} [Port δ]

structure Binds (bound : BoundLines δ) (ws : List Wiring) : Prop where
  labels : bound.cache.labels = (ws.map (·.port)).eraseDups
  slots : List.Forall₂ (fun w slot => slot.Places bound.cache.labels w) ws bound.slots

/-- A binder finds a wired line on the pin and with the polarity it is wired with, on a port of the
label it names. -/
def Finds (binder : Wiring → Reading (Binding δ)) (w : Wiring) : Prop :=
  ∃ port, binder w = .ok ⟨port, w.pin, w.polarity⟩ ∧ Port.label port = w.port

theorem foundLabels_of_named
    {binder : Wiring → Reading (Binding δ)} {ws : List Wiring}
    (hnamed : ∀ w ∈ ws, foundLabel? binder w = some w.port) :
    foundLabels binder ws = (ws.map (·.port)).eraseDups := by
  unfold foundLabels
  rw [List.filterMap_congr hnamed, List.filterMap_eq_map']

theorem foundLabels_of_finds
    {binder : Wiring → Reading (Binding δ)} {ws : List Wiring}
    (hfinds : ∀ w ∈ ws, Finds binder w) :
    foundLabels binder ws = (ws.map (·.port)).eraseDups := by
  apply foundLabels_of_named
  intro w hw
  obtain ⟨port, hbinder, hlabel⟩ := hfinds w hw
  simp only [foundLabel?, hbinder, hlabel]

theorem Covers.binds
    {binder : Wiring → Reading (Binding δ)} {bound : BoundLines δ} {ws : List Wiring}
    (hcovers : bound.Covers (ws.map fun w => (w, binder w)))
    (hfinds : ∀ w ∈ ws, Finds binder w) : bound.Binds ws where
  labels := by
    rw [hcovers.labels, foundLabels_map_pair, foundLabels_of_finds hfinds]
  slots := by
    have hslots := List.forall₂_map_left_iff.mp hcovers.slots
    refine ((List.forall₂_and_left _ _).mpr ⟨hfinds, hslots⟩).imp ?_
    rintro w slot ⟨⟨port, hbinder, hlabel⟩, binding, hslot⟩
    obtain rfl := Except.ok.inj (hslot.found.symm.trans hbinder)
    exact ⟨hslot.line, hslot.bit, hslot.polarity, hslot.port.trans (congrArg some hlabel)⟩

theorem bind_binds
    {binder : Wiring → Reading (Binding δ)} {table : WiringTable}
    (hfinds : ∀ w ∈ table.entries, Finds binder w)
    (hpins : ∀ w ∈ table.entries, w.pin.toNat < 32)
    (hroom : table.portOrder.length ≤ portCapacity) :
    ∃ bound, (bind table binder).value = .ok bound ∧ bound.Binds table.entries := by
  have hfound : ∀ w ∈ table.entries,
      ∃ binding, binder w = .ok binding ∧ binding.bit.toNat < 32 := by
    intro w hw
    obtain ⟨port, hbinder, -⟩ := hfinds w hw
    exact ⟨_, hbinder, hpins w hw⟩
  rw [WiringTable.portOrder, ← foundLabels_of_finds hfinds] at hroom
  obtain ⟨bound, hbound⟩ := bind_eq_ok_iff.mpr ⟨hfound, hroom⟩
  exact ⟨bound, hbound, (covers_of_bind hbound).binds hfinds⟩

theorem binds_of_bind
    {binder : Wiring → Reading (Binding δ)} {table : WiringTable} {bound : BoundLines δ}
    (hhonest : ∀ w binding, binder w = .ok binding → Finds binder w)
    (hbound : (bind table binder).value = .ok bound) : bound.Binds table.entries := by
  apply (covers_of_bind hbound).binds
  intro w hw
  obtain ⟨binding, hfound, -⟩ := (bind_eq_ok_iff.mp ⟨bound, hbound⟩).1 w hw
  exact hhonest w binding hfound

/-! ## Decoding -/

theorem foldl_set_touchpad
    (slots : List BoundLine) (value : BoundLine → Bool) (s : Snapshot) :
    (slots.foldl (fun s slot => s.set slot.line (value slot)) s).touchpad = s.touchpad := by
  induction slots generalizing s with
  | nil => rfl
  | cons slot rest ih => rw [List.foldl_cons, ih, Snapshot.set_touchpad]

theorem foldl_set_get_of_not_mem
    {slots : List BoundLine} {l : Line} (hfree : l ∉ slots.map BoundLine.line)
    (value : BoundLine → Bool) (s : Snapshot) :
    (slots.foldl (fun s slot => s.set slot.line (value slot)) s).get l = s.get l := by
  induction slots generalizing s with
  | nil => rfl
  | cons slot rest ih =>
      rw [List.map_cons, List.mem_cons, not_or] at hfree
      rw [List.foldl_cons, ih hfree.2, Snapshot.set_get, if_neg hfree.1]

theorem foldl_set_get_of_mem
    {slots : List BoundLine} (hnodup : (slots.map BoundLine.line).Nodup)
    {slot : BoundLine} (hmem : slot ∈ slots) (value : BoundLine → Bool) (s : Snapshot) :
    (slots.foldl (fun s slot => s.set slot.line (value slot)) s).get slot.line = value slot := by
  induction slots generalizing s with
  | nil => simp at hmem
  | cons first rest ih =>
      rw [List.map_cons, List.nodup_cons] at hnodup
      rw [List.foldl_cons]
      rcases List.mem_cons.mp hmem with rfl | hlater
      · rw [foldl_set_get_of_not_mem hnodup.1, Snapshot.set_get, if_pos rfl]
      · exact ih hnodup.2 hlater _

theorem lines_of_places
    {labels : List String} {ws : List Wiring} {slots : List BoundLine}
    (hslots : List.Forall₂ (fun w slot => slot.Places labels w) ws slots) :
    slots.map BoundLine.line = ws.map (·.line) := by
  induction hslots with
  | nil => rfl
  | cons hplaces _ ih => rw [List.map_cons, List.map_cons, hplaces.line, ih]

theorem exists_place
    {labels : List String} {ws : List Wiring} {slots : List BoundLine}
    (hslots : List.Forall₂ (fun w slot => slot.Places labels w) ws slots)
    {w : Wiring} (hw : w ∈ ws) : ∃ slot ∈ slots, slot.Places labels w := by
  induction hslots with
  | nil => simp at hw
  | cons hplaces _ ih =>
      rcases List.mem_cons.mp hw with rfl | hlater
      · exact ⟨_, List.mem_cons_self, hplaces⟩
      · obtain ⟨slot, hslot, hfound⟩ := ih hlater
        exact ⟨slot, List.mem_cons_of_mem _ hslot, hfound⟩

theorem Polarity.apply_eq (w : Wiring) (level : Bool) :
    w.polarity.apply level = (level ^^ w.activeLow) := by
  unfold Wiring.polarity
  cases w.activeLow <;> cases level <;> rfl

theorem Binds.decodes
    {bound : BoundLines δ} {table : WiringTable} (hbinds : bound.Binds table.entries)
    {sweep : PortWords} {words : String → UInt32}
    (hsweep : bound.cache.InPlace sweep words) :
    (bound.decode sweep).Decodes table words where
  wired := by
    intro w hw
    obtain ⟨slot, hslot, hplaces⟩ := exists_place hbinds.slots hw
    have hnodup : (bound.slots.map BoundLine.line).Nodup := by
      rw [lines_of_places hbinds.slots]
      exact table.nodup
    have hget := foldl_set_get_of_mem hnodup hslot (level sweep) .released
    rw [hplaces.line] at hget
    unfold decode
    rw [hget]
    unfold level
    rw [hsweep slot.port w.port hplaces.port, hplaces.polarity, Polarity.apply_eq, hplaces.bit]
    rfl
  unwired := by
    intro l hl
    rw [← lines_of_places hbinds.slots] at hl
    unfold decode
    rw [foldl_set_get_of_not_mem hl, Snapshot.released_get]
  touchpad := foldl_set_touchpad bound.slots (level sweep) .released

theorem Binds.shows
    {bound : BoundLines δ} {table : WiringTable} (hbinds : bound.Binds table.entries)
    (ports : String → Reading UInt32) :
    ((Fallback.ports bound).acquire fun port => ports (Port.label port)).Shows table ports where
  decoded := by
    intro words hok
    have horder : bound.cache.labels = table.portOrder := hbinds.labels
    rw [← horder] at hok ⊢
    obtain ⟨sweep, hsweep, hwords⟩ := bound.cache.sweep_of_ok hok
    simp only [Fallback.acquire, hsweep]
    exact ⟨⟨bound.decode sweep, rfl, hbinds.decodes hwords⟩, rfl⟩
  faulted := by
    intro before label rest fault horder hbefore hfault
    obtain ⟨hwords, hread⟩ := bound.cache.sweep_of_fault
      (hbinds.labels.trans horder) hbefore hfault
    simp only [Fallback.acquire, hwords]
    exact ⟨rfl, hread⟩
  once := bound.cache.nodup_sweep_read _

end BoundLines

/-! ## Every later reading -/

inductive SourceCommand (δ : Type)
  | read (sense : δ → Reading UInt32)
  | push (s : Snapshot)
  | hold (s : Snapshot)
  | addProducer
  | dropProducer

namespace Source

variable {δ : Type} [Port δ]

def act (source : Source δ) : SourceCommand δ → Source δ
  | .read sense => (source.read sense).next
  | .push s => (source.push s).1
  | .hold s => source.hold s
  | .addProducer =>
    { source with overrides := source.overrides.mapQueue OverrideQueue.addProducer }
  | .dropProducer =>
    { source with overrides := source.overrides.mapQueue OverrideQueue.dropProducer }

def after (source : Source δ) (commands : List (SourceCommand δ)) : Source δ :=
  commands.foldl act source

theorem act_ports
    {source : Source δ} {bound : BoundLines δ} (hports : source.fallback = .ports bound)
    (command : SourceCommand δ) : (source.act command).fallback = .ports bound := by
  cases command with
  | hold s =>
      simp only [act, hold, hports]
      rfl
  | _ => exact hports

theorem after_ports
    {source : Source δ} {bound : BoundLines δ} (hports : source.fallback = .ports bound)
    (commands : List (SourceCommand δ)) : (source.after commands).fallback = .ports bound := by
  induction commands generalizing source with
  | nil => exact hports
  | cons command rest ih => exact ih (act_ports hports command)

theorem read_of_pending_nil
    {source : Source δ} (hpending : source.overrides.pending = [])
    (sense : δ → Reading UInt32) :
    (source.read sense).answer = source.fallback.acquire sense := by
  have hnone : source.overrides.take.answer = none := by
    rcases source.overrides.take_cases with ⟨s, _, _, hsome⟩ | ⟨hnone, _⟩
    · rw [hpending] at hsome
      simp at hsome
    · exact hnone
  simp only [read, hnone]

/-- A table of at most four ports can be bound, and whatever happens to the source over it, a
reading without a pending override shows every line from its own wiring. -/
theorem bind_reads_wiring
    (table : WiringTable) (binder : Wiring → Reading (Binding δ))
    (hpins : ∀ w ∈ table.entries, w.pin.toNat < 32)
    (hports : table.portOrder.length ≤ 4)
    (hfinds : ∀ w ∈ table.entries, BoundLines.Finds binder w) :
    ∃ bound, (BoundLines.bind table binder).value = .ok bound ∧
      ∀ (slot : OverrideSlot) (history : List (SourceCommand δ))
        (ports : String → Reading UInt32),
        let source := (⟨slot, .ports bound⟩ : Source δ).after history
        source.overrides.pending = [] →
          (source.read fun port => ports (Port.label port)).answer.Shows table ports := by
  obtain ⟨bound, hbound, hbinds⟩ := BoundLines.bind_binds hfinds hpins hports
  refine ⟨bound, hbound, ?_⟩
  intro slot history ports source hpending
  have hfallback : source.fallback = .ports bound := after_ports rfl history
  rw [read_of_pending_nil hpending, hfallback]
  exact hbinds.shows ports

def sharedPin : WiringTable where
  entries :=
    [{ line := .button .south, port := "gpio0", pin := 4, activeLow := true },
      { line := .stick .up, port := "gpio1", pin := 31 },
      { line := .button .east, port := "gpio0", pin := 4 }]
  nodup := by decide

def secondPortLost : String → Reading UInt32 :=
  fun label => if label = "gpio1" then .error (.portFault label "gone") else .ok 0

def bothPortsHigh : String → Reading UInt32 :=
  fun label => .ok (if label = "gpio1" then 0x80000000 else 0x10)

theorem bind_reads_sharedPin :
    (∀ w ∈ sharedPin.entries, w.pin.toNat < 32) ∧
      sharedPin.portOrder = ["gpio0", "gpio1"] ∧
      ∃ bound, (BoundLines.bind sharedPin fun w => .ok ⟨w.port, w.pin, w.polarity⟩).value =
          .ok bound ∧
        let source : Source String := ⟨.connected { capacity := 1 }, .ports bound⟩
        (source.read secondPortLost).answer.reading =
            .error (.portFault "gpio1" "gone") ∧
          ∃ s, ((source.read secondPortLost).next.read bothPortsHigh).answer.reading = .ok s ∧
            s.get (.button .south) = false ∧ s.get (.stick .up) = true ∧
            s.get (.button .east) = true := by
  have hpins : ∀ w ∈ sharedPin.entries, w.pin.toNat < 32 := by decide
  have horder : sharedPin.portOrder = ["gpio0", "gpio1"] := by decide
  obtain ⟨bound, hbound, hreads⟩ := bind_reads_wiring sharedPin
    (fun w => .ok ⟨w.port, w.pin, w.polarity⟩) hpins (by rw [horder]; decide)
    (fun w _ => ⟨w.port, rfl, rfl⟩)
  have hlost := hreads (.connected { capacity := 1 }) [] secondPortLost rfl
  have hshown := hreads (.connected { capacity := 1 }) [.read secondPortLost] bothPortsHigh rfl
  obtain ⟨⟨s, hreading, hdecodes⟩, _⟩ := hshown.decoded
    (fun label => if label = "gpio1" then 0x80000000 else 0x10) (fun _ _ => rfl)
  refine ⟨hpins, horder, bound, hbound, ?_, s, hreading, ?_, ?_, ?_⟩
  · have hfirst : ∀ earlier ∈ ["gpio0"], ∃ word, secondPortLost earlier = .ok word := by
      simp [secondPortLost]
    exact (hlost.faulted ["gpio0"] "gpio1" [] _ horder hfirst rfl).1
  · exact hdecodes.wired ⟨.button .south, "gpio0", 4, true, .none⟩ (by decide)
  · exact hdecodes.wired ⟨.stick .up, "gpio1", 31, false, .none⟩ (by decide)
  · exact hdecodes.wired ⟨.button .east, "gpio0", 4, false, .none⟩ (by decide)

end Source

end Gamepad
