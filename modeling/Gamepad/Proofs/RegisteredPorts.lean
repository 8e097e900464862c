import Gamepad.Proofs.PortOrder
import Gamepad.Run
import Mathlib.Data.List.Induction

/-!
# Ports that were registered

The cache holds the first handle of each label, as far as there is room.
-/

namespace Gamepad

namespace PortCache

variable {δ : Type} [Port δ]

/-- The first handle of every label, in order of first appearance. -/
def firstHandles : List δ → List δ
  | [] => []
  | port :: rest =>
    port :: (firstHandles rest).filter fun later => Port.label later ≠ Port.label port

def registered (ports : List δ) : PortCache δ :=
  Step.after register empty ports

/-- A cache serves the ports that were registered with it: it holds and finds the first handle of
each label as far as there is room, and sweeps what it holds. -/
structure Serves (cache : PortCache δ) (ports : List δ) : Prop where
  holds : cache.ports = (firstHandles ports).take 4
  labels_eq : cache.labels = (ports.map Port.label).eraseDups.take 4
  labels_distinct : cache.labels.Nodup
  found : ∀ port, Port.label port ∈ cache.labels ∨ cache.size < 4 →
    ∃ index, (cache.register port).answer = .ok index ∧
      (cache.register port).next.labels[index.val]? = some (Port.label port)
  refused : ∀ port, Port.label port ∉ cache.labels → 4 ≤ cache.size →
    (cache.register port).answer = .error (.portCacheFull 4 (Port.label port))
  unchanged : ∀ port, Port.label port ∈ cache.labels ∨
      (∃ fault, (cache.register port).answer = .error fault) →
    (cache.register port).next = cache
  lasting : ∀ port index more again, (cache.register port).answer = .ok index →
    Port.label again = Port.label port →
      ((Step.after register (cache.register port).next more).register again).answer = .ok index
  swept : ∀ (sense : δ → Reading UInt32) (word : δ → UInt32),
    (∀ port ∈ cache.ports, sense port = .ok (word port)) →
      (cache.sweep sense).read = cache.ports ∧
        ∃ words, (cache.sweep sense).words = .ok words ∧ cache.Fills words word
  swept_to_fault : ∀ (sense : δ → Reading UInt32) before port rest fault,
    cache.ports = before ++ port :: rest →
      (∀ earlier ∈ before, ∃ word, sense earlier = .ok word) → sense port = .error fault →
        cache.sweep sense = ⟨.error fault, before ++ [port]⟩

/-! ## First handles -/

theorem firstHandles_append_singleton (ports : List δ) (port : δ) :
    firstHandles (ports ++ [port]) =
      if Port.label port ∈ ports.map Port.label then firstHandles ports
      else firstHandles ports ++ [port] := by
  induction ports with
  | nil => simp [firstHandles]
  | cons first rest ih =>
      rw [List.cons_append, firstHandles, ih, firstHandles]
      by_cases hrest : Port.label port ∈ rest.map Port.label
      · rw [if_pos hrest, List.map_cons, if_pos (List.mem_cons_of_mem _ hrest)]
      · rw [if_neg hrest, List.filter_append]
        by_cases hfirst : Port.label port = Port.label first
        · simp [hfirst]
        · simp only [List.map_cons, List.mem_cons, hfirst, hrest, or_self, if_false]
          simp [hfirst]

theorem labels_firstHandles (ports : List δ) :
    (firstHandles ports).map Port.label = (ports.map Port.label).eraseDups := by
  induction ports using List.reverseRecOn with
  | nil => rfl
  | append_singleton ports port ih =>
      rw [firstHandles_append_singleton, List.map_append, List.map_singleton,
        eraseDups_append_singleton, ← ih]
      split
      next => rfl
      next => simp

/-! ## One registration -/

theorem register_of_place
    {cache : PortCache δ} {port : δ} {index : Fin portCapacity}
    (hplace : cache.labels[index.val]? = some (Port.label port)) :
    (cache.register port).answer = .ok index := by
  rcases cache.register_cases port with
    ⟨known, hknown, _, hok⟩ | ⟨_, hnew, _⟩ | ⟨hnew, _⟩
  · have hlt : index.val < cache.labels.length := (List.getElem?_eq_some_iff.mp hplace).1
    have hindex : index.val = known.val :=
      (List.getElem?_inj hlt cache.nodup).mp (hplace.trans hknown.symm)
    rw [hok, Fin.ext hindex]
  · exact absurd (List.mem_of_getElem? hplace) hnew
  · exact absurd (List.mem_of_getElem? hplace) hnew

/-! ## Many registrations -/

theorem place_after
    {cache : PortCache δ} {index : Nat} {label : String}
    (hplace : cache.labels[index]? = some label) (more : List δ) :
    (Step.after register cache more).labels[index]? = some label := by
  induction more generalizing cache with
  | nil => exact hplace
  | cons port more ih => exact ih (place_register hplace port)

theorem registered_append_singleton (ports : List δ) (port : δ) :
    registered (ports ++ [port]) = ((registered ports).register port).next := by
  unfold registered
  rw [Step.after_append]
  rfl

theorem labels_of_holds
    {cache : PortCache δ} {ports : List δ} (hports : cache.ports = (firstHandles ports).take 4) :
    cache.labels = (ports.map Port.label).eraseDups.take 4 := by
  rw [labels, hports, List.map_take, labels_firstHandles]

theorem registered_ports (ports : List δ) :
    (registered ports).ports = (firstHandles ports).take 4 := by
  -- By induction on the ports, of which the last is registered last.
  induction ports using List.reverseRecOn with
  | nil => rfl
  | append_singleton ports port ih =>
      rw [registered_append_singleton, firstHandles_append_singleton]
      rcases (registered ports).register_cases port with
        ⟨_, hplace, hnext, _⟩ | ⟨index, hnew, hindex, hports, _⟩ | ⟨_, hfull, hnext, _⟩
      · have hknown : Port.label port ∈ ports.map Port.label := by
          have hmem := List.mem_of_getElem? hplace
          rw [labels_of_holds ih] at hmem
          exact List.mem_eraseDups.mp (List.mem_of_mem_take hmem)
        rw [hnext, if_pos hknown, ih]
      · -- There was room, so no first handle has been cut off.
        have hlength : ((firstHandles ports).take 4).length < 4 := by
          have hroom : (registered ports).size < 4 := hindex ▸ index.isLt
          rwa [← ih]
        rw [List.length_take] at hlength
        have hall : (firstHandles ports).take 4 = firstHandles ports :=
          List.take_of_length_le (by omega)
        have hnone : Port.label port ∉ ports.map Port.label := by
          rw [← List.mem_eraseDups, ← labels_firstHandles, ← hall, ← ih]
          exact hnew
        rw [hports, if_neg hnone, ih, hall, List.take_of_length_le]
        rw [List.length_append, List.length_singleton]
        omega
      · have hlength : ((firstHandles ports).take 4).length = 4 := by
          rw [← ih]
          exact hfull
        rw [List.length_take] at hlength
        rw [hnext, ih]
        split
        next => rfl
        next => rw [List.take_append_of_le_length (by omega)]

/-! ## The whole cache -/

/-- Whatever ports were registered, the cache serves the first handle of each of the first four
labels. -/
theorem registered_serves (ports : List δ) : (registered ports).Serves ports where
  holds := registered_ports ports
  labels_eq := labels_of_holds (registered_ports ports)
  labels_distinct := (registered ports).nodup
  found := by
    intro port hfits
    rcases (registered ports).register_cases port with
      ⟨index, _, _, hok⟩ | ⟨index, _, _, _, hok⟩ | ⟨hnew, hfull, _⟩
    · exact ⟨index, hok, place_of_register hok⟩
    · exact ⟨index, hok, place_of_register hok⟩
    · rcases hfits with hknown | hroom
      · exact absurd hknown hnew
      · omega
  refused := by
    intro port hnew hfull
    rcases (registered ports).register_cases port with
      ⟨_, hplace, _⟩ | ⟨index, _, hindex, _⟩ | ⟨_, _, _, herror⟩
    · exact absurd (List.mem_of_getElem? hplace) hnew
    · have hlt : index.val < 4 := index.isLt
      omega
    · exact herror
  unchanged := by
    intro port hcause
    rcases (registered ports).register_cases port with
      ⟨_, _, hnext, _⟩ | ⟨index, hnew, _, _, hok⟩ | ⟨_, _, hnext, _⟩
    · exact hnext
    · rcases hcause with hknown | ⟨fault, herror⟩
      · exact absurd hknown hnew
      · rw [hok] at herror
        cases herror
    · exact hnext
  lasting := by
    intro port index more again hanswer hsame
    apply register_of_place
    rw [hsame]
    exact place_after (place_of_register hanswer) more
  swept := by
    intro sense word hok
    obtain ⟨words, hsweep, hfills⟩ := sweep_of_all_ok _ hok
    rw [hsweep]
    exact ⟨rfl, words, rfl, hfills⟩
  swept_to_fault := by
    intro sense before port rest fault hports hbefore hfault
    exact sweep_of_first_fault _ hports hbefore hfault

theorem fullCache_serves :
    let ports := ["gpio1", "gpio0", "gpio2", "gpio1", "gpio3"]
    ((registered ports).register "gpio0").answer = .ok ⟨1, by decide⟩ ∧
      ((registered ports).register "gpio4").answer = .error (.portCacheFull 4 "gpio4") := by
  intro ports
  constructor
  · exact (registered_serves ["gpio1"]).lasting "gpio0" ⟨1, by decide⟩ ["gpio2", "gpio1", "gpio3"]
      "gpio0" rfl rfl
  · exact (registered_serves ports).refused "gpio4" (by decide) (by decide)

end PortCache

end Gamepad
