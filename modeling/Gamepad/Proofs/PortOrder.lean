import Gamepad.Port.Cache

/-!
# The order of cached ports

The place of a port is the position of its label in the order of first appearance.
-/

namespace Gamepad

theorem eraseDups_append_singleton (labels : List String) (label : String) :
    (labels ++ [label]).eraseDups =
      if label ∈ labels then labels.eraseDups else labels.eraseDups ++ [label] := by
  rw [List.eraseDups_append]
  by_cases hknown : label ∈ labels <;> simp [List.removeAll, hknown, List.eraseDups_cons]

theorem length_eraseDups_le_append (labels more : List String) :
    labels.eraseDups.length ≤ (labels ++ more).eraseDups.length := by
  rw [List.eraseDups_append, List.length_append]
  omega

namespace PortCache

variable {δ : Type}

theorem sweepPorts_of_ok
    {sense : δ → Reading UInt32} {word : δ → UInt32} {ports : List δ}
    (hok : ∀ port ∈ ports, sense port = .ok (word port)) :
    sweepPorts sense ports = (.ok (ports.map word), ports) := by
  induction ports with
  | nil => rfl
  | cons port rest ih =>
      have hfirst := hok port List.mem_cons_self
      have hrest := ih fun p hp => hok p (List.mem_cons_of_mem port hp)
      simp only [sweepPorts, hfirst, hrest]
      rfl

theorem sweepPorts_of_fault
    {sense : δ → Reading UInt32} {before : List δ} {port : δ} {fault : InputFault}
    (hbefore : ∀ earlier ∈ before, ∃ word, sense earlier = .ok word)
    (hfault : sense port = .error fault) (rest : List δ) :
    sweepPorts sense (before ++ port :: rest) = (.error fault, before ++ [port]) := by
  induction before with
  | nil => simp only [List.nil_append, sweepPorts, hfault]
  | cons earlier before ih =>
      obtain ⟨word, hword⟩ := hbefore earlier List.mem_cons_self
      have hrest := ih fun p hp => hbefore p (List.mem_cons_of_mem earlier hp)
      simp only [List.cons_append, sweepPorts, hword, hrest]
      rfl

theorem sweepPorts_read_prefix (sense : δ → Reading UInt32) (ports : List δ) :
    (sweepPorts sense ports).2 <+: ports := by
  induction ports with
  | nil => exact List.prefix_rfl
  | cons port rest ih =>
      simp only [sweepPorts]
      cases sense port with
      | error fault => exact ⟨rest, rfl⟩
      | ok word => exact (List.prefix_cons_inj port).mpr ih

variable [Port δ]

/-- A sweep holds the word of every cached port in its place. -/
def InPlace (cache : PortCache δ) (sweep : PortWords) (words : String → UInt32) : Prop :=
  ∀ (index : Fin portCapacity) (label : String),
    cache.labels[index.val]? = some label → sweep[index] = words label

def Fills (cache : PortCache δ) (sweep : PortWords) (word : δ → UInt32) : Prop :=
  ∀ index : Fin portCapacity,
    (∀ port, cache.ports[index.val]? = some port → sweep[index] = word port) ∧
      (cache.size ≤ index.val → sweep[index] = 0)

theorem Fills.inPlace
    {cache : PortCache δ} {sweep : PortWords} {words : String → UInt32}
    (hfills : cache.Fills sweep fun port => words (Port.label port)) :
    cache.InPlace sweep words := by
  intro index label hlabel
  obtain ⟨port, hport, rfl⟩ : ∃ port, cache.ports[index.val]? = some port ∧
      Port.label port = label := by
    simpa [labels] using hlabel
  exact (hfills index).1 port hport

theorem sweep_of_all_ok
    (cache : PortCache δ) {sense : δ → Reading UInt32} {word : δ → UInt32}
    (hok : ∀ port ∈ cache.ports, sense port = .ok (word port)) :
    ∃ words, cache.sweep sense = ⟨.ok words, cache.ports⟩ ∧ cache.Fills words word := by
  unfold sweep
  rw [sweepPorts_of_ok hok]
  refine ⟨_, rfl, ?_⟩
  intro index
  constructor
  · intro port hport
    simp [hport]
  · intro hbeyond
    have hnone : cache.ports[index.val]? = none := List.getElem?_eq_none hbeyond
    simp [hnone]

theorem sweep_of_first_fault
    (cache : PortCache δ) {sense : δ → Reading UInt32} {before rest : List δ} {port : δ}
    {fault : InputFault} (hports : cache.ports = before ++ port :: rest)
    (hbefore : ∀ earlier ∈ before, ∃ word, sense earlier = .ok word)
    (hfault : sense port = .error fault) :
    cache.sweep sense = ⟨.error fault, before ++ [port]⟩ := by
  unfold sweep
  rw [hports, sweepPorts_of_fault hbefore hfault]
  rfl

theorem sweep_of_ok
    (cache : PortCache δ) {ports : String → Reading UInt32} {words : String → UInt32}
    (hok : ∀ label ∈ cache.labels, ports label = .ok (words label)) :
    ∃ sweep : PortWords,
      (cache.sweep fun port => ports (Port.label port)) = ⟨.ok sweep, cache.ports⟩ ∧
        cache.InPlace sweep words := by
  have hall : ∀ port ∈ cache.ports, ports (Port.label port) = .ok (words (Port.label port)) :=
    fun port hport => hok _ (List.mem_map_of_mem hport)
  obtain ⟨sweep, hsweep, hfills⟩ := cache.sweep_of_all_ok hall
  exact ⟨sweep, hsweep, hfills.inPlace⟩

theorem sweep_of_fault
    (cache : PortCache δ) {ports : String → Reading UInt32}
    {before rest : List String} {label : String} {fault : InputFault}
    (horder : cache.labels = before ++ label :: rest)
    (hbefore : ∀ earlier ∈ before, ∃ word, ports earlier = .ok word)
    (hfault : ports label = .error fault) :
    (cache.sweep fun port => ports (Port.label port)).words = .error fault ∧
      (cache.sweep fun port => ports (Port.label port)).read.map Port.label =
        before ++ [label] := by
  obtain ⟨first, others, hports, rfl, hothers⟩ := List.map_eq_append_iff.mp horder
  obtain ⟨port, last, rfl, rfl, rfl⟩ := List.map_eq_cons_iff.mp hothers
  have hearlier : ∀ earlier ∈ first, ∃ word, ports (Port.label earlier) = .ok word :=
    fun earlier hmem => hbefore _ (List.mem_map_of_mem hmem)
  rw [cache.sweep_of_first_fault hports hearlier hfault]
  exact ⟨rfl, by simp⟩

theorem nodup_sweep_read (cache : PortCache δ) (sense : δ → Reading UInt32) :
    ((cache.sweep sense).read.map Port.label).Nodup := by
  have hread : (cache.sweep sense).read <+: cache.ports :=
    sweepPorts_read_prefix sense cache.ports
  exact cache.nodup.sublist (hread.sublist.map Port.label)

theorem register_cases (cache : PortCache δ) (port : δ) :
    (∃ index, cache.labels[index.val]? = some (Port.label port) ∧
        (cache.register port).next = cache ∧ (cache.register port).answer = .ok index) ∨
      (∃ index : Fin portCapacity, Port.label port ∉ cache.labels ∧ index.val = cache.size ∧
        (cache.register port).next.ports = cache.ports ++ [port] ∧
        (cache.register port).answer = .ok index) ∨
      (Port.label port ∉ cache.labels ∧ cache.size = 4 ∧ (cache.register port).next = cache ∧
        (cache.register port).answer = .error (.portCacheFull 4 (Port.label port))) := by
  unfold register
  by_cases hknown : Port.label port ∈ cache.labels
  · left
    have hlt : cache.labels.idxOf (Port.label port) < cache.labels.length :=
      List.idxOf_lt_length_iff.mpr hknown
    rw [dif_pos hknown]
    refine ⟨_, ?_, rfl, rfl⟩
    rw [List.getElem?_eq_getElem hlt, List.getElem_idxOf hlt]
  · right
    rw [dif_neg hknown]
    by_cases hroom : cache.ports.length < portCapacity
    · left
      rw [dif_pos hroom]
      exact ⟨_, hknown, rfl, rfl, rfl⟩
    · right
      have hfull : cache.size = 4 :=
        Nat.le_antisymm cache.length_le (Nat.not_lt.mp hroom)
      rw [dif_neg hroom]
      exact ⟨hknown, hfull, rfl, rfl⟩

theorem labels_of_ports
    {cache next : PortCache δ} {port : δ} (hports : next.ports = cache.ports ++ [port]) :
    next.labels = cache.labels ++ [Port.label port] := by
  simp [labels, hports]

theorem length_labels (cache : PortCache δ) : cache.labels.length = cache.size :=
  List.length_map _

theorem place_register
    {cache : PortCache δ} {index : Nat} {label : String}
    (hplace : cache.labels[index]? = some label) (port : δ) :
    (cache.register port).next.labels[index]? = some label := by
  rcases cache.register_cases port with
    ⟨_, _, hnext, _⟩ | ⟨_, _, _, hports, _⟩ | ⟨_, _, hnext, _⟩
  · rw [hnext, hplace]
  · have hlt : index < cache.labels.length := (List.getElem?_eq_some_iff.mp hplace).1
    rw [labels_of_ports hports, List.getElem?_append_left hlt, hplace]
  · rw [hnext, hplace]

theorem place_of_register
    {cache : PortCache δ} {port : δ} {index : Fin portCapacity}
    (hanswer : (cache.register port).answer = .ok index) :
    (cache.register port).next.labels[index.val]? = some (Port.label port) := by
  rcases cache.register_cases port with
    ⟨known, hplace, hnext, hok⟩ | ⟨last, _, hlast, hports, hok⟩ | ⟨_, _, _, herror⟩
  · obtain rfl := Except.ok.inj (hok.symm.trans hanswer)
    rw [hnext]
    exact hplace
  · obtain rfl := Except.ok.inj (hok.symm.trans hanswer)
    rw [labels_of_ports hports, hlast, ← length_labels]
    simp
  · rw [herror] at hanswer
    cases hanswer

theorem labels_of_register
    {cache : PortCache δ} {port : δ} {index : Fin portCapacity}
    (hanswer : (cache.register port).answer = .ok index) :
    (cache.register port).next.labels =
      if Port.label port ∈ cache.labels then cache.labels
      else cache.labels ++ [Port.label port] := by
  rcases cache.register_cases port with
    ⟨_, hplace, hnext, _⟩ | ⟨_, hnew, _, hports, _⟩ | ⟨_, _, _, herror⟩
  · rw [hnext, if_pos (List.mem_of_getElem? hplace)]
  · rw [labels_of_ports hports, if_neg hnew]
  · rw [herror] at hanswer
    cases hanswer

end PortCache

end Gamepad
