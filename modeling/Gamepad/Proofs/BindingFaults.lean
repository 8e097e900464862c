import Gamepad.Proofs.PortOrder
import Gamepad.Run
import Gamepad.Source
import Mathlib.Data.List.Forall2
import Mathlib.Data.List.Induction
import Mathlib.Data.List.Infix

/-!
# Where binding fails

A binder is asked for the lines of a table in order.  A line is refused if the binder does not find
it, if its bit is outside the port word, or if it lives on a fifth port.  Binding fails at the first
refused line, and the binder is not asked for any line after it.
-/

namespace Gamepad

namespace BoundLines

variable {δ : Type} [Port δ]

def foundLabel? {α : Type} (binder : α → Reading (Binding δ)) (w : α) : Option String :=
  match binder w with
  | .ok binding => some (Port.label binding.port)
  | .error _ => Option.none

/-- The ports on which a binder finds lines, in order of first appearance. -/
def foundLabels {α : Type} (binder : α → Reading (Binding δ)) (ws : List α) : List String :=
  (ws.filterMap (foundLabel? binder)).eraseDups

section

variable {σ : Type}

/-- What a binder answers for a line once it was asked for others. -/
def answerFor (binder : Binder σ δ) (memory : σ) (before : List Wiring) (w : Wiring) :
    Reading (Binding δ) :=
  (binder (Step.after binder memory before) w).answer

/-- Lines with what a binder answers when it is asked for them in turn. -/
def asked (binder : Binder σ δ) (memory : σ) (ws : List Wiring) :
    List (Wiring × Reading (Binding δ)) :=
  ws.zip ((Step.run binder memory ws).map Step.answer)

/-- The binder with a list of the lines that it was asked for. -/
def listing (binder : Binder σ δ) : Binder (σ × List Wiring) δ :=
  fun memory w =>
    let found := binder memory.1 w
    ⟨(found.next, memory.2 ++ [w]), found.answer, found.events⟩

/-- The lines that a binder is asked for while a table is bound. -/
def questions (table : WiringTable) (binder : Binder σ δ) (memory : σ) : List Wiring :=
  (bindWith table (listing binder) (memory, [])).next.2

def askedLabels (binder : Binder σ δ) (memory : σ) (ws : List Wiring) : List String :=
  foundLabels Prod.snd (asked binder memory ws)

/-- A line cannot be bound after others, and this is the fault. -/
inductive Refused (binder : Binder σ δ) (memory : σ) (before : List Wiring) (w : Wiring) :
    InputFault → Prop
  | unfound {fault : InputFault} (hanswer : answerFor binder memory before w = .error fault) :
    Refused binder memory before w fault
  | wideBit {binding : Binding δ} (hanswer : answerFor binder memory before w = .ok binding)
      (hbit : 32 ≤ binding.bit.toNat) :
    Refused binder memory before w (.bindFailed (some w.line)
      ("bit offset " ++ toString binding.bit ++ " outside port word"))
  | fifthPort {binding : Binding δ} (hanswer : answerFor binder memory before w = .ok binding)
      (hbit : binding.bit.toNat < 32)
      (hnew : Port.label binding.port ∉ askedLabels binder memory before)
      (hfull : (askedLabels binder memory before).length = 4) :
    Refused binder memory before w (.portCacheFull 4 (Port.label binding.port))

/-- Every line can be bound after those before it. -/
def NoneRefused (binder : Binder σ δ) (memory : σ) (ws : List Wiring) : Prop :=
  ∀ before w fault, before ++ [w] <+: ws → ¬ Refused binder memory before w fault

end

/-- A slot is where the binder found the line, and its port is the place of a label. -/
structure SlotOf (labels : List String) (ask : Wiring × Reading (Binding δ)) (slot : BoundLine)
    (binding : Binding δ) : Prop where
  found : ask.2 = .ok binding
  line : slot.line = ask.1.line
  bit : slot.bit.val = binding.bit.toNat
  polarity : slot.polarity = binding.polarity
  port : labels[slot.port.val]? = some (Port.label binding.port)

/-- The lines that were bound so far, wherever the binder found them. -/
structure Covers (bound : BoundLines δ) (asks : List (Wiring × Reading (Binding δ))) : Prop where
  labels : bound.cache.labels = foundLabels Prod.snd asks
  slots : List.Forall₂ (fun ask slot => ∃ binding, SlotOf bound.cache.labels ask slot binding)
    asks bound.slots

structure BindsByRules {σ : Type} (table : WiringTable) (binder : Binder σ δ) (memory : σ) :
    Prop where
  succeeds : (∃ bound, (bindWith table binder memory).answer = .ok bound) ↔
    (∀ ask ∈ asked binder memory table.entries,
        ∃ binding, ask.2 = .ok binding ∧ binding.bit.toNat < 32) ∧
      (askedLabels binder memory table.entries).length ≤ 4
  fails : ∀ fault, (bindWith table binder memory).answer = .error fault ↔
    ∃ before w rest, table.entries = before ++ w :: rest ∧ NoneRefused binder memory before ∧
      Refused binder memory before w fault
  /-- The first refused line is the last one the binder is asked for.  Neither the lines after it
  nor what the binder would answer there make a difference. -/
  stops : ∀ before w rest fault, table.entries = before ++ w :: rest →
    NoneRefused binder memory before → Refused binder memory before w fault →
      questions table binder memory = before ++ [w] ∧
        (bindWith table binder memory).next = Step.after binder memory (before ++ [w]) ∧
        ∀ (other : WiringTable) (otherBinder : Binder σ δ), before ++ [w] <+: other.entries →
          Step.run otherBinder memory (before ++ [w]) = Step.run binder memory (before ++ [w]) →
            bindWith other otherBinder memory = bindWith table binder memory
  asksAll : ∀ bound, (bindWith table binder memory).answer = .ok bound →
    questions table binder memory = table.entries ∧
      (bindWith table binder memory).next = Step.after binder memory table.entries
  covered : ∀ bound, (bindWith table binder memory).answer = .ok bound →
    bound.Covers (asked binder memory table.entries)

/-! ## Ports that were found -/

theorem foundLabels_append_singleton
    {α : Type} (binder : α → Reading (Binding δ)) (ws : List α) {w : α} {binding : Binding δ}
    (hbinder : binder w = .ok binding) :
    foundLabels binder (ws ++ [w]) =
      if Port.label binding.port ∈ foundLabels binder ws then foundLabels binder ws
      else foundLabels binder ws ++ [Port.label binding.port] := by
  have hlabel : [w].filterMap (foundLabel? binder) = [Port.label binding.port] := by
    simp [foundLabel?, hbinder]
  unfold foundLabels
  rw [List.filterMap_append, hlabel, eraseDups_append_singleton]
  simp only [List.mem_eraseDups]

theorem length_foundLabels_le {α : Type} (binder : α → Reading (Binding δ)) (before rest : List α) :
    (foundLabels binder before).length ≤ (foundLabels binder (before ++ rest)).length := by
  unfold foundLabels
  rw [List.filterMap_append]
  exact length_eraseDups_le_append _ _

section

variable {σ : Type} {binder : Binder σ δ} {memory : σ}

/-! ## Rules -/

omit [Port δ] in
theorem asked_append_singleton (ws : List Wiring) (w : Wiring) :
    asked binder memory (ws ++ [w]) =
      asked binder memory ws ++ [(w, answerFor binder memory ws w)] := by
  unfold asked
  rw [Step.run_append, List.map_append, List.zip_append (by simp)]
  rfl

theorem askedLabels_append_singleton
    {ws : List Wiring} {w : Wiring} {binding : Binding δ}
    (hanswer : answerFor binder memory ws w = .ok binding) :
    askedLabels binder memory (ws ++ [w]) =
      if Port.label binding.port ∈ askedLabels binder memory ws then askedLabels binder memory ws
      else askedLabels binder memory ws ++ [Port.label binding.port] := by
  unfold askedLabels
  rw [asked_append_singleton]
  exact foundLabels_append_singleton Prod.snd _ hanswer

theorem prefix_of_split (before : List Wiring) (w : Wiring) (rest : List Wiring) :
    before ++ [w] <+: before ++ w :: rest :=
  ⟨rest, by simp⟩

theorem noneRefused_append_singleton {ws : List Wiring} {w : Wiring} :
    NoneRefused binder memory (ws ++ [w]) ↔
      NoneRefused binder memory ws ∧ ∀ fault, ¬ Refused binder memory ws w fault := by
  constructor
  · intro hnone
    refine ⟨?_, fun fault => hnone ws w fault List.prefix_rfl⟩
    intro before v fault hinit
    exact hnone before v fault (hinit.trans (List.prefix_append ws [w]))
  · rintro ⟨hnone, hlast⟩ before v fault hinit
    rcases List.prefix_concat_iff.mp hinit with heq | hearlier
    · obtain ⟨rfl, hv⟩ := List.append_inj' heq rfl
      obtain rfl := List.singleton_inj.mp hv
      exact hlast fault
    · exact hnone before v fault hearlier

theorem noneRefused_nil : NoneRefused binder memory [] := by
  intro before w fault hinit
  simp at hinit

theorem noneRefused_or_first (binder : Binder σ δ) (memory : σ) (ws : List Wiring) :
    NoneRefused binder memory ws ∨
      ∃ before w rest fault, ws = before ++ w :: rest ∧ NoneRefused binder memory before ∧
        Refused binder memory before w fault := by
  induction ws using List.reverseRecOn with
  | nil => exact .inl noneRefused_nil
  | append_singleton ws w ih =>
      rcases ih with hnone | ⟨before, v, rest, fault, rfl, hbefore, hrefused⟩
      · by_cases hlast : ∃ fault, Refused binder memory ws w fault
        · obtain ⟨fault, hrefused⟩ := hlast
          exact .inr ⟨ws, w, [], fault, rfl, hnone, hrefused⟩
        · exact .inl (noneRefused_append_singleton.mpr ⟨hnone, not_exists.mp hlast⟩)
      · exact .inr ⟨before, v, rest ++ [w], fault, by simp, hbefore, hrefused⟩

theorem not_refused_iff
    {ws : List Wiring} (hroom : (askedLabels binder memory ws).length ≤ 4) {w : Wiring} :
    (∀ fault, ¬ Refused binder memory ws w fault) ↔
      (∃ binding, answerFor binder memory ws w = .ok binding ∧ binding.bit.toNat < 32) ∧
        (askedLabels binder memory (ws ++ [w])).length ≤ 4 := by
  cases hanswer : answerFor binder memory ws w with
  | error fault =>
      constructor
      · intro hnone
        exact absurd (.unfound hanswer) (hnone fault)
      · rintro ⟨⟨binding, hfound, -⟩, -⟩
        cases hfound
  | ok binding =>
      have hlabels := askedLabels_append_singleton hanswer
      constructor
      · intro hnone
        have hbit : binding.bit.toNat < 32 := by
          apply Nat.lt_of_not_le
          intro hwide
          exact hnone _ (.wideBit hanswer hwide)
        refine ⟨⟨binding, rfl, hbit⟩, ?_⟩
        rw [hlabels]
        split
        next => exact hroom
        next hnew =>
          have hfull : (askedLabels binder memory ws).length ≠ 4 := by
            intro hfull
            exact hnone _ (.fifthPort hanswer hbit hnew hfull)
          rw [List.length_append, List.length_singleton]
          omega
      · rintro ⟨⟨same, hsame, hbit⟩, hmore⟩ fault hrefused
        obtain rfl := Except.ok.inj hsame
        cases hrefused with
        | unfound hunfound => cases hanswer.symm.trans hunfound
        | wideBit hfound hwide =>
            obtain rfl := Except.ok.inj (hanswer.symm.trans hfound)
            omega
        | fifthPort hfound _ hnew hfull =>
            obtain rfl := Except.ok.inj (hanswer.symm.trans hfound)
            rw [hlabels, if_neg hnew, List.length_append, List.length_singleton] at hmore
            omega

theorem noneRefused_iff {ws : List Wiring} :
    NoneRefused binder memory ws ↔
      (∀ ask ∈ asked binder memory ws, ∃ binding, ask.2 = .ok binding ∧ binding.bit.toNat < 32) ∧
        (askedLabels binder memory ws).length ≤ 4 := by
  induction ws using List.reverseRecOn with
  | nil => exact iff_of_true noneRefused_nil ⟨by simp [asked], Nat.zero_le 4⟩
  | append_singleton ws w ih =>
      have hshorter : (askedLabels binder memory ws).length ≤
          (askedLabels binder memory (ws ++ [w])).length := by
        unfold askedLabels
        rw [asked_append_singleton]
        exact length_foundLabels_le _ _ _
      rw [noneRefused_append_singleton, ih, asked_append_singleton]
      simp only [List.forall_mem_append, List.forall_mem_singleton]
      constructor
      · rintro ⟨⟨hfound, hroom⟩, hlast⟩
        obtain ⟨hw, hmore⟩ := (not_refused_iff hroom).mp hlast
        exact ⟨⟨hfound, hw⟩, hmore⟩
      · rintro ⟨⟨hfound, hw⟩, hmore⟩
        have hroom := hshorter.trans hmore
        exact ⟨⟨hfound, hroom⟩, (not_refused_iff hroom).mpr ⟨hw, hmore⟩⟩

/-! ## Adding one line -/

theorem none_covers : (none : BoundLines δ).Covers [] where
  labels := rfl
  slots := .nil

theorem Covers.push
    {bound : BoundLines δ} {asks : List (Wiring × Reading (Binding δ))}
    (hcovers : bound.Covers asks) (w : Wiring) {binding : Binding δ}
    (hbit : binding.bit.toNat < 32) {index : Fin portCapacity}
    (hanswer : (bound.cache.register binding.port).answer = .ok index) :
    (⟨(bound.cache.register binding.port).next,
      bound.slots ++ [⟨w.line, index, ⟨_, hbit⟩, binding.polarity⟩]⟩ : BoundLines δ).Covers
        (asks ++ [(w, .ok binding)]) := by
  refine ⟨?_, ?_⟩
  · have hlabels : foundLabels Prod.snd (asks ++ [(w, .ok binding)]) = _ :=
      foundLabels_append_singleton Prod.snd asks rfl
    rw [PortCache.labels_of_register hanswer, hlabels, hcovers.labels]
  · apply List.rel_append
    · -- The labels that were there keep their places.
      refine hcovers.slots.imp ?_
      rintro ask slot ⟨earlier, hslot⟩
      refine ⟨earlier, { hslot with port := ?_ }⟩
      exact PortCache.place_register hslot.port binding.port
    · exact .cons ⟨binding, rfl, rfl, rfl, rfl, PortCache.place_of_register hanswer⟩ .nil

theorem add_of_refused
    {bound : BoundLines δ} {ws : List Wiring} (hcovers : bound.Covers (asked binder memory ws))
    {w : Wiring} {fault : InputFault} (hrefused : Refused binder memory ws w fault) :
    (bound.add w (answerFor binder memory ws w)).value = .error fault := by
  cases hrefused with
  | unfound hanswer => simp only [add, hanswer]
  | wideBit hanswer hbit => simp only [add, hanswer, dif_neg (Nat.not_lt.mpr hbit)]
  | @fifthPort binding hanswer hbit hnew hfull =>
      rw [askedLabels, ← hcovers.labels] at hnew hfull
      have herror : (bound.cache.register binding.port).answer =
          .error (.portCacheFull 4 (Port.label binding.port)) := by
        rcases bound.cache.register_cases binding.port with
          ⟨_, hplace, _⟩ | ⟨index, _, hindex, _⟩ | ⟨_, _, _, herror⟩
        · exact absurd (List.mem_of_getElem? hplace) hnew
        · have hroom : index.val < 4 := index.isLt
          rw [hindex, ← PortCache.length_labels, hfull] at hroom
          exact absurd hroom (Nat.lt_irrefl 4)
        · exact herror
      simp only [add, hanswer, dif_pos hbit, herror]
      rfl

theorem add_of_not_refused
    {bound : BoundLines δ} {ws : List Wiring} (hcovers : bound.Covers (asked binder memory ws))
    {w : Wiring} (hnone : ∀ fault, ¬ Refused binder memory ws w fault) :
    ∃ next, (bound.add w (answerFor binder memory ws w)).value = .ok next ∧
      next.Covers (asked binder memory (ws ++ [w])) := by
  have hroom : (askedLabels binder memory ws).length ≤ 4 := by
    rw [askedLabels, ← hcovers.labels, PortCache.length_labels]
    exact bound.cache.length_le
  obtain ⟨⟨binding, hanswer, hbit⟩, -⟩ := (not_refused_iff hroom).mp hnone
  have hplaced : ∃ index, (bound.cache.register binding.port).answer = .ok index := by
    rcases bound.cache.register_cases binding.port with
      ⟨index, _, _, hok⟩ | ⟨index, _, _, _, hok⟩ | ⟨hnew, hfull, _⟩
    · exact ⟨index, hok⟩
    · exact ⟨index, hok⟩
    · rw [← PortCache.length_labels] at hfull
      rw [hcovers.labels] at hnew hfull
      exact absurd (.fifthPort hanswer hbit hnew hfull) (hnone _)
  obtain ⟨index, hok⟩ := hplaced
  rw [asked_append_singleton, hanswer]
  refine ⟨_, ?_, hcovers.push w hbit hok⟩
  simp only [add, dif_pos hbit, hok]
  rfl

/-! ## Asking line by line -/

theorem bindLines_append_of_ok
    {ws : List Wiring} {bound next : BoundLines δ}
    (hok : (bindLines binder ws memory bound).answer = .ok next) (more : List Wiring) :
    (bindLines binder (ws ++ more) memory bound).answer =
        (bindLines binder more (Step.after binder memory ws) next).answer ∧
      (bindLines binder (ws ++ more) memory bound).next =
        (bindLines binder more (Step.after binder memory ws) next).next := by
  induction ws generalizing memory bound with
  | nil =>
      obtain rfl := Except.ok.inj hok
      exact ⟨rfl, rfl⟩
  | cons w ws ih =>
      simp only [bindLines] at hok
      cases hfirst : (bound.add w (binder memory w).answer).value with
      | error fault => simp [hfirst] at hok
      | ok first =>
          rw [hfirst] at hok
          simp only [List.cons_append, bindLines, hfirst, Step.after_cons]
          exact ih hok

theorem bindLines_append_of_error
    {ws : List Wiring} {bound : BoundLines δ} {fault : InputFault}
    (herror : (bindLines binder ws memory bound).answer = .error fault) (more : List Wiring) :
    bindLines binder (ws ++ more) memory bound = bindLines binder ws memory bound := by
  induction ws generalizing memory bound with
  | nil => cases herror
  | cons w ws ih =>
      simp only [bindLines] at herror
      simp only [List.cons_append, bindLines]
      cases hfirst : (bound.add w (binder memory w).answer).value with
      | error fault => rfl
      | ok first =>
          rw [hfirst] at herror
          simp only [ih herror]

theorem bindLines_congr
    {ws : List Wiring} {otherBinder : Binder σ δ}
    (hsame : Step.run otherBinder memory ws = Step.run binder memory ws) (bound : BoundLines δ) :
    bindLines otherBinder ws memory bound = bindLines binder ws memory bound := by
  induction ws generalizing memory bound with
  | nil => rfl
  | cons w ws ih =>
      obtain ⟨hfirst, hrest⟩ := List.cons.inj hsame
      rw [hfirst] at hrest
      simp only [bindLines, hfirst, ih hrest]

theorem bindLines_of_noneRefused {ws : List Wiring} (hnone : NoneRefused binder memory ws) :
    ∃ all, (bindLines binder ws memory none).answer = .ok all ∧
      all.Covers (asked binder memory ws) := by
  induction ws using List.reverseRecOn with
  | nil => exact ⟨none, rfl, none_covers⟩
  | append_singleton ws w ih =>
      obtain ⟨hbefore, hlast⟩ := noneRefused_append_singleton.mp hnone
      obtain ⟨bound, hok, hcovers⟩ := ih hbefore
      obtain ⟨next, hadded, hcovered⟩ := add_of_not_refused hcovers hlast
      refine ⟨next, ?_, hcovered⟩
      rw [answerFor] at hadded
      rw [(bindLines_append_of_ok hok [w]).1]
      simp only [bindLines, hadded]

theorem bindLines_of_refused
    {before : List Wiring} {w : Wiring} {fault : InputFault}
    (hnone : NoneRefused binder memory before) (hrefused : Refused binder memory before w fault) :
    (bindLines binder (before ++ [w]) memory none).answer = .error fault ∧
      (bindLines binder (before ++ [w]) memory none).next =
        Step.after binder memory (before ++ [w]) := by
  obtain ⟨bound, hok, hcovers⟩ := bindLines_of_noneRefused hnone
  obtain ⟨hanswer, hnext⟩ := bindLines_append_of_ok hok [w]
  have hadded := add_of_refused hcovers hrefused
  rw [answerFor] at hadded
  rw [hanswer, hnext, Step.after_append]
  simp only [bindLines, hadded, Step.after_cons, Step.after_nil, and_self]

theorem bindLines_stop
    {before : List Wiring} {w : Wiring} {fault : InputFault}
    (hnone : NoneRefused binder memory before) (hrefused : Refused binder memory before w fault)
    {ws : List Wiring} (hinit : before ++ [w] <+: ws) {otherBinder : Binder σ δ}
    (hsame : Step.run otherBinder memory (before ++ [w]) =
      Step.run binder memory (before ++ [w])) :
    bindLines otherBinder ws memory none = bindLines binder (before ++ [w]) memory none := by
  obtain ⟨rest, rfl⟩ := hinit
  have hfails := (bindLines_of_refused hnone hrefused).1
  rw [← bindLines_congr hsame] at hfails ⊢
  exact bindLines_append_of_error hfails rest

/-! ## Binding a table -/

theorem bindWith_answer (table : WiringTable) (binder : Binder σ δ) (memory : σ) :
    (bindWith table binder memory).answer =
      (bindLines binder table.entries memory none).answer := by
  simp only [bindWith]
  cases (bindLines binder table.entries memory none).answer <;> rfl

theorem bindWith_next (table : WiringTable) (binder : Binder σ δ) (memory : σ) :
    (bindWith table binder memory).next = (bindLines binder table.entries memory none).next := by
  simp only [bindWith]
  cases (bindLines binder table.entries memory none).answer <;> rfl

variable {table : WiringTable}

theorem bindWith_of_noneRefused (hnone : NoneRefused binder memory table.entries) :
    ∃ bound, (bindWith table binder memory).answer = .ok bound ∧
      (bindWith table binder memory).next = Step.after binder memory table.entries ∧
      bound.Covers (asked binder memory table.entries) := by
  obtain ⟨bound, hok, hcovers⟩ := bindLines_of_noneRefused hnone
  have hnext := (bindLines_append_of_ok hok []).2
  rw [List.append_nil] at hnext
  rw [bindWith_answer, bindWith_next, hnext]
  exact ⟨bound, hok, rfl, hcovers⟩

theorem bindWith_of_refused
    {before rest : List Wiring} {w : Wiring} {fault : InputFault}
    (hentries : table.entries = before ++ w :: rest) (hnone : NoneRefused binder memory before)
    (hrefused : Refused binder memory before w fault) :
    (bindWith table binder memory).answer = .error fault ∧
      (bindWith table binder memory).next = Step.after binder memory (before ++ [w]) := by
  have hinit := prefix_of_split before w rest
  rw [bindWith_answer, bindWith_next, hentries, bindLines_stop hnone hrefused hinit rfl]
  exact bindLines_of_refused hnone hrefused

theorem bindWith_eq_ok_iff :
    (∃ bound, (bindWith table binder memory).answer = .ok bound) ↔
      NoneRefused binder memory table.entries := by
  constructor
  · rintro ⟨bound, hok⟩
    rcases noneRefused_or_first binder memory table.entries with
      hnone | ⟨before, w, rest, fault, hentries, hnone, hrefused⟩
    · exact hnone
    · cases hok.symm.trans (bindWith_of_refused hentries hnone hrefused).1
  · intro hnone
    obtain ⟨bound, hok, -, -⟩ := bindWith_of_noneRefused hnone
    exact ⟨bound, hok⟩

theorem bindWith_eq_error_iff {fault : InputFault} :
    (bindWith table binder memory).answer = .error fault ↔
      ∃ before w rest, table.entries = before ++ w :: rest ∧ NoneRefused binder memory before ∧
        Refused binder memory before w fault := by
  constructor
  · intro herror
    rcases noneRefused_or_first binder memory table.entries with
      hnone | ⟨before, w, rest, cause, hentries, hnone, hrefused⟩
    · obtain ⟨bound, hok, -, -⟩ := bindWith_of_noneRefused hnone
      cases herror.symm.trans hok
    · have hcause := (bindWith_of_refused hentries hnone hrefused).1
      obtain rfl := Except.error.inj (hcause.symm.trans herror)
      exact ⟨before, w, rest, hentries, hnone, hrefused⟩
  · rintro ⟨before, w, rest, hentries, hnone, hrefused⟩
    exact (bindWith_of_refused hentries hnone hrefused).1

theorem covers_of_bindWith
    {bound : BoundLines δ} (hok : (bindWith table binder memory).answer = .ok bound) :
    bound.Covers (asked binder memory table.entries) := by
  have hnone := bindWith_eq_ok_iff.mp ⟨bound, hok⟩
  obtain ⟨same, hsame, -, hcovers⟩ := bindWith_of_noneRefused hnone
  obtain rfl := Except.ok.inj (hsame.symm.trans hok)
  exact hcovers

/-! ## Lines that are asked for -/

omit [Port δ] in
theorem after_listing (seen ws : List Wiring) :
    Step.after (listing binder) (memory, seen) ws = (Step.after binder memory ws, seen ++ ws) := by
  induction ws generalizing memory seen with
  | nil => simp
  | cons w ws ih =>
      rw [Step.after_cons, Step.after_cons, List.append_cons]
      exact ih (seen ++ [w])

omit [Port δ] in
theorem answerFor_listing (seen before : List Wiring) (w : Wiring) :
    answerFor (listing binder) (memory, seen) before w = answerFor binder memory before w := by
  unfold answerFor
  rw [after_listing]
  rfl

omit [Port δ] in
theorem asked_listing (seen ws : List Wiring) :
    asked (listing binder) (memory, seen) ws = asked binder memory ws := by
  induction ws using List.reverseRecOn with
  | nil => rfl
  | append_singleton ws w ih =>
      rw [asked_append_singleton, asked_append_singleton, ih, answerFor_listing]

theorem NoneRefused.listing
    {ws : List Wiring} (hnone : NoneRefused binder memory ws) (seen : List Wiring) :
    NoneRefused (listing binder) (memory, seen) ws := by
  rw [noneRefused_iff, askedLabels] at hnone ⊢
  rw [asked_listing]
  exact hnone

theorem Refused.listing
    {before : List Wiring} {w : Wiring} {fault : InputFault}
    (hrefused : Refused binder memory before w fault) (seen : List Wiring) :
    Refused (listing binder) (memory, seen) before w fault := by
  have hasked : answerFor (BoundLines.listing binder) (memory, seen) before w =
      answerFor binder memory before w := answerFor_listing seen before w
  have hlabels : askedLabels (BoundLines.listing binder) (memory, seen) before =
      askedLabels binder memory before := by
    rw [askedLabels, asked_listing, askedLabels]
  cases hrefused with
  | unfound hanswer => exact .unfound (hasked.trans hanswer)
  | wideBit hanswer hbit => exact .wideBit (hasked.trans hanswer) hbit
  | fifthPort hanswer hbit hnew hfull =>
      rw [← hlabels] at hnew hfull
      exact .fifthPort (hasked.trans hanswer) hbit hnew hfull

theorem questions_of_noneRefused (hnone : NoneRefused binder memory table.entries) :
    questions table binder memory = table.entries := by
  obtain ⟨-, -, hnext, -⟩ := bindWith_of_noneRefused (hnone.listing [])
  rw [questions, hnext, after_listing]
  rfl

theorem questions_of_refused
    {before rest : List Wiring} {w : Wiring} {fault : InputFault}
    (hentries : table.entries = before ++ w :: rest) (hnone : NoneRefused binder memory before)
    (hrefused : Refused binder memory before w fault) :
    questions table binder memory = before ++ [w] := by
  have hnext := (bindWith_of_refused hentries (hnone.listing []) (hrefused.listing [])).2
  rw [questions, hnext, after_listing]
  rfl

/-- Whatever the binder answers, binding succeeds if every line is found in a port word and there
are no more than four ports, and otherwise fails at the first line that breaks a rule. -/
theorem bind_follows_rules (table : WiringTable) (binder : Binder σ δ) (memory : σ) :
    BindsByRules table binder memory where
  succeeds := bindWith_eq_ok_iff.trans noneRefused_iff
  fails := fun _ => bindWith_eq_error_iff
  stops := by
    intro before w rest fault hentries hnone hrefused
    refine ⟨questions_of_refused hentries hnone hrefused,
      (bindWith_of_refused hentries hnone hrefused).2, ?_⟩
    intro other otherBinder hinit hsame
    have hhere := bindLines_stop hnone hrefused (prefix_of_split before w rest) rfl
    rw [← hentries] at hhere
    have hthere := bindLines_stop hnone hrefused hinit hsame
    simp only [bindWith, hhere, hthere]
  asksAll := by
    intro bound hok
    have hnone := bindWith_eq_ok_iff.mp ⟨bound, hok⟩
    obtain ⟨-, -, hnext, -⟩ := bindWith_of_noneRefused hnone
    exact ⟨questions_of_noneRefused hnone, hnext⟩
  covered := fun _ => covers_of_bindWith

end

/-- A binder that gives out every pin once. -/
def pinOnce : Binder (List Wiring) String :=
  fun seen w => ⟨seen ++ [w],
    if seen.any fun v => v.port = w.port ∧ v.pin = w.pin then
      .error (.bindFailed (some w.line) "pin in use")
    else .ok ⟨w.port, w.pin, w.polarity⟩, []⟩

/-- The fifth line shares a port with the first, and the sixth and seventh are on ports of their
own. -/
def sixPorts : WiringTable where
  entries :=
    [{ line := .button .south, port := "gpio0", pin := 4 },
      { line := .button .east, port := "gpio1", pin := 4 },
      { line := .button .west, port := "gpio2", pin := 4 },
      { line := .button .north, port := "gpio3", pin := 4 },
      { line := .button .start, port := "gpio0", pin := 31 },
      { line := .button .home, port := "gpio4", pin := 4 },
      { line := .button .select, port := "gpio5", pin := 32 }]
  nodup := by decide

theorem sixPorts_refused :
    (bindWith sixPorts pinOnce []).answer = .error (.portCacheFull 4 "gpio4") ∧
      questions sixPorts pinOnce [] = sixPorts.entries.take 6 := by
  have hrules := bind_follows_rules sixPorts pinOnce []
  have hnone : NoneRefused pinOnce [] (sixPorts.entries.take 5) := by
    refine noneRefused_iff.mpr ⟨?_, by decide⟩
    simp [asked, sixPorts, pinOnce]
  have hrefused : Refused pinOnce [] (sixPorts.entries.take 5)
      ⟨.button .home, "gpio4", 4, false, .none⟩ (.portCacheFull 4 "gpio4") :=
    @Refused.fifthPort _ _ _ pinOnce [] _ _ ⟨"gpio4", 4, .activeHigh⟩ rfl (by decide) (by decide)
      (by decide)
  refine ⟨(hrules.fails _).mpr ⟨_, _, _, rfl, hnone, hrefused⟩, ?_⟩
  exact (hrules.stops _ _ _ _ rfl hnone hrefused).1

/-! ## Binders that remember nothing -/

section

variable {find : Wiring → Reading (Binding δ)} {table : WiringTable}

omit [Port δ] in
theorem asked_ofFn (find : Wiring → Reading (Binding δ)) (ws : List Wiring) :
    asked (.ofFn find) () ws = ws.map fun w => (w, find w) := by
  induction ws with
  | nil => rfl
  | cons w ws ih => exact congrArg ((w, find w) :: ·) ih

theorem foundLabels_map_pair (find : Wiring → Reading (Binding δ)) (ws : List Wiring) :
    foundLabels Prod.snd (ws.map fun w => (w, find w)) = foundLabels find ws := by
  rw [foundLabels, List.filterMap_map]
  rfl

theorem bind_eq_ok_iff :
    (∃ bound, (bind table find).value = .ok bound) ↔
      (∀ w ∈ table.entries, ∃ binding, find w = .ok binding ∧ binding.bit.toNat < 32) ∧
        (foundLabels find table.entries).length ≤ 4 := by
  refine bindWith_eq_ok_iff.trans (noneRefused_iff.trans ?_)
  rw [askedLabels, asked_ofFn, foundLabels_map_pair, List.forall_mem_map]

theorem refused_of_bind {fault : InputFault} (hfault : (bind table find).value = .error fault) :
    ∃ before, ∃ w ∈ table.entries, Refused (.ofFn find) () before w fault := by
  obtain ⟨before, w, rest, hentries, -, hrefused⟩ := bindWith_eq_error_iff.mp hfault
  exact ⟨before, w, by simp [hentries], hrefused⟩

theorem covers_of_bind {bound : BoundLines δ} (hok : (bind table find).value = .ok bound) :
    bound.Covers (table.entries.map fun w => (w, find w)) := by
  rw [← asked_ofFn]
  exact covers_of_bindWith hok

end

end BoundLines

end Gamepad
