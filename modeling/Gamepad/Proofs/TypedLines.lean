import Gamepad.Feeder
import Gamepad.Proofs.SnapshotText
import Gamepad.Run
import Mathlib.Data.List.Basic

/-!
# What typed lines deliver

A line whose tokens all name input lines yields the snapshot that asserts these lines, and no other
line yields anything.  The feeder offers exactly these snapshots to its target, in order.
-/

namespace Gamepad

namespace Feeder

/-- The lines between the line feeds; what follows the last line feed is a line unless it is
empty. -/
def linesOf (bytes : List UInt8) : List (List UInt8) :=
  let pieces := bytes.splitOn newline
  if pieces.getLast? = some [] then pieces.dropLast else pieces

def textOf? (line : List UInt8) : Option (List Char) :=
  (String.fromUTF8? ⟨line.toArray⟩).map String.toList

def tokens (text : List Char) : List (List Char) :=
  (text.splitOnP Text.isBlank).filter (· ≠ [])

def snapshotOf? (text : List Char) : Option Snapshot :=
  if ∀ token ∈ tokens text, ∃ l ∈ Line.all, l.name.toList = token then
    some { lines := Table.ofFn fun l => decide (l.name.toList ∈ tokens text) }
  else none

/-- What a line yields if it is UTF-8, which need not be a snapshot. -/
def yield? (line : List UInt8) : Option (Option Snapshot) :=
  (textOf? line).map snapshotOf?

/-- What lines yield up to the first that is not UTF-8. -/
def snapshotsOf (lines : List (List UInt8)) : List Snapshot :=
  ((lines.map yield?).takeWhile Option.isSome).filterMap Option.join

/-- What an input yields to a feeder that may be cancelled after so many lines. -/
def dueSnapshots (limit : Option Nat) (bytes : List UInt8) : List Snapshot :=
  let lines := linesOf bytes
  snapshotsOf (lines.take (limit.getD lines.length))

end Feeder

namespace Target

variable {δ : Type} [Port δ]

def offer (target : Target) (source : Option (Source δ)) (s : Snapshot) :
    Step (Option (Source δ)) (Except Rejection Unit) :=
  let (next, outcome) := target.deliver source s
  ⟨next, outcome, .typed s.asserted ::
    match outcome with
    | .ok () => []
    | .error cause => [.typedDropped cause]⟩

def outcomes (target : Target) (source : Option (Source δ)) (snapshots : List Snapshot) :
    List (Except Rejection Unit) :=
  (Step.run target.offer source snapshots).map Step.answer

end Target

/-- Whether an event reports a snapshot that was offered to a target, or that it was dropped. -/
def Event.isOffer : Event → Bool
  | typed _ | typedDropped _ => true
  | _ => false

namespace OverrideQueue

def room (queue : OverrideQueue) : Nat :=
  queue.capacity - queue.pending.length

/-- A queue once snapshots were pushed as long as there was room. -/
def filled (queue : OverrideQueue) (snapshots : List Snapshot) : OverrideQueue :=
  { queue with
    pending := queue.pending ++ snapshots.take queue.room
    pending_le := by
      have hle := queue.pending_le
      rw [List.length_append, List.length_take, room]
      omega }

def answers (queue : OverrideQueue) (offered : Nat) : List (Except Rejection Unit) :=
  List.replicate (min queue.room offered) (.ok ()) ++
    List.replicate (offered - queue.room) (.error .full)

end OverrideQueue

namespace Feeder

/-! ## Lines -/

theorem splitOn_newline (bytes : List UInt8) :
    bytes.splitOn newline = (cut bytes).1 ++ [(cut bytes).2] := by
  induction bytes with
  | nil => rfl
  | cons b bytes ih =>
      rw [List.splitOn_cons_eq_if_modifyHead, ih]
      simp only [cut]
      rcases cut bytes with ⟨lines, rest⟩
      by_cases hb : b = newline
      · simp [hb]
      · cases lines with
        | nil => simp [hb]
        | cons line lines => simp [hb]

theorem linesOf_eq (bytes : List UInt8) :
    linesOf bytes =
      (cut bytes).1 ++ if (cut bytes).2.isEmpty then [] else [(cut bytes).2] := by
  unfold linesOf
  rw [splitOn_newline]
  rcases cut bytes with ⟨lines, rest⟩
  cases rest with
  | nil => simp
  | cons b rest => simp

theorem allLines_eq (bytes : List UInt8) :
    allLines bytes =
      (cut bytes).1.map chomp ++ if (cut bytes).2.isEmpty then [] else [(cut bytes).2] := by
  unfold allLines completeLines
  rcases cut bytes with ⟨lines, rest⟩
  cases rest with
  | nil => simp
  | cons b rest => simp

theorem length_allLines (bytes : List UInt8) :
    (allLines bytes).length = (linesOf bytes).length := by
  rw [allLines_eq, linesOf_eq, List.length_append, List.length_append, List.length_map]

/-! ## Text -/

theorem textOf?_eq_some_iff {line : List UInt8} {text : List Char} :
    textOf? line = some text ↔ text.flatMap String.utf8EncodeChar = line := by
  have hbytes : ⟨line.toArray⟩ = text.utf8Encode ↔
      text.flatMap String.utf8EncodeChar = line := by
    rw [List.utf8Encode, ByteArray.ext_iff, List.data_toByteArray, List.toArray_eq_iff,
      eq_comm, List.toList_toArray]
  rw [← hbytes]
  unfold textOf? String.fromUTF8?
  constructor
  · intro htext
    split at htext
    next hvalid =>
      obtain rfl := Option.some.inj htext
      rw [String.utf8Encode_toList]
      rfl
    next => cases htext
  · intro hencode
    have hvalid : ByteArray.IsValidUTF8 ⟨line.toArray⟩ := ⟨text, hencode⟩
    have hstring : String.fromUTF8 ⟨line.toArray⟩ hvalid = String.ofList text := by
      rw [← String.toByteArray_inj, String.toByteArray_ofList, ← hencode]
      rfl
    rw [dif_pos hvalid, hstring, Option.map_some, String.toList_ofList]

theorem eq_return_of_getLast?
    {c : Char} (hlast : (String.utf8EncodeChar c).getLast? = some carriageReturn) :
    c = '\r' := by
  -- A continuation byte is never a carriage return, so the character has one byte only.
  obtain ⟨hlt, hbyte⟩ := List.getElem?_eq_some_iff.mp (List.getLast?_eq_getElem? ▸ hlast)
  have hfirst : (String.utf8EncodeChar c)[(String.utf8EncodeChar c).length - 1].IsUTF8FirstByte ↔
      (String.utf8EncodeChar c).length - 1 = 0 := UInt8.isUTF8FirstByte_getElem_utf8EncodeChar
  rw [hbyte] at hfirst
  have hlength := hfirst.mp (by decide)
  rw [String.length_utf8EncodeChar] at hlength
  have hsize : c.utf8Size = 1 := by
    have hpos := c.utf8Size_pos
    omega
  rw [String.utf8EncodeChar_eq_singleton hsize, List.getLast?_singleton, Option.some.injEq]
    at hlast
  have hascii : c.val.toNat ≤ 127 :=
    UInt32.le_iff_toNat_le.mp (Char.utf8Size_eq_one_iff.mp hsize)
  have hcode : c.val.toNat % 256 = 13 := congrArg UInt8.toNat hlast
  have hvalue : c.val.toNat = 13 := by omega
  exact Char.ext (UInt32.toNat_inj.mp hvalue)

theorem textOf?_append_return (line : List UInt8) :
    textOf? (line ++ [carriageReturn]) = (textOf? line).map (· ++ ['\r']) := by
  have hreturn : String.utf8EncodeChar '\r' = [carriageReturn] := by decide
  apply Option.ext
  intro text
  rw [textOf?_eq_some_iff, Option.map_eq_some_iff]
  constructor
  · intro hline
    rcases List.eq_nil_or_concat text with rfl | ⟨before, c, rfl⟩
    · simp at hline
    · rw [List.concat_eq_append, List.flatMap_append, List.flatMap_singleton] at hline
      have hlast : (String.utf8EncodeChar c).getLast? = some carriageReturn := by
        rw [← List.getLast?_append_of_ne_nil _ String.utf8EncodeChar_ne_nil, hline,
          List.getLast?_concat]
      obtain rfl := eq_return_of_getLast? hlast
      rw [hreturn] at hline
      exact ⟨before, textOf?_eq_some_iff.mpr (List.append_cancel_right hline),
        List.concat_eq_append.symm⟩
  · rintro ⟨before, hbefore, rfl⟩
    rw [List.flatMap_append, List.flatMap_singleton, hreturn, textOf?_eq_some_iff.mp hbefore]

theorem tokens_append_return (text : List Char) :
    tokens (text ++ ['\r']) = tokens text := by
  have hblank : Text.isBlank '\r' = true := by decide
  unfold tokens
  rw [List.splitOnP_append_cons text [] hblank]
  simp

theorem yield?_chomp (line : List UInt8) : yield? (chomp line) = yield? line := by
  unfold chomp
  split
  next hlast =>
    have hsame : snapshotOf? ∘ (· ++ ['\r']) = snapshotOf? := by
      funext text
      simp only [Function.comp, snapshotOf?, tokens_append_return]
    calc
      yield? line.dropLast = (textOf? (line.dropLast ++ [carriageReturn])).map snapshotOf? := by
        rw [textOf?_append_return, Option.map_map, hsame, yield?]
      _ = yield? line := by rw [List.dropLast_append_getLast? _ hlast, yield?]
  next => rfl

theorem map_yield?_allLines (bytes : List UInt8) :
    (allLines bytes).map yield? = (linesOf bytes).map yield? := by
  have hchomp : yield? ∘ chomp = yield? := funext yield?_chomp
  rw [allLines_eq, linesOf_eq, List.map_append, List.map_append, List.map_map, hchomp]

/-! ## Snapshots -/

theorem exists_splitOnP (p : Char → Bool) (text : List Char) :
    ∃ first more, text.splitOnP p = first :: more ∧ (first = [] ↔ text.head?.all p = true) := by
  cases text with
  | nil => exact ⟨[], [], rfl, by simp⟩
  | cons c text =>
      obtain ⟨first, more, hsplit⟩ := List.exists_cons_of_ne_nil (List.splitOnP_ne_nil p text)
      rw [List.splitOnP_cons_eq_if_modifyHead, hsplit]
      cases hc : p c with
      | true => exact ⟨[], first :: more, by simp, by simp [hc]⟩
      | false => exact ⟨c :: first, more, by simp, by simp [hc]⟩

theorem words_eq_tokens (text : List Char) : Text.words text = tokens text := by
  induction text with
  | nil => rfl
  | cons c text ih =>
      obtain ⟨first, more, hsplit, hfirst⟩ := exists_splitOnP Text.isBlank text
      unfold tokens at ih ⊢
      rw [List.splitOnP_cons_eq_if_modifyHead, Text.words, ih, hsplit]
      cases hc : Text.isBlank c with
      | true => simp
      | false =>
          -- An empty first piece means that the word ends with this character.
          by_cases hempty : first = []
          · simp [hempty, hfirst.mp hempty]
          · simp [hempty, mt hfirst.mpr hempty]

theorem toOption_ofText (text : String) :
    (Snapshot.ofText text).toOption = snapshotOf? text.toList := by
  unfold snapshotOf?
  rw [← words_eq_tokens]
  rcases Snapshot.names_or_first_unknown (Text.words text.toList) with
    ⟨lines, hwords⟩ | ⟨lines, word, rest, hwords, hunknown⟩
  · have hknown : ∀ token ∈ Snapshot.nameWords lines, ∃ l ∈ Line.all, l.name.toList = token := by
      intro token hmem
      obtain ⟨l, htoken⟩ := Snapshot.isName_of_mem hmem
      exact ⟨l, Enumerable.mem_all l, htoken⟩
    rw [Snapshot.ofText_of_names hwords, hwords, if_pos hknown]
    apply congrArg some
    apply Snapshot.ext
    · intro l
      rw [Snapshot.assert_get, Snapshot.released_get, Bool.false_or]
      simp [Snapshot.get, Snapshot.mem_nameWords]
    · exact Snapshot.assert_touchpad _ _
  · have hnone :
        ¬ ∀ token ∈ Text.words text.toList, ∃ l ∈ Line.all, l.name.toList = token := by
      intro hknown
      obtain ⟨l, _, hl⟩ := hknown word (by simp [hwords])
      exact hunknown ⟨l, hl⟩
    rw [Snapshot.ofText_of_unknown hwords hunknown, if_neg hnone]
    rfl

theorem exists_text_of_yield?
    {line : List UInt8} {yielded : Option Snapshot} (hyield : yield? line = some yielded) :
    ∃ text, String.fromUTF8? ⟨line.toArray⟩ = some text ∧
      (Snapshot.ofText text).toOption = yielded := by
  unfold yield? textOf? at hyield
  rw [Option.map_map, Option.map_eq_some_iff] at hyield
  obtain ⟨text, htext, hyielded⟩ := hyield
  exact ⟨text, htext, (toOption_ofText text).trans hyielded⟩

theorem tokens_of_blank {text : List Char} (hblank : ∀ c ∈ text, Text.isBlank c = true) :
    tokens text = [] := by
  rw [← words_eq_tokens]
  induction text with
  | nil => rfl
  | cons c text ih =>
      rw [Text.words, if_pos (hblank c List.mem_cons_self)]
      exact ih fun d hd => hblank d (List.mem_cons_of_mem c hd)

theorem snapshotOf?_of_blank {text : List Char} (hblank : ∀ c ∈ text, Text.isBlank c = true) :
    snapshotOf? text = some .released := by
  unfold snapshotOf?
  simp only [tokens_of_blank hblank]
  rfl

/-! ## Lines in order -/

section Lines

variable {line : List UInt8} (rest : List (List UInt8))

theorem snapshotsOf_of_broken (hyield : yield? line = none) :
    snapshotsOf (line :: rest) = [] := by
  simp [snapshotsOf, hyield]

theorem snapshotsOf_of_ignored (hyield : yield? line = some none) :
    snapshotsOf (line :: rest) = snapshotsOf rest := by
  simp [snapshotsOf, hyield]

theorem snapshotsOf_of_snapshot {s : Snapshot} (hyield : yield? line = some (some s)) :
    snapshotsOf (line :: rest) = s :: snapshotsOf rest := by
  simp [snapshotsOf, hyield]

end Lines

section Feed

variable {δ : Type} [Port δ] (target : Target) (source : Option (Source δ))

theorem filter_offer (s : Snapshot) :
    (target.offer source s).events.filter Event.isOffer = (target.offer source s).events := by
  unfold Target.offer
  rcases target.deliver source s with ⟨next, _ | _⟩
  · rfl
  · rfl

theorem feedLine_of_broken {line : List UInt8} (hyield : yield? line = none) :
    feedLine target line source = ⟨source, false, [.feederBroken]⟩ := by
  unfold yield? textOf? at hyield
  rw [Option.map_eq_none_iff, Option.map_eq_none_iff] at hyield
  rw [feedLine, hyield]

theorem feedLine_of_ignored {line : List UInt8} (hyield : yield? line = some none) :
    ∃ text word, feedLine target line source = ⟨source, true, [.typedIgnored text word]⟩ := by
  obtain ⟨text, htext, hnone⟩ := exists_text_of_yield? hyield
  cases hread : Snapshot.ofText text with
  | ok s =>
      rw [hread] at hnone
      cases hnone
  | error word =>
      simp only [feedLine, htext, hread]
      exact ⟨_, word, rfl⟩

theorem feedLine_of_snapshot
    {line : List UInt8} {s : Snapshot} (hyield : yield? line = some (some s)) :
    feedLine target line source =
      ⟨(target.offer source s).next, true, (target.offer source s).events⟩ := by
  obtain ⟨text, htext, hsome⟩ := exists_text_of_yield? hyield
  cases hread : Snapshot.ofText text with
  | ok t =>
      rw [hread] at hsome
      obtain rfl := Option.some.inj hsome
      simp only [feedLine, htext, hread]
      rfl
  | error word =>
      rw [hread] at hsome
      cases hsome

theorem feedLines_offers (lines : List (List UInt8)) :
    (feedLines target lines source).next =
        Step.after target.offer source (snapshotsOf lines) ∧
      (feedLines target lines source).events.filter Event.isOffer =
        Step.allEvents (Step.run target.offer source (snapshotsOf lines)) := by
  -- By induction on the lines, from whatever source the lines before have left.
  induction lines generalizing source with
  | nil => exact ⟨rfl, rfl⟩
  | cons line rest ih =>
      unfold feedLines
      cases hyield : yield? line with
      | none =>
          rw [feedLine_of_broken target source hyield, snapshotsOf_of_broken rest hyield]
          exact ⟨rfl, rfl⟩
      | some yielded =>
          cases yielded with
          | none =>
              obtain ⟨text, word, hline⟩ := feedLine_of_ignored target source hyield
              obtain ⟨hnext, hevents⟩ := ih source
              rw [hline, snapshotsOf_of_ignored rest hyield]
              exact ⟨hnext, hevents⟩
          | some s =>
              obtain ⟨hnext, hevents⟩ := ih (target.offer source s).next
              rw [feedLine_of_snapshot target source hyield, snapshotsOf_of_snapshot rest hyield]
              refine ⟨hnext, ?_⟩
              rw [if_pos rfl, List.filter_append, filter_offer, hevents]
              rfl

end Feed

end Feeder

/-! ## Targets -/

namespace OverrideQueue

theorem push_cases (queue : OverrideQueue) (s : Snapshot) :
    (∃ hle, queue.push s =
        ({ queue with pending := queue.pending ++ [s], pending_le := hle }, .ok ()) ∧
          queue.room = (queue.push s).1.room + 1) ∨
      queue.push s = (queue, .error .full) ∧ queue.room = 0 := by
  by_cases hroom : queue.pending.length < queue.capacity
  · left
    have hpush : queue.push s = (_, .ok ()) := dif_pos hroom
    have hplaces : queue.capacity - queue.pending.length =
        queue.capacity - (queue.pending.length + 1) + 1 := by omega
    refine ⟨_, hpush, ?_⟩
    rw [hpush]
    simpa [room] using hplaces
  · right
    exact ⟨dif_neg hroom, Nat.sub_eq_zero_of_le (Nat.le_of_not_lt hroom)⟩

theorem filled_nil (queue : OverrideQueue) : queue.filled [] = queue := by
  simp [filled]

theorem filled_push (queue : OverrideQueue) (s : Snapshot) (snapshots : List Snapshot) :
    (queue.push s).1.filled snapshots = queue.filled (s :: snapshots) := by
  rcases queue.push_cases s with ⟨hle, hpush, hroom⟩ | ⟨hpush, hroom⟩
  · rw [hpush] at hroom ⊢
    simp [filled, hroom]
  · rw [hpush]
    simp [filled, hroom]

theorem answers_push (queue : OverrideQueue) (s : Snapshot) (later : Nat) :
    queue.answers (later + 1) = (queue.push s).2 :: (queue.push s).1.answers later := by
  rcases queue.push_cases s with ⟨hle, hpush, hroom⟩ | ⟨hpush, hroom⟩
  · rw [hpush] at hroom ⊢
    simp [answers, hroom, Nat.succ_min_succ, List.replicate_succ]
  · rw [hpush]
    simp [answers, hroom, List.replicate_succ]

end OverrideQueue

namespace Target

variable {δ : Type} [Port δ]

theorem held_offers (held : Snapshot) (overrides : OverrideSlot) (snapshots : List Snapshot) :
    Step.after Target.held.offer (some (⟨overrides, .held held⟩ : Source δ)) snapshots =
        some ⟨overrides, .held (snapshots.getLastD held)⟩ ∧
      Target.held.outcomes (some (⟨overrides, .held held⟩ : Source δ)) snapshots =
        List.replicate snapshots.length (.ok ()) := by
  induction snapshots generalizing held with
  | nil => exact ⟨rfl, rfl⟩
  | cons s snapshots ih =>
      obtain ⟨hafter, houtcomes⟩ := ih s
      rw [List.getLastD_cons, List.length_cons, List.replicate_succ, ← houtcomes]
      exact ⟨hafter, rfl⟩

theorem queue_offers_of_disabled
    {source : Option (Source δ)} (hclosed : ∀ living ∈ source, living.overrides = .disabled)
    (snapshots : List Snapshot) :
    Step.after Target.queue.offer source snapshots = source ∧
      Target.queue.outcomes source snapshots =
        List.replicate snapshots.length (.error .closed) := by
  have hoffer : ∀ s, (Target.queue.offer source s).next = source ∧
      (Target.queue.offer source s).answer = .error .closed := by
    intro s
    cases source with
    | none => exact ⟨rfl, rfl⟩
    | some living =>
        obtain ⟨overrides, fallback⟩ := living
        obtain rfl := hclosed _ rfl
        exact ⟨rfl, rfl⟩
  induction snapshots with
  | nil => exact ⟨rfl, rfl⟩
  | cons s snapshots ih =>
      obtain ⟨hafter, houtcomes⟩ := ih
      obtain ⟨hnext, hanswer⟩ := hoffer s
      rw [outcomes, Step.after_cons, Step.run_cons, List.map_cons, hnext, hanswer,
        List.length_cons, List.replicate_succ, ← houtcomes]
      exact ⟨hafter, rfl⟩

theorem queue_offers
    (queue : OverrideQueue) (fallback : Fallback δ) (snapshots : List Snapshot) :
    Step.after Target.queue.offer (some ⟨.connected queue, fallback⟩) snapshots =
        some ⟨.connected (queue.filled snapshots), fallback⟩ ∧
      Target.queue.outcomes (some ⟨.connected queue, fallback⟩) snapshots =
        queue.answers snapshots.length := by
  -- Every push changes the room that is left, so the queue is not fixed.
  induction snapshots generalizing queue with
  | nil =>
      rw [queue.filled_nil]
      simp [outcomes, OverrideQueue.answers]
  | cons s snapshots ih =>
      obtain ⟨hafter, houtcomes⟩ := ih (queue.push s).1
      rw [List.length_cons, queue.answers_push s, ← queue.filled_push, ← houtcomes]
      exact ⟨hafter, rfl⟩

end Target

namespace Feeder

/-! ## Whole inputs -/

section Inputs

variable {δ : Type} [Port δ]

theorem filter_stopped (finished : Bool) :
    (if finished then [Event.feederStopped] else []).filter Event.isOffer = [] := by
  cases finished with
  | false => rfl
  | true => rfl

theorem snapshotsOf_allLines (limit : Option Nat) (bytes : List UInt8) :
    snapshotsOf ((allLines bytes).take (limit.getD (allLines bytes).length)) =
      dueSnapshots limit bytes := by
  unfold dueSnapshots snapshotsOf
  rw [List.map_take, map_yield?_allLines, ← List.map_take, length_allLines]

theorem feed_offers
    (target : Target) (limit : Option Nat) (bytes : List UInt8) (source : Option (Source δ)) :
    (feed target limit bytes source).next =
        Step.after target.offer source (dueSnapshots limit bytes) ∧
      (feed target limit bytes source).events.filter Event.isOffer =
        Step.allEvents (Step.run target.offer source (dueSnapshots limit bytes)) := by
  obtain ⟨hnext, hevents⟩ := feedLines_offers target source
    ((allLines bytes).take (limit.getD (allLines bytes).length))
  rw [snapshotsOf_allLines] at hnext hevents
  refine ⟨hnext, ?_⟩
  simp only [feed]
  rw [List.filter_append, hevents, filter_stopped, List.append_nil]

/-- Whatever is typed, and after however many lines the feeder is cancelled: it offers to its
target the snapshots that are due, and the target keeps what it has room for. -/
theorem feed_offers_due_snapshots
    (target : Target) (limit : Option Nat) (bytes : List UInt8) (source : Option (Source δ)) :
    let due := dueSnapshots limit bytes
    let fed := feed target limit bytes source
    fed.next = Step.after target.offer source due ∧
      fed.events.filter Event.isOffer =
        Step.allEvents (Step.run target.offer source due) ∧
      (∀ text, (∀ c ∈ text, Text.isBlank c = true) → snapshotOf? text = some .released) ∧
      (∀ queue fallback, target = .queue → source = some ⟨.connected queue, fallback⟩ →
        fed.next = some ⟨.connected (queue.filled due), fallback⟩ ∧
          target.outcomes source due = queue.answers due.length) ∧
      (target = .queue → (∀ living ∈ source, living.overrides = .disabled) →
        fed.next = source ∧
          target.outcomes source due = List.replicate due.length (.error .closed)) ∧
      ∀ overrides held, target = .held → source = some ⟨overrides, .held held⟩ →
        fed.next = some ⟨overrides, .held (due.getLastD held)⟩ ∧
          target.outcomes source due = List.replicate due.length (.ok ()) := by
  intro due fed
  obtain ⟨hnext, hevents⟩ := feed_offers target limit bytes source
  refine ⟨hnext, hevents, fun _ hblank => snapshotOf?_of_blank hblank, ?_, ?_, ?_⟩
  · rintro queue fallback rfl rfl
    obtain ⟨hafter, houtcomes⟩ := Target.queue_offers queue fallback due
    exact ⟨hnext.trans hafter, houtcomes⟩
  · rintro rfl hclosed
    obtain ⟨hafter, houtcomes⟩ := Target.queue_offers_of_disabled hclosed due
    exact ⟨hnext.trans hafter, houtcomes⟩
  · rintro overrides held rfl rfl
    obtain ⟨hafter, houtcomes⟩ := @Target.held_offers δ _ held overrides due
    exact ⟨hnext.trans hafter, houtcomes⟩

end Inputs

def mixedInput : List UInt8 :=
  "button_south\r\nbutton_nowhere\n\n stick_up\tbutton_l1 stick_up\n".toUTF8.data.toList ++
    0xFF :: "\nmode_ls".toUTF8.data.toList

theorem mixedInput_offers :
    let south := Snapshot.released.assert [.button .south]
    let both := Snapshot.released.assert [.button .l1, .stick .up]
    let queue : OverrideQueue := { capacity := 3, pending := [both], pending_le := by decide }
    let read : Option (Source String) := some ⟨.connected queue, .released⟩
    let gone : Option (Source String) := none
    let outside : Option (Source String) := some ⟨.disabled, .held both⟩
    dueSnapshots none mixedInput = [south, .released, both] ∧
      dueSnapshots (some 2) mixedInput = [south] ∧
      snapshotOf? ['\t', '\r'] = some .released ∧
      (queue.filled [south, .released, both]).pending = [both, south, .released] ∧
      (feed .queue none mixedInput read).next =
        some ⟨.connected (queue.filled [south, .released, both]), .released⟩ ∧
      Target.queue.outcomes read [south, .released, both] = [.ok (), .ok (), .error .full] ∧
      (feed .queue none mixedInput gone).next = gone ∧
      (feed .held (some 2) mixedInput outside).next = some ⟨.disabled, .held south⟩ := by
  intro south both queue read gone outside
  have hdue : dueSnapshots none mixedInput = [south, .released, both] := by decide +kernel
  have hcancelled : dueSnapshots (some 2) mixedInput = [south] := by decide +kernel
  obtain ⟨_, _, hblank, hqueue, _, _⟩ := feed_offers_due_snapshots .queue none mixedInput read
  obtain ⟨_, _, _, _, hclosed, _⟩ := feed_offers_due_snapshots .queue none mixedInput gone
  obtain ⟨_, _, _, _, _, hheld⟩ := feed_offers_due_snapshots .held (some 2) mixedInput outside
  obtain ⟨hread, houtcomes⟩ := hqueue queue .released rfl rfl
  obtain ⟨hgone, _⟩ := hclosed rfl (by simp [gone])
  obtain ⟨houtside, _⟩ := hheld .disabled both rfl rfl
  rw [hdue] at hread houtcomes
  rw [hcancelled] at houtside
  exact ⟨hdue, hcancelled, hblank _ (by simp [Text.isBlank]), rfl, hread, houtcomes, hgone, houtside⟩

end Feeder

end Gamepad
