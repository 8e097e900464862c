import Gamepad.Event
import Mathlib.Data.List.Basic

/-!
# Reading snapshots

A text is laid out from words in exactly one way.  If all of them are names of lines it is read as
the snapshot that asserts these lines, and otherwise the first word that is no name is reported.
-/

namespace Gamepad

namespace Text

/-- A text consists of words and white space, and every word ends at white space or with the
text. -/
inductive LaidOut : List (List Char) → List Char → Prop
  | done : LaidOut [] []
  | blank {c : Char} {text : List Char} {words : List (List Char)}
      (hc : isBlank c = true) (hrest : LaidOut words text) : LaidOut words (c :: text)
  | word {word rest : List Char} {words : List (List Char)} (hne : word ≠ [])
      (hsolid : ∀ c ∈ word, isBlank c = false) (hend : rest.head?.all isBlank = true)
      (hrest : LaidOut words rest) : LaidOut (word :: words) (word ++ rest)

theorem words_cons_blank {c : Char} (hc : isBlank c = true) (text : List Char) :
    words (c :: text) = words text := by
  rw [words, if_pos hc]

theorem words_word_append
    {word rest : List Char} (hne : word ≠ []) (hsolid : ∀ c ∈ word, isBlank c = false)
    (hend : rest.head?.all isBlank = true) : words (word ++ rest) = word :: words rest := by
  induction word with
  | nil => contradiction
  | cons c word ih =>
      obtain ⟨hc, hmore⟩ := List.forall_mem_cons.mp hsolid
      rw [List.cons_append, words, if_neg (by simp [hc])]
      cases word with
      | nil => rw [List.nil_append, if_pos hend]
      | cons d word =>
          have hd := hmore d List.mem_cons_self
          rw [if_neg (by simp [hd]), ih (List.cons_ne_nil d word) hmore]

namespace LaidOut

theorem words_eq {ws : List (List Char)} {text : List Char} (hlaid : LaidOut ws text) :
    words text = ws := by
  induction hlaid with
  | done => rfl
  | blank hc _ ih => rw [words_cons_blank hc, ih]
  | word hne hsolid hend _ ih => rw [words_word_append hne hsolid hend, ih]

theorem gap_append
    {ws : List (List Char)} {text : List Char} (hlaid : LaidOut ws text)
    {gap : List Char} (hgap : ∀ c ∈ gap, isBlank c = true) : LaidOut ws (gap ++ text) := by
  induction gap with
  | nil => exact hlaid
  | cons c gap ih =>
      obtain ⟨hc, hmore⟩ := List.forall_mem_cons.mp hgap
      exact .blank hc (ih hmore)

theorem append
    {ws vs : List (List Char)} {text rest : List Char} (hlaid : LaidOut ws text)
    (hrest : LaidOut vs rest) (hjoin : rest.head?.all isBlank = true) :
    LaidOut (ws ++ vs) (text ++ rest) := by
  induction hlaid with
  | done => exact hrest
  | blank hc _ ih => exact .blank hc ih
  | @word word text ws hne hsolid hend _ ih =>
      rw [List.append_assoc]
      apply LaidOut.word hne hsolid _ ih
      cases text with
      | nil => exact hjoin
      | cons c text => exact hend

theorem cons_solid
    {word : List Char} {ws : List (List Char)} {text : List Char}
    (hlaid : LaidOut (word :: ws) text) {c : Char} (hc : isBlank c = false)
    (hjoin : text.head?.all isBlank = false) :
    LaidOut ((c :: word) :: ws) (c :: text) := by
  cases hlaid with
  | blank hblank _ => simp [hblank] at hjoin
  | word _ hsolid hend hrest =>
      rw [← List.cons_append]
      exact .word (List.cons_ne_nil c word) (List.forall_mem_cons.mpr ⟨hc, hsolid⟩) hend hrest

end LaidOut

theorem laidOut_words (text : List Char) : LaidOut (words text) text := by
  induction text with
  | nil => exact .done
  | cons c text ih =>
      rw [words]
      cases hc : isBlank c with
      | true => exact .blank hc ih
      | false =>
          cases hhead : text.head?.all isBlank with
          | true => exact @LaidOut.word [c] text _ (by simp) (by simpa using hc) hhead ih
          | false =>
              cases hwords : words text with
              | nil =>
                  -- No word means that there is nothing but white space.
                  rw [hwords] at ih
                  cases ih with
                  | done => cases hhead
                  | blank hblank _ => simp [hblank] at hhead
              | cons word ws =>
                  rw [hwords] at ih
                  exact ih.cons_solid hc hhead

end Text

namespace Snapshot

def IsName (word : List Char) : Prop :=
  ∃ l : Line, l.name.toList = word

/-- What is read from a text of these words. -/
structure ReadFrom (outcome : Except String Snapshot) (words : List (List Char)) : Prop where
  accepted : (∃ s, outcome = .ok s) ↔ ∀ word ∈ words, IsName word
  shown : ∀ s, outcome = .ok s →
    s.touchpad = {} ∧ ∀ l : Line, s.get l = true ↔ l.name.toList ∈ words
  rejected : ∀ message, outcome.mapError Event.unknownLine = .error message ↔
    ∃ before word rest, words = before ++ word :: rest ∧ (∀ earlier ∈ before, IsName earlier) ∧
      ¬ IsName word ∧ message = "unknown input line '" ++ String.ofList word ++ "'"

/-! ## Names -/

def nameWords (lines : List Line) : List (List Char) :=
  lines.map fun l => l.name.toList

theorem mem_nameWords {lines : List Line} {l : Line} :
    l.name.toList ∈ nameWords lines ↔ l ∈ lines := by
  unfold nameWords
  rw [List.mem_map]
  constructor
  · rintro ⟨m, hm, hname⟩
    exact Line.name_injective (String.toList_inj.mp hname) ▸ hm
  · intro hl
    exact ⟨l, hl, rfl⟩

theorem names_or_first_unknown (words : List (List Char)) :
    (∃ lines, words = nameWords lines) ∨
      ∃ lines word rest, words = nameWords lines ++ word :: rest ∧ ¬ IsName word := by
  induction words with
  | nil => exact .inl ⟨[], rfl⟩
  | cons word words ih =>
      by_cases hname : IsName word
      · obtain ⟨l, rfl⟩ := hname
        rcases ih with ⟨lines, rfl⟩ | ⟨lines, unknown, rest, rfl, hunknown⟩
        · exact .inl ⟨l :: lines, rfl⟩
        · exact .inr ⟨l :: lines, unknown, rest, rfl, hunknown⟩
      · exact .inr ⟨[], word, words, rfl, hname⟩

theorem isName_of_mem {lines : List Line} {word : List Char} (hword : word ∈ nameWords lines) :
    IsName word := by
  obtain ⟨l, _, hl⟩ := List.mem_map.mp hword
  exact ⟨l, hl⟩

theorem exists_nameWords {words : List (List Char)} (hnames : ∀ word ∈ words, IsName word) :
    ∃ lines, words = nameWords lines := by
  rcases names_or_first_unknown words with hlines | ⟨lines, word, rest, rfl, hunknown⟩
  · exact hlines
  · exact absurd (hnames word (by simp)) hunknown

/-! ## Reading words -/

theorem linesOfWords_nameWords (lines : List Line) :
    linesOfWords (nameWords lines) = .ok lines := by
  induction lines with
  | nil => rfl
  | cons l lines ih =>
      rw [nameWords, List.map_cons, ← nameWords]
      simp only [linesOfWords, String.ofList_toList, Line.ofName?_name, ih]
      rfl

theorem linesOfWords_unknown
    {word : List Char} (hunknown : ¬ IsName word) (lines : List Line) (rest : List (List Char)) :
    linesOfWords (nameWords lines ++ word :: rest) = .error (String.ofList word) := by
  induction lines with
  | nil =>
      have hnone : Line.ofName? (String.ofList word) = none := by
        rw [Option.eq_none_iff_forall_not_mem]
        intro l hl
        have hname := Line.ofName?_eq_some_iff.mp hl
        exact hunknown ⟨l, by rw [← hname, String.toList_ofList]⟩
      rw [nameWords, List.map_nil, List.nil_append]
      simp only [linesOfWords, hnone]
  | cons l lines ih =>
      rw [nameWords, List.map_cons, ← nameWords, List.cons_append]
      simp only [linesOfWords, String.ofList_toList, Line.ofName?_name, ih]
      rfl

theorem ofText_of_names
    {text : String} {lines : List Line} (hwords : Text.words text.toList = nameWords lines) :
    ofText text = .ok (released.assert lines) := by
  rw [ofText, hwords, linesOfWords_nameWords]
  rfl

theorem ofText_of_unknown
    {text : String} {lines : List Line} {word : List Char} {rest : List (List Char)}
    (hwords : Text.words text.toList = nameWords lines ++ word :: rest)
    (hunknown : ¬ IsName word) : ofText text = .error (String.ofList word) := by
  rw [ofText, hwords, linesOfWords_unknown hunknown]
  rfl

theorem ofText_eq_ok {text : String} {s : Snapshot} (hread : ofText text = .ok s) :
    ∃ lines, Text.words text.toList = nameWords lines ∧ s = released.assert lines := by
  rcases names_or_first_unknown (Text.words text.toList) with
    ⟨lines, hwords⟩ | ⟨lines, word, rest, hwords, hunknown⟩
  · exact ⟨lines, hwords, Except.ok.inj (hread.symm.trans (ofText_of_names hwords))⟩
  · cases hread.symm.trans (ofText_of_unknown hwords hunknown)

theorem ofText_readFrom (text : String) : ReadFrom (ofText text) (Text.words text.toList) where
  accepted := by
    constructor
    · rintro ⟨s, hread⟩
      obtain ⟨lines, hwords, -⟩ := ofText_eq_ok hread
      rw [hwords]
      intro word hword
      exact isName_of_mem hword
    · intro hnames
      obtain ⟨lines, hwords⟩ := exists_nameWords hnames
      exact ⟨_, ofText_of_names hwords⟩
  shown := by
    intro s hread
    obtain ⟨lines, hwords, rfl⟩ := ofText_eq_ok hread
    refine ⟨assert_touchpad _ _, ?_⟩
    intro l
    rw [hwords, mem_nameWords, assert_get, released_get, Bool.false_or, decide_eq_true_iff]
  rejected := by
    intro message
    constructor
    · intro hmessage
      rcases names_or_first_unknown (Text.words text.toList) with
        ⟨lines, hwords⟩ | ⟨lines, word, rest, hwords, hunknown⟩
      · rw [ofText_of_names hwords] at hmessage
        cases hmessage
      · rw [ofText_of_unknown hwords hunknown] at hmessage
        obtain rfl := Except.error.inj hmessage
        exact ⟨_, word, rest, hwords, fun _ => isName_of_mem, hunknown, rfl⟩
    · rintro ⟨before, word, rest, hwords, hbefore, hunknown, rfl⟩
      obtain ⟨lines, rfl⟩ := exists_nameWords hbefore
      rw [ofText_of_unknown hwords hunknown]
      rfl

/-! ## Writing and reading back -/

theorem assert_eq_of_asserted
    {s : Snapshot} {lines : List Line} (htouch : s.touchpad = {})
    (hlines : ∀ l, l ∈ lines ↔ l ∈ s.asserted) : released.assert lines = s := by
  apply Snapshot.ext
  · intro l
    rw [assert_get, released_get, Bool.false_or, Bool.eq_iff_iff, decide_eq_true_iff, hlines,
      mem_asserted]
  · rw [assert_touchpad, htouch]
    rfl

theorem ofText_append
    {a gap b : String} {s t : Snapshot} (ha : ofText a = .ok s) (hb : ofText b = .ok t)
    (hne : gap ≠ "") (hgap : ∀ c ∈ gap.toList, Text.isBlank c = true) :
    ∃ u, ofText (a ++ gap ++ b) = .ok u ∧ u.touchpad = {} ∧
      ∀ l, u.get l = (s.get l || t.get l) := by
  obtain ⟨first, hfirst, rfl⟩ := ofText_eq_ok ha
  obtain ⟨second, hsecond, rfl⟩ := ofText_eq_ok hb
  have hjoin : (gap.toList ++ b.toList).head?.all Text.isBlank = true := by
    obtain ⟨c, more, hcons⟩ := List.exists_cons_of_ne_nil (mt String.toList_eq_nil_iff.mp hne)
    rw [hcons] at hgap ⊢
    exact hgap c List.mem_cons_self
  have hlaid := (Text.laidOut_words a.toList).append
    ((Text.laidOut_words b.toList).gap_append hgap) hjoin
  rw [hfirst, hsecond, nameWords, nameWords, ← List.map_append, ← List.append_assoc,
    ← String.toList_append, ← String.toList_append] at hlaid
  refine ⟨_, ofText_of_names hlaid.words_eq, assert_touchpad _ _, ?_⟩
  intro l
  simp [assert_get]

/-- Reading a text goes by its words, whatever separates them, and undoes the naming of asserted
lines. -/
theorem ofText_goes_by_words :
    (∀ text : String, ∃! words, Text.LaidOut words text.toList) ∧
      (∀ (text : String) (words : List (List Char)), Text.LaidOut words text.toList →
        ReadFrom (ofText text) words) ∧
      (∀ (s : Snapshot) (lines : List Line) (text : String), s.touchpad = {} →
        (∀ l, l ∈ lines ↔ l ∈ s.asserted) → Text.LaidOut (nameWords lines) text.toList →
          ofText text = .ok s) ∧
      ∀ (a gap b : String) (s t : Snapshot), ofText a = .ok s → ofText b = .ok t → gap ≠ "" →
        (∀ c ∈ gap.toList, Text.isBlank c = true) →
          ∃ u, ofText (a ++ gap ++ b) = .ok u ∧ u.touchpad = {} ∧
            ∀ l, u.get l = (s.get l || t.get l) := by
  refine ⟨?_, ?_, ?_, fun a gap b s t => ofText_append⟩
  · intro text
    exact ⟨_, Text.laidOut_words text.toList, fun other hother => hother.words_eq.symm⟩
  · intro text words hlaid
    rw [← hlaid.words_eq]
    exact ofText_readFrom text
  · intro s lines text htouch hlines hlaid
    rw [ofText_of_names hlaid.words_eq, assert_eq_of_asserted htouch hlines]

theorem stickAndSouth_read :
    ofText "\tstick_up\u3000button_south  stick_up\n" =
        .ok (released.assert [.button .south, .stick .up]) ∧
      (ofText "stick_up Button_south nowhere").mapError Event.unknownLine =
        .error "unknown input line 'Button_south'" := by
  obtain ⟨-, hreads, hundoes, -⟩ := ofText_goes_by_words
  constructor
  · apply hundoes _ [.stick .up, .button .south, .stick .up]
    · rfl
    · decide
    · have hwords : Text.words "\tstick_up\u3000button_south  stick_up\n".toList =
          nameWords [.stick .up, .button .south, .stick .up] := by decide +kernel
      rw [← hwords]
      exact Text.laidOut_words _
  · have hlaid := Text.laidOut_words "stick_up Button_south nowhere".toList
    apply ((hreads _ _ hlaid).rejected _).mpr
    exact ⟨nameWords [.stick .up], "Button_south".toList, ["nowhere".toList], by decide +kernel,
      fun _ => isName_of_mem, not_exists.mpr (by decide +kernel), by decide +kernel⟩

end Snapshot

end Gamepad
