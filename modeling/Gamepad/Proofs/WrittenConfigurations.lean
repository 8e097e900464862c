import Gamepad.Configuration.Decode
import Mathlib.Data.List.Forall2

/-!
# Configurations that are written down

A document writes down a configuration if it gives every field under its key, or leaves out one that
has its default.  Reading such a document gives back the configuration, if that is a valid one.
-/

namespace Gamepad

namespace Toml

def Gives (entries : Entries) (key : String) (v : Value) : Prop :=
  (key, v) ∈ entries ∧ ∀ e ∈ entries, e.1 = key → e.2 = v

def LeavesOut (entries : Entries) (key : String) : Prop :=
  ∀ e ∈ entries, e.1 ≠ key

/-- The key has this value, unless it is left out because the value goes without saying. -/
def GivesUnless (implied : Prop) (entries : Entries) (key : String) (v : Value) : Prop :=
  Gives entries key v ∨ (implied ∧ LeavesOut entries key)

instance (entries : Entries) (key : String) (v : Value) : Decidable (Gives entries key v) :=
  inferInstanceAs (Decidable (_ ∧ _))

instance (entries : Entries) (key : String) : Decidable (LeavesOut entries key) :=
  inferInstanceAs (Decidable (∀ e ∈ entries, e.1 ≠ key))

end Toml

open Toml

/-- The name of a case with an underscore before every capital letter but the first, and all letters
small. -/
def snakeCase (tag : String) : String :=
  match tag.toList with
  | [] => ""
  | first :: rest =>
    String.ofList <| first.toLower ::
      rest.flatMap fun c => if c.isUpper then ['_', c.toLower] else [c]

def Pull.tag : Pull → String
  | none => "None"
  | up => "Up"
  | down => "Down"

structure Wiring.WrittenIn (w : Wiring) (entries : Entries) : Prop where
  name : Gives entries "name" (.string (snakeCase w.line.tag))
  port : Gives entries "port" (.string w.port)
  pin : Gives entries "pin" (.integer w.pin.toNat)
  activeLow : GivesUnless (w.activeLow = false) entries "active_low" (.boolean w.activeLow)
  pull : GivesUnless (w.pull = .none) entries "pull" (.string (snakeCase w.pull.tag))

structure Configuration.WrittenIn (c : Configuration) (entries : Entries) : Prop where
  pollInterval : GivesUnless (c.pollIntervalMs = 1)
    entries "poll_interval_ms" (.integer c.pollIntervalMs.toNat)
  debounce : GivesUnless (c.debounceMs = 5)
    entries "debounce_ms" (.integer c.debounceMs.toNat)
  tickRate : GivesUnless (c.ticksPerMs = 1000)
    entries "ticks_per_ms" (.integer c.ticksPerMs.toNat)
  acquisition : GivesUnless (c.acquisition = .physical)
    entries "acquisition" (.string (snakeCase c.acquisition.tag))
  overrideQueue : GivesUnless (c.overrideQueue = true)
    entries "override_queue" (.boolean c.overrideQueue)
  stickInput : GivesUnless (c.stickInput = .debounced)
    entries "stick_input" (.string (snakeCase c.stickInput.tag))
  lines : ∃ tables : List Entries,
    GivesUnless (c.lines = []) entries "lines" (.array (tables.map .table)) ∧
      List.Forall₂ Wiring.WrittenIn c.lines tables

/-! ## Keys -/

namespace Toml

variable {entries : Entries} {key : String} {v : Value}

theorem Gives.get? (hgives : Gives entries key v) : Value.get? entries key = some v := by
  obtain ⟨hmem, honly⟩ := hgives
  cases hfirst : entries.find? fun e => e.1 = key with
  | none =>
      have hother := List.find?_eq_none.mp hfirst (key, v) hmem
      simp at hother
  | some e =>
      have hkey : e.1 = key := by simpa using List.find?_some hfirst
      rw [Value.get?, hfirst, ← honly e (List.mem_of_find?_eq_some hfirst) hkey]
      rfl

theorem LeavesOut.get? (hleaves : LeavesOut entries key) : Value.get? entries key = none := by
  have hnone : (entries.find? fun e => e.1 = key) = none := by
    rw [List.find?_eq_none]
    intro e hmem
    simpa using hleaves e hmem
  rw [Value.get?, hnone]
  rfl

theorem Gives.field {α : Type} (hgives : Gives entries key v) (decode : Value → Option α)
    (default : Option α) : field entries key decode default = decode v := by
  rw [Toml.field, hgives.get?]

theorem GivesUnless.field
    {α : Type} {implied : Prop} (hgives : GivesUnless implied entries key v)
    {decode : Value → Option α} {a d : α} (hdecode : decode v = some a)
    (hdefault : implied → a = d) :
    field entries key decode (some d) = some a := by
  rcases hgives with hgives | ⟨himplied, hleaves⟩
  · rw [hgives.field, hdecode]
  · rw [Toml.field, hleaves.get?, hdefault himplied]

/-! ## Values -/

theorem Value.toBool?_written (b : Bool) : toBool? (.boolean b) = some b :=
  rfl

theorem Value.toUInt64?_written (n : UInt64) : toUInt64? (.integer n.toNat) = some n := by
  have hfits : (0 : Int) ≤ n.toNat ∧ (n.toNat : Int).toNat < UInt64.size :=
    ⟨Int.natCast_nonneg _, n.toNat_lt⟩
  rw [toUInt64?, if_pos hfits, Int.toNat_natCast, UInt64.ofNat_toNat]

theorem Value.toUInt8?_written (n : UInt8) : toUInt8? (.integer n.toNat) = some n := by
  have hfits : (0 : Int) ≤ n.toNat ∧ (n.toNat : Int).toNat < UInt8.size :=
    ⟨Int.natCast_nonneg _, n.toNat_lt⟩
  rw [toUInt8?, if_pos hfits, Int.toNat_natCast, UInt8.ofNat_toNat]

end Toml

theorem Line.snakeCase_tag : ∀ l : Line, snakeCase l.tag = l.name := by
  decide +kernel

theorem Wiring.lineOfValue?_written (l : Line) :
    lineOfValue? (.string (snakeCase l.tag)) = some l := by
  rw [Line.snakeCase_tag]
  exact Line.ofName?_name l

theorem Wiring.pullOfValue?_written (p : Pull) :
    pullOfValue? (.string (snakeCase p.tag)) = some p := by
  cases p <;> decide +kernel

theorem Acquisition.toChoice?_written (a : Acquisition) :
    Value.toChoice? all name (.string (snakeCase a.tag)) = some a := by
  cases a <;> decide +kernel

theorem StickInput.toChoice?_written (s : StickInput) :
    Value.toChoice? all name (.string (snakeCase s.tag)) = some s := by
  cases s <;> decide +kernel

/-! ## Documents -/

theorem Wiring.WrittenIn.ofEntries?
    {w : Wiring} {entries : Entries} (hwritten : w.WrittenIn entries) :
    Wiring.ofEntries? entries = some w := by
  have hline := hwritten.name.field lineOfValue? none
  have hport := hwritten.port.field Value.toString? none
  have hpin := hwritten.pin.field Value.toUInt8? none
  have hactiveLow := hwritten.activeLow.field (Value.toBool?_written _) id
  have hpull := hwritten.pull.field (pullOfValue?_written w.pull) id
  rw [lineOfValue?_written] at hline
  rw [Value.toUInt8?_written] at hpin
  simp only [Wiring.ofEntries?, hline, hport, hpin, hactiveLow, hpull]
  rfl

theorem Configuration.linesOfValue?_written
    {lines : List Wiring} {tables : List Entries}
    (hwritten : List.Forall₂ Wiring.WrittenIn lines tables) :
    linesOfValue? (.array (tables.map .table)) = some lines := by
  change (tables.map Value.table).mapM Wiring.ofValue? = some lines
  induction hwritten with
  | nil => rfl
  | @cons w entries _ _ hfirst _ ih =>
      have hw : Wiring.ofValue? (.table entries) = some w := hfirst.ofEntries?
      rw [List.map_cons, List.mapM_cons, hw, ih]
      rfl

theorem Configuration.WrittenIn.ofEntries?
    {c : Configuration} {entries : Entries} (hwritten : c.WrittenIn entries) :
    Configuration.ofEntries? entries = some c := by
  have hpoll := hwritten.pollInterval.field (Value.toUInt64?_written _) id
  have hdebounce := hwritten.debounce.field (Value.toUInt64?_written _) id
  have hrate := hwritten.tickRate.field (Value.toUInt64?_written _) id
  have hacquisition := hwritten.acquisition.field (Acquisition.toChoice?_written _) id
  have hqueue := hwritten.overrideQueue.field (Value.toBool?_written _) id
  have hstick := hwritten.stickInput.field (StickInput.toChoice?_written _) id
  obtain ⟨tables, hgives, htables⟩ := hwritten.lines
  have hlines := hgives.field (linesOfValue?_written htables) id
  simp only [Configuration.ofEntries?, defaultDebounceMs, defaultTicksPerMs, hpoll, hdebounce,
    hrate, hacquisition, hqueue, hstick, hlines]
  rfl

namespace Configuration

inductive TextYields (text : String) : Except ConfigurationFault Configuration → Prop
  | noDocument (hparse : Document.parse? text = none) : TextYields text (.error .unparsable)
  | undecoded {entries : Entries} (hparse : Document.parse? text = some entries)
      (hdecode : Configuration.ofEntries? entries = none) : TextYields text (.error .unparsable)
  | invalid {entries : Entries} {c : Configuration} {cause : Invalidity}
      (hparse : Document.parse? text = some entries)
      (hdecode : Configuration.ofEntries? entries = some c)
      (hinvalid : c.validate = .error cause) : TextYields text (.error (.invalid cause))
  | valid {entries : Entries} {c : Configuration} (hparse : Document.parse? text = some entries)
      (hdecode : Configuration.ofEntries? entries = some c) (hvalid : c.validate = .ok ()) :
    TextYields text (.ok c)

theorem TextYields.ofToml
    {text : String} {result : Except ConfigurationFault Configuration}
    (hyields : TextYields text result) : Configuration.ofToml text = result := by
  cases hyields with
  | noDocument hparse => simp only [Configuration.ofToml, hparse]
  | undecoded hparse hdecode => simp only [Configuration.ofToml, hparse, ofDocument, hdecode]
  | invalid hparse hdecode hinvalid =>
      simp only [Configuration.ofToml, hparse, ofDocument, hdecode, hinvalid]
  | valid hparse hdecode hvalid =>
      simp only [Configuration.ofToml, hparse, ofDocument, hdecode, hvalid]

theorem exists_textYields (text : String) : ∃ result, TextYields text result := by
  cases hparse : Document.parse? text with
  | none => exact ⟨_, .noDocument hparse⟩
  | some entries =>
      cases hdecode : Configuration.ofEntries? entries with
      | none => exact ⟨_, .undecoded hparse hdecode⟩
      | some c =>
          cases hvalid : c.validate with
          | error cause => exact ⟨_, .invalid hparse hdecode hvalid⟩
          | ok _ => exact ⟨_, .valid hparse hdecode hvalid⟩

theorem ofToml_eq_iff (text : String) (result : Except ConfigurationFault Configuration) :
    ofToml text = result ↔ TextYields text result := by
  refine ⟨?_, TextYields.ofToml⟩
  rintro rfl
  obtain ⟨result, hyields⟩ := exists_textYields text
  rwa [hyields.ofToml]

theorem validate_of_ofToml {text : String} {c : Configuration} (hread : ofToml text = .ok c) :
    c.validate = .ok () := by
  cases (ofToml_eq_iff text (.ok c)).mp hread with
  | valid _ _ hvalid => exact hvalid

/-- A valid configuration that a document writes down is what is read from it, and what is read
is valid. -/
theorem written_configuration_read :
    (∀ c : Configuration, c.validate = .ok () →
        ∀ text entries, Document.parse? text = some entries → c.WrittenIn entries →
          ofToml text = .ok c) ∧
      ∀ text c, ofToml text = .ok c → c.validate = .ok () := by
  constructor
  · intro c hvalid text entries hparse hwritten
    exact (TextYields.valid hparse hwritten.ofEntries? hvalid).ofToml
  · intro text c hread
    exact validate_of_ofToml hread

def lockAndUp : Configuration where
  ticksPerMs := 32
  acquisition := .none
  lines :=
    [{ line := .mode .lock, port := "a", pin := 12, activeLow := true, pull := .up },
      { line := .stick .up, port := "b", pin := 31 }]

def lockAndUpText : String :=
  "acquisition = \"none\"\n" ++
  "ticks_per_ms = 32\n" ++
  "colour = \"red\"\n" ++
  "[[lines]]\n" ++
  "name = \"mode_lock\"\n" ++
  "port = \"a\"\n" ++
  "pin = 12\n" ++
  "active_low = true\n" ++
  "pull = \"up\"\n" ++
  "[[lines]]\n" ++
  "wire = 7\n" ++
  "pin = 31\n" ++
  "pull = \"none\"\n" ++
  "port = \"b\"\n" ++
  "name = \"stick_up\"\n"

def lockEntries : Entries :=
  [("name", .string "mode_lock"), ("port", .string "a"), ("pin", .integer 12),
    ("active_low", .boolean true), ("pull", .string "up")]

def upEntries : Entries :=
  [("wire", .integer 7), ("pin", .integer 31), ("pull", .string "none"), ("port", .string "b"),
    ("name", .string "stick_up")]

def lockAndUpEntries : Entries :=
  [("acquisition", .string "none"), ("ticks_per_ms", .integer 32), ("colour", .string "red"),
    ("lines", .array [.table lockEntries, .table upEntries])]

theorem lockAndUp_read :
    lockAndUp.validate = .ok () ∧ Document.parse? lockAndUpText = some lockAndUpEntries ∧
      lockAndUp.WrittenIn lockAndUpEntries ∧ ofToml lockAndUpText = .ok lockAndUp := by
  have hvalid : lockAndUp.validate = .ok () := by decide +kernel
  have hparse : Document.parse? lockAndUpText = some lockAndUpEntries := by decide +kernel
  have hlock : Wiring.WrittenIn ⟨.mode .lock, "a", 12, true, .up⟩ lockEntries := {
    name := by decide
    port := by decide
    pin := by decide
    activeLow := .inl (by decide)
    pull := .inl (by decide) }
  have hup : Wiring.WrittenIn ⟨.stick .up, "b", 31, false, .none⟩ upEntries := {
    name := by decide
    port := by decide
    pin := by decide
    activeLow := .inr (by decide)
    pull := .inl (by decide) }
  have hwritten : lockAndUp.WrittenIn lockAndUpEntries := {
    pollInterval := .inr (by decide)
    debounce := .inr (by decide)
    tickRate := .inl (by decide)
    acquisition := .inl (by decide)
    overrideQueue := .inr (by decide)
    stickInput := .inr (by decide)
    lines := ⟨[lockEntries, upEntries], .inl (by decide), .cons hlock (.cons hup .nil)⟩ }
  exact ⟨hvalid, hparse, hwritten,
    written_configuration_read.1 lockAndUp hvalid lockAndUpText lockAndUpEntries hparse hwritten⟩

end Configuration

end Gamepad
