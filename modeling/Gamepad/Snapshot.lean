import Gamepad.Line
import Gamepad.Text

/-! # Snapshots -/

namespace Gamepad

structure TouchPoint where
  active : Bool := false
  x : UInt16 := 0
  y : UInt16 := 0
  deriving DecidableEq, Repr, Inhabited

structure Touchpad where
  first : TouchPoint := {}
  second : TouchPoint := {}
  deriving DecidableEq, Repr, Inhabited

structure Snapshot where
  lines : Table Line Bool := Table.const false
  touchpad : Touchpad := {}
  deriving DecidableEq

namespace Snapshot

def released : Snapshot :=
  {}

def get (s : Snapshot) (l : Line) : Bool :=
  s.lines l

instance : CoeFun Snapshot (fun _ => Line → Bool) :=
  ⟨get⟩

def set (s : Snapshot) (l : Line) (value : Bool) : Snapshot :=
  { s with lines := s.lines.set l value }

def assert (s : Snapshot) (lines : List Line) : Snapshot :=
  lines.foldl (fun s l => s.set l true) s

def asserted (s : Snapshot) : List Line :=
  s.lines.keysWhere id

@[ext]
theorem ext {s t : Snapshot} (hlines : ∀ l, s.get l = t.get l)
    (htouch : s.touchpad = t.touchpad) : s = t := by
  obtain ⟨sl, st⟩ := s
  obtain ⟨tl, tt⟩ := t
  simp only [mk.injEq]
  exact ⟨Table.ext hlines, htouch⟩

@[simp]
theorem released_get (l : Line) : released.get l = false := by
  simp [released, get]

theorem set_get (s : Snapshot) (l m : Line) (value : Bool) :
    (s.set l value).get m = if m = l then value else s.get m := by
  simp [set, get, Table.set_get]

@[simp]
theorem set_touchpad (s : Snapshot) (l : Line) (value : Bool) :
    (s.set l value).touchpad = s.touchpad := rfl

@[simp]
theorem assert_touchpad (s : Snapshot) (lines : List Line) :
    (s.assert lines).touchpad = s.touchpad := by
  induction lines generalizing s with
  | nil => rfl
  | cons l lines ih => exact ih (s.set l true)

theorem assert_get (s : Snapshot) (lines : List Line) (m : Line) :
    (s.assert lines).get m = (s.get m || decide (m ∈ lines)) := by
  induction lines generalizing s with
  | nil => simp [assert]
  | cons l lines ih =>
    rw [show s.assert (l :: lines) = (s.set l true).assert lines from rfl, ih, set_get]
    by_cases h : m = l <;> simp [h]

@[simp]
theorem mem_asserted {s : Snapshot} {l : Line} : l ∈ s.asserted ↔ s.get l = true := by
  simp [asserted, get]

/-- The lines that the words name, or the first word that names none. -/
def linesOfWords : List (List Char) → Except String (List Line)
  | [] => .ok []
  | word :: rest =>
    let name := String.ofList word
    match Line.ofName? name with
    | none => .error name
    | some line => (linesOfWords rest).map (line :: ·)

def ofText (text : String) : Except String Snapshot :=
  (linesOfWords (Text.words text.toList)).map released.assert

end Snapshot

end Gamepad
