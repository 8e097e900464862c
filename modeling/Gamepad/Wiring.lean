import Gamepad.Fault

/-! # Wiring -/

namespace Gamepad

inductive Polarity
  | activeHigh | activeLow
  deriving DecidableEq, Repr

namespace Polarity

def apply : Polarity → Bool → Bool
  | activeHigh, level => level
  | activeLow, level => !level

def name : Polarity → String
  | activeHigh => "ActiveHigh"
  | activeLow => "ActiveLow"

end Polarity

inductive Pull
  | none | up | down
  deriving DecidableEq, Repr

namespace Pull

def all : List Pull :=
  [none, up, down]

def name : Pull → String
  | none => "none"
  | up => "up"
  | down => "down"

end Pull

structure Wiring where
  line : Line
  port : String
  pin : UInt8
  activeLow : Bool := false
  pull : Pull := .none
  deriving DecidableEq, Repr

def Wiring.polarity (w : Wiring) : Polarity :=
  if w.activeLow then .activeLow else .activeHigh

/-- Wirings in the order in which they were configured, each of another line. -/
structure WiringTable where
  entries : List Wiring := []
  nodup : (entries.map (·.line)).Nodup := by exact List.nodup_nil
  deriving DecidableEq

namespace WiringTable

/-- The line at the first position that repeats an earlier one; `seen` are the lines before. -/
def firstRepeat (seen : List Line) : List Wiring → Option Line
  | [] => none
  | w :: ws => if w.line ∈ seen then some w.line else firstRepeat (w.line :: seen) ws

theorem nodup_of_firstRepeat {seen : List Line} {ws : List Wiring}
    (h : firstRepeat seen ws = none) :
    (ws.map (·.line)).Nodup ∧ ∀ w ∈ ws, w.line ∉ seen := by
  induction ws generalizing seen with
  | nil => simp
  | cons w ws ih =>
    rw [firstRepeat] at h
    split at h
    · simp at h
    · rename_i hnew
      obtain ⟨hnodup, hfresh⟩ := ih h
      refine ⟨List.nodup_cons.mpr ⟨?_, hnodup⟩, ?_⟩
      · intro hmem
        obtain ⟨v, hv, hline⟩ := List.mem_map.mp hmem
        exact hfresh v hv (by simp [hline])
      · intro v hv
        rcases List.mem_cons.mp hv with rfl | hv
        · exact hnew
        · exact fun hmem => hfresh v hv (List.mem_cons_of_mem _ hmem)

def ofDistinct (ws : List Wiring) : Except Line WiringTable :=
  match h : firstRepeat [] ws with
  | some line => .error line
  | none => .ok ⟨ws, (nodup_of_firstRepeat h).1⟩

def ofList (ws : List Wiring) : Except InputFault WiringTable :=
  (ofDistinct ws).mapError .duplicateLine

def contains (t : WiringTable) (l : Line) : Bool :=
  t.entries.any fun w => w.line = l

def size (t : WiringTable) : Nat :=
  t.entries.length

def isEmpty (t : WiringTable) : Bool :=
  t.entries.isEmpty

end WiringTable

end Gamepad
