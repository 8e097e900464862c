import Gamepad.Table

/-!
# Input lines

An input line is one wire of the controller: a push button, a direction of the stick, or a mode
switch.  `name` is what users and configuration files call it, `tag` what the log calls it.
-/

namespace Gamepad

inductive Button
  | north | east | south | west
  | l1 | l2 | l3
  | r1 | r2 | r3
  | select | start | home | touchpad
  deriving DecidableEq, Repr, Inhabited

inductive Direction
  | up | down | left | right
  deriving DecidableEq, Repr, Inhabited

/-- The switches that choose the output carrying the directions and lock the menu buttons. -/
inductive Switch
  | ls | rs | lock
  deriving DecidableEq, Repr, Inhabited

inductive Line
  | button (b : Button)
  | stick (d : Direction)
  | mode (s : Switch)
  deriving DecidableEq, Repr, Inhabited

namespace Button

def all : List Button :=
  [north, east, south, west, l1, l2, l3, r1, r2, r3, select, start, home, touchpad]

def index : Button → Fin 14
  | north => 0
  | east => 1
  | south => 2
  | west => 3
  | l1 => 4
  | l2 => 5
  | l3 => 6
  | r1 => 7
  | r2 => 8
  | r3 => 9
  | select => 10
  | start => 11
  | home => 12
  | touchpad => 13

instance : Enumerable Button where
  all := all
  index := index
  all_index := by intro b; cases b <;> rfl
  index_all := (by decide : ∀ k : Fin 14, index (all.get k) = k)

def name : Button → String
  | north => "north"
  | east => "east"
  | south => "south"
  | west => "west"
  | l1 => "l1"
  | l2 => "l2"
  | l3 => "l3"
  | r1 => "r1"
  | r2 => "r2"
  | r3 => "r3"
  | select => "select"
  | start => "start"
  | home => "home"
  | touchpad => "touchpad"

def isMenu : Button → Bool
  | select | start | home => true
  | _ => false

end Button

namespace Direction

def all : List Direction :=
  [up, down, left, right]

def name : Direction → String
  | up => "up"
  | down => "down"
  | left => "left"
  | right => "right"

end Direction

namespace Switch

def all : List Switch :=
  [ls, rs, lock]

def name : Switch → String
  | ls => "ls"
  | rs => "rs"
  | lock => "lock"

end Switch

namespace Line

def all : List Line :=
  Button.all.map button ++ Direction.all.map stick ++ Switch.all.map mode

def index : Line → Fin 21
  | button b => b.index.castLE (by decide)
  | stick .up => 14
  | stick .down => 15
  | stick .left => 16
  | stick .right => 17
  | mode .ls => 18
  | mode .rs => 19
  | mode .lock => 20

instance : Enumerable Line where
  all := all
  index := index
  all_index := by
    intro l
    rcases l with b | d | s
    · cases b <;> rfl
    · cases d <;> rfl
    · cases s <;> rfl
  index_all := (by decide : ∀ k : Fin 21, index (all.get k) = k)

def name : Line → String
  | button b => "button_" ++ b.name
  | stick d => "stick_" ++ d.name
  | mode s => "mode_" ++ s.name

def tag : Line → String
  | button b => "Button" ++ b.name.capitalize
  | stick d => "Stick" ++ d.name.capitalize
  | mode s => "Mode" ++ s.name.capitalize

def ofName? (text : String) : Option Line :=
  all.find? fun line => line.name = text

theorem name_injective : ∀ {l m : Line}, l.name = m.name → l = m := by
  decide +kernel

theorem ofName?_name (l : Line) : ofName? l.name = some l := by
  have hmem : l ∈ all := Enumerable.mem_all l
  obtain ⟨m, hm⟩ := Option.isSome_iff_exists.mp
    (List.find?_isSome.mpr ⟨l, hmem, by simp⟩ :
      (all.find? fun line => decide (line.name = l.name)).isSome = true)
  have hname : m.name = l.name := by
    simpa using List.find?_some hm
  rw [ofName?, hm, name_injective hname]

theorem ofName?_eq_some_iff {text : String} {l : Line} :
    ofName? text = some l ↔ text = l.name := by
  constructor
  · intro h
    simpa [eq_comm] using List.find?_some h
  · rintro rfl
    exact ofName?_name l

end Line

end Gamepad
