import Gamepad.Snapshot

/-!
# Directions

Opposing directions cancel, and down is positive.  A mode switch sends the directions to the pad,
as a compass point, or to one of the sticks, as a pair of bytes with `0x80` at rest.
-/

namespace Gamepad

inductive Compass
  | north | northEast | east | southEast | south | southWest | west | northWest | neutral
  deriving DecidableEq, Repr, Inhabited

def Compass.name : Compass → String
  | north => "North"
  | northEast => "NorthEast"
  | east => "East"
  | southEast => "SouthEast"
  | south => "South"
  | southWest => "SouthWest"
  | west => "West"
  | northWest => "NorthWest"
  | neutral => "Neutral"

structure Stick where
  x : UInt8
  y : UInt8
  deriving DecidableEq, Repr

def Stick.rest : UInt8 := 0x80

def Stick.centred : Stick :=
  ⟨rest, rest⟩

instance : Inhabited Stick :=
  ⟨Stick.centred⟩

/-- The byte of an axis that points in the direction of a sign. -/
def Stick.deflect (sign : Int) : UInt8 :=
  if sign < 0 then 0x00
  else if sign = 0 then rest
  else 0xFF

/-- The intended direction, one sign for each axis. -/
structure Intent where
  horizontal : Int
  vertical : Int
  deriving DecidableEq, Repr

namespace Intent

def axis (negative positive : Bool) : Int :=
  positive.toInt - negative.toInt

def ofDirections (directions : Direction → Bool) : Intent :=
  ⟨axis (directions .left) (directions .right), axis (directions .up) (directions .down)⟩

def ofSnapshot (s : Snapshot) : Intent :=
  ofDirections fun d => s (.stick d)

/-- The compass point of a pair of signs; any other pair has none and stays neutral. -/
def compass (i : Intent) : Compass :=
  match i.horizontal, i.vertical with
  | 0, -1 => .north
  | 1, -1 => .northEast
  | 1, 0 => .east
  | 1, 1 => .southEast
  | 0, 1 => .south
  | -1, 1 => .southWest
  | -1, 0 => .west
  | -1, -1 => .northWest
  | _, _ => .neutral

def stick (i : Intent) : Stick :=
  ⟨Stick.deflect i.horizontal, Stick.deflect i.vertical⟩

end Intent

/-- The output that carries the directions. -/
inductive OutputMode
  | pad | leftStick | rightStick
  deriving DecidableEq, Repr, Inhabited

namespace OutputMode

def name : OutputMode → String
  | pad => "DigitalPad"
  | leftStick => "LeftStick"
  | rightStick => "RightStick"

/-- The left stick wins when both switches are on, and the pad when neither is. -/
def ofSnapshot (s : Snapshot) : OutputMode :=
  if s (.mode .ls) then leftStick
  else if s (.mode .rs) then rightStick
  else pad

end OutputMode

end Gamepad
