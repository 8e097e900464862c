import Gamepad.Steering
import Gamepad.Text

/-!
# Controller states

At most one of the direction pad and the two sticks carries the directions; the others are at rest.
-/

namespace Gamepad

structure ControllerState where
  buttons : Table Button Bool := Table.const false
  dpad : Compass := .neutral
  leftStick : Stick := .centred
  rightStick : Stick := .centred
  touchpad : Touchpad := {}
  deriving DecidableEq

namespace ControllerState

def idle : ControllerState :=
  {}

def pressed (state : ControllerState) : List Button :=
  state.buttons.keysWhere id

def ofButtons (s : Snapshot) : ControllerState :=
  { buttons := Table.ofFn fun b => s (.button b) }

def releaseMenu (state : ControllerState) : ControllerState :=
  { state with buttons := Table.ofFn fun b => state.buttons b && !b.isMenu }

/-- Writes the direction pad and both sticks anew from the direction and mode lines. -/
def steer (state : ControllerState) (s : Snapshot) : ControllerState :=
  let intent := Intent.ofSnapshot s
  let mode := OutputMode.ofSnapshot s
  { state with
    dpad := if mode = .pad then intent.compass else .neutral
    leftStick := if mode = .leftStick then intent.stick else .centred
    rightStick := if mode = .rightStick then intent.stick else .centred }

end ControllerState

/-! ## Controller states in the log -/

def Stick.hex (s : Stick) : String :=
  "(" ++ Text.hexByte s.x ++ "," ++ Text.hexByte s.y ++ ")"

def TouchPoint.describe (p : TouchPoint) : String :=
  Text.braced "TouchPoint"
    [("active", toString p.active), ("x", toString p.x), ("y", toString p.y)]

def Touchpad.describe (t : Touchpad) : String :=
  Text.braced "TouchpadData"
    [("touches", "[" ++ t.first.describe ++ ", " ++ t.second.describe ++ "]")]

namespace ControllerState

def describe (state : ControllerState) : String :=
  Text.braced "NormalizedInputState" <|
    Button.all.map (fun b => ((Line.button b).name, toString (state.buttons b))) ++
    [("dpad", state.dpad.name),
     ("left_stick_x", toString state.leftStick.x),
     ("left_stick_y", toString state.leftStick.y),
     ("right_stick_x", toString state.rightStick.x),
     ("right_stick_y", toString state.rightStick.y),
     ("touchpad_data", state.touchpad.describe)]

def summary (state : ControllerState) : String :=
  "dpad: " ++ state.dpad.name ++
    " ls: " ++ state.leftStick.hex ++
    " rs: " ++ state.rightStick.hex ++
    " select/start/home: " ++
    "/".intercalate ([Button.select, .start, .home].map fun b => toString (state.buttons b))

end ControllerState

end Gamepad
