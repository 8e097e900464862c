import Gamepad.Snapshot

/-!
# The minimum-dwell filter

A new value of a line is accepted once the dwell has passed since the last accepted one.  Ticks are
64-bit and wrap, and the elapsed time is taken modulo `2 ^ 64`.
-/

namespace Gamepad

abbrev Tick := UInt64

/-- The last accepted value of a line and the tick at which it was accepted. -/
structure Accepted where
  value : Bool := false
  since : Tick := 0
  deriving DecidableEq, Repr, Inhabited

/-- The record after `raw` was seen at `now`; its value is the filtered value of the line. -/
def Accepted.observe (held : Accepted) (dwell : UInt64) (raw : Bool) (now : Tick) : Accepted :=
  if raw = held.value then held
  else if now - held.since < dwell then held
  else ⟨raw, now⟩

def dwellOfMillis (milliseconds ticksPerMs : UInt64) : UInt64 :=
  UInt64.ofNat (min (milliseconds.toNat * ticksPerMs.toNat) (UInt64.size - 1))

def defaultDebounceMs : UInt64 := 5

def defaultTicksPerMs : UInt64 := 1000

abbrev History := Table Line Accepted

namespace History

def initial : History :=
  Table.const {}

def observe (h : History) (dwell : UInt64) (raw : Snapshot) (now : Tick) : History :=
  Table.ofFn fun l => (h l).observe dwell (raw l) now

/-- The snapshot `raw` with the accepted values in place of its own. -/
def filter (h : History) (raw : Snapshot) : Snapshot :=
  { raw with lines := Table.ofFn fun l => (h l).value }

/-- The lines whose value in `raw` was not accepted, with the value they keep. -/
def heldBack (h : History) (raw : Snapshot) : List (Line × Bool) :=
  (Line.all.filter fun l => (h l).value != raw l).map fun l => (l, (h l).value)

def touched (h : History) : List (Line × Accepted) :=
  (h.keysWhere fun a => a != {}).map fun l => (l, h l)

@[simp]
theorem observe_get (h : History) (dwell : UInt64) (raw : Snapshot) (now : Tick) (l : Line) :
    (h.observe dwell raw now).get l = (h.get l).observe dwell (raw.get l) now := by
  simp [observe]

@[simp]
theorem filter_get (h : History) (raw : Snapshot) (l : Line) :
    (h.filter raw).get l = (h.get l).value := by
  simp [filter, Snapshot.get]

@[simp]
theorem filter_touchpad (h : History) (raw : Snapshot) :
    (h.filter raw).touchpad = raw.touchpad := rfl

end History

end Gamepad
