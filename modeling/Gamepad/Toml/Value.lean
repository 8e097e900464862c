/-!
# TOML values

Of a number with a fraction and of a date only the kind is kept.
-/

namespace Gamepad.Toml

inductive Value
  | string (s : String)
  | integer (n : Int)
  | boolean (b : Bool)
  | float
  | dateTime
  | array (items : List Value)
  | table (entries : List (String × Value))
  deriving Repr, Inhabited

/-- A table: keys with their values, no key twice. -/
abbrev Entries := List (String × Value)

mutual

def Value.same : Value → Value → Bool
  | .string s, .string t => s == t
  | .integer m, .integer n => m == n
  | .boolean b, .boolean c => b == c
  | .float, .float => true
  | .dateTime, .dateTime => true
  | .array vs, .array ws => sameItems vs ws
  | .table vs, .table ws => sameEntries vs ws
  | _, _ => false

def sameItems : List Value → List Value → Bool
  | [], [] => true
  | v :: vs, w :: ws => v.same w && sameItems vs ws
  | _, _ => false

def sameEntries : List (String × Value) → List (String × Value) → Bool
  | [], [] => true
  | (key, v) :: vs, (key', w) :: ws => key == key' && v.same w && sameEntries vs ws
  | _, _ => false

end

mutual

theorem Value.same_iff (v w : Value) : v.same w = true ↔ v = w := by
  cases v <;> cases w <;> simp [Value.same, sameItems_iff, sameEntries_iff]

theorem sameItems_iff (vs ws : List Value) : sameItems vs ws = true ↔ vs = ws := by
  match vs, ws with
  | [], [] => simp [sameItems]
  | [], _ :: _ => simp [sameItems]
  | _ :: _, [] => simp [sameItems]
  | v :: vs, w :: ws => simp [sameItems, v.same_iff w, sameItems_iff vs ws]

theorem sameEntries_iff (vs ws : List (String × Value)) :
    sameEntries vs ws = true ↔ vs = ws := by
  match vs, ws with
  | [], [] => simp [sameEntries]
  | [], _ :: _ => simp [sameEntries]
  | _ :: _, [] => simp [sameEntries]
  | (key, v) :: vs, (key', w) :: ws =>
    simp [sameEntries, v.same_iff w, sameEntries_iff vs ws]

end

instance : DecidableEq Value :=
  fun v w => decidable_of_iff _ (v.same_iff w)

namespace Value

def get? (entries : Entries) (key : String) : Option Value :=
  (entries.find? fun e => e.1 = key).map Prod.snd

def isEmpty : Value → Bool
  | array items => items.isEmpty
  | table entries => entries.isEmpty
  | _ => false

def toUInt64? : Value → Option UInt64
  | integer n => if 0 ≤ n ∧ n.toNat < UInt64.size then some (UInt64.ofNat n.toNat) else none
  | _ => none

def toUInt8? : Value → Option UInt8
  | integer n => if 0 ≤ n ∧ n.toNat < UInt8.size then some (UInt8.ofNat n.toNat) else none
  | _ => none

def toBool? : Value → Option Bool
  | boolean b => some b
  | _ => none

def toString? : Value → Option String
  | string s => some s
  | _ => none

def toChoice? {α : Type} (cases : List α) (name : α → String) : Value → Option α
  | string s => cases.find? fun a => name a = s
  | table [(key, inner)] =>
    if inner.isEmpty then cases.find? fun a => name a = key else none
  | _ => none

end Value

/-- The decoded value of a key, or a default where the key is missing. -/
def field {α : Type} (entries : Entries) (key : String) (decode : Value → Option α)
    (default : Option α) : Option α :=
  match Value.get? entries key with
  | none => default
  | some v => decode v

def element {α : Type} (items : List Value) (place : Nat) (decode : Value → Option α)
    (default : Option α) : Option α :=
  match items[place]? with
  | none => default
  | some v => decode v

end Gamepad.Toml
