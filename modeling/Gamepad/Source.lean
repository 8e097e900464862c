import Gamepad.Override
import Gamepad.Port.Cache
import Gamepad.Wiring

/-!
# Sources

A source yields one snapshot per reading: a pending override, or else all lines released, the
snapshot held out to it, or the levels of the pins it is bound to.
-/

namespace Gamepad

structure Binding (δ : Type) where
  port : δ
  bit : UInt8
  polarity : Polarity

/-- A binder is asked for one line at a time, and may remember what it was asked for. -/
abbrev Binder (σ δ : Type) :=
  σ → Wiring → Step σ (Reading (Binding δ))

def Binder.ofFn {δ : Type} (find : Wiring → Reading (Binding δ)) : Binder Unit δ :=
  fun _ w => ⟨(), find w, []⟩

/-- Where the bit of a bound line is found in a sweep. -/
structure BoundLine where
  line : Line
  port : Fin portCapacity
  bit : Fin 32
  polarity : Polarity
  deriving DecidableEq, Repr

/-- The ports that some lines live on, and the place of every line. -/
structure BoundLines (δ : Type) [Port δ] where
  cache : PortCache δ := PortCache.empty
  slots : List BoundLine := []

namespace BoundLines

variable {δ : Type} [Port δ]

def none : BoundLines δ :=
  {}

def add (bound : BoundLines δ) (w : Wiring) : Reading (Binding δ) → Logged (Reading (BoundLines δ))
  | .error fault => ⟨.error fault, []⟩
  | .ok binding =>
    if hbit : binding.bit.toNat < 32 then
      let registered := bound.cache.register binding.port
      ⟨registered.answer.map fun index =>
          ⟨registered.next, bound.slots ++ [⟨w.line, index, ⟨_, hbit⟩, binding.polarity⟩]⟩,
        registered.events⟩
    else
      ⟨.error (.bindFailed (some w.line)
        ("bit offset " ++ toString binding.bit ++ " outside port word")), []⟩

/-- Asks a binder for lines in order, up to the first that cannot be added. -/
def bindLines {σ : Type} (binder : Binder σ δ) :
    List Wiring → σ → BoundLines δ → Step σ (Reading (BoundLines δ))
  | [], memory, bound => ⟨memory, .ok bound, []⟩
  | w :: ws, memory, bound =>
    let found := binder memory w
    let added := bound.add w found.answer
    match added.value with
    | .error fault => ⟨found.next, .error fault, found.events ++ added.events⟩
    | .ok bound =>
      let rest := bindLines binder ws found.next bound
      ⟨rest.next, rest.answer, found.events ++ added.events ++ rest.events⟩

def bindWith {σ : Type} (table : WiringTable) (binder : Binder σ δ) (memory : σ) :
    Step σ (Reading (BoundLines δ)) :=
  let all := bindLines binder table.entries memory none
  match all.answer with
  | .error fault => ⟨all.next, .error fault, all.events⟩
  | .ok bound =>
    ⟨all.next, .ok bound, all.events ++ [.linesBound bound.slots.length bound.cache.size]⟩

/-- Binds a table with a binder that remembers nothing. -/
def bind (table : WiringTable) (binder : Wiring → Reading (Binding δ)) :
    Logged (Reading (BoundLines δ)) :=
  let all := bindWith table (.ofFn binder) ()
  ⟨all.answer, all.events⟩

def level (words : PortWords) (slot : BoundLine) : Bool :=
  slot.polarity.apply (words[slot.port].toBitVec.getLsbD slot.bit)

/-- The snapshot that a sweep shows; lines that are not bound are released. -/
def decode (bound : BoundLines δ) (words : PortWords) : Snapshot :=
  bound.slots.foldl (fun s slot => s.set slot.line (level words slot)) .released

end BoundLines

inductive Fallback (δ : Type) [Port δ]
  | released
  | held (s : Snapshot)
  | ports (bound : BoundLines δ)

structure Source (δ : Type) [Port δ] where
  overrides : OverrideSlot := .disabled
  fallback : Fallback δ

/-- The outcome of a reading and the ports that were read for it. -/
structure Acquired (δ : Type) where
  reading : Reading Snapshot
  read : List δ := []

namespace Fallback

variable {δ : Type} [Port δ]

def acquire (sense : δ → Reading UInt32) : Fallback δ → Acquired δ
  | released => ⟨.ok .released, []⟩
  | held s => ⟨.ok s, []⟩
  | ports bound =>
    let sweep := bound.cache.sweep sense
    ⟨sweep.words.map bound.decode, sweep.read⟩

def hold (s : Snapshot) : Fallback δ → Fallback δ
  | held _ => held s
  | other => other

def name : Fallback δ → String
  | released => "none"
  | held _ => "external"
  | ports _ => "physical"

end Fallback

namespace Source

variable {δ : Type} [Port δ]

def name (source : Source δ) : String :=
  source.fallback.name

def read (source : Source δ) (sense : δ → Reading UInt32) : Step (Source δ) (Acquired δ) :=
  let taken := source.overrides.take
  ⟨{ source with overrides := taken.next },
    match taken.answer with
    | some s => ⟨.ok s, []⟩
    | none => source.fallback.acquire sense,
    taken.events⟩

def push (source : Source δ) (s : Snapshot) : Source δ × Except Rejection Unit :=
  let (slot, outcome) := source.overrides.push s
  ({ source with overrides := slot }, outcome)

def hold (source : Source δ) (s : Snapshot) : Source δ :=
  { source with fallback := source.fallback.hold s }

end Source

inductive Target
  | held
  | queue
  deriving DecidableEq, Repr

/-- Delivers a snapshot to a source, which may be gone: then the queue is closed, while holding a
snapshot out to nobody has no effect. -/
def Target.deliver {δ : Type} [Port δ] (target : Target) (source : Option (Source δ))
    (s : Snapshot) : Option (Source δ) × Except Rejection Unit :=
  match target, source with
  | held, source => (source.map (·.hold s), .ok ())
  | queue, some source =>
    let (source, outcome) := source.push s
    (some source, outcome)
  | queue, none => (none, .error .closed)

end Gamepad
