import Gamepad.Source

/-!
# Typed input

The feeder reads one snapshot per line of text.  A line that is no snapshot is ignored; one that is
not UTF-8 ends the feeder, and so does cancelling it, which it notices before the next line.
-/

namespace Gamepad.Feeder

def newline : UInt8 := 0x0A

def carriageReturn : UInt8 := 0x0D

def chomp (line : List UInt8) : List UInt8 :=
  if line.getLast? = some carriageReturn then line.dropLast else line

/-- The lines that end in a line feed, and what follows the last of them. -/
def cut : List UInt8 → List (List UInt8) × List UInt8
  | [] => ([], [])
  | b :: bytes =>
    match cut bytes with
    | (lines, rest) =>
      if b = newline then ([] :: lines, rest)
      else
        match lines with
        | [] => ([], b :: rest)
        | line :: lines => ((b :: line) :: lines, rest)

def completeLines (bytes : List UInt8) : List (List UInt8) × List UInt8 :=
  let (lines, rest) := cut bytes
  (lines.map chomp, rest)

def allLines (bytes : List UInt8) : List (List UInt8) :=
  let (lines, rest) := completeLines bytes
  if rest.isEmpty then lines else lines ++ [rest]

variable {δ : Type} [Port δ]

def feedLine (target : Target) (line : List UInt8) (source : Option (Source δ)) :
    Step (Option (Source δ)) Bool :=
  match String.fromUTF8? ⟨line.toArray⟩ with
  | none => ⟨source, false, [.feederBroken]⟩
  | some text =>
    match Snapshot.ofText text with
    | .error word =>
      ⟨source, true, [.typedIgnored (String.ofList (Text.trim text.toList)) word]⟩
    | .ok s =>
      let (next, outcome) := target.deliver source s
      ⟨next, true, .typed s.asserted ::
        match outcome with
        | .ok () => []
        | .error cause => [.typedDropped cause]⟩

/-- Deals with lines in order up to one that ends the feeder, and answers whether it goes on. -/
def feedLines (target : Target) (lines : List (List UInt8)) (source : Option (Source δ)) :
    Step (Option (Source δ)) Bool :=
  match lines with
  | [] => ⟨source, true, []⟩
  | line :: rest =>
    let first := feedLine target line source
    if first.answer then
      let last := feedLines target rest first.next
      ⟨last.next, last.answer, first.events ++ last.events⟩
    else first

/-- Feeds a whole input.  A feeder that is cancelled after `limit` lines deals with no further
line, but when there is none it ends as if it had not been cancelled. -/
def feed (target : Target) (limit : Option Nat) (bytes : List UInt8)
    (source : Option (Source δ)) : Step (Option (Source δ)) Unit :=
  let lines := allLines bytes
  let allowed := lines.take (limit.getD lines.length)
  let fed := feedLines target allowed source
  let finished := fed.answer && allowed.length == lines.length
  ⟨fed.next, (), fed.events ++ if finished then [.feederStopped] else []⟩

end Gamepad.Feeder
