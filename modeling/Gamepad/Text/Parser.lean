/-!
# Parsers over lists of characters

Repetition is bounded by the length of the input, which is no restriction for a parser that
consumes a character whenever it succeeds.
-/

namespace Gamepad.Text

abbrev Parser := StateT (List Char) Option

namespace Parser

def satisfy (p : Char → Bool) : Parser Char
  | c :: cs => if p c then some (c, cs) else none
  | [] => none

def char (c : Char) : Parser Char :=
  satisfy (· == c)

def exactly : List Char → Parser Unit
  | [] => pure ()
  | c :: cs => do
    let _ ← char c
    exactly cs

def takeWhile (p : Char → Bool) : Parser (List Char) :=
  fun cs => some (cs.takeWhile p, cs.dropWhile p)

def takeWhile1 (p : Char → Bool) : Parser (List Char) := do
  let c ← satisfy p
  let cs ← takeWhile p
  return c :: cs

def times (n : Nat) (p : Char → Bool) : Parser (List Char) :=
  match n with
  | 0 => pure []
  | n + 1 => do
    let c ← satisfy p
    let cs ← times n p
    return c :: cs

def manyUpTo {α : Type} (limit : Nat) (p : Parser α) (cs : List Char) : List α × List Char :=
  match limit with
  | 0 => ([], cs)
  | limit + 1 =>
    match p cs with
    | none => ([], cs)
    | some (a, rest) =>
      let (as, rest) := manyUpTo limit p rest
      (a :: as, rest)

/-- As many results of `p` as there are, one after the other. -/
def many {α : Type} (p : Parser α) : Parser (List α) :=
  fun cs => some (manyUpTo cs.length p cs)

def separated1 {α β : Type} (separator : Parser β) (p : Parser α) : Parser (List α) := do
  let a ← p
  let as ← many do
    let _ ← separator
    p
  return a :: as

def finished : Parser Unit
  | [] => some ((), [])
  | _ :: _ => none

def require (condition : Bool) : Parser Unit :=
  if condition then pure () else failure

def parseAll {α : Type} (p : Parser α) (text : List Char) : Option α :=
  match p text with
  | some (a, []) => some a
  | _ => none

end Parser

end Gamepad.Text
