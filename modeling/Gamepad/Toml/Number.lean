import Gamepad.Toml.Quoted

/-!
# TOML numbers

Integers fit 64 bits with sign.  A float that exceeds every finite double is refused, unless it is
negative.
-/

namespace Gamepad.Toml

open Gamepad.Text Gamepad.Text.Parser

/-- Digits with at most one underscore between neighbours; the underscores are left out. -/
def digits (isDigit : Char → Bool) : Parser (List Char) := do
  let c ← satisfy isDigit
  let cs ← many (satisfy isDigit <|> (do
    let _ ← char '_'
    satisfy isDigit))
  return c :: cs

def sign : Parser Bool := do
  match ← optional (satisfy fun c => c == '+' || c == '-') with
  | some c => return c == '-'
  | none => return false

def wholeDigits : Parser (List Char) := do
  let first ← satisfy Char.isDigit
  if first == '0' then return [first]
  else
    let rest ← many (satisfy Char.isDigit <|> (do
      let _ ← char '_'
      satisfy Char.isDigit))
    return first :: rest

def signed (negative : Bool) (magnitude : Nat) : Int :=
  if negative then -(magnitude : Int) else magnitude

def fitsInteger (n : Int) : Bool :=
  Int64.minValue.toInt ≤ n && n ≤ Int64.maxValue.toInt

def decimalInteger : Parser Int := do
  let negative ← sign
  let ds ← wholeDigits
  let n := signed negative (numberOfDigits 10 ds)
  require (fitsInteger n)
  return n

def basedInteger (letter : Char) (base : Nat) (isDigit : Char → Bool) : Parser Int := do
  exactly ['0', letter]
  let ds ← digits isDigit
  let n : Int := numberOfDigits base ds
  require (fitsInteger n)
  return n

def integer : Parser Int :=
  basedInteger 'x' 16 isHexDigit <|>
  basedInteger 'o' 8 (fun c => '0' ≤ c && c ≤ '7') <|>
  basedInteger 'b' 2 (fun c => c == '0' || c == '1') <|>
  decimalInteger

/-- The least number that rounds to no finite double. -/
def doubleLimit : Nat :=
  Nat.pow 2 1024 - Nat.pow 2 970

/-- Whether `mantissa * 10 ^ exponent` is below `doubleLimit`.  The limit lies between `10 ^ 308`
and `10 ^ 309`, so that powers need to be compared only for numbers of about that length. -/
def fitsDouble (mantissa : Nat) (exponent : Int) : Bool :=
  let places := exponent + (Nat.toDigits 10 mantissa).length
  mantissa == 0 || places < 308 ||
    (places < 311 &&
      mantissa * Nat.pow 10 exponent.toNat < doubleLimit * Nat.pow 10 (-exponent).toNat)

def exponentPart : Parser Int := do
  let _ ← satisfy fun c => c == 'e' || c == 'E'
  let negative ← sign
  let ds ← digits Char.isDigit
  return signed negative (numberOfDigits 10 ds)

def fractionPart : Parser (List Char) := do
  let _ ← char '.'
  digits Char.isDigit

def finiteFloat : Parser Unit := do
  let negative ← sign
  let whole ← wholeDigits
  let fraction ← optional fractionPart
  let exponent ← optional exponentPart
  require (fraction.isSome || exponent.isSome)
  let decimals := fraction.getD []
  let mantissa := numberOfDigits 10 (whole ++ decimals)
  require (negative || fitsDouble mantissa (exponent.getD 0 - decimals.length))

def specialFloat : Parser Unit := do
  let _ ← sign
  exactly ['i', 'n', 'f'] <|> exactly ['n', 'a', 'n']

def float : Parser Unit :=
  finiteFloat <|> specialFloat

end Gamepad.Toml
