/-! # Text -/

namespace Gamepad.Text

/-! ## Words -/

/-- The Unicode property White_Space. -/
def isBlank (c : Char) : Bool :=
  let n := c.toNat
  (9 ≤ n && n ≤ 13) || n == 0x20 || n == 0x85 || n == 0xA0 || n == 0x1680 ||
    (0x2000 ≤ n && n ≤ 0x200A) || n == 0x2028 || n == 0x2029 || n == 0x202F ||
    n == 0x205F || n == 0x3000

/-- The maximal runs of characters that are not blank, in text order. -/
def words : List Char → List (List Char)
  | [] => []
  | c :: cs =>
    if isBlank c then words cs
    else if cs.head?.all isBlank then [c] :: words cs
    else
      match words cs with
      | [] => [[c]]
      | w :: ws => (c :: w) :: ws

def trim (text : List Char) : List Char :=
  ((text.dropWhile isBlank).reverse.dropWhile isBlank).reverse

/-! ## Numbers, durations and records -/

def hexDigit (n : Nat) : String :=
  String.singleton (Nat.digitChar (n % 16))

def hexByte (b : UInt8) : String :=
  "0x" ++ hexDigit (b.toNat / 16) ++ hexDigit b.toNat

/-- The decimals of `n` thousandths, without the zeros at the end. -/
def thousandths (n : Nat) : String :=
  if n = 0 then ""
  else
    let digits := [n / 100 % 10, n / 10 % 10, n % 10]
    let kept := (digits.reverse.dropWhile (· = 0)).reverse
    "." ++ String.join (kept.map toString)

def duration (milliseconds : Nat) : String :=
  if milliseconds = 0 then "0ns"
  else if milliseconds < 1000 then toString milliseconds ++ "ms"
  else toString (milliseconds / 1000) ++ thousandths (milliseconds % 1000) ++ "s"

def braced (name : String) (fields : List (String × String)) : String :=
  name ++ " \x7b " ++ ", ".intercalate (fields.map fun f => f.1 ++ ": " ++ f.2) ++ " \x7d"

/-! ## Text on a terminal -/

/-- Control characters that a terminal takes for commands: escape, bell, backspace, form feed and
delete. -/
def terminalCommands : List Char :=
  ['\x1b', '\x07', '\x08', '\x0c', '\x7f']

def isHighControl (c : Char) : Bool :=
  0x80 ≤ c.toNat && c.toNat ≤ 0x9F

def onTerminal (c : Char) : String :=
  let hex := hexDigit (c.toNat / 16) ++ hexDigit c.toNat
  if c ∈ terminalCommands then "\\x" ++ hex
  else if isHighControl c then "\\u\x7b" ++ hex ++ "\x7d"
  else String.singleton c

def spellOut (text : String) : String :=
  String.join (text.toList.map onTerminal)

def firstLine (text : String) : String :=
  String.ofList (text.toList.takeWhile (· != '\n'))

end Gamepad.Text
