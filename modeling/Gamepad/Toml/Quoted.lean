import Gamepad.Text.Parser

/-!
# TOML strings

Basic strings know escapes, literal strings know none.  Both exist on one line and, in three quotes,
over several lines, where one or two quotes in a row may stand anywhere.
-/

namespace Gamepad.Toml

open Gamepad.Text Gamepad.Text.Parser

def isTab (c : Char) : Bool :=
  c == '\t'

def isSpace (c : Char) : Bool :=
  c == ' ' || isTab c

/-- The characters of a comment: no control characters but the tab. -/
def isPlain (c : Char) : Bool :=
  isTab c || (0x20 ≤ c.toNat && c.toNat != 0x7F)

def isBasic (c : Char) : Bool :=
  isPlain c && c != '"' && c != '\\'

def isLiteral (c : Char) : Bool :=
  isPlain c && c != '\''

def spaces : Parser Unit := do
  let _ ← takeWhile isSpace

def newline : Parser Unit :=
  exactly ['\n'] <|> exactly ['\r', '\n']

def isHexDigit (c : Char) : Bool :=
  c.isDigit || ('a' ≤ c && c ≤ 'f') || ('A' ≤ c && c ≤ 'F')

def digitValue (c : Char) : Nat :=
  if c.isDigit then c.toNat - '0'.toNat
  else if 'a' ≤ c then c.toNat - 'a'.toNat + 10
  else c.toNat - 'A'.toNat + 10

def numberOfDigits (base : Nat) (digits : List Char) : Nat :=
  digits.foldl (fun n c => n * base + digitValue c) 0

def codePoint (digits : Nat) : Parser Char := do
  let ds ← times digits isHexDigit
  let n := numberOfDigits 16 ds
  require (n.isValidChar)
  return Char.ofNat n

/-- What follows the backslash of an escape. -/
def escaped : Parser Char := do
  match ← satisfy fun _ => true with
  | 'b' => return '\x08'
  | 't' => return '\t'
  | 'n' => return '\n'
  | 'f' => return '\x0c'
  | 'r' => return '\r'
  | '"' => return '"'
  | '\\' => return '\\'
  | 'u' => codePoint 4
  | 'U' => codePoint 8
  | _ => failure

def escape : Parser Char := do
  let _ ← char '\\'
  escaped

def basicString : Parser String := do
  let _ ← char '"'
  let cs ← many (satisfy isBasic <|> escape)
  let _ ← char '"'
  return String.ofList cs

def literalString : Parser String := do
  let _ ← char '\''
  let cs ← takeWhile isLiteral
  let _ ← char '\''
  return String.ofList cs

def lineBreak : Parser (List Char) := do
  newline
  return ['\n']

/-- A backslash at the end of a line, which joins it to the next character that is no blank. -/
def continuation : Parser (List Char) := do
  let _ ← char '\\'
  spaces
  newline
  let _ ← many (newline <|> (do let _ ← takeWhile1 isSpace))
  return []

def single (p : Parser Char) : Parser (List Char) := do
  let c ← p
  return [c]

/-- One or two quotes with another character after them. -/
def innerQuotes (quote : Char) : Parser (List Char)
  | a :: b :: rest =>
    if a != quote then none
    else if b != quote then some ([a], b :: rest)
    else
      match rest with
      | c :: _ => if c != quote then some ([a, b], rest) else none
      | [] => none
  | _ => none

/-- The closing quotes, before which one or two belong to the string. -/
def closingQuotes (quote : Char) : Parser (List Char) := do
  exactly [quote, quote, quote]
  let a ← optional (char quote)
  let b ← optional (char quote)
  return a.toList ++ b.toList

def multilineString (quote : Char) (piece : Parser (List Char)) : Parser String := do
  exactly [quote, quote, quote]
  let _ ← optional newline
  let pieces ← many (piece <|> innerQuotes quote)
  let quotes ← closingQuotes quote
  return String.ofList (pieces.flatten ++ quotes)

def multilineBasicString : Parser String :=
  multilineString '"' (single (satisfy isBasic) <|> continuation <|> single escape <|> lineBreak)

def multilineLiteralString : Parser String :=
  multilineString '\'' (single (satisfy isLiteral) <|> lineBreak)

def string : Parser String :=
  multilineBasicString <|> basicString <|> multilineLiteralString <|> literalString

end Gamepad.Toml
