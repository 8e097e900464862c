import Gamepad.Toml.Quoted

/-! # TOML dates and times -/

namespace Gamepad.Toml

open Gamepad.Text Gamepad.Text.Parser

def fixedNumber (places : Nat) : Parser Nat := do
  let ds ← times places Char.isDigit
  return numberOfDigits 10 ds

def isLeapYear (year : Nat) : Bool :=
  year % 4 == 0 && (year % 100 != 0 || year % 400 == 0)

def daysInMonth (year month : Nat) : Nat :=
  if month == 2 then if isLeapYear year then 29 else 28
  else if month == 4 || month == 6 || month == 9 || month == 11 then 30
  else 31

def date : Parser Unit := do
  let year ← fixedNumber 4
  let _ ← char '-'
  let month ← fixedNumber 2
  require (1 ≤ month && month ≤ 12)
  let _ ← char '-'
  let day ← fixedNumber 2
  require (1 ≤ day && day ≤ daysInMonth year month)

def clockTime : Parser Unit := do
  let hour ← fixedNumber 2
  require (hour ≤ 23)
  let _ ← char ':'
  let minute ← fixedNumber 2
  require (minute ≤ 59)

def timeOfDay : Parser Unit := do
  clockTime
  let _ ← char ':'
  let second ← fixedNumber 2
  require (second ≤ 60)
  let _ ← optional do
    let _ ← char '.'
    takeWhile1 Char.isDigit

def offset : Parser Unit :=
  (do let _ ← satisfy fun c => c == 'Z' || c == 'z') <|>
  (do
    let _ ← satisfy fun c => c == '+' || c == '-'
    clockTime)

def dateTime : Parser Unit :=
  (do
    date
    let _ ← optional do
      let _ ← satisfy fun c => c == 'T' || c == 't' || c == ' '
      timeOfDay
      optional offset) <|>
  timeOfDay

end Gamepad.Toml
