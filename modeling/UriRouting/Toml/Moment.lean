import UriRouting.Toml.Number

/-!
# TOML dates and times

A moment is a date, a time of day, or both with an optional offset.  Dates have to be days of the
calendar, and a minute may have a leap second.
-/

namespace UriRouting.Toml

/-- Takes a number of so many digits within bounds. -/
def bounded (count least most : Nat) : Scan Nat := do
  let n := ofDigits 10 (← Scan.exactly count isDecimal)
  Scan.check (decide (least ≤ n ∧ n ≤ most))
  return n

/-- Does the year have a 29th of February? -/
def isLeapYear (year : Nat) : Bool :=
  year % 4 == 0 && (year % 100 != 0 || year % 400 == 0)

/-- How many days a month has. -/
def daysOfMonth (year month : Nat) : Nat :=
  if month = 2 then (if isLeapYear year then 29 else 28)
  else if month = 4 ∨ month = 6 ∨ month = 9 ∨ month = 11 then 30
  else 31

/-- Takes a date. -/
def date : Scan Unit := do
  let year ← bounded 4 0 9999
  Scan.sign '-'
  let month ← bounded 2 1 12
  Scan.sign '-'
  let _ ← bounded 2 1 (daysOfMonth year month)

/-- Takes a time of day. -/
def timeOfDay : Scan Unit := do
  let _ ← bounded 2 0 23
  Scan.sign ':'
  let _ ← bounded 2 0 59
  Scan.sign ':'
  let _ ← bounded 2 0 60
  let _ ← Scan.optional (do
    Scan.sign '.'
    Scan.spanSome isDecimal)

/-- Takes the offset of a time of day. -/
def offset : Scan Unit :=
  discard (Scan.one fun c => c == 'Z' || c == 'z') <|> do
    let _ ← Scan.one fun c => c == '+' || c == '-'
    let _ ← bounded 2 0 23
    Scan.sign ':'
    let _ ← bounded 2 0 59

/-- Takes a date, a time of day or both, as it is written. -/
def moment : Scan String := do
  let dated := do
    date
    let _ ← Scan.optional (do
      let _ ← Scan.one fun c => c == 'T' || c == 't' || c == ' '
      timeOfDay
      let _ ← Scan.optional offset)
  return String.ofList (← Scan.taken (dated <|> timeOfDay))

end UriRouting.Toml
