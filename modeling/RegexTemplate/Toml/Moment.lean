import RegexTemplate.Toml.Cursor

/-!
# Dates and times

A moment is a date, a time of day or both; only with both it may have an offset from universal time.
-/

namespace RegexTemplate.Toml

/-- A day of the calendar. -/
structure Date where
  year : Nat
  month : Nat
  day : Nat
deriving DecidableEq, Repr

/-- A time of day. -/
structure Time where
  hour : Nat
  minute : Nat
  second : Nat
  nanosecond : Nat
deriving DecidableEq, Repr

/-- A distance from universal time. -/
inductive Offset where
  | universal
  | minutes (count : Int)
deriving DecidableEq, Repr

/-- A date, a time of day or both. -/
structure Moment where
  date : Option Date
  time : Option Time
  offset : Option Offset
deriving DecidableEq, Repr

/-- How many days a month has. -/
def daysInMonth (year month : Nat) : Nat :=
  if month = 2 then
    if year % 4 = 0 ∧ (year % 100 ≠ 0 ∨ year % 400 = 0) then 29 else 28
  else if month = 4 ∨ month = 6 ∨ month = 9 ∨ month = 11 then 30
  else 31

/-- A number with zeros in front, as many digits as there are places. -/
def padded (places n : Nat) : String :=
  let digits := Nat.toDigits 10 n
  String.ofList (List.replicate (places - digits.length) '0' ++ digits)

/-- The digits of a count of nanoseconds behind the point, without zeros at the end. -/
def fraction (nanosecond : Nat) : String :=
  String.ofList ((padded 9 nanosecond).toList.reverse.dropWhile (· == '0')).reverse

def Date.text (date : Date) : String :=
  padded 4 date.year ++ "-" ++ padded 2 date.month ++ "-" ++ padded 2 date.day

def Time.text (time : Time) : String :=
  padded 2 time.hour ++ ":" ++ padded 2 time.minute ++ ":" ++ padded 2 time.second ++
    if time.nanosecond = 0 then "" else "." ++ fraction time.nanosecond

def Offset.text : Offset → String
  | .universal => "Z"
  | .minutes count =>
    (if count < 0 then "-" else "+") ++ padded 2 (count.natAbs / 60) ++ ":" ++
      padded 2 (count.natAbs % 60)

/-- The normal form of a moment. -/
def Moment.text (moment : Moment) : String :=
  let date := (moment.date.map Date.text).getD ""
  let time := (moment.time.map Time.text).getD ""
  let join := if moment.date.isSome && moment.time.isSome then "T" else ""
  date ++ join ++ time ++ (moment.offset.map Offset.text).getD ""

namespace Cursor

/-- Reads a number of a fixed count of digits that lies between two bounds. -/
def readDigits? (cursor : Cursor) (count least most : Nat) : Option (Nat × Cursor) :=
  let digits := cursor.rest.take count
  let n := decimalValue digits
  if digits.length = count ∧ digits.all Char.isDigit ∧ least ≤ n ∧ n ≤ most then
    some (n, cursor.drop count)
  else none

/-- Reads a date that exists. -/
def readDate? (cursor : Cursor) : Option (Date × Cursor) := do
  let (year, cursor) ← cursor.readDigits? 4 0 9999
  let cursor ← cursor.take? '-'
  let (month, cursor) ← cursor.readDigits? 2 1 12
  let cursor ← cursor.take? '-'
  let (day, cursor) ← cursor.readDigits? 2 1 (daysInMonth year month)
  return (⟨year, month, day⟩, cursor)

/-- Reads a fraction of a second.  Digits behind the ninth are dropped. -/
def readFraction (cursor : Cursor) : Option (Nat × Cursor) :=
  match cursor.take? '.' with
  | none => some (0, cursor)
  | some cursor =>
    let (digits, cursor) := cursor.takeWhile Char.isDigit
    if digits.isEmpty then none
    else
      let kept := digits.take 9
      some (decimalValue kept * Nat.pow 10 (9 - kept.length), cursor)

/-- Reads a time of day up to a given last hour.  A minute may have a leap second. -/
def readTime? (cursor : Cursor) (lastHour : Nat) : Option (Time × Cursor) := do
  let (hour, cursor) ← cursor.readDigits? 2 0 lastHour
  let cursor ← cursor.take? ':'
  let (minute, cursor) ← cursor.readDigits? 2 0 59
  let cursor ← cursor.take? ':'
  let (second, cursor) ← cursor.readDigits? 2 0 60
  let (nanosecond, cursor) ← cursor.readFraction
  return (⟨hour, minute, second, nanosecond⟩, cursor)

/-- Reads hours and minutes within bounds as a number of minutes. -/
def readDistance? (cursor : Cursor) (lastHour lastMinute : Nat) : Option (Int × Cursor) := do
  let (hours, cursor) ← cursor.readDigits? 2 0 lastHour
  let cursor ← cursor.take? ':'
  let (minutes, cursor) ← cursor.readDigits? 2 0 lastMinute
  return ((60 * hours + minutes : Nat), cursor)

/-- Reads a distance from universal time within bounds, if there is one. -/
def readOffset? (cursor : Cursor) (lastHour lastMinute : Nat) :
    Option (Option Offset × Cursor) :=
  let distance := (cursor.drop 1).readDistance? lastHour lastMinute
  match cursor.rest with
  | 'Z' :: _ => some (some .universal, cursor.drop 1)
  | 'z' :: _ => some (some .universal, cursor.drop 1)
  | '+' :: _ => distance.map fun (n, cursor) => (some (.minutes n), cursor)
  | '-' :: _ => distance.map fun (n, cursor) => (some (.minutes (-n)), cursor)
  | _ => some (none, cursor)

/-- Goes over what may stand between a date and a time. -/
def takeTimeMark? (cursor : Cursor) : Option Cursor :=
  cursor.take? 'T' <|> cursor.take? 't' <|> cursor.take? ' '

/-- Reads a moment.  A date is followed by a time only if a `T` or one blank stands between. -/
def readMoment? (cursor : Cursor) : Option (Moment × Cursor) :=
  match cursor.readDate? with
  | none => (cursor.readTime? 23).map fun (time, cursor) => (⟨none, some time, none⟩, cursor)
  | some (date, behind) =>
    let timed : Option (Moment × Cursor) := do
      let cursor ← behind.takeTimeMark?
      let (time, cursor) ← cursor.readTime? 23
      let (offset, cursor) ← cursor.readOffset? 23 59
      return (⟨some date, some time, offset⟩, cursor)
    some (timed.getD (⟨some date, none, none⟩, behind))

end Cursor

/-- The longest distance from universal time, in minutes. -/
def longestDistance : Nat := 24 * 60

/-- Whether an offset is not longer than a day. -/
def Offset.isNear : Offset → Bool
  | .universal => true
  | .minutes count => count.natAbs ≤ longestDistance

/-- The moment that a text is, outside of documents.  There the hour 24 exists, and an offset may
follow a date. -/
def Moment.ofText? (text : String) : Option Moment := do
  let cursor : Cursor := ⟨0, text.toList⟩
  let (moment, cursor) ←
    if text.toList[2]? == some ':' then do
      let (time, cursor) ← cursor.readTime? 24
      pure (⟨none, some time, none⟩, cursor)
    else do
      let (date, cursor) ← cursor.readDate?
      let (time, cursor) ←
        match cursor.takeTimeMark? with
        | some cursor => (cursor.readTime? 24).map fun (time, cursor) => (some time, cursor)
        | none => some (none, cursor)
      let (offset, cursor) ← cursor.readOffset? 99 99
      if offset.all Offset.isNear then pure (⟨some date, time, offset⟩, cursor) else none
  if cursor.rest.isEmpty then some moment else none

end RegexTemplate.Toml
