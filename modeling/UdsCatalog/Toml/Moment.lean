import UdsCatalog.Text.Reads

/-! Dates and times of TOML documents, read as the text in which they are shown. -/

namespace UdsCatalog.Toml

open Text (Reads)

/-- Reads a number of exactly so many digits. -/
def readPlaces (count : Nat) (chars : List Char) : Option (Nat × List Char) :=
  let digits := chars.take count
  if digits.length == count && digits.all Char.isDigit then
    some (digits.foldl (fun value c => value * 10 + (c.toNat - '0'.toNat)) 0, chars.drop count)
  else none

/-- Reads two digits of a value between two bounds. -/
def readTwo (least greatest : Nat) (chars : List Char) : Option (Nat × List Char) := do
  let (value, rest) ← readPlaces 2 chars
  if least ≤ value ∧ value ≤ greatest then some (value, rest) else none

/-- The number of days of a month. -/
def daysIn (year month : Nat) : Nat :=
  if month = 2 then
    if year % 4 = 0 ∧ (year % 100 ≠ 0 ∨ year % 400 = 0) then 29 else 28
  else if month = 4 ∨ month = 6 ∨ month = 9 ∨ month = 11 then 30
  else 31

/-- A number with leading zeros. -/
def padded (width value : Nat) : String :=
  let digits := toString value
  String.ofList (List.replicate (width - digits.length) '0') ++ digits

/-- Reads a date. -/
def readDate (chars : List Char) : Option (String × List Char) := do
  let (year, rest) ← readPlaces 4 chars
  let (month, rest) ← readTwo 1 12 (← Text.past? ['-'] rest)
  let (day, rest) ← readTwo 1 (daysIn year month) (← Text.past? ['-'] rest)
  return (padded 4 year ++ "-" ++ padded 2 month ++ "-" ++ padded 2 day, rest)

/-- The number of digits of a second that count. -/
def secondPlaces : Nat := 9

/-- Reads the fraction of a second. Zeros at its end are not shown. -/
def readSecondFraction (chars : List Char) : String × List Char :=
  let digits := ((Text.past? ['.'] chars).getD []).takeWhile Char.isDigit
  -- Digits beyond those that count are cut off, not rounded.
  let shown := ((digits.take secondPlaces).reverse.dropWhile (· == '0')).reverse
  if digits.isEmpty then ("", chars)
  else (if shown.isEmpty then "" else String.ofList ('.' :: shown), chars.drop (digits.length + 1))

/-- Reads a time of day. -/
def readTime (chars : List Char) : Option (String × List Char) := do
  let (hour, rest) ← readTwo 0 23 chars
  let (minute, rest) ← readTwo 0 59 (← Text.past? [':'] rest)
  -- A minute may have a leap second.
  let (second, rest) ← readTwo 0 60 (← Text.past? [':'] rest)
  let (fraction, rest) := readSecondFraction rest
  return (padded 2 hour ++ ":" ++ padded 2 minute ++ ":" ++ padded 2 second ++ fraction, rest)

/-- Reads a distance from universal time. No distance is shown as a positive one. -/
def readOffset : Reads String
  | [] => none
  | sign :: rest =>
    if sign == 'Z' || sign == 'z' then some ("Z", rest)
    else if sign == '+' || sign == '-' then do
      let (hour, rest) ← readTwo 0 23 rest
      let (minute, rest) ← readTwo 0 59 (← Text.past? [':'] rest)
      let shown := if hour + minute = 0 then '+' else sign
      return (shown.toString ++ padded 2 hour ++ ":" ++ padded 2 minute, rest)
    else none

/-- Reads a time behind a date: a letter or a blank, the time, and perhaps a distance. -/
def readTimeOfDate : Reads String
  | [] => none
  | mark :: rest => do
    -- A blank only counts if a time follows; else it ends the date.
    if mark != 'T' && mark != 't' && mark != ' ' then none
    let (time, rest) ← readTime rest
    -- Without a distance the time is local.
    let (offset, rest) := (readOffset rest).getD ("", rest)
    return ("T" ++ time ++ offset, rest)

/-- Reads a date, a time of day, or both. -/
def readMoment (chars : List Char) : Option (String × List Char) :=
  match readDate chars with
  | some (date, rest) =>
    let (time, rest) := (readTimeOfDate rest).getD ("", rest)
    some (date ++ time, rest)
  -- A time of day that no date precedes has no distance either.
  | none => readTime chars

end UdsCatalog.Toml
