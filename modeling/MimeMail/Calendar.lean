
namespace MimeMail

structure Date where
  weekday : Nat
  day : Nat
  month : Nat
  year : Int
  hour : Nat
  minute : Nat
  second : Nat
  deriving DecidableEq, Repr

namespace Date

/-- The date of a number of days after the start of 1970. Years are counted from March on, in cycles
of 400 years, so that the leap day is the last one of its year. -/
def ofDays (days : Int) : Int × Nat × Nat :=
  let z := days + 719468
  let cycle := z / 146097
  let dayOfCycle := (z % 146097).toNat
  let yearOfCycle :=
    (dayOfCycle - dayOfCycle / 1460 + dayOfCycle / 36524 - dayOfCycle / 146096) / 365
  let dayOfYear := dayOfCycle - (365 * yearOfCycle + yearOfCycle / 4 - yearOfCycle / 100)
  let monthFromMarch := (5 * dayOfYear + 2) / 153
  let day := dayOfYear - (153 * monthFromMarch + 2) / 5 + 1
  let month := if monthFromMarch < 10 then monthFromMarch + 3 else monthFromMarch - 9
  let year := cycle * 400 + yearOfCycle
  (if month ≤ 2 then year + 1 else year, month, day)

def ofSeconds (clock : Int) : Date :=
  let days := clock / 86400
  let second := (clock % 86400).toNat
  let (year, month, day) := ofDays days
  { weekday := ((days + 4) % 7).toNat
    day := day
    month := month
    year := year
    hour := second / 3600
    minute := second / 60 % 60
    second := second % 60 }

def weekdays : List String :=
  ["Sun", "Mon", "Tue", "Wed", "Thu", "Fri", "Sat"]

def months : List String :=
  ["Jan", "Feb", "Mar", "Apr", "May", "Jun", "Jul", "Aug", "Sep", "Oct", "Nov", "Dec"]

def padded (width n : Nat) : String :=
  let digits := toString n
  String.ofList (List.replicate (width - digits.length) '0') ++ digits

/-- A year of four digits, or one with a sign. -/
def yearText (year : Int) : String :=
  if year < 0 then "-" ++ padded 4 year.natAbs
  else if 9999 < year then "+" ++ padded 4 year.natAbs
  else padded 4 year.natAbs

def text (d : Date) : String :=
  (weekdays[d.weekday]?).getD "" ++ ", " ++ padded 2 d.day ++ " " ++
    (months[d.month - 1]?).getD "" ++ " " ++ yearText d.year ++ " " ++
    padded 2 d.hour ++ ":" ++ padded 2 d.minute ++ ":" ++ padded 2 d.second ++ " +0000"

end Date

end MimeMail
