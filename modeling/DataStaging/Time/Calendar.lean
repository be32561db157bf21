/-!
# Calendar dates

Instants are milliseconds since 1970-01-01T00:00:00 UTC. Dates are of the Gregorian calendar carried
on in both directions; a legal instant lies in the years -262143 to 262142.
-/

namespace DataStaging

/-- Milliseconds since 1970-01-01T00:00:00 UTC. -/
abbrev Instant := Int

namespace Calendar

/-- The first legal instant, the start of the year -262143. -/
def earliest : Instant := -8334601228800000

/-- The last legal instant, the end of the year 262142. -/
def latest : Instant := 8210266876799999

/-- Whether an instant lies in the years that the calendar covers. -/
def isLegal (t : Instant) : Bool := earliest ≤ t && t ≤ latest

/-- A year, a month and a day of the month. -/
structure Date where
  year : Int
  month : Nat
  day : Nat
deriving DecidableEq, Repr

/-- The date of the day that lies `days` after 1970-01-01. Years are counted from March, so that
    the leap day ends a year, in eras of 400 years or 146097 days. -/
def civil (days : Int) : Date :=
  let z := days + 719468
  let era := z / 146097
  let doe := (z % 146097).toNat
  let yoe := (doe - doe / 1460 + doe / 36524 - doe / 146096) / 365
  let doy := doe - (365 * yoe + yoe / 4 - yoe / 100)
  let mp := (5 * doy + 2) / 153
  let day := doy - (153 * mp + 2) / 5 + 1
  let month := if mp < 10 then mp + 3 else mp - 9
  let year := (yoe : Int) + era * 400 + (if month ≤ 2 then 1 else 0)
  ⟨year, month, day⟩

/-- `n` with leading zeros up to `width` digits. -/
def padded (width n : Nat) : String :=
  let digits := toString n
  String.ofList (List.replicate (width - digits.length) '0') ++ digits

/-- A year in four digits, with a sign outside 0 to 9999. -/
def yearText (y : Int) : String :=
  if 0 ≤ y && y ≤ 9999 then padded 4 y.toNat
  else (if y < 0 then "-" else "+") ++ padded 4 y.natAbs

/-- The date and time of an instant; milliseconds are shown when they are not zero. -/
def stamp (t : Instant) (zone : String) : String :=
  let date := civil (t / 86400000)
  let ms := (t % 86400000).toNat
  let s := ms / 1000
  let fraction := if ms % 1000 = 0 then "" else "." ++ padded 3 (ms % 1000)
  yearText date.year ++ "-" ++ padded 2 date.month ++ "-" ++ padded 2 date.day ++ "T" ++
    padded 2 (s / 3600) ++ ":" ++ padded 2 (s / 60 % 60) ++ ":" ++ padded 2 (s % 60) ++
    fraction ++ zone

end Calendar

end DataStaging
