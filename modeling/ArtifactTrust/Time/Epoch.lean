import ArtifactTrust.Time.Instant

/-!
# Counting from the epoch

Clocks count the time since the first instant of 1970. The calendar repeats itself every four
hundred years; within such an era the days are counted from the first of March, so that the
leap day is the last of its year.
-/

namespace ArtifactTrust.Time

set_option autoImplicit false

def eraDays : Nat := 146097

/-- The days from the first of March of the year 0 to the first of January of 1970. -/
def epochDay : Nat := 719468

/-- The year of its era that a day of the era is in. -/
def yearOfEra (day : Nat) : Nat := (day - day / 1460 + day / 36524 - day / 146096) / 365

def daysBefore (year : Nat) : Nat := 365 * year + year / 4 - year / 100

/-- The days of a year before one of its months, which are counted from March. -/
def daysBeforeMonth (month : Nat) : Nat := (153 * month + 2) / 5

/-- The date that is a number of days behind the first of January of 1970. -/
def Date.ofEpochDay? (days : Nat) : Option Date :=
  let era := (days + epochDay) / eraDays
  let dayOfEra := (days + epochDay) % eraDays
  let year := yearOfEra dayOfEra
  let dayOfYear := dayOfEra - daysBefore year
  let month := (5 * dayOfYear + 2) / 153
  let day := dayOfYear - daysBeforeMonth month + 1
  if month < 10 then of? (400 * era + year) (month + 3) day
  else of? (400 * era + year + 1) (month - 9) day

def Instant.ofEpoch? (nanos : Nat) : Option Instant := do
  let seconds := nanos / 1000000000
  let date ← Date.ofEpochDay? (seconds / 86400)
  of? date (seconds / 3600 % 24) (seconds / 60 % 60) (seconds % 60) (nanos % 1000000000)

end ArtifactTrust.Time
