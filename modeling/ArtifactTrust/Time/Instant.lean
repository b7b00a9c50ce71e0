/-!
# Instants

An instant is a date and a time of day in Coordinated Universal Time, in the calendar that
extends the Gregorian one in both directions. A leap second is the second 60 of its minute,
so instants are ordered as their parts are, from the year down.
-/

namespace ArtifactTrust.Time

set_option autoImplicit false

/-- Every fourth year, but of the full centuries only every fourth. -/
def isLeapYear (year : Int) : Bool := year % 4 == 0 && (year % 100 != 0 || year % 400 == 0)

def monthLength (year : Int) (month : Nat) : Nat :=
  if month = 2 then if isLeapYear year then 29 else 28
  else if month = 4 ∨ month = 6 ∨ month = 9 ∨ month = 11 then 30
  else 31

def minYear : Int := -262143

def maxYear : Int := 262142

structure Date where
  year : Int
  month : Nat
  day : Nat
  year_range : minYear ≤ year ∧ year ≤ maxYear
  month_range : 1 ≤ month ∧ month ≤ 12
  day_range : 1 ≤ day ∧ day ≤ monthLength year month
deriving DecidableEq, Repr

namespace Date

def of? (year : Int) (month day : Nat) : Option Date :=
  if h : (minYear ≤ year ∧ year ≤ maxYear) ∧ (1 ≤ month ∧ month ≤ 12) ∧
      (1 ≤ day ∧ day ≤ monthLength year month) then
    some ⟨year, month, day, h.1, h.2.1, h.2.2⟩
  else none

def next? (d : Date) : Option Date :=
  if d.day < monthLength d.year d.month then of? d.year d.month (d.day + 1)
  else if d.month < 12 then of? d.year (d.month + 1) 1
  else of? (d.year + 1) 1 1

def previous? (d : Date) : Option Date :=
  if 1 < d.day then of? d.year d.month (d.day - 1)
  else if 1 < d.month then of? d.year (d.month - 1) (monthLength d.year (d.month - 1))
  else of? (d.year - 1) 12 31

end Date

/-- A date and a time of day; the second 60 is a leap second. -/
structure Instant where
  date : Date
  hour : Nat
  minute : Nat
  second : Nat
  nano : Nat
  hour_lt : hour < 24
  minute_lt : minute < 60
  second_le : second ≤ 60
  nano_lt : nano < 1000000000
deriving DecidableEq, Repr

namespace Instant

def of? (date : Date) (hour minute second nano : Nat) : Option Instant :=
  if h : hour < 24 ∧ minute < 60 ∧ second ≤ 60 ∧ nano < 1000000000 then
    some ⟨date, hour, minute, second, nano, h.1, h.2.1, h.2.2.1, h.2.2.2⟩
  else none

def parts (i : Instant) : List Int :=
  [i.date.year, i.date.month, i.date.day, i.hour, i.minute, i.second, i.nano]

/-- Whether some parts are not behind others: the first that differ decide. -/
def notBehind : List Int → List Int → Bool
  | a :: as, b :: bs => if a < b then true else if a = b then notBehind as bs else false
  | _, _ => true

instance : LE Instant := ⟨fun a b => notBehind a.parts b.parts = true⟩

instance (a b : Instant) : Decidable (a ≤ b) :=
  inferInstanceAs (Decidable (notBehind a.parts b.parts = true))

/-- The instant that clocks show as `i` where they are ahead by `offset` minutes, which is
less than a day. -/
def fromLocal? (i : Instant) (offset : Int) : Option Instant := do
  let minutes : Int := 60 * i.hour + i.minute - offset
  let date ← if minutes < 0 then i.date.previous? else if 1440 ≤ minutes then i.date.next?
    else some i.date
  let ofDay := (minutes % 1440).toNat
  of? date (ofDay / 60) (ofDay % 60) i.second i.nano

end Instant

end ArtifactTrust.Time
