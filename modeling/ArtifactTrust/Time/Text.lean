import ArtifactTrust.Text.Blank
import ArtifactTrust.Text.Decimal
import ArtifactTrust.Time.Instant

/-!
# The text of instants

Instants are written as `2026-01-31T12:00:00Z`, in Coordinated Universal Time: as many digits
of a fraction of a second as it takes, in threes, and a sign before a year that has not four
digits. The reader is more liberal. It takes blanks between the parts, parts of one digit, a
small `t` or a space for the `T`, and any offset from Universal Time below a day.
-/

namespace ArtifactTrust.Time

set_option autoImplicit false

open Text

namespace Parse

def number? (limit : Nat) (cs : List Char) : Option (Nat × List Char) :=
  let cs := trimStart cs
  let digits := (cs.take limit).takeWhile isDigit
  if digits.isEmpty then none else some (digitsValue digits, cs.drop digits.length)

/-- A year: at most four digits, or any number of them behind a sign. -/
def year? (cs : List Char) : Option (Int × List Char) :=
  let signed (rest : List Char) : Option (Nat × List Char) :=
    let digits := rest.takeWhile isDigit
    if digits.isEmpty then none else some (digitsValue digits, rest.drop digits.length)
  match trimStart cs with
  | '-' :: rest => (signed rest).map fun (n, rest) => (-(n : Int), rest)
  | '+' :: rest => (signed rest).map fun (n, rest) => ((n : Int), rest)
  | rest => (number? 4 rest).map fun (n, rest) => ((n : Int), rest)

def mark? (c : Char) (cs : List Char) : Option (List Char) :=
  match trimStart cs with
  | d :: rest => if d = c then some rest else none
  | [] => none

def separator? : List Char → Option (List Char)
  | c :: rest => if c == 'T' || c == 't' || c == ' ' then some rest else none
  | [] => none

/-- The billionths of a second behind a period; digits beyond the ninth are passed over. -/
def fraction? : List Char → Option (Nat × List Char)
  | '.' :: rest =>
    let digits := rest.takeWhile isDigit
    if digits.isEmpty then none
    else some (digitsValue ((digits ++ List.replicate 9 '0').take 9), rest.drop digits.length)
  | cs => some (0, cs)

/-- Hours and minutes of an offset, two digits each, with colons and blanks between them. -/
def offsetMinutes? : List Char → Option (Nat × List Char)
  | a :: b :: rest =>
    match rest.dropWhile fun c => c == ':' || isBlank c with
    | c :: d :: rest =>
      let hours := digitsValue [a, b]
      let minutes := digitsValue [c, d]
      if [a, b, c, d].all isDigit && hours < 24 && minutes < 60 then
        some (60 * hours + minutes, rest)
      else none
    | _ => none
  | _ => none

def offset? (cs : List Char) : Option (Int × List Char) :=
  match trimStart cs with
  | 'Z' :: rest => some (0, rest)
  | 'z' :: rest => some (0, rest)
  | '+' :: rest => (offsetMinutes? rest).map fun (n, rest) => ((n : Int), rest)
  | '-' :: rest => (offsetMinutes? rest).map fun (n, rest) => (-(n : Int), rest)
  | '−' :: rest => (offsetMinutes? rest).map fun (n, rest) => (-(n : Int), rest)
  | u :: t :: c :: rest =>
    if (u == 'U' || u == 'u') && (t == 'T' || t == 't') && (c == 'C' || c == 'c') then
      some (0, rest)
    else none
  | _ => none

end Parse

namespace Instant

open Parse

def parse? (text : String) : Option Instant := do
  let (year, cs) ← year? text.toList
  let (month, cs) ← number? 2 (← mark? '-' cs)
  let (day, cs) ← number? 2 (← mark? '-' cs)
  let (hour, cs) ← number? 2 (← separator? cs)
  let (minute, cs) ← number? 2 (← mark? ':' cs)
  let (second, cs) ← number? 2 (← mark? ':' cs)
  let (nano, cs) ← fraction? cs
  let (offset, cs) ← offset? cs
  if (trimStart cs).isEmpty then
    let date ← Date.of? year month day
    (← of? date hour minute second nano).fromLocal? offset
  else none

/-- Four digits, or a sign and at least four digits. -/
def yearText (year : Int) : String :=
  if 0 ≤ year ∧ year ≤ 9999 then padded 4 year.toNat
  else (if year < 0 then "-" else "+") ++ padded 4 year.natAbs

/-- No fraction, or three, six or nine digits of it, whichever are enough. -/
def fractionText (nano : Nat) : String :=
  if nano = 0 then ""
  else if nano % 1000000 = 0 then "." ++ padded 3 (nano / 1000000)
  else if nano % 1000 = 0 then "." ++ padded 6 (nano / 1000)
  else "." ++ padded 9 nano

def bareText (i : Instant) : String :=
  yearText i.date.year ++ "-" ++ padded 2 i.date.month ++ "-" ++ padded 2 i.date.day ++ "T" ++
    padded 2 i.hour ++ ":" ++ padded 2 i.minute ++ ":" ++ padded 2 i.second ++ fractionText i.nano

def text (i : Instant) : String := i.bareText ++ "Z"

def offsetText (i : Instant) : String := i.bareText ++ "+00:00"

end Instant

end ArtifactTrust.Time
