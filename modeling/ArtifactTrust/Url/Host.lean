import ArtifactTrust.Text.Cut
import ArtifactTrust.Text.Decimal
import ArtifactTrust.Text.Quoted
import ArtifactTrust.Url.Domain

/-!
# Hosts

The host of a URL in its one written form: a domain in ASCII, an IPv4 address as four decimal
numbers, or an IPv6 address in brackets.
-/

namespace ArtifactTrust.Url

set_option autoImplicit false

open Text

inductive Fault where
  | emptyHost
  | port
  | ipv4
  | ipv6
  | domain
  | scheme
  | foreign (text : String)
deriving DecidableEq, Repr

def Fault.message : Fault → String
  | emptyHost => "empty host"
  | port => "invalid port number"
  | ipv4 => "invalid IPv4 address"
  | ipv6 => "invalid IPv6 address"
  | domain => "invalid international domain name"
  | scheme => "relative URL without a base"
  | foreign _ => "URL scheme is not allowed"

def numberIn? (base : Nat) (cs : List Char) : Option Nat :=
  cs.foldlM (fun n c => do
    let d ← hexValue? c
    if d < base then some (base * n + d) else none) 0

/-- A number of an IPv4 address: decimal, hexadecimal behind `0x`, or octal behind a zero. -/
def ipv4Number? : List Char → Option Nat
  | [] => none
  | '0' :: 'x' :: cs => numberIn? 16 cs
  | '0' :: 'X' :: cs => numberIn? 16 cs
  | '0' :: c :: cs => numberIn? 8 (c :: cs)
  | cs => numberIn? 10 cs

/-- The labels of a domain without the empty one behind a final period. -/
def labelsOf (domain : List Char) : List (List Char) :=
  match (pieces '.' domain).reverse with
  | [] :: l :: rest => (l :: rest).reverse
  | _ => pieces '.' domain

/-- Whether a domain has to be an IPv4 address: its last label is a number. -/
def endsInNumber (domain : List Char) : Bool :=
  match (labelsOf domain).getLast? with
  | some label => (!label.isEmpty && label.all isDigit) || (ipv4Number? label).isSome
  | none => false

/-- The address that numbers make up; the last number fills what the others leave. -/
def ipv4Address? (numbers : List Nat) : Option Nat :=
  match numbers.reverse with
  | [] => none
  | last :: others =>
    if numbers.length ≤ 4 ∧ last < Nat.pow 256 (5 - numbers.length) ∧ others.all (· < 256) then
      some (others.reverse.foldl (fun n d => 256 * n + d) 0 * Nat.pow 256 (4 - others.length) + last)
    else none

def ipv4Text (n : Nat) : String :=
  toString (n / 256 / 256 / 256) ++ "." ++ toString (n / 256 / 256 % 256) ++ "." ++
    toString (n / 256 % 256) ++ "." ++ toString (n % 256)

def ipv4Domain (domain : List Char) : Except Fault String :=
  match (labelsOf domain).mapM ipv4Number? with
  | some numbers =>
    match ipv4Address? numbers with
    | some n => .ok (ipv4Text n)
    | none => .error .ipv4
  | none => .error .ipv4

def decimalByte? : List Char → Option Nat
  | [] => none
  | '0' :: _ :: _ => none
  | cs => do
    let n ← numberIn? 10 cs
    if n < 256 then some n else none

def ipv6Part? (cs : List Char) : Option (List Nat) :=
  if cs.contains '.' then do
    match ← (pieces '.' cs).mapM decimalByte? with
    | [a, b, c, d] => return [256 * a + b, 256 * c + d]
    | _ => none
  else if cs.isEmpty || 4 < cs.length then none
  else do return [← numberIn? 16 cs]

/-- The numbers of 16 bits on one side of the gap; only the last part may be decimal. -/
def ipv6Side? (last : Bool) (cs : List Char) : Option (List Nat) :=
  if cs.isEmpty then some []
  else do
    let parts := pieces ':' cs
    let others := if last then parts.dropLast else parts
    if others.any (·.contains '.') then none
    else return (← parts.mapM ipv6Part?).flatten

def cutGap : List Char → Option (List Char × List Char)
  | ':' :: ':' :: rest => some ([], rest)
  | c :: rest => (cutGap rest).map fun (before, after) => (c :: before, after)
  | [] => none

def ipv6Numbers? (cs : List Char) : Option (List Nat) := do
  match cutGap cs with
  | none =>
    let numbers ← ipv6Side? true cs
    if numbers.length = 8 then some numbers else none
  | some (before, after) =>
    let high ← ipv6Side? false before
    let low ← ipv6Side? true after
    if high.length + low.length ≤ 7 then
      some (high ++ List.replicate (8 - high.length - low.length) 0 ++ low)
    else none

/-- The start and the length of the longest run of zeros, the first of several. -/
def longestZeros : Nat → List Nat → Nat × Nat
  | _, [] => (0, 0)
  | start, n :: rest =>
    let here := ((n :: rest).takeWhile (· = 0)).length
    let (place, length) := longestZeros (start + 1) rest
    if 0 < here ∧ length ≤ here then (start, here) else (place, length)

def colonText (numbers : List Nat) : String := ":".intercalate (numbers.map hexNumber)

def ipv6Text (numbers : List Nat) : String :=
  let (start, length) := longestZeros 0 numbers
  if length < 2 then colonText numbers
  else colonText (numbers.take start) ++ "::" ++ colonText (numbers.drop (start + length))

/-- A domain in ASCII. It may be percent encoded. -/
def domainName (cs : List Char) : Except Fault (List Char) :=
  match (String.fromUTF8? ⟨(percentDecode cs).toArray⟩).bind (asciiDomain? ·.toList) with
  | some name => .ok name
  | none => .error .domain

def normalHost (cs : List Char) : Except Fault String := do
  match cs with
  | [] => throw .emptyHost
  | '[' :: rest =>
    if rest.getLast? = some ']' then
      match ipv6Numbers? rest.dropLast with
      | some numbers => return "[" ++ ipv6Text numbers ++ "]"
      | none => throw .ipv6
    else throw .ipv6
  | cs =>
    let name ← domainName cs
    if name.isEmpty then throw .emptyHost
    if endsInNumber name then ipv4Domain name else return String.ofList name

end ArtifactTrust.Url
