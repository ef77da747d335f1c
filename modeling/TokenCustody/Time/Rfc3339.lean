/-
TokenCustody.Time.Rfc3339 — instants as text, in universal time.

The printer has one form: date, `T`, time, the shortest of no, three, six
and nine digits of a second that is exact, and `Z`. A year of more than
four digits, or before year 0, carries its sign. In a leap second the
seconds read 60.

The reader takes that form and what people and programs write instead of
it: single digits, `t` or a space for the `T`, blanks before numbers and
between parts, any number of digits of a second (those after the ninth
are dropped), `z`, `UTC`, or an offset of less than a day with or
without a colon.
-/
import TokenCustody.Text.Blank
import TokenCustody.Time.Instant

namespace TokenCustody.Time

open TokenCustody.Text

/-! ## Writing -/

/-- A year, with a sign unless it has up to four digits and none before year 0. -/
def yearText (y : Int) : List Char :=
  if 0 ≤ y ∧ y ≤ 9999 then paddedDecimal 4 y.toNat
  else (if y < 0 then '-' else '+') :: paddedDecimal 4 y.natAbs

/-- The digits of a second: none, three, six or nine. -/
def fractionDigits (nano : Nat) : List Char :=
  if nano = 0 then []
  else if nano % 1000000 = 0 then '.' :: paddedDecimal 3 (nano / 1000000)
  else if nano % 1000 = 0 then '.' :: paddedDecimal 6 (nano / 1000)
  else '.' :: paddedDecimal 9 nano

/-- An instant as text. -/
def Instant.print (t : Instant) : List Char :=
  let date := Date.ofDays (t.second / 86400)
  let ofDay := (t.second % 86400).toNat
  let second := ofDay % 60 + (if t.isLeap then 1 else 0)
  let nano := if t.isLeap then t.nano - nanosPerSecond else t.nano
  yearText date.year ++ '-' :: paddedDecimal 2 date.month ++ '-' :: paddedDecimal 2 date.day ++
    'T' :: paddedDecimal 2 (ofDay / 3600) ++ ':' :: paddedDecimal 2 (ofDay / 60 % 60) ++
    ':' :: paddedDecimal 2 second ++ fractionDigits nano ++ ['Z']

/-- An instant as a string. -/
def Instant.render (t : Instant) : String := String.ofList t.print

/-! ## Reading -/

/-- Reads a character that must stand here. -/
def expect (c : Char) : List Char → Option (List Char)
  | d :: cs => if d = c then some cs else none
  | [] => none

/-- Reads at least one digit and at most `width`. -/
def readNumber (width : Nat) (cs : List Char) : Option (Nat × List Char) :=
  let digits := (cs.take width).takeWhile Char.isDigit
  if digits.isEmpty then none else some (digitsValue digits, cs.drop digits.length)

/-- Reads a number of at most two digits, blanks before it. -/
def readPart (cs : List Char) : Option (Nat × List Char) := readNumber 2 (trimStart cs)

/-- Reads a year, blanks before it. With a sign it has any number of digits. -/
def readYear (cs : List Char) : Option (Int × List Char) :=
  match trimStart cs with
  | '-' :: rest => (readNumber rest.length rest).map fun r => (-(r.1 : Int), r.2)
  | '+' :: rest => (readNumber rest.length rest).map fun r => ((r.1 : Int), r.2)
  | rest => (readNumber 4 rest).map fun r => ((r.1 : Int), r.2)

/-- Reads the nanoseconds after the point, if there is a point. -/
def readNanos : List Char → Option (Nat × List Char)
  | '.' :: cs =>
    (readNumber 9 cs).map fun r =>
      let written := cs.length - r.2.length
      (r.1 * Nat.pow 10 (9 - written), r.2.dropWhile Char.isDigit)
  | cs => some (0, cs)

/-- Reads two digits. -/
def readTwoDigits : List Char → Option (Nat × List Char)
  | a :: b :: rest => if a.isDigit && b.isDigit then some (digitsValue [a, b], rest) else none
  | _ => none

/-- Reads an offset behind its sign: hours, colons or blanks, minutes. It is shorter
than a day. -/
def readOffset (sign : Int) (cs : List Char) : Option (Int × List Char) := do
  let (hours, cs) ← readTwoDigits cs
  let (minutes, cs) ← readTwoDigits (cs.dropWhile fun c => c == ':' || isBlank c)
  if hours < 24 ∧ minutes < 60 then some (sign * (hours * 3600 + minutes * 60), cs) else none

/-- Reads the zone: the seconds that the written time is ahead of universal time. -/
def readZone (cs : List Char) : Option (Int × List Char) :=
  match cs with
  | 'Z' :: rest | 'z' :: rest => some (0, rest)
  | '+' :: rest => readOffset 1 rest
  | '-' :: rest | '−' :: rest => readOffset (-1) rest
  | u :: t :: c :: rest =>
    if (u = 'U' ∨ u = 'u') ∧ (t = 'T' ∨ t = 't') ∧ (c = 'C' ∨ c = 'c') then some (0, rest) else none
  | _ => none

/-- Reads the separator of date and time. -/
def readSeparator : List Char → Option (List Char)
  | c :: cs => if c = 'T' ∨ c = 't' ∨ c = ' ' then some cs else none
  | [] => none

/-- The instant of a date and time of day, the clock being `offset` seconds ahead of
universal time. Second 60 is the leap second of second 59. -/
def instantOf (date : Date) (hour minute second nano : Nat) (offset : Int) : Option Instant :=
  if date.isValid ∧ hour < 24 ∧ minute < 60 ∧ second ≤ 60 then
    let clock : Int := date.toDays * 86400 + hour * 3600 + minute * 60
    let (second, nano) := if second = 60 then (59, nano + nanosPerSecond) else (second, nano)
    (Instant.ofParts? (clock + second) nano).bind fun local_ =>
      Instant.ofParts? (local_.second - offset) nano
  else none

/-- Reads a whole text as one instant. -/
def Instant.parse (cs : List Char) : Option Instant := do
  let (year, cs) ← readYear cs
  let cs ← expect '-' (trimStart cs)
  let (month, cs) ← readPart cs
  let cs ← expect '-' (trimStart cs)
  let (day, cs) ← readPart cs
  let cs ← readSeparator cs
  let (hour, cs) ← readPart cs
  let cs ← expect ':' (trimStart cs)
  let (minute, cs) ← readPart cs
  let cs ← expect ':' (trimStart cs)
  let (second, cs) ← readPart cs
  let (nano, cs) ← readNanos cs
  let (offset, cs) ← readZone (trimStart cs)
  if trimStart cs = [] then instantOf ⟨year, month, day⟩ hour minute second nano offset else none

/-- Reads a string as one instant. -/
def Instant.ofString? (s : String) : Option Instant := Instant.parse s.toList

end TokenCustody.Time
