/-
TokenCustody.Url.Host — reading hosts.

A host in brackets is an IPv6 address, whatever the scheme. Without
brackets a special scheme takes a domain name, and a name whose last
label is a number must be an IPv4 address. Any other scheme takes the
name as it stands.
-/
import TokenCustody.Url.Basic
import TokenCustody.Url.Domain

namespace TokenCustody.Url

open TokenCustody.Text

/-! ## IPv4 -/

/-- The value of digits in a base. -/
def valueIn (base : Nat) (cs : List Char) : Nat :=
  cs.foldl (fun n c => base * n + (Percent.digitValue c).getD 0) 0

/-- Whether all characters are digits in a base. -/
def areDigitsIn (base : Nat) (cs : List Char) : Bool :=
  cs.all fun c => (Percent.digitValue c).any (· < base)

/-- Reads one number of an IPv4 address: hexadecimal behind `0x`, octal behind a zero,
else decimal. -/
def readIpv4Number (cs : List Char) : Option Nat :=
  let (base, digits) := match cs with
    | '0' :: 'x' :: rest | '0' :: 'X' :: rest => (16, rest)
    | '0' :: d :: rest => (8, d :: rest)
    | _ => (10, cs)
  if cs ≠ [] ∧ areDigitsIn base digits then some (valueIn base digits) else none

/-- The address that numbers write: the last one fills the places that are left. -/
def assembleIpv4 (numbers : List Nat) : Option Nat :=
  match numbers.reverse with
  | [] => none
  | last :: front =>
    if front.length ≤ 3 ∧ front.all (· ≤ 255) ∧ last < Nat.pow 256 (4 - front.length) then
      some (front.reverse.foldl (fun n m => 256 * n + m) 0 * Nat.pow 256 (4 - front.length) + last)
    else none

/-- The labels of a name; a point at its end adds none. -/
def labelsOf (cs : List Char) : List (List Char) :=
  match (split (· == '.') cs).reverse with
  | [] :: l :: ls => (l :: ls).reverse
  | ls => ls.reverse

/-- Reads an IPv4 address. -/
def readIpv4 (cs : List Char) : Option Nat :=
  ((labelsOf cs).mapM readIpv4Number).bind assembleIpv4

/-- Whether the last label of a name is a number. -/
def endsInNumber (cs : List Char) : Bool :=
  match (labelsOf cs).getLast? with
  | some label => label ≠ [] && (label.all Char.isDigit || (readIpv4Number label).isSome)
  | none => false

/-! ## IPv6 -/

/-- Reads one to four hexadecimal digits. -/
def readPiece (cs : List Char) : Option Nat :=
  if cs ≠ [] ∧ cs.length ≤ 4 ∧ areDigitsIn 16 cs then some (valueIn 16 cs) else none

/-- Reads a decimal number up to 255 without leading zeros. -/
def readByte (cs : List Char) : Option Nat :=
  match cs with
  | '0' :: _ :: _ => none
  | _ => (readDigits cs).filter (· ≤ 255)

/-- Reads the two last pieces, written as an IPv4 address. -/
def readTail (cs : List Char) : Option (List Nat) :=
  match (split (· == '.') cs).mapM readByte with
  | some [a, b, c, d] => some [256 * a + b, 256 * c + d]
  | _ => none

/-- Reads pieces with colons between them. -/
def readPieces : List (List Char) → Option (List Nat)
  | [] => some []
  | [last] => if '.' ∈ last then readTail last else (readPiece last).map ([·])
  | p :: ps => do some ((← readPiece p) :: (← readPieces ps))

/-- Reads pieces, or nothing. -/
def readHalf (cs : List Char) : Option (List Nat) :=
  if cs = [] then some [] else readPieces (split (· == ':') cs)

/-- What stands before and after the first two colons in a row. -/
def cutDoubleColon : List Char → List Char × Option (List Char)
  | ':' :: ':' :: rest => ([], some rest)
  | c :: cs =>
    let rest := cutDoubleColon cs
    (c :: rest.1, rest.2)
  | [] => ([], none)

/-- Reads an IPv6 address. Two colons stand for as many zeros as are missing, at least
one. -/
def readIpv6 (cs : List Char) : Option (List Nat) :=
  match cutDoubleColon cs with
  | (_, none) => if cs = [] then none else (readHalf cs).filter (·.length = 8)
  | (front, some back) => do
    let before ← if '.' ∈ front then none else readHalf front
    let after ← readHalf back
    if before.length + after.length ≤ 7 then
      some (before ++ List.replicate (8 - before.length - after.length) 0 ++ after)
    else none

/-! ## Hosts -/

/-- Reads what stands in brackets. -/
def readBracketed (cs : List Char) : Except UrlError Host :=
  match cs.reverse with
  | ']' :: inner =>
    match readIpv6 inner.reverse with
    | some pieces => .ok (.ipv6 pieces)
    | none => .error .invalidIpv6
  | _ => .error .invalidIpv6

/-- The characters that no opaque host has. -/
def isForbiddenOpaque (c : Char) : Bool :=
  c == '\x00' || c == '\t' || c == '\n' || c == '\r' || c == ' ' || c == '#' || c == '/' ||
    c == ':' || c == '<' || c == '>' || c == '?' || c == '@' || c == '[' || c == '\\' ||
    c == ']' || c == '^' || c == '|'

/-- Reads a host that is taken as it stands. -/
def readOpaqueHost (cs : List Char) : Except UrlError Host :=
  match cs with
  | '[' :: rest => readBracketed rest
  | _ =>
    if cs.any isForbiddenOpaque then .error .invalidHostCharacter
    else .ok (.name (Percent.encode isControl cs))

/-- Reads the host of a special scheme. -/
def readDomainHost (cs : List Char) : Except UrlError Host :=
  match cs with
  | '[' :: rest => readBracketed rest
  | _ =>
    match domainToAscii (Utf8.decode (Percent.decode cs)) with
    | none => .error .invalidDomain
    | some [] => .error .emptyHost
    | some name =>
      if endsInNumber name then
        match readIpv4 name with
        | some n => .ok (.ipv4 n)
        | none => .error .invalidIpv4
      else .ok (.name name)

end TokenCustody.Url
