/-
TokenCustody.Url.Basic — URLs and how they are written.

A URL is kept in its parts, each in the form in which it is written:
percent-encoded where it has to be. The path of a URL is a list of
segments, one behind each slash, unless nothing in it is hierarchical;
then it is one opaque text.

Six schemes are special. Their URLs always have a host and a path, take
a backslash for a slash, and know the port they use when none is
written; only `file` URLs may have an empty host.
-/
import TokenCustody.Text.Decimal
import TokenCustody.Text.Percent
import TokenCustody.Text.Split

namespace TokenCustody

open TokenCustody.Text

/-! ## Parts -/

/-- The host of a URL. -/
inductive Url.Host where
  /-- A domain, or an opaque name. An empty name is no host. -/
  | name (cs : List Char)
  /-- A number of 32 bits. -/
  | ipv4 (n : Nat)
  /-- Eight numbers of 16 bits. -/
  | ipv6 (pieces : List Nat)
  deriving DecidableEq

/-- What stands behind the two slashes. -/
structure Url.Authority where
  username : List Char
  password : List Char
  host : Url.Host
  /-- The port, if it is not the one the scheme uses anyway. -/
  port : Option Nat
  deriving DecidableEq

/-- The path of a URL. -/
inductive Url.Path where
  | opaquePath (cs : List Char)
  | segments (segs : List (List Char))
  deriving DecidableEq

/-- A URL in its parts. -/
structure Url where
  scheme : List Char
  authority : Option Url.Authority
  /-- Whether the path is written behind `/.`, so that its first segments are not taken
  for an authority. -/
  guarded : Bool
  path : Url.Path
  query : Option (List Char)
  fragment : Option (List Char)
  deriving DecidableEq

namespace Url

/-! ## Schemes -/

/-- How a scheme is treated. -/
inductive SchemeKind where
  /-- A special scheme that needs a host. -/
  | web
  /-- The scheme of local files. -/
  | file
  | other
  deriving DecidableEq

/-- The port that a special scheme uses when none is written. -/
def defaultPort (scheme : List Char) : Option Nat :=
  [("http".toList, 80), ("ws".toList, 80), ("https".toList, 443), ("wss".toList, 443),
    ("ftp".toList, 21)].lookup scheme

/-- How a scheme is treated. -/
def SchemeKind.of (scheme : List Char) : SchemeKind :=
  if scheme = "file".toList then .file
  else if (defaultPort scheme).isSome then .web
  else .other

/-- Whether a scheme is special. -/
def SchemeKind.isSpecial (k : SchemeKind) : Bool := k ≠ .other

/-- How the scheme of a URL is treated. -/
def kind (u : Url) : SchemeKind := .of u.scheme

/-! ## Characters that are percent-encoded -/

/-- The control characters. -/
def isControl (c : Char) : Bool := c.toNat < 0x20 || c.toNat == 0x7F

/-- Encoded in a fragment. -/
def inFragmentSet (c : Char) : Bool :=
  isControl c || c == ' ' || c == '"' || c == '<' || c == '>' || c.toNat == 0x60

/-- Encoded in a query. -/
def inQuerySet (special : Bool) (c : Char) : Bool :=
  isControl c || c == ' ' || c == '"' || c == '#' || c == '<' || c == '>' ||
    (special && c.toNat == 0x27)

/-- Encoded in a path. -/
def inPathSet (c : Char) : Bool :=
  inFragmentSet c || c == '#' || c == '?' || c == '\x7b' || c == '\x7d'

/-- Encoded in a user name or password. -/
def inUserSet (c : Char) : Bool :=
  inPathSet c || c == '/' || c == ':' || c == ';' || c == '=' || c == '@' || c == '[' ||
    c == '\\' || c == ']' || c == '^' || c == '|'

/-- Encoded in a single segment that is added to a path. -/
def inSegmentSet (special : Bool) (c : Char) : Bool :=
  inPathSet c || c == '/' || c == '%' || (special && c == '\\')

/-! ## Writing -/

/-- Four numbers with points between them. -/
def printIpv4 (n : Nat) : List Char :=
  join ['.'] ([n / 16777216, n / 65536 % 256, n / 256 % 256, n % 256].map decimal)

/-- The length of the run of zeros that a list starts with. -/
def zerosAt (pieces : List Nat) : Nat := (pieces.takeWhile (· == 0)).length

/-- Where the longest run of zeros starts and how long it is; the first one of several,
and none of less than two. `at_` is the place of the first number. -/
def longestZeros (at_ : Nat) : List Nat → Option (Nat × Nat)
  | [] => none
  | p :: ps =>
    let here := zerosAt (p :: ps)
    match longestZeros (at_ + 1) ps with
    | some (start, length) => if length ≤ here then some (at_, here) else some (start, length)
    | none => if 2 ≤ here then some (at_, here) else none

/-- Hexadecimal numbers with colons between them. -/
def printPieces (pieces : List Nat) : List Char := join [':'] (pieces.map (Nat.toDigits 16))

/-- Eight numbers, the longest run of zeros left out. -/
def printIpv6 (pieces : List Nat) : List Char :=
  match longestZeros 0 pieces with
  | none => printPieces pieces
  | some (start, length) =>
    printPieces (pieces.take start) ++ [':', ':'] ++ printPieces (pieces.drop (start + length))

/-- A host as it is written. -/
def Host.print : Host → List Char
  | .name cs => cs
  | .ipv4 n => printIpv4 n
  | .ipv6 pieces => '[' :: printIpv6 pieces ++ [']']

/-- The user name and password as they are written. -/
def Authority.printUser (a : Authority) : List Char :=
  let password := if a.password = [] then [] else ':' :: a.password
  if a.username ++ password = [] then [] else a.username ++ password ++ ['@']

/-- The port as it is written. -/
def Authority.printPort (a : Authority) : List Char :=
  match a.port with
  | some n => ':' :: decimal n
  | none => []

/-- What is written behind the two slashes. -/
def Authority.print (a : Authority) : List Char := a.printUser ++ a.host.print ++ a.printPort

/-- Segments, each behind a slash. -/
def printSegments (segs : List (List Char)) : List Char := segs.flatMap ('/' :: ·)

/-- A path as it is written. -/
def Path.print : Path → List Char
  | .opaquePath cs => cs
  | .segments segs => printSegments segs

/-- Whether a path starts with two slashes. -/
def Path.startsEmpty : Path → Bool
  | .segments ([] :: _ :: _) => true
  | _ => false

/-- What is written between the scheme and the path. -/
def printFront (u : Url) : List Char :=
  match u.authority with
  | some a => '/' :: '/' :: a.print
  | none => if u.guarded then ['/', '.'] else []

/-- A part behind its mark, if it is there. -/
def printPart (mark : Char) : Option (List Char) → List Char
  | some cs => mark :: cs
  | none => []

/-- A URL as it is written. -/
def print (u : Url) : List Char :=
  u.scheme ++ ':' :: u.printFront ++ u.path.print ++ printPart '?' u.query ++
    printPart '#' u.fragment

/-- A URL as a string. -/
def render (u : Url) : String := String.ofList u.print

end Url

/-! ## Errors -/

/-- Why a text is no URL. -/
inductive UrlError where
  | emptyHost
  | invalidDomain
  | invalidPort
  | invalidIpv4
  | invalidIpv6
  | invalidHostCharacter
  /-- It names no scheme, so it would need a base. -/
  | noScheme
  deriving DecidableEq

/-- The message for people. -/
def UrlError.message : UrlError → String
  | .emptyHost => "empty host"
  | .invalidDomain => "invalid international domain name"
  | .invalidPort => "invalid port number"
  | .invalidIpv4 => "invalid IPv4 address"
  | .invalidIpv6 => "invalid IPv6 address"
  | .invalidHostCharacter => "invalid domain character"
  | .noScheme => "relative URL without a base"

end TokenCustody
