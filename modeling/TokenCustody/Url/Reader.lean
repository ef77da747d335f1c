/-
TokenCustody.Url.Reader — reading URLs.

A URL is cut into its parts from the outside in: spaces and controls at
both ends and all tabs and line ends are dropped, then the fragment is
cut off at the first `#`, the query at the first `?`, and the scheme at
the first colon. What is left names a place: an authority and a path, or
only a path.

Only the authority can be wrong. Everything else is encoded where it has
to be, so any other text behind a scheme is a URL.
-/
import TokenCustody.Text.Blank
import TokenCustody.Url.Host

namespace TokenCustody.Url

open TokenCustody.Text

/-! ## Paths -/

/-- Whether a character ends a segment. -/
def isSlash (special : Bool) (c : Char) : Bool := c == '/' || (special && c == '\\')

/-- A segment with written-out points. -/
def plainPoints : List Char → List Char
  | '%' :: '2' :: 'e' :: cs | '%' :: '2' :: 'E' :: cs => '.' :: plainPoints cs
  | c :: cs => c :: plainPoints cs
  | [] => []

/-- A segment that stands for the place itself. -/
def isHere (seg : List Char) : Bool := plainPoints seg == ['.']

/-- A segment that stands for the place above. -/
def isAbove (seg : List Char) : Bool := plainPoints seg == ['.', '.']

/-- A letter and a colon or bar, which name a drive. -/
def isDrive : List Char → Bool
  | [l, m] => l.isAlpha && (m == ':' || m == '|')
  | _ => false

/-- The path of the place above. A drive is never left. -/
def above (segs : List (List Char)) : List (List Char) :=
  if segs.getLast?.any isDrive then segs else segs.dropLast

/-- A segment as it is kept behind others. The drive that the path of a local file starts
with is written with a colon. -/
def keepSegment (k : SchemeKind) (inSet : Char → Bool) (segs : List (List Char))
    (seg : List Char) : List Char :=
  if k = .file ∧ segs = [] ∧ isDrive seg then seg.take 1 ++ [':'] else Percent.encode inSet seg

/-- Goes down a path from a place. The last segment is there even if it stands for the
place itself or the one above. -/
def follow (k : SchemeKind) (inSet : Char → Bool) (segs : List (List Char)) :
    List (List Char) → List (List Char)
  | [] => segs
  | [last] =>
    if isAbove last then above segs ++ [[]]
    else if isHere last then segs ++ [[]]
    else segs ++ [keepSegment k inSet segs last]
  | seg :: rest =>
    let next := if isAbove seg then above segs
      else if isHere seg then segs
      else segs ++ [keepSegment k inSet segs seg]
    follow k inSet next rest

/-- The segments of a path without its first slash. -/
def readSegments (k : SchemeKind) (cs : List Char) : List (List Char) :=
  follow k inPathSet [] (split (isSlash k.isSpecial) cs)

/-- The path behind an authority. A special URL always has one. -/
def readPathAfter (k : SchemeKind) (cs : List Char) : List (List Char) :=
  match cs with
  | [] => if k.isSpecial then [[]] else []
  | c :: rest => readSegments k (if isSlash k.isSpecial c then rest else cs)

/-! ## Authorities -/

/-- The user name and password that a text gives: they are cut at the first colon. -/
def readUser (cs : List Char) : List Char × List Char :=
  let parts := cut (· == ':') cs
  (Percent.encode inUserSet parts.1, Percent.encode inUserSet (parts.2.getD []))

/-- The text before an authority's last at sign, and what follows it. -/
def cutUser (k : SchemeKind) (cs : List Char) : Option (List Char) × List Char :=
  let region := (cut (isSlash k.isSpecial) cs).1
  let parts := cutLast (· == '@') region
  (parts.1, parts.2 ++ cs.drop region.length)

/-- The text of a host, which ends at a colon outside brackets or at a slash, and what
follows it. -/
def cutHost (k : SchemeKind) (bracketed : Bool) : List Char → List Char × List Char
  | [] => ([], [])
  | c :: cs =>
    if (c == ':' && !bracketed) || isSlash k.isSpecial c then ([], c :: cs)
    else
      let rest := cutHost k (if c == '[' then true else if c == ']' then false else bracketed) cs
      (c :: rest.1, rest.2)

/-- Reads a port and what follows it. The port that the scheme uses anyway is dropped. -/
def readPort (scheme : List Char) (cs : List Char) : Except UrlError (Option Nat × List Char) :=
  let digits := cs.takeWhile Char.isDigit
  let rest := cs.drop digits.length
  let n := digitsValue digits
  if n ≤ 65535 ∧ rest.head?.all (fun c => c == '/' || c == '\\') then
    .ok (if digits = [] ∨ defaultPort scheme = some n then none else some n, rest)
  else .error .invalidPort

/-- Reads a host. -/
def readHost (k : SchemeKind) (cs : List Char) : Except UrlError Host :=
  if k.isSpecial then (if cs = [] then .error .emptyHost else readDomainHost cs)
  else readOpaqueHost cs

/-- Reads an authority that is not a local file's, and what follows it. -/
def readAuthority (scheme : List Char) (cs : List Char) :
    Except UrlError (Authority × List Char) := do
  let k := SchemeKind.of scheme
  let (user, cs) := cutUser k cs
  if user = some [] ∧ cs.head?.all (isSlash k.isSpecial) then throw .emptyHost
  let (username, password) := readUser (user.getD [])
  let (hostText, cs) := cutHost k false cs
  let host ← readHost k hostText
  if host = .name [] ∧ (cs.head? = some ':' ∨ username ++ password ≠ []) then throw .emptyHost
  match cs with
  | ':' :: cs =>
    let (port, cs) ← readPort scheme cs
    return (⟨username, password, host, port⟩, cs)
  | _ => return (⟨username, password, host, none⟩, cs)

/-! ## Places -/

/-- The authority of local files on this machine. -/
def localAuthority : Authority := ⟨[], [], .name [], none⟩

/-- The segments without the empty ones they start with; one is left. -/
def dropEmptySegments : List (List Char) → List (List Char)
  | [] :: seg :: segs => dropEmptySegments (seg :: segs)
  | segs => segs

/-- Reads the host and path of a local file that are written behind two slashes. -/
def readFileHost (cs : List Char) : Except UrlError (Authority × List (List Char)) :=
  let (hostText, rest) := cut (isSlash true) cs
  if hostText = [] ∨ isDrive hostText then
    .ok (localAuthority, if hostText = [] then readPathAfter .file cs else readSegments .file cs)
  else do
    let host ← readDomainHost hostText
    let segs := readSegments .file (rest.getD [])
    if host = .name "localhost".toList ∨ segs.head?.any isDrive then return (localAuthority, segs)
    else return ({ localAuthority with host }, segs)

/-- Reads the place that a `file` URL names. -/
def readFilePlace (cs : List Char) : Except UrlError (Option Authority × Path) := do
  let (authority, segs) ← match cs with
    | a :: b :: rest =>
      if isSlash true a && isSlash true b then readFileHost rest
      else .ok (localAuthority, readPathAfter .file cs)
    | _ => .ok (localAuthority, readPathAfter .file cs)
  return (some authority, .segments (dropEmptySegments segs))

/-- Reads the place that a URL names behind its scheme. -/
def readPlace (scheme : List Char) (cs : List Char) : Except UrlError (Option Authority × Path) :=
  match SchemeKind.of scheme with
  | .file => readFilePlace cs
  | .web => do
    let (authority, rest) ← readAuthority scheme (cs.dropWhile (isSlash true))
    return (some authority, .segments (readPathAfter .web rest))
  | .other =>
    match cs with
    | '/' :: '/' :: cs => do
      let (authority, rest) ← readAuthority scheme cs
      return (some authority, .segments (readPathAfter .other rest))
    | '/' :: cs => .ok (none, .segments (readSegments .other cs))
    | cs => .ok (none, .opaquePath (Percent.encode isControl cs))

/-! ## URLs -/

/-- Whether a character may stand in a scheme. -/
def isSchemeChar (c : Char) : Bool := c.isAlphanum || c == '+' || c == '-' || c == '.'

/-- The scheme in small letters, and what follows its colon. -/
def readScheme (cs : List Char) : Except UrlError (List Char × List Char) :=
  match cut (· == ':') cs with
  | (c :: scheme, some rest) =>
    if c.isAlpha && scheme.all isSchemeChar then .ok ((c :: scheme).map Char.toLower, rest)
    else .error .noScheme
  | _ => .error .noScheme

/-- Whether a character is dropped at both ends of a URL. -/
def isOuterBlank (c : Char) : Bool := c.toNat ≤ 0x20

/-- Whether a character is dropped anywhere in a URL. -/
def isBreak (c : Char) : Bool := c == '\t' || c == '\n' || c == '\r'

/-- A text without the characters that do not count. -/
def significant (cs : List Char) : List Char :=
  (trimBoth isOuterBlank cs).filter fun c => !isBreak c

/-- Reads what stands before the query. -/
def parseFront (cs : List Char) : Except UrlError Url := do
  let (scheme, rest) ← readScheme cs
  let (authority, path) ← readPlace scheme rest
  let guarded := authority.isNone && path.startsEmpty
  return { scheme, authority, guarded, path, query := none, fragment := none }

/-- Reads a URL. -/
def parse (cs : List Char) : Except UrlError Url := do
  let (body, fragment) := cut (· == '#') (significant cs)
  let (front, query) := cut (· == '?') body
  let url ← parseFront front
  return { url with
    query := query.map (Percent.encode (inQuerySet url.kind.isSpecial))
    fragment := fragment.map (Percent.encode inFragmentSet) }

/-- Reads a string as a URL. -/
def ofString (s : String) : Except UrlError Url := parse s.toList

end TokenCustody.Url
