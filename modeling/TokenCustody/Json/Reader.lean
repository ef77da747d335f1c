/-
TokenCustody.Json.Reader — JSON text as values.

The grammar is strict: one value, blanks around it allowed, nothing
else; no leading zeros, no trailing commas, no bare control characters
in a text. Nothing is refused for being deep or long; limits belong to
whoever uses the value.

A quoted text is read in two steps. `scanString` finds where it ends and
turns each escape into the unit it writes; `joinUnits` puts surrogate
pairs together, which is where a text can turn out to have no value.
-/
import TokenCustody.Json.Basic
import TokenCustody.Text.Decimal

namespace TokenCustody.Json

/-! ## Blanks -/

/-- The blanks between the parts of a text. -/
def isSpace (c : Char) : Bool := c == ' ' || c == '\t' || c == '\n' || c == '\r'

/-- The text without the blanks it starts with. -/
def skipSpace (cs : List Char) : List Char := cs.dropWhile isSpace

/-! ## Quoted texts -/

/-- What one position of a quoted text writes: a character, or sixteen bits of one. -/
inductive Unit16 where
  | char (c : Char)
  | half (n : Nat)

/-- The value of a hexadecimal digit of either case. -/
def hexValue (c : Char) : Option Nat :=
  let n := c.toNat
  if 0x30 ≤ n ∧ n ≤ 0x39 then some (n - 0x30)
  else if 0x41 ≤ n ∧ n ≤ 0x46 then some (n - 0x37)
  else if 0x61 ≤ n ∧ n ≤ 0x66 then some (n - 0x57)
  else none

/-- The number that four hexadecimal digits write. -/
def hexValue4 (a b c d : Char) : Option Nat := do
  some (4096 * (← hexValue a) + 256 * (← hexValue b) + 16 * (← hexValue c) + (← hexValue d))

/-- The unit that a backslash and a letter write. -/
def shortEscape (c : Char) : Option Char :=
  if c = '"' then some '"'
  else if c = '\\' then some '\\'
  else if c = '/' then some '/'
  else if c = 'b' then some '\x08'
  else if c = 'f' then some '\x0c'
  else if c = 'n' then some '\n'
  else if c = 'r' then some '\r'
  else if c = 't' then some '\t'
  else none

/-- The units up to the closing quotation mark, and what follows it. -/
def scanString : List Char → Option (List Unit16 × List Char)
  | [] => none
  | c :: cs =>
    if c = '"' then some ([], cs)
    else if c = '\\' then
      match cs with
      | 'u' :: h1 :: h2 :: h3 :: h4 :: rest =>
        match hexValue4 h1 h2 h3 h4, scanString rest with
        | some n, some (units, after) => some (.half n :: units, after)
        | _, _ => none
      | e :: rest =>
        match shortEscape e, scanString rest with
        | some d, some (units, after) => some (.char d :: units, after)
        | _, _ => none
      | [] => none
    else if c.toNat < 0x20 then none
    else
      match scanString cs with
      | some (units, after) => some (.char c :: units, after)
      | none => none
termination_by cs => cs.length

/-- The character of a surrogate pair. -/
def pairChar (high low : Nat) : Char :=
  Char.ofNat (0x10000 + (high - 0xD800) * 0x400 + (low - 0xDC00))

/-- The characters that units write; there are none if half a pair stands alone. -/
def joinUnits : List Unit16 → Option (List Char)
  | [] => some []
  | .char c :: units => (joinUnits units).map (c :: ·)
  | .half n :: units =>
    if n < 0xD800 ∨ 0xDFFF < n then (joinUnits units).map (Char.ofNat n :: ·)
    else if n < 0xDC00 then
      match units with
      | .half m :: units' =>
        if 0xDC00 ≤ m ∧ m ≤ 0xDFFF then (joinUnits units').map (pairChar n m :: ·) else none
      | _ => none
    else none

/-- Reads a quoted text whose opening quotation mark is already read. -/
def readString (cs : List Char) : Option (Text × List Char) :=
  (scanString cs).map fun r => ((joinUnits r.1).map String.ofList, r.2)

/-! ## Numbers -/

/-- The longest run of digits at the start, and what follows it. -/
def spanDigits (cs : List Char) : List Char × List Char :=
  (cs.takeWhile Char.isDigit, cs.dropWhile Char.isDigit)

/-- Reads the digits before the point: one zero, or digits that start with none. -/
def readWhole (cs : List Char) : Option (List Char × List Char) :=
  match spanDigits cs with
  | ([], _) => none
  | ('0' :: _ :: _, _) => none
  | r => some r

/-- Reads the point and its digits, if they are there. -/
def readFraction : List Char → Option (List Char × List Char)
  | '.' :: cs =>
    match spanDigits cs with
    | ([], _) => none
    | r => some r
  | cs => some ([], cs)

/-- Reads the digits of an exponent. -/
def readExponentDigits (sign : Int) (cs : List Char) : Option (Int × List Char) :=
  match spanDigits cs with
  | ([], _) => none
  | (digits, rest) => some (sign * (TokenCustody.Text.digitsValue digits : Int), rest)

/-- Reads the exponent, if it is there. -/
def readExponent : List Char → Option (Option Int × List Char)
  | c :: cs =>
    if c = 'e' ∨ c = 'E' then
      let parts := match cs with
        | '+' :: rest => readExponentDigits 1 rest
        | '-' :: rest => readExponentDigits (-1) rest
        | rest => readExponentDigits 1 rest
      parts.map fun r => (some r.1, r.2)
    else some (none, c :: cs)
  | [] => some (none, [])

/-- Reads a number without its sign. -/
def readUnsigned (negative : Bool) (cs : List Char) : Option (Number × List Char) := do
  let (whole, cs) ← readWhole cs
  let (fraction, cs) ← readFraction cs
  let (exponent, cs) ← readExponent cs
  let number : Number :=
    { negative
      digits := TokenCustody.Text.digitsValue (whole ++ fraction)
      places := fraction.length
      exponent := exponent.getD 0
      isWhole := fraction.isEmpty && exponent.isNone }
  some (number, cs)

/-- Reads a number. -/
def readNumber : List Char → Option (Number × List Char)
  | '-' :: cs => readUnsigned true cs
  | cs => readUnsigned false cs

/-! ## Values -/

/-- What follows `word` in a text that starts with it. -/
def dropWord : List Char → List Char → Option (List Char)
  | [], cs => some cs
  | w :: ws, c :: cs => if w = c then dropWord ws cs else none
  | _ :: _, [] => none

mutual

/-- Reads one value. The first argument bounds the nesting of the calls; the length of
the text is always enough. -/
def readValue : Nat → List Char → Option (Value × List Char)
  | 0, _ => none
  | fuel + 1, cs =>
    match skipSpace cs with
    | '\x7b' :: rest =>
      match skipSpace rest with
      | '\x7d' :: after => some (.object [], after)
      | _ => (readMembers fuel rest).map fun r => (.object r.1, r.2)
    | '[' :: rest =>
      match skipSpace rest with
      | ']' :: after => some (.array [], after)
      | _ => (readItems fuel rest).map fun r => (.array r.1, r.2)
    | '"' :: rest => (readString rest).map fun r => (.text r.1, r.2)
    | 't' :: rest => (dropWord "rue".toList rest).map fun after => (.bool true, after)
    | 'f' :: rest => (dropWord "alse".toList rest).map fun after => (.bool false, after)
    | 'n' :: rest => (dropWord "ull".toList rest).map fun after => (.null, after)
    | other => (readNumber other).map fun r => (.number r.1, r.2)

/-- Reads items up to the closing bracket. -/
def readItems : Nat → List Char → Option (List Value × List Char)
  | 0, _ => none
  | fuel + 1, cs =>
    match readValue fuel cs with
    | none => none
    | some (v, rest) =>
      match skipSpace rest with
      | ',' :: more => (readItems fuel more).map fun r => (v :: r.1, r.2)
      | ']' :: after => some ([v], after)
      | _ => none

/-- Reads members up to the closing brace. -/
def readMembers : Nat → List Char → Option (List (Text × Value) × List Char)
  | 0, _ => none
  | fuel + 1, cs =>
    match skipSpace cs with
    | '"' :: quoted =>
      match readString quoted with
      | none => none
      | some (k, afterKey) =>
        match skipSpace afterKey with
        | ':' :: beforeValue =>
          match readValue fuel beforeValue with
          | none => none
          | some (v, rest) =>
            match skipSpace rest with
            | ',' :: more => (readMembers fuel more).map fun r => ((k, v) :: r.1, r.2)
            | '\x7d' :: after => some ([(k, v)], after)
            | _ => none
        | _ => none
    | _ => none

end

/-- Reads a whole text as one value. -/
def Value.parse (cs : List Char) : Option Value :=
  match readValue (cs.length + 1) cs with
  | some (v, rest) => if skipSpace rest = [] then some v else none
  | none => none

/-- Reads a string as one value. -/
def Value.ofString? (s : String) : Option Value := Value.parse s.toList

end TokenCustody.Json
