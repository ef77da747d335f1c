/-
TokenCustody.Logging — how much is logged, and in which form.

The settings name a level. A text from outside can ask for something
else: it is a row of words with commas between, and of several words the
one that asks for most counts. A level may be given by its name, in
capital or small letters, or by its number.
-/
import TokenCustody.Text.Decimal
import TokenCustody.Text.Split

namespace TokenCustody

open TokenCustody.Text

/-- The least important lines that are logged. -/
inductive LogLevel where
  | trace
  | debug
  | info
  | warn
  | error
  deriving DecidableEq

namespace LogLevel

/-- The levels by name. -/
def choices : List (String × LogLevel) :=
  [("trace", .trace), ("debug", .debug), ("info", .info), ("warn", .warn), ("error", .error)]

/-- The name of a level. -/
def name : LogLevel → String
  | .trace => "trace"
  | .debug => "debug"
  | .info => "info"
  | .warn => "warn"
  | .error => "error"

/-- The level with a name. -/
def ofName? (name : String) : Option LogLevel := choices.lookup name

end LogLevel

/-- How much is logged. -/
inductive LogBound where
  /-- Nothing at all. -/
  | off
  /-- The lines of a level and all that are more important. -/
  | upTo (level : LogLevel)
  deriving DecidableEq

namespace LogBound

/-- The bounds by name, from nothing on. The place in this list is the bound's number. -/
def choices : List (String × LogBound) :=
  [("off", .off), ("error", .upTo .error), ("warn", .upTo .warn), ("info", .upTo .info),
    ("debug", .upTo .debug), ("trace", .upTo .trace)]

/-- The number of a bound. -/
def number (b : LogBound) : Nat := choices.findIdx fun c => c.2 = b

/-- The name of a bound. -/
def name : LogBound → String
  | .off => "off"
  | .upTo level => level.name

/-- The bound that lets more through. -/
def greater (a b : LogBound) : LogBound := if a.number < b.number then b else a

/-- The bound with a name or number. -/
def ofWord? (word : List Char) : Option LogBound :=
  match readDigits word with
  | some n => choices[n]?.map Prod.snd
  | none => choices.lookup (String.ofList (word.map Char.toLower))

/-- Whether a part of the program can have a name that starts with this character. -/
def startsName (c : Char) : Bool := c.isAlphanum || c == '-' || c == ':' || c == '_'

/-- The bound that a word asks for. A word that is no bound is the name of a part of the
program and asks for all that the part logs, unless a bound follows behind an equals
sign. -/
def asked? (word : List Char) : Option LogBound :=
  if !word.head?.any startsName then none
  else
    match cut (· == '=') word with
    | (_, some []) => some (.upTo .trace)
    | (_, some level) => ofWord? level
    | (_, none) => some ((ofWord? word).getD (.upTo .trace))

end LogBound

/-- The form of a logged line. -/
inductive LogFormat where
  /-- Lines for people. -/
  | text
  /-- One JSON object for each line. -/
  | json
  deriving DecidableEq

namespace LogFormat

/-- The forms by name. -/
def choices : List (String × LogFormat) := [("text", .text), ("json", .json)]

/-- The form with a name. -/
def ofName? (name : String) : Option LogFormat := choices.lookup name

/-- The name of a form. -/
def name : LogFormat → String
  | .text => "text"
  | .json => "json"

end LogFormat

/-- How lines are logged. -/
structure LogSettings where
  level : LogLevel
  format : LogFormat
  /-- Whether a line names the part of the program it comes from. -/
  withTarget : Bool
  deriving DecidableEq

namespace LogSettings

/-- Lines for people, from `info` on. -/
def default : LogSettings := ⟨.info, .text, true⟩

/-- The level that counts: the one that is asked for from outside, if anything known is
asked for. -/
def bound (s : LogSettings) (asked : Option String) : LogBound :=
  let words := (split (· == ',') (asked.getD "").toList).filter (· ≠ [])
  match words.filterMap LogBound.asked? with
  | [] => .upTo s.level
  | b :: bs => bs.foldl LogBound.greater b

end LogSettings

end TokenCustody
