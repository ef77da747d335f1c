/-
TokenCustody.CommandLine — what the words on the command line ask for.

There are two commands, and one option that may stand before or behind
the command. The words are read on two levels: those before the command,
and those behind it. Each level takes the option at most once, and a
value behind the command counts more than one before it. A variable
gives the value if no word does; its value must be sound even when it is
not needed on one of the levels.
-/
import TokenCustody.Logging

namespace TokenCustody

/-- What is to be done. -/
inductive Command where
  /-- One scheduled invocation. -/
  | run
  /-- A look at the store. -/
  | status
  deriving DecidableEq

/-- The commands by name. -/
def Command.choices : List (String × Command) := [("run", .run), ("status", .status)]

/-- What the command line asks for. -/
structure CommandLine where
  logFormat : LogFormat
  command : Command
  deriving DecidableEq

/-- Why nothing is to be done. -/
inductive UsageError where
  | helpAsked
  | versionAsked
  /-- There are no words at all. -/
  | nothingAsked
  /-- There are options but no command. -/
  | noCommand
  | unknownCommand
  | unknownArgument
  /-- The option has no value, or one that is not known. -/
  | invalidValue
  /-- An option that takes no value has one. -/
  | surplusValue
  /-- An option is given twice. -/
  | repeatedOption
  deriving DecidableEq

/-- The exit code when nothing is to be done. -/
def UsageError.exitCode : UsageError → Nat
  | .helpAsked | .versionAsked => 0
  | _ => 2

namespace CommandLine

/-! ## One level -/

/-- The option as far as it was read. -/
inductive Pending where
  | nothing
  /-- The option was named and its value must follow. -/
  | named
  /-- The value has followed and is not yet checked. -/
  | valued (v : String)
  deriving DecidableEq

/-- How far a level was read. -/
structure Level where
  /-- Whether the words stand before the command. -/
  isOuter : Bool
  format : Option LogFormat
  pending : Pending
  /-- Whether two dashes have ended the options. -/
  isClosed : Bool
  deriving DecidableEq

namespace Level

/-- Nothing was read. -/
def start (isOuter : Bool) : Level := ⟨isOuter, none, .nothing, false⟩

/-- Takes a value of the option. -/
def take (l : Level) (v : String) : Except UsageError Level :=
  if l.format.isSome then .error .repeatedOption
  else
    match LogFormat.ofName? v with
    | some f => .ok { l with format := some f, pending := .nothing }
    | none => .error .invalidValue

/-- Checks what is pending. -/
def settle (l : Level) : Except UsageError Level :=
  match l.pending with
  | .nothing => .ok l
  | .named => .error .invalidValue
  | .valued v => l.take v

/-- The value that a variable gives if no word did. -/
def orVariable (l : Level) (fallback? : Option String) : Except UsageError (Option LogFormat) :=
  match l.format, fallback? with
  | some f, _ => .ok (some f)
  | none, none => .ok none
  | none, some v =>
    match LogFormat.ofName? v with
    | some f => .ok (some f)
    | none => .error .invalidValue

/-- What a word that is no option means where no word is expected. -/
def stray (l : Level) (word : String) : UsageError :=
  if !l.isOuter then .unknownArgument
  else if l.isClosed ∧ (word = "help" ∨ (Command.choices.lookup word).isSome) then
    .unknownArgument
  else .unknownCommand

/-- Takes an option with a long name, and a value that is attached to it. -/
def takeLong (l : Level) (name : String) (attached : Option String) : Except UsageError Level :=
  if name = "log-format" then do
    let l ← l.settle
    match attached with
    | some v => l.take v
    | none => return { l with pending := .named }
  else if name = "help" ∨ (name = "version" ∧ l.isOuter) then
    if attached.isSome then .error .surplusValue
    else do
      let _ ← l.settle
      throw (if name = "help" then .helpAsked else .versionAsked)
  else .error .unknownArgument

/-- Takes an option with a short name. -/
def takeShort (l : Level) (name : Char) : Except UsageError Level :=
  if name = 'h' ∨ (name = 'V' ∧ l.isOuter) then do
    let _ ← l.settle
    throw (if name = 'h' then .helpAsked else .versionAsked)
  else .error .unknownArgument

end Level

/-! ## Words -/

/-- What a word looks like. -/
inductive Word where
  | dashes
  | long (name : String) (attached : Option String)
  | short (name : Char)
  | plain (s : String)
  deriving DecidableEq

/-- A text cut at its first equals sign. -/
def cutAtEquals (cs : List Char) : String × Option String :=
  let name := cs.takeWhile (· ≠ '=')
  (String.ofList name,
    if name.length < cs.length then some (String.ofList (cs.drop (name.length + 1))) else none)

/-- What a word looks like. -/
def Word.ofString (s : String) : Word :=
  match s.toList with
  | ['-', '-'] => .dashes
  | '-' :: '-' :: cs =>
    let parts := cutAtEquals cs
    .long parts.1 parts.2
  | '-' :: c :: _ => .short c
  | _ => .plain s

/-- What the words behind `help` ask for: help on a command that there is. -/
def helpOn : List String → UsageError
  | [] => .helpAsked
  | "help" :: topic => match topic with
    | [] | ["run"] | ["status"] | ["help"] => .helpAsked
    | _ => .unknownCommand
  | topic => if topic = ["run"] ∨ topic = ["status"] then .helpAsked else .unknownCommand

/-- Reads the words of a level, up to the command if it is the outer one. -/
def readLevel : Level → List String → Except UsageError (Level × Option (Command × List String))
  | l, [] => .ok (l, none)
  | l, word :: words =>
    if l.isClosed then .error (l.stray word)
    else
      let command := if l.isOuter ∧ l.pending ≠ .named then Command.choices.lookup word else none
      match command with
      | some c => .ok (l, some (c, words))
      | none =>
        if l.isOuter ∧ l.pending ≠ .named ∧ word = "help" then .error (helpOn words)
        else
          match Word.ofString word with
          | .dashes => readLevel { l with isClosed := true } words
          | .long name attached =>
            match l.takeLong name attached with
            | .ok l => readLevel l words
            | .error e => .error e
          | .short name =>
            match l.takeShort name with
            | .ok l => readLevel l words
            | .error e => .error e
          | .plain s =>
            if l.pending = .named then readLevel { l with pending := .valued s } words
            else .error (l.stray word)

/-! ## The command line -/

/-- The variable that gives the value of the option. -/
def logFormatVariable : String := "TOKEN_KEEPER_LOG_FORMAT"

/-- Reads the words behind a command: the value they give to the option, if any. -/
def readInner (fallback? : Option String) (words : List String) :
    Except UsageError (Option LogFormat) := do
  let (level, _) ← readLevel (.start false) words
  let level ← level.settle
  let _ ← level.orVariable fallback?
  return level.format

/-- Reads a command line, given the value of the variable. -/
def read (fallback? : Option String) (words : List String) : Except UsageError CommandLine := do
  let (outer, command) ← readLevel (.start true) words
  let inner ← match command with
    | some (c, words) => (readInner fallback? words).map fun f => some (c, f)
    | none => .ok none
  let outer ← outer.settle
  let fallback ← outer.orVariable fallback?
  match inner with
  | some (command, format) =>
    return { logFormat := (format.orElse fun _ => fallback).getD .text, command }
  | none => throw (if fallback.isSome then .noCommand else .nothingAsked)

end CommandLine

end TokenCustody
