/-
TokenCustody.Program — work that is done through calls to others.

A run that keeps a credential usable reads a store, asks a provider and
looks at the clock, and other runs do the same at the same time. What
such a run does between two calls is nobody's concern; what it does in
its calls, and in which order, is all there is to say about it. So a run
is a `Program`: either finished, or one call and what follows its
answer. Whoever holds a program can answer its calls as it likes, let
other programs take a step in between, or look at every call it makes.

Calls come in two kinds:

* calls to a `Service`, which is a parameter. The same program text runs
  over records and grants, and `serve` turns it into a program over HTTP
  requests by answering each call with a program of its own.
* `Ambient` questions, which are the same for all programs: clocks, a
  random draw, a pause, a metric.

`halt` ends a program without a result: a date lay beyond the calendar,
or a number had more than 64 bits.
-/
import TokenCustody.Metric

namespace TokenCustody

open TokenCustody.Time

/-! ## Calls -/

/-- What can be asked of a service, and how it answers. -/
structure Service where
  /-- What can be asked. -/
  Request : Type
  /-- The answers to a request. -/
  Reply : Request → Type

/-- What happened to one retried operation; one retry executor counts it. -/
inductive Tally where
  /-- An attempt was started. -/
  | attempt
  /-- A later attempt than the first succeeded. -/
  | lateSuccess
  /-- The operation was given up. -/
  | failure
  deriving DecidableEq

/-- What every program may ask of its surroundings. -/
inductive Ambient where
  /-- The time of the calendar. -/
  | now
  /-- The time since some fixed start; it never goes back and is never set. -/
  | timer
  /-- A random number from 0 to 1, without 1. -/
  | draw
  /-- As many random bytes. -/
  | bytes (count : Nat)
  /-- A pause. -/
  | sleep (d : Duration)
  /-- Something to be counted for whoever watches. -/
  | emit (m : Metric)
  /-- Something to be counted for the report. -/
  | tally (t : Tally)

/-- The answers to a question. -/
abbrev Ambient.Reply : Ambient → Type
  | .now => Instant
  | .timer => Duration
  | .draw => Float
  | .bytes _ => List UInt8
  | .sleep _ | .emit _ | .tally _ => Unit

/-! ## Programs -/

/-- Work that ends with a result of type `α`. -/
inductive Program (S : Service) (α : Type) where
  /-- The result. -/
  | done (a : α)
  /-- No result: a date lay beyond the calendar, or a number had more than 64 bits. -/
  | halt
  /-- A question and what follows its answer. -/
  | ask (q : Ambient) (next : q.Reply → Program S α)
  /-- A call to the service and what follows its answer. -/
  | call (r : S.Request) (next : S.Reply r → Program S α)

namespace Program

variable {S T : Service} {α β γ : Type}

/-- One program, then another that depends on its result. -/
def bind : Program S α → (α → Program S β) → Program S β
  | done a, f => f a
  | halt, _ => halt
  | ask q next, f => ask q fun a => bind (next a) f
  | call r next, f => call r fun a => bind (next a) f

instance : Monad (Program S) where
  pure := done
  bind := bind

/-- A finished program adds nothing in front. -/
theorem done_bind (a : α) (f : α → Program S β) : (done a).bind f = f a := rfl

/-- A program that only finishes adds nothing behind. -/
theorem bind_done (p : Program S α) : p.bind done = p := by
  induction p with
  | done a => rfl
  | halt => rfl
  | ask q next ih => exact congrArg (ask q) (funext ih)
  | call r next ih => exact congrArg (call r) (funext ih)

/-- Three programs in a row can be grouped either way. -/
theorem bind_assoc (p : Program S α) (f : α → Program S β) (g : β → Program S γ) :
    (p.bind f).bind g = p.bind fun a => (f a).bind g := by
  induction p with
  | done a => rfl
  | halt => rfl
  | ask q next ih => exact congrArg (ask q) (funext ih)
  | call r next ih => exact congrArg (call r) (funext ih)

instance : LawfulMonad (Program S) :=
  LawfulMonad.mk' (Program S) bind_done done_bind bind_assoc

/-! ## Single calls -/

/-- The answer to a question. -/
def asking (q : Ambient) : Program S q.Reply := ask q done

/-- The answer of the service. -/
def calling (r : S.Request) : Program S (S.Reply r) := call r done

/-- The time of the calendar. -/
def now : Program S Instant := asking .now

/-- The time since a fixed start. -/
def timer : Program S Duration := asking .timer

/-- A random number from 0 to 1, without 1. -/
def draw : Program S Float := asking .draw

/-- Random bytes. -/
def bytes (count : Nat) : Program S (List UInt8) := asking (.bytes count)

/-- A pause. -/
def sleep (d : Duration) : Program S Unit := asking (.sleep d)

/-- Counts something for whoever watches. -/
def emit (m : Metric) : Program S Unit := asking (.emit m)

/-- Counts something for the report. -/
def tally (t : Tally) : Program S Unit := asking (.tally t)

/-- A value, or the end where there is none. -/
def orHalt : Option α → Program S α
  | some a => done a
  | none => halt

/-! ## Handlers -/

/-- The program in which each call is answered by a program over another service. -/
def serve (answer : (r : S.Request) → Program T (S.Reply r)) : Program S α → Program T α
  | done a => done a
  | halt => halt
  | ask q next => ask q fun a => serve answer (next a)
  | call r next => (answer r).bind fun a => serve answer (next a)

/-- Lets a monad answer all calls. Without a result the outcome is `none`. -/
def run {m : Type → Type} [Monad m] (ambient : (q : Ambient) → m q.Reply)
    (answer : (r : S.Request) → m (S.Reply r)) : Program S α → m (Option α)
  | done a => pure (some a)
  | halt => pure none
  | ask q next => do run ambient answer (next (← ambient q))
  | call r next => do run ambient answer (next (← answer r))

end Program

/-! ## What a run was worth -/

/-- The sums of one retry executor. Each has 32 bits and begins again at nothing when these are
full. -/
structure RetryStats where
  attempts : UInt32
  lateSuccesses : UInt32
  failures : UInt32
  deriving DecidableEq

namespace RetryStats

/-- Nothing has happened. -/
def zero : RetryStats := ⟨0, 0, 0⟩

/-- The sums after one more occurrence. -/
def add (s : RetryStats) : Tally → RetryStats
  | .attempt => { s with attempts := s.attempts + 1 }
  | .lateSuccess => { s with lateSuccesses := s.lateSuccesses + 1 }
  | .failure => { s with failures := s.failures + 1 }

end RetryStats

/-- The program with its tallies counted instead of asked for; sums go on from `s`. The
sums are there even if the program has no result. -/
def Program.counting {S : Service} {α : Type} (s : RetryStats) :
    Program S α → Program S (Option α × RetryStats)
  | done a => done (some a, s)
  | halt => done (none, s)
  | ask (.tally t) next => counting (s.add t) (next ())
  | ask q next => ask q fun a => counting s (next a)
  | call r next => call r fun a => counting s (next a)

end TokenCustody
