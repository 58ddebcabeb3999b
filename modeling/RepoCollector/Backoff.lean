import RepoCollector.Duration
import RepoCollector.Number.Binary

/-!
# Backoff

A backoff hands out delays that begin at a least one and grow by a factor up to a greatest one.
With jitter, a delay is drawn between the least one and what it would be without.

The arithmetic is a parameter: a backoff works in any type of numbers of seconds that durations can
be turned into and back.  The program works in doubles; the law of the sequence can be read in exact
numbers, because both are the same definition.
-/

namespace RepoCollector

/-- Numbers of seconds that durations can be turned into and back. -/
class Seconds (R : Type) where
  ofDuration : Duration → R
  toDuration : R → Duration

/-- A double is a sum of the whole seconds and of the fraction, and is read back to the nearest
nanosecond.  A duration has fewer than `2 ^ 64` whole seconds, and the doubles meant here are below
that. -/
instance : Seconds Float where
  ofDuration d :=
    (UInt64.ofNat d.secs).toFloat + (UInt64.ofNat d.subsecNanos).toFloat / 1000000000.0
  toDuration x := ⟨(Binary.ofFloat x).scaled 1000000000⟩

/-- Repeated squaring: `result * base ^ exponent`. -/
def powerFrom {R : Type} [Mul R] (result base : R) (exponent : Nat) : R :=
  let result := if exponent % 2 = 1 then result * base else result
  if exponent / 2 = 0 then result else powerFrom result (base * base) (exponent / 2)
termination_by exponent
decreasing_by omega

/-- A generator of delays. -/
structure Backoff (R : Type) where
  least : Duration
  greatest : Duration
  factor : R
  /-- How many delays were handed out since the last reset. -/
  attempt : Nat := 0
deriving Repr

namespace Backoff

/-- The counter of attempts stays at this number, the greatest of 32 bits, once it has reached
it. -/
def attemptLimit : Nat := 4294967295

/-- The greatest exponent that is computed, the greatest signed number of 32 bits. -/
def exponentLimit : Nat := 2147483647

section Sequence

variable {R : Type}

/-- The delay bounds are put in order: the greatest delay is at least the least one. -/
def bounded (least greatest : Duration) (factor : R) : Backoff R :=
  { least, greatest := greatest.longer least, factor }

variable [Seconds R] [Mul R] [OfNat R 1] [LT R] [DecidableLT R] [LE R] [DecidableLE R]

/-- The next delay without jitter, in seconds. -/
def ceiling (b : Backoff R) : R :=
  let low := Seconds.ofDuration b.least
  let high := Seconds.ofDuration b.greatest
  let grown := low * powerFrom 1 b.factor (min b.attempt exponentLimit)
  if grown ≤ high then grown else high

/-- The next delay in seconds.  A draw from the numbers below one places it between the least delay
and the one without jitter. -/
def seconds [Add R] [Sub R] (b : Backoff R) (draw : Option R) : R :=
  let low := Seconds.ofDuration b.least
  let high := Seconds.ofDuration b.greatest
  let delay :=
    match draw with
    | some share => if low < b.ceiling then share * (b.ceiling - low) + low else b.ceiling
    | none => b.ceiling
  if delay < low then low else if high < delay then high else delay

/-- Counts one more attempt. -/
def advanced (b : Backoff R) : Backoff R :=
  { b with attempt := min (b.attempt + 1) attemptLimit }

/-- Hands out the next delay. -/
def next [Add R] [Sub R] (b : Backoff R) (draw : Option R) : Duration × Backoff R :=
  (Seconds.toDuration (b.seconds draw), b.advanced)

/-- Starts over from the least delay. -/
def reset (b : Backoff R) : Backoff R :=
  { b with attempt := 0 }

end Sequence

/-- The growth factor in effect: a finite number not below one, or one. -/
def effectiveFactor (factor : Float) : Float :=
  if factor.isFinite && factor ≥ 1.0 then factor else 1.0

/-- A backoff in doubles. -/
def make (least greatest : Duration) (factor : Float) : Backoff Float :=
  bounded least greatest (effectiveFactor factor)

def defaultLeast : Duration := .ofMillis 500

def defaultGreatest : Duration := .ofSecs 5

def defaultFactor : Float := 4.0

/-- The backoff of a provider that is given no other. -/
def standard : Backoff Float := make defaultLeast defaultGreatest defaultFactor

end Backoff

end RepoCollector
