/-!
# Durations and instants

A duration is a whole number of nanoseconds.  Clocks count whole milliseconds, and a wait always
lasts at least as long as asked for, so a duration is rounded up when a deadline is set.

`Duration.describe` is the text of a duration in messages: the largest of the four units that gives
a nonzero whole part, then the fraction without trailing zeros.
-/

namespace RepoCollector

/-- A span of time, exact to the nanosecond. -/
structure Duration where
  nanos : Nat
deriving DecidableEq, Repr, Inhabited

/-- A moment on a clock, in milliseconds since the clock was started. -/
abbrev Instant := Nat

namespace Duration

/-- Nanoseconds in a second. -/
def nanosPerSec : Nat := 1000000000

/-- Nanoseconds in a millisecond. -/
def nanosPerMilli : Nat := 1000000

def zero : Duration := ⟨0⟩

def ofSecs (secs : Nat) : Duration := ⟨secs * nanosPerSec⟩

def ofMillis (millis : Nat) : Duration := ⟨millis * nanosPerMilli⟩

/-- The duration of some whole seconds and some nanoseconds more. -/
def ofParts (secs nanos : Nat) : Duration := ⟨secs * nanosPerSec + nanos⟩

/-- Whole seconds. -/
def secs (d : Duration) : Nat := d.nanos / nanosPerSec

/-- Nanoseconds beyond the whole seconds. -/
def subsecNanos (d : Duration) : Nat := d.nanos % nanosPerSec

def isZero (d : Duration) : Bool := d.nanos == 0

/-- The longer of two durations. -/
def longer (a b : Duration) : Duration := ⟨max a.nanos b.nanos⟩

/-- The least number of milliseconds that covers the duration. -/
def coverMillis (d : Duration) : Nat := (d.nanos + (nanosPerMilli - 1)) / nanosPerMilli

/-- The first instant at which a wait begun at `start` is over.  A clock counts its seconds in
signed numbers of 64 bits, and the waits meant here end within that range. -/
def after (d : Duration) (start : Instant) : Instant := start + d.coverMillis

/-- The first `places` decimal digits of a fraction whose numerator is below `10 ^ places`, without
trailing zeros. -/
def fractionDigits (places numerator : Nat) : List Char :=
  let digits := Nat.toDigits 10 numerator
  let padded := List.replicate (places - digits.length) '0' ++ digits
  (padded.reverse.dropWhile (· == '0')).reverse

/-- A decimal with a whole part, a fraction of `places` digits and a unit. -/
def decimal (whole places numerator : Nat) (unit : String) : String :=
  let digits := fractionDigits places numerator
  let point := if digits.isEmpty then "" else "." ++ String.ofList digits
  toString whole ++ point ++ unit

/-- The text of a duration: `1.5s`, `50ms`, `1.5µs`, `999ns`. -/
def describe (d : Duration) : String :=
  let n := d.nanos
  if n ≥ 1000000000 then decimal (n / 1000000000) 9 (n % 1000000000) "s"
  else if n ≥ 1000000 then decimal (n / 1000000) 6 (n % 1000000) "ms"
  else if n ≥ 1000 then decimal (n / 1000) 3 (n % 1000) "µs"
  else toString n ++ "ns"

/-- The text of a duration that may be missing. -/
def describeOption : Option Duration → String
  | some d => "Some(" ++ d.describe ++ ")"
  | none => "None"

theorem secs_subsecNanos (d : Duration) : ofParts d.secs d.subsecNanos = d := by
  simp only [ofParts, secs, subsecNanos, Nat.div_add_mod']

/-- A wait is never cut short, and is less than a millisecond too long. -/
theorem coverMillis_spec (d : Duration) :
    d.nanos ≤ d.coverMillis * nanosPerMilli ∧
      d.coverMillis * nanosPerMilli < d.nanos + nanosPerMilli := by
  simp only [coverMillis, nanosPerMilli]
  omega

@[simp]
theorem coverMillis_ofMillis (millis : Nat) : (ofMillis millis).coverMillis = millis := by
  simp only [coverMillis, ofMillis, nanosPerMilli]
  omega

end Duration

end RepoCollector
