import RepoCollector.Duration
import RepoCollector.Number.Signed
import RepoCollector.Text.Blank

/-!
# Rate limits

A source that throttles says so by a status, and by headers when to ask again: `retry-after` is a
delay in seconds, `x-ratelimit-reset` the second at which the limit is lifted.  The first of
repeated headers counts, names being compared without regard to case, and a value that cannot be
read counts as missing.

Seconds are signed numbers of 64 bits, and the difference of two of them may leave that range: then
there is no delay but an overflow.
-/

namespace RepoCollector

/-- Headers of a response in the order in which they came. -/
abbrev Headers := List (String × String)

namespace Headers

/-- The value of the first header with a name, given in lower case. -/
def first? (headers : Headers) (name : String) : Option String :=
  (headers.find? fun header => header.1.toLower = name).map (·.2)

/-- Whether a value can be read as text: visible ASCII, spaces and tabs. -/
def isReadable (value : String) : Bool :=
  value.toList.all fun c => (32 ≤ c.toNat && c.toNat < 127) || c = '\t'

/-- The value of the first header with a name, if it can be read. -/
def text? (headers : Headers) (name : String) : Option String :=
  (headers.first? name).filter isReadable

/-- The number in the first header with a name. -/
def number? (headers : Headers) (name : String) : Option Int :=
  (headers.text? name).bind fun value => signed64? (Text.trim value.toList)

end Headers

/-- A difference that leaves the range of its numbers. -/
inductive Overflow where
  | subtraction
deriving DecidableEq, Repr

def Overflow.message : Overflow → String
  | .subtraction => "attempt to subtract with overflow"

/-- The seconds until a limit is lifted, at least one. -/
def secondsUntil (reset now : Int) : Except Overflow Nat :=
  if fitsSigned64 (reset - now) then .ok (max (reset - now) 1).toNat else .error .subtraction

/-- How long to wait, from the headers of a response and the current second. -/
def rateLimitDelay (headers : Headers) (now : Int) : Except Overflow (Option Duration) :=
  match headers.number? "retry-after" with
  | some seconds => .ok (some (.ofSecs (max seconds 0).toNat))
  | none =>
    match headers.number? "x-ratelimit-reset" with
    | none => .ok none
    | some reset =>
      match secondsUntil reset now with
      | .ok seconds => .ok (some (.ofSecs seconds))
      | .error overflow => .error overflow

/-- Whether a response refuses a request because there were too many. -/
def isRateLimited (status : Nat) (headers : Headers) : Bool :=
  if status = 429 then true
  else if status = 403 then
    (headers.first? "retry-after").isSome || headers.text? "x-ratelimit-remaining" = some "0"
  else false

end RepoCollector
