import RepoCollector.Semaphore
import RepoCollector.Duration

/-!
# Running clients under a virtual clock

A crew is a system of clients that run one at a time.  Whoever can go on is put at the end of a
line; the first in the line runs until it has to wait.  Work takes no time: the clock moves only
when the line is empty, and then straight to the next deadline.

`Crew.settle` runs everybody who can go on.  `Crew.waitFor` is how one who stands outside the crew
waits: until a condition holds or a moment has come.  The outsider looks at its condition before the
crew runs on when the clock has moved, and after the line has become empty.
-/

namespace RepoCollector

/-- A system of clients over states `S`. -/
structure Crew (S : Type) where
  now : S → Instant
  /-- Sets the clock. -/
  setNow : Instant → S → S
  /-- The clients, those that were called to go on before all others and in the order of the
  calls. -/
  clients : S → List Client
  /-- One step of a client, if it can make one. -/
  step : Client → S → Option S
  /-- The moments at which clients that wait go on by themselves. -/
  deadlines : S → List Instant

namespace Crew

variable {S : Type}

/-- How many steps are made at one moment before they are given up as endless. -/
def stepLimit : Nat := 100000

/-- How often the clock is moved at most while somebody waits. -/
def moveLimit : Nat := 2000000

/-- Those who can go on and are not in the line yet. -/
def joiners (crew : Crew S) (line : List Client) (s : S) : List Client :=
  ((crew.clients s).eraseDups.filter fun client => client ∉ line).filter fun client =>
    (crew.step client s).isSome

/-- Runs the line until it is empty. -/
def runLine (crew : Crew S) : Nat → List Client → S → S
  | 0, _, s => s
  | fuel + 1, line, s =>
    match line ++ crew.joiners line s with
    | [] => s
    | client :: rest =>
      match crew.step client s with
      | some s => runLine crew fuel (client :: rest) s
      | none => runLine crew fuel rest s

/-- Runs everybody who can go on. -/
def settle (crew : Crew S) (s : S) : S :=
  crew.runLine stepLimit [] s

/-- The next deadline that has not come yet. -/
def nextDeadline? (crew : Crew S) (s : S) : Option Instant :=
  ((crew.deadlines s).filter (crew.now s < ·)).min?

/-- Lets the crew run until a condition holds or a moment has come. -/
def waitLoop (crew : Crew S) (ready : S → Bool) (limit : Instant) : Nat → S → S
  | 0, s => s
  | fuel + 1, s =>
    let s := crew.settle s
    if ready s then s
    else
      match crew.nextDeadline? s with
      | none => crew.setNow (max limit (crew.now s)) s
      | some moment =>
        if moment < limit then
          let s := crew.setNow moment s
          if ready s then s else waitLoop crew ready limit fuel s
        else crew.setNow (max limit (crew.now s)) s

/-- Lets the crew run until a condition holds or a moment has come. -/
def waitFor (crew : Crew S) (ready : S → Bool) (limit : Instant) (s : S) : S :=
  crew.waitLoop ready limit moveLimit s

/-- Lets the crew run until a moment has come. -/
def runUntil (crew : Crew S) (limit : Instant) (s : S) : S :=
  if limit ≤ crew.now s then s else crew.waitFor (fun _ => false) limit s

/-- A call that one outside the crew makes: it goes on by steps, ends with an answer, or has to
wait, perhaps until a deadline of its own. -/
structure OutsideCall (S M R : Type) where
  step : M → S → Option (S × (M ⊕ R))
  deadline? : M → Option Instant

/-- Runs an outsider's call until it ends or has to wait. -/
def runCall {M R : Type} (call : OutsideCall S M R) : Nat → M → S → S × (M ⊕ R)
  | 0, m, s => (s, .inl m)
  | fuel + 1, m, s =>
    match call.step m s with
    | none => (s, .inl m)
    | some (s, .inl m) => runCall call fuel m s
    | some (s, .inr answer) => (s, .inr answer)

/-- Runs an outsider's call until it ends or a moment has come, letting the crew run while the call
waits.  A call that has not ended is handed back. -/
def awaitLoop {M R : Type} (crew : Crew S) (call : OutsideCall S M R) (limit : Instant) :
    Nat → M → S → S × (M ⊕ R)
  | 0, m, s => (s, .inl m)
  | fuel + 1, m, s =>
    match runCall call stepLimit m s with
    | (s, .inr answer) => (s, .inr answer)
    | (s, .inl m) =>
      if limit ≤ crew.now s then (s, .inl m)
      else
        let moment := ((call.deadline? m).getD limit).min limit
        let ready := fun s => (call.step m s).isSome
        awaitLoop crew call limit fuel m (crew.waitFor ready moment s)

/-- Runs an outsider's call until it ends or a moment has come. -/
def await {M R : Type} (crew : Crew S) (call : OutsideCall S M R) (limit : Instant) (m : M)
    (s : S) : S × (M ⊕ R) :=
  awaitLoop crew call limit moveLimit m s

end Crew

end RepoCollector
