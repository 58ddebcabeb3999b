/-!
# Semaphores

A semaphore holds permits and the clients that wait for one.  A permit that is given back goes to
the client that has waited longest; that client is then *granted* a permit, and has it for good when
it resumes.  A client that gives up first passes its permit on.

After the semaphore is closed nobody is granted anything: whoever resumes, granted or not, is
refused, and a granted permit goes back.  `Semaphore.due` lists the clients that need not wait any
longer, in the order in which they became able to resume.
-/

namespace RepoCollector

/-- Whoever may have to wait, numbered among its like. -/
inductive Client where
  | task (number : Nat)
  | worker (number : Nat)
  | provider (number : Nat)
deriving DecidableEq, Repr, Inhabited

/-- Permits and the clients that wait for them. -/
structure Semaphore where
  permits : Nat
  /-- Clients that wait, the longest waiting first. -/
  waiting : List Client := []
  /-- Clients that were given a permit and have not resumed yet, the first given first. -/
  granted : List Client := []
  closed : Bool := false
deriving DecidableEq, Repr

/-- What a client that asks for a permit is told. -/
inductive Permit where
  /-- The permit is the client's. -/
  | taken
  /-- There is none now. -/
  | notNow
  /-- The semaphore is closed. -/
  | refused
deriving DecidableEq, Repr

namespace Semaphore

/-- The clients that can resume with an answer. -/
def due (s : Semaphore) : List Client :=
  if s.closed then s.granted ++ s.waiting else s.granted

/-- Takes a permit only if there is one. -/
def tryAcquire (s : Semaphore) : Semaphore × Permit :=
  if s.closed then (s, .refused)
  else
    match s.permits with
    | 0 => (s, .notNow)
    | permits + 1 => ({ s with permits }, .taken)

/-- Takes a permit, or lines up for one. -/
def acquire (s : Semaphore) (client : Client) : Semaphore × Permit :=
  match s.tryAcquire with
  | (_, .notNow) => ({ s with waiting := s.waiting ++ [client] }, .notNow)
  | answer => answer

/-- Gives a permit to the client that has waited longest, or keeps it. -/
def release (s : Semaphore) : Semaphore :=
  if s.closed then { s with permits := s.permits + 1 }
  else
    match s.waiting with
    | [] => { s with permits := s.permits + 1 }
    | client :: waiting => { s with waiting, granted := s.granted ++ [client] }

/-- A client that lined up leaves, passing on a permit that it was granted. -/
def abandon (s : Semaphore) (client : Client) : Semaphore :=
  if client ∈ s.granted then release { s with granted := s.granted.erase client }
  else { s with waiting := s.waiting.erase client }

/-- A client that lined up asks again. -/
def resume (s : Semaphore) (client : Client) : Semaphore × Permit :=
  if s.closed then (s.abandon client, .refused)
  else if client ∈ s.granted then ({ s with granted := s.granted.erase client }, .taken)
  else (s, .notNow)

/-- Refuses everybody from now on. -/
def close (s : Semaphore) : Semaphore :=
  { s with closed := true }

/-- The permits that are free or on their way to a client. -/
def supply (s : Semaphore) : Nat :=
  s.permits + s.granted.length

@[simp]
theorem supply_release (s : Semaphore) : s.release.supply = s.supply + 1 := by
  unfold release supply
  split
  · simp only [Nat.add_right_comm]
  · split
    · simp only [Nat.add_right_comm]
    · simp only [List.length_append, List.length_cons, List.length_nil, Nat.add_assoc]

/-- A client that leaves takes no permit with it. -/
@[simp]
theorem supply_abandon (s : Semaphore) (client : Client) :
    (s.abandon client).supply = s.supply := by
  unfold abandon
  split
  next member =>
    have shorter := List.length_erase_of_mem member
    have positive := List.length_pos_of_mem member
    rw [supply_release]
    simp only [supply, shorter]
    omega
  · rfl

end Semaphore

end RepoCollector
