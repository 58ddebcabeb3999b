import RepoCollector.Duration
import RepoCollector.Queue.Basic

/-!
# Calls on a queue

A call is what one client asks of a queue and may have to wait for: to send a job, with or without a
deadline, to receive one, or to learn that there is something to receive.  A call goes forward by
steps.  `OpenCall.step` gives none when the call has to wait, and looks at the queue before it looks
at the deadline, so that a slot granted at the last moment counts.
-/

namespace RepoCollector

/-- What a client asks of a queue. -/
inductive Call (α : Type) where
  /-- To send a job, until a deadline if there is one. -/
  | send (job : α) (deadline : Option Instant)
  | recv
  | ready
deriving Repr

/-- How a call ended. -/
inductive Reply (α : Type) where
  | sent
  /-- The job comes back. -/
  | notSent (fault : SendFault) (job : α)
  | received (job : α)
  /-- There is nothing left to receive. -/
  | drained
  | ready
deriving Repr

/-- A call in progress. -/
structure OpenCall (α : Type) where
  call : Call α
  /-- Whether the client has lined up at the queue. -/
  parked : Bool := false
deriving Repr

namespace OpenCall

variable {α : Type}

/-- The reply that a sender's answer stands for. -/
def sendReply (job : α) : Except SendFault Unit → Reply α
  | .ok () => .sent
  | .error fault => .notSent fault job

/-- One step of a call: it goes on, or it ends with a reply, or it has to wait. -/
def step (now : Instant) (client : Client) (pending : OpenCall α) (q : JobQueue α) :
    Option (JobQueue α × (OpenCall α ⊕ Reply α)) :=
  match pending.call, pending.parked with
  | .send job deadline, false =>
    match q.startSend client job with
    | (q, some answer) => some (q, .inr (sendReply job answer))
    | (q, none) => some (q, .inl ⟨.send job deadline, true⟩)
  | .send job deadline, true =>
    match q.resumeSend client job with
    | (q, some answer) => some (q, .inr (sendReply job answer))
    | (_, none) =>
      if deadline.any (· ≤ now) then
        some (q.abandonSend client, .inr (.notSent .timeout job))
      else none
  | .recv, false =>
    match q.tryRecv with
    | (q, .received job) => some (q, .inr (.received job))
    | (q, .closed) => some (q, .inr .drained)
    | (q, .empty) =>
      let (q, found) := q.startReady client
      some (q, .inl ⟨.recv, !found⟩)
  | .recv, true =>
    match q.resumeReady client with
    | (q, true) => some (q, .inl ⟨.recv, false⟩)
    | (_, false) => none
  | .ready, false =>
    match q.startReady client with
    | (q, true) => some (q, .inr .ready)
    | (q, false) => some (q, .inl ⟨.ready, true⟩)
  | .ready, true =>
    match q.resumeReady client with
    | (q, true) => some (q, .inr .ready)
    | (_, false) => none

/-- The client gives up the call. -/
def abandon (client : Client) (pending : OpenCall α) (q : JobQueue α) : JobQueue α :=
  if pending.parked then
    match pending.call with
    | .send _ _ => q.abandonSend client
    | .recv | .ready => q.abandonReady client
  else q

/-- The moment at which the call ends for lack of a slot. -/
def deadline? (pending : OpenCall α) : Option Instant :=
  match pending.call with
  | .send _ deadline => deadline
  | _ => none

end OpenCall

end RepoCollector
