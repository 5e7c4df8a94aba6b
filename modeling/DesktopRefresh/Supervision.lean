import DesktopRefresh.Boundary
import DesktopRefresh.Text.Utf8

/-!
# Supervising a child process

A child that was started is waited for until it ends or its time is over. One that is late is killed
and nothing it wrote counts. One that ended in time is answered for with everything that comes out of
its two pipes, and that takes as long as somebody holds them: the timeout does not bound it. All this
time the processes of the child can also end the supervisor, by a signal.

Instants are nanoseconds from the start of the child.
-/

namespace DesktopRefresh

/-- What comes out of a pipe, and when its last holder lets go of it, if ever. -/
structure Stream where
  content : Bytes
  closes : Option Nat
  deriving DecidableEq, Repr

/-- How a child ends if it is left alone: when, and with which status if no signal ended it. -/
structure Ending where
  instant : Nat
  status : Option Int
  deriving DecidableEq, Repr

structure Child where
  ending : Option Ending
  stdout : Stream
  stderr : Stream
  deriving DecidableEq, Repr

namespace Child

/-- The end of a child that needs no killing. -/
def endingWithin (timeout : Duration) (c : Child) : Option Ending :=
  c.ending.filter fun e => e.instant ≤ timeout.toNanos

/-- The output of a child that ended, once both pipes are closed. -/
def collect (c : Child) (e : Ending) : Option Output :=
  match c.stdout.closes, c.stderr.closes with
  | some _, some _ => some ⟨e.status, Utf8.lossy c.stdout.content, Utf8.lossy c.stderr.content⟩
  | _, _ => none

/-- The answer for a child that runs a program; there is none if the wait goes on for ever. -/
def supervise (program : String) (timeout : Duration) (c : Child) : Option Answer :=
  match c.endingWithin timeout with
  | some e => (c.collect e).map .ok
  | none => some (.error (.timedOut program timeout.seconds))

/-- When the answer is there, if ever. -/
def answeredAt (timeout : Duration) (c : Child) : Option Nat :=
  match c.endingWithin timeout with
  | some e =>
    match c.stdout.closes, c.stderr.closes with
    | some stdout, some stderr => some (max e.instant (max stdout stderr))
    | _, _ => none
  | none => some timeout.toNanos

end Child

/-- A signal that ends the supervisor. -/
structure Strike where
  instant : Nat
  signal : Nat
  deriving DecidableEq, Repr

/-- A child with the first strike of its processes against the supervisor. -/
structure Started where
  child : Child
  strike : Option Strike
  deriving DecidableEq, Repr

namespace Started

/-- What comes of the wait for a child. A strike does nothing to it once the answer is there. -/
def await (program : String) (timeout : Duration) (s : Started) : Except Interruption Answer :=
  match s.strike.filter fun k => !(s.child.answeredAt timeout).any (· ≤ k.instant) with
  | some k => .error (.killed k.signal)
  | none =>
    match s.child.supervise program timeout with
    | some answer => .ok answer
    | none => .error .endless

end Started

end DesktopRefresh
