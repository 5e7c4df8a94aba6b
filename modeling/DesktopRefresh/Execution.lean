import DesktopRefresh.Boundary
import DesktopRefresh.Text.Blank
import DesktopRefresh.Text.Line
import DesktopRefresh.Trace
import DesktopRefresh.Trigger

/-!
# Executing triggers

Triggers are executed one after the other, and nothing but the state of the boundary is carried from
one to the next. A trigger whose tool is missing is skipped, one whose tool fails is counted, and the
others still get their turn. Only a run that never comes back keeps them from it.
-/

namespace DesktopRefresh

structure ExecutionMode where
  timeout : Duration
  dryRun : Bool
  deriving DecidableEq, Repr

namespace Execution

def defaultTimeout : Duration := .ofSeconds 120

def record (level : Level) (message : String) : Record := ⟨level, .executor, message⟩

/-! ## The messages -/

def opening (count : Nat) (datadir : Bytes) : String :=
  "Executing " ++ toString count ++ " trigger(s) (datadir: " ++ Utf8.lossy datadir ++ ")"

def missing (t : Trigger) : String :=
  "  [SKIP] Trigger '" ++ t.name ++ "': handler '" ++ t.program ++ "' not found"

def running (t : Trigger) (command : Invocation) : String :=
  "  Running trigger: " ++ t.name ++ " - " ++ t.description ++ " (" ++ command.display ++ ")"

def completed (t : Trigger) : String := "  [OK] Trigger '" ++ t.name ++ "' completed"

def failed (t : Trigger) (f : Failure) : String := "  [FAIL] Trigger '" ++ t.name ++ "': " ++ f.message

/-- The entry of a failed trigger among the errors. -/
def errorEntry (t : Trigger) (f : Failure) : String := t.name ++ ": " ++ f.message

/-! ## What a tool printed -/

def forwarded (t : Trigger) (line : String) : String := "[" ++ t.name ++ "] " ++ line

/-- Every line of the tool's standard output, then every line of its standard error. -/
def forward (t : Trigger) (o : Output) : List Record :=
  (Text.lines o.stdout).map (fun line => record .debug (forwarded t line)) ++
    (Text.lines o.stderr).map fun line => record .warn (forwarded t line)

/-- The failure that an answer amounts to. A tool ended by a signal counts as ended with code -1. -/
def failure? (command : Invocation) : Answer → Option Failure
  | .error f => some f
  | .ok o => if o.isSuccess then none else some (.failed command.program (o.status.getD (-1)) (Text.trim o.stderr))

def forwardAnswer (t : Trigger) : Answer → List Record
  | .error _ => []
  | .ok o => forward t o

/-! ## One trigger -/

def conclude (t : Trigger) : Option Failure → Record × Results
  | none => (record .info (completed t), .oneSucceeded)
  | some f => (record .warn (failed t f), .oneFailed (errorEntry t f))

/-- The part of a trace that an answer decides. -/
def settle (t : Trigger) (command : Invocation) (answer : Answer) : List Record × Results :=
  let (last, results) := conclude t (failure? command answer)
  (forwardAnswer t answer ++ [last], results)

def announced (messages : List String) : List Record := messages.map fun message => ⟨.debug, .runner, message⟩

def announceOnly (datadir : Bytes) (t : Trigger) : Trace :=
  ⟨[], [], [.notice t.notice, .wouldRun (t.command datadir)], [], .oneSkipped⟩

def missingTrace (t : Trigger) : Trace :=
  ⟨[(t.program, false)], [], [.notice t.notice], [record .info (missing t)], .oneSkipped⟩

section
variable {σ : Type} (boundary : Boundary σ) (mode : ExecutionMode) (datadir : Bytes)

/-- A trigger whose run did not come back has no result. -/
def interruptedTrace (t : Trigger) : Trace where
  lookups := [(t.program, true)]
  calls := [⟨t.command datadir, mode.timeout⟩]
  progress := [.notice t.notice]
  log := record .info (running t (t.command datadir)) :: announced (boundary.announce (t.command datadir))
  results := .empty

def answeredTrace (t : Trigger) (answer : Answer) : Trace where
  lookups := [(t.program, true)]
  calls := [⟨t.command datadir, mode.timeout⟩]
  progress := [.notice t.notice]
  log := record .info (running t (t.command datadir)) :: announced (boundary.announce (t.command datadir)) ++
    (settle t (t.command datadir) answer).1
  results := (settle t (t.command datadir) answer).2

/-- Looks the tool up and runs it if it is there. -/
def attemptAt (s : σ) (t : Trigger) : Trace × Option Interruption × σ :=
  match boundary.lookup s t.program with
  | (false, s) => (missingTrace t, none, s)
  | (true, s) =>
    match boundary.run s (t.command datadir) mode.timeout with
    | (.error cause, s) => (interruptedTrace boundary mode datadir t, some cause, s)
    | (.ok answer, s) => (answeredTrace boundary mode datadir t answer, none, s)

def stepAt (s : σ) (t : Trigger) : Trace × Option Interruption × σ :=
  if mode.dryRun then (announceOnly datadir t, none, s) else attemptAt boundary mode datadir s t

def stepsAt (s : σ) : List Trigger → Trace × Option Interruption × σ
  | [] => (.empty, none, s)
  | t :: ts =>
    match stepAt boundary mode datadir s t with
    | (first, some cause, s) => (first, some cause, s)
    | (first, none, s) =>
      match stepsAt s ts with
      | (rest, cause, s) => (first ++ rest, cause, s)

/-- Executes triggers against a data directory, after a record that says how many there are. -/
def executeAt (s : σ) (triggers : List Trigger) : Trace × Option Interruption × σ :=
  match stepsAt boundary mode datadir s triggers with
  | (trace, cause, s) =>
    ({ trace with log := record .info (opening triggers.length datadir) :: trace.log }, cause, s)

end

/-! ## With a runner, nothing is interrupted -/

section
variable {σ : Type} (runner : Runner σ) (mode : ExecutionMode) (datadir : Bytes)

def step (s : σ) (t : Trigger) : Trace × σ :=
  match stepAt runner.boundary mode datadir s t with
  | (trace, _, s) => (trace, s)

def steps (s : σ) (triggers : List Trigger) : Trace × σ :=
  match stepsAt runner.boundary mode datadir s triggers with
  | (trace, _, s) => (trace, s)

def execute (s : σ) (triggers : List Trigger) : Trace × σ :=
  match executeAt runner.boundary mode datadir s triggers with
  | (trace, _, s) => (trace, s)

end

end Execution

end DesktopRefresh
