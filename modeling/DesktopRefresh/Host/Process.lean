import DesktopRefresh.Host
import DesktopRefresh.Kernel.Machine
import DesktopRefresh.Utility

/-!
# The processes of a host

One way in which launched programs can behave, so that a host can be run. A tool runs on a machine of its own,
with nothing to read and with a pipe for each of its outputs. What it does to the files stays. Nothing that is
proved of hosts depends on it.
-/

namespace DesktopRefresh.Host

open Kernel (Machine Outlet)

/-- The number of the process of a tool. -/
def toolId : Nat := 1000

/-- New files cannot be written by others. -/
def standardMask : Nat := 0o022

/-- A machine on which a tool is about to start. -/
def machine (h : Host) (launch : Surroundings.Launch) : Machine where
  tree := h.tree
  clock := 0
  opened := [(0, .device .null), (1, .outlet .out), (2, .outlet .err)]
  pipes := []
  processes :=
    [{ id := toolId
       parent := Machine.keeper
       code := Utility.start launch h.environment
       ready := Machine.startTime
       blocked := false
       asleep := false
       stopped := false
       interrupted := false
       descriptors := [⟨0, 0, true⟩, ⟨1, 1, true⟩, ⟨2, 2, true⟩]
       cwd := h.cwd
       mask := standardMask
       reactions := []
       noted := []
       ended := none }]
  fresh := toolId + 1
  written := []
  struck := none

def ended? (m : Machine) : Option Kernel.Outcome := (m.process? toolId).bind (·.ended)

/-- More than any tool makes before its time is over. -/
def mostSteps : Nat := 10 ^ 12

/-- So long go on the processes that a tool leaves behind, even if they hold no pipe. -/
def grace : Nat := 10 ^ 7

/-- Everything that came out of a pipe. -/
def output (m : Machine) (o : Outlet) : Bytes :=
  (m.written.reverse.filter fun w => w.outlet = o).flatMap (·.text)

def holds (m : Machine) (o : Outlet) : Bool := m.opened.any fun e => e.2 == .outlet o

/-- A signal leaves no status. -/
def statusOf : Kernel.Outcome → Option Int
  | .exited status => some status
  | .killed _ => none

/-- The first signal that a process sent to end the supervisor. -/
def strike? (m : Machine) : Option Strike := m.struck.map fun (instant, signal) => ⟨instant, signal⟩

/-- The child that a launch makes, and the files as it leaves them. A child that goes beyond its time is not
followed any further. -/
def follow (h : Host) (timeout : Duration) (launch : Surroundings.Launch) : Started × FileTree :=
  let deadline := timeout.toNanos
  let m := Machine.run Utility.start (fun m now => (ended? m).isNone && now ≤ deadline) mostSteps (h.machine launch)
  match ended? m with
  | none => (⟨⟨none, ⟨[], none⟩, ⟨[], none⟩⟩, strike? m⟩, m.tree)
  | some outcome =>
    let late := Machine.run Utility.start (fun now t => now.isOutletHeld || t ≤ m.clock + grace) mostSteps m
    let stream (o : Outlet) : Stream := ⟨output late o, if holds late o then none else some late.clock⟩
    (⟨⟨some ⟨m.clock, statusOf outcome⟩, stream .out, stream .err⟩, strike? late⟩, late.tree)

/-- The system in which tools behave like this. -/
def runner : Boundary Host := (system follow).runner

end DesktopRefresh.Host
