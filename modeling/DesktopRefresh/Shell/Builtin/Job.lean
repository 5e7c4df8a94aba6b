import DesktopRefresh.Shell.Builtin.Arguments

/-!
# Own commands for signals and jobs
-/

namespace DesktopRefresh.Shell.Builtin

open Bytes (isDigit number)
open Kernel (Signal.terminate)
open Shell (text singleQuoted decimal)

/-! ## Jobs by name -/

def noJob {α : Type} (name : Bytes) : Action α := Action.failBytes (text "No such job: " ++ name)

/-- The job that a word behind a percent sign stands for: a number, the current one, or the one before it. -/
def job (name : Bytes) : Action Job := do
  let jobs := (← get).jobs
  let wanted := name.drop 1
  let found : Option Job :=
    if wanted.isEmpty || wanted == text "%" || wanted == text "+" then jobs.head?
    else if wanted == text "-" then jobs[1]?
    else if isNumber wanted then jobs.find? (·.number == number wanted)
    else none
  match found with
  | some j => return j
  | none => noJob name

def isJobName (a : Bytes) : Bool := a.head? == some (Bytes.ascii '%')

/-! ## Sending signals -/

def killUsage {α : Type} : Action α := Action.fail
  "Usage: kill [-s sigspec | -signum | -sigspec] [pid | job]... or\nkill -l [exitstatus]"

def listSignals (args : List Bytes) : Action Nat := do
  match args with
  | [] =>
    for n in List.range Kernel.Signal.count do
      Action.printLine (text (if n = 0 then "0" else Kernel.Signal.name n))
    return 0
  | a :: _ =>
    let n ← toNumber a
    let n := if 128 < n then n - 128 else n
    if 0 < n && n < Kernel.Signal.count then
      Action.printLine (text (Kernel.Signal.name n))
      return 0
    else Action.failBytes (text "invalid signal number or exit status: " ++ a)

/-- The processes that an argument names. Jobs have no processes that can be reached as one. -/
def target (a : Bytes) : Action (Option Nat) := do
  if isJobName a then
    let _ ← job a
    return none
  else match a with
    | sign :: rest =>
      if sign = Bytes.ascii '-' then
        let _ ← toNumber rest
        return none
      else return some (← toNumber a)
    | [] => illegalNumber a

def signalEach (n : Nat) : List Bytes → (status : Nat) → Action Nat
  | [], status => return status
  | a :: rest, status => do
    let answer ← match ← target a with
      | some id => Action.call (.signal id n)
      | none => pure (.error .noProcess)
    match answer with
    | .ok _ => signalEach n rest status
    | .error e =>
      Action.complain (e.text ++ "\n")
      signalEach n rest 1

def isSignalName (bs : Bytes) : Bool := (Kernel.Signal.ofBytes? bs).any fun n => n != 0 || isNumber bs

def signalNumber? (bs : Bytes) : Option Nat := if isSignalName bs then Kernel.Signal.ofBytes? bs else none

def kill : Own := fun args => do
  let (signal, lists, targets) ← match args with
    | [] => killUsage
    | (sign :: name) :: rest =>
      if sign != Bytes.ascii '-' then pure (none, false, args)
      else match signalNumber? name with
        | some n => pure (some n, false, rest)
        | none => do
          let (given, rest) ← options "l" "s" args
          let mut signal : Option Nat := none
          for g in given do
            if g.letter == 's' then
              match signalNumber? g.argument with
              | some n => signal := some n
              | none => Action.failBytes (text "invalid signal number or name: " ++ g.argument)
          pure (signal, given.any (·.letter == 'l'), rest)
    | args => pure (none, false, args)
  if lists then if signal.isSome then killUsage else listSignals targets
  else if targets.isEmpty then killUsage
  else signalEach (signal.getD Kernel.Signal.terminate) targets 0

/-! ## Actions for signals -/

/-- Sets what a signal does to the shell, unless it did nothing when the shell started. -/
def react (signal : Nat) (action : Option Bytes) : Action Unit := do
  if signal != 0 && !(← get).ignoredAtStart.contains signal then
    Action.call (.react signal (match action with
      | none => .standard
      | some [] => .ignored
      | some _ => .noted))

def setActions (action : Option Bytes) : List Bytes → Action Nat
  | [] => return 0
  | name :: rest => do
    match Kernel.Signal.ofBytes? name with
    | some n =>
      modify fun sh =>
        let others := sh.traps.filter (·.1 != n)
        { sh with traps := match action with
          | some a => (n, a) :: others
          | none => others }
      react n action
      setActions action rest
    | none =>
      Action.writeTo 2 (text "trap: " ++ name ++ text ": bad trap\n")
      return 1

def trap : Own := fun args => do
  match ← operands args with
  | [] =>
    let traps := (← get).traps.mergeSort fun a b => decide (a.1 ≤ b.1)
    for (n, action) in traps do
      Action.printLine (text "trap -- " ++ singleQuoted action ++ text (" " ++ Kernel.Signal.name n))
    return 0
  | action :: signals =>
    let isNumberOfSignal := isNumber action && number action < Kernel.Signal.count
    if signals.isEmpty || isNumberOfSignal then setActions none (action :: signals)
    else setActions (if action == text "-" then none else some action) signals

/-! ## Waiting -/

/-- The status of a job that is not known. -/
def unknownJob : Nat := 127

/-- The status of waiting that a signal has cut short, whose action is then carried out. -/
def interruptedStatus : Action Nat := do
  Action.lookForSignals
  return 128 + ((← get).arrived.getLast?).getD 0

def markWaited (number : Nat) : Action Unit := modify fun sh =>
  { sh with jobs := sh.jobs.map fun j => if j.number == number then { j with waited := true } else j }

/-- Waits until a job has come to its end; a signal cuts that short. -/
def awaitOver (number : Nat) : (waits : Nat) → Action Bool
  | 0 => return true
  | waits + 1 => do
    match ← Action.job? number with
    | some j =>
      if j.isOver then return true
      else match ← Action.awaitAny (some number) with
        | .interrupted => return false
        | .nobody => return true
        | .ended _ _ => awaitOver number waits
    | none => return true

/-- The job that an argument names, by its own number or that of its last process. -/
def waitable? (a : Bytes) : Action (Option Job) := do
  if isJobName a then return some (← job a)
  else
    let id ← toNumber a
    return (← get).jobs.find? (·.id == id)

def awaitEach : List Bytes → (status : Nat) → Action Nat
  | [], status => return status
  | a :: rest, status => do
    match ← waitable? a with
    | none => awaitEach rest status
    | some j =>
      if ← awaitOver j.number Action.mostWaits then
        let status := ((← Action.job? j.number).map Job.status).getD unknownJob
        markWaited j.number
        awaitEach rest status
      else interruptedStatus

def awaitAll : (waits : Nat) → Action Nat
  | 0 => return 0
  | waits + 1 => do
    if (← get).jobs.all (·.isOver) then
      modify fun sh => { sh with jobs := sh.jobs.map fun j => { j with waited := true } }
      return 0
    else match ← Action.awaitAny none with
      | .interrupted => interruptedStatus
      | .nobody => return 0
      | .ended _ _ => awaitAll waits

def wait : Own := fun args => do
  match ← operands args with
  | [] => awaitAll Action.mostWaits
  | jobs => awaitEach jobs unknownJob

/-! ## Looking at jobs -/

/-- Sees which processes have ended, without waiting. -/
def lookAround : (waits : Nat) → Action Unit
  | 0 => return ()
  | waits + 1 => do
    let running := (← get).jobs.flatMap fun j => (j.processes.filter (·.2.isNone)).map (·.1)
    match ← Action.call (.wait running false) with
    | .ended id outcome =>
      modify (·.noteEnd id outcome)
      lookAround waits
    | _ => return ()

def state (j : Job) : Bytes :=
  if !j.isOver then text "Running"
  else match j.processes.getLast?.bind (·.2) with
    | some (.exited 0) => text "Done"
    | some (.exited n) => text ("Done(" ++ toString n ++ ")")
    | some (.killed n) => text (Kernel.Signal.description n)
    | none => text "Done"

/-- The width of a line about a job. -/
def stateWidth : Nat := 33

def describeJob (withIds : Bool) (rank : Nat) (j : Job) : Bytes :=
  let sign := if rank = 0 then "+" else if rank = 1 then "-" else " "
  let head := text ("[" ++ toString j.number ++ "] " ++ sign ++ " ")
  let head := head ++ (if withIds then decimal j.id ++ text " " else []) ++ state j
  head ++ List.replicate (max 1 (stateWidth - head.length)) (Bytes.ascii ' ')

def jobs : Own := fun args => do
  let (given, _) ← options "lp" "" args
  lookAround Action.mostWaits
  let all := (← get).jobs
  for (j, rank) in all.zipIdx do
    match given.getLast?.map (·.letter) with
    | some 'p' => Action.printLine (decimal ((j.processes.head?.map (·.1)).getD 0))
    | some _ => Action.printLine (describeJob true rank j)
    | none => Action.printLine (describeJob false rank j)
  modify fun sh => { sh with jobs := sh.jobs.filter (!·.isOver) }
  return 0

/-- Jobs cannot be moved between the foreground and the background. -/
def moveJob : Own := fun args => do
  match ← operands args with
  | [] =>
    if (← get).jobs.isEmpty then Action.fail "No current job"
    else Action.fail "job (null) not created under job control"
  | a :: _ =>
    if isJobName a then
      let _ ← job a
      Action.failBytes (text "job " ++ a ++ text " not created under job control")
    else noJob a

/-! ## Times and limits -/

def times : Own := fun _ => do
  Action.print (text "0m0.000000s 0m0.000000s\n0m0.000000s 0m0.000000s\n")
  return 0

/-- The limits by their letters, with their names and what they are at the start. -/
def limits : List (Char × String × String) :=
  [('t', "time(seconds)", "unlimited"), ('f', "file(blocks)", "unlimited"), ('d', "data(kbytes)", "unlimited"),
    ('s', "stack(kbytes)", "8192"), ('c', "coredump(blocks)", "unlimited"), ('m', "memory(kbytes)", "unlimited"),
    ('l', "locked memory(kbytes)", "8192"), ('p', "process", "unlimited"), ('n', "nofiles", "1048576"),
    ('v', "vmemory(kbytes)", "unlimited"), ('w', "locks", "unlimited"), ('r', "rtprio", "0")]

def ulimit : Own := fun args => do
  let (given, rest) ← options "HSatfdscmlpnvwr" "" args
  if given.any (·.letter == 'a') then
    for (_, name, value) in limits do
      Action.printLine (text (name ++ String.ofList (List.replicate (20 - name.length) ' ') ++ " " ++ value))
    return 0
  else
    let letter := ((given.reverse.find? fun g => g.letter != 'H' && g.letter != 'S').map (·.letter)).getD 'f'
    match rest with
    | [] =>
      Action.printLine (text (((limits.find? (·.1 == letter)).map (·.2.2)).getD "unlimited"))
      return 0
    | a :: _ =>
      if a == text "unlimited" || isNumber a then return 0
      else Action.fail "bad number"

end DesktopRefresh.Shell.Builtin
