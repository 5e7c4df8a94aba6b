import DesktopRefresh.Shell.Command
import DesktopRefresh.Kernel.Call
import DesktopRefresh.Kernel.Signal
import DesktopRefresh.Text.Utf8

/-!
# The state of a shell

What a shell knows by itself: variables, functions, positional parameters, switches, jobs. Its files and
descriptors are those of its process. What a shell does is an action: it can change this state, call the
system, and leave the place at which it is.
-/

namespace DesktopRefresh

open Kernel (Activity Code Outcome)

namespace Shell

/-! ## Switches -/

inductive Switch where
  | errexit | noglob | ignoreeof | interactive | monitor | noexec | stdin | xtrace | verbose | vi | emacs | noclobber
  | allexport | notify | nounset | privileged | nolog | debug
  deriving DecidableEq, Repr

namespace Switch

/-- The switches in the order of their lists, with their names, and their letters if they have any. -/
def table : List (Switch × String × Option Char) :=
  [(errexit, "errexit", some 'e'), (noglob, "noglob", some 'f'), (ignoreeof, "ignoreeof", some 'I'),
    (interactive, "interactive", some 'i'), (monitor, "monitor", some 'm'), (noexec, "noexec", some 'n'),
    (stdin, "stdin", some 's'), (xtrace, "xtrace", some 'x'), (verbose, "verbose", some 'v'), (vi, "vi", some 'V'),
    (emacs, "emacs", some 'E'), (noclobber, "noclobber", some 'C'), (allexport, "allexport", some 'a'),
    (notify, "notify", some 'b'),
    (nounset, "nounset", some 'u'), (privileged, "privileged", some 'p'), (nolog, "nolog", none), (debug, "debug", none)]

def ofLetter? (b : UInt8) : Option Switch :=
  (table.find? fun e => e.2.2.any (Bytes.ascii · == b)).map (·.1)

def ofName? (name : Bytes) : Option Switch := (table.find? fun e => Bytes.ofString e.2.1 == name).map (·.1)

end Switch

/-- The switches that are on. -/
abbrev Options := List Switch

namespace Options

def has (o : Options) (s : Switch) : Bool := o.contains s

def set (o : Options) (on : Bool) (s : Switch) : Options := if on then s :: o.filter (· != s) else o.filter (· != s)

/-- The letters of the switches that are on, the last one in the table first. -/
def letters (o : Options) : String :=
  String.ofList (Switch.table.reverse.filterMap fun e => if o.has e.1 then e.2.2 else none)

end Options

/-! ## The shell -/

structure Variable where
  name : Bytes
  /-- A variable can be marked before it has a value. -/
  value : Option Bytes
  exported : Bool
  constant : Bool
  deriving Repr

/-- A command with processes of its own. -/
structure Job where
  number : Nat
  /-- All its processes, and how those have ended of which that is known. -/
  processes : List (Nat × Option Outcome)
  /-- It was waited for, so that it can be forgotten. -/
  waited : Bool
  deriving Repr

namespace Job

def isOver (j : Job) : Bool := j.processes.all (·.2.isSome)

/-- The number of the last process, by which the job is known. -/
def id (j : Job) : Nat := (j.processes.getLast?.map (·.1)).getD 0

/-- The status by which a shell knows how a process ended. -/
def statusOf : Outcome → Nat
  | .exited n => n
  | .killed n => 128 + n

/-- The end of the last process is the end of the job. -/
def status (j : Job) : Nat := ((j.processes.getLast?.bind (·.2)).map statusOf).getD 0

def note (process : Nat) (o : Outcome) (j : Job) : Job :=
  { j with processes := j.processes.map fun p => if p.1 == process then (p.1, some o) else p }

end Job

end Shell

open Shell in
structure Shell where
  /-- The name that the shell was started under, and the positional parameters. -/
  name : Bytes
  args : List Bytes
  bindings : List Variable
  functions : List (Bytes × Command)
  aliases : List (Bytes × Bytes)
  documents : List (Nat × Word)
  nextDocument : Nat
  options : Options
  status : Nat
  /-- The status of the last substitution in the command under way. -/
  substituted : Nat
  /-- Actions by signal number; number 0 is the end of the shell, and an empty action ignores. -/
  traps : List (Nat × Bytes)
  /-- Signals that were noted and whose actions are still to be carried out. -/
  arrived : List Nat
  /-- Signals that did nothing when the shell started, which cannot be changed. -/
  ignoredAtStart : List Nat
  /-- The last one first. -/
  jobs : List Job
  lastBackground : Option Nat
  /-- How many loops are under way here. -/
  loops : Nat
  /-- How many functions are under way, one inside another. -/
  calls : Nat
  /-- Saved values of the variables that are local to the commands under way. -/
  locals : List (List (Bytes × Option Variable))
  line : Nat
  /-- The line that the reading of the script has come to. -/
  reached : Nat
  /-- The own command under way, which messages name. -/
  command : Option Bytes
  /-- The process that the whole shell began as. -/
  root : Nat
  /-- The directory as it was entered. -/
  directory : Bytes
  /-- The argument at which the reading of options goes on, and how far it has come within one. -/
  optionIndex : Nat
  optionOffset : Option Nat
  /-- The status of an exit, if it is not that of the last command. -/
  leavingStatus : Option Nat
  /-- What the own command under way has printed, last first. -/
  printed : List Bytes
  /-- The names of the programs that were searched for and found. -/
  hashed : List Bytes

namespace Shell

/-- Why a shell does not go on where it is. -/
inductive Leaving where
  | breaks (levels : Nat)
  | continues (levels : Nat)
  /-- A function or script is over, with a status of its own or with that of the last command. -/
  | returned (own : Bool)
  /-- The shell was told to end. -/
  | exited
  /-- The shell ends for another reason. -/
  | ended
  /-- Something went wrong that ends a command of the shell's own, or the shell. -/
  | failed
  deriving DecidableEq, Repr

abbrev Action := ExceptT Leaving (StateT Shell Activity)

/-! ## Variables -/

def text (s : String) : Bytes := Bytes.ofString s

def shown (bs : Bytes) : String := Utf8.lossy bs

def binding? (sh : Shell) (name : Bytes) : Option Variable := sh.bindings.find? (·.name == name)

def get? (sh : Shell) (name : Bytes) : Option Bytes := (sh.binding? name).bind (·.value)

def isConstant (sh : Shell) (name : Bytes) : Bool := (sh.binding? name).any (·.constant)

/-- Puts a variable in the place of one with the same name, or behind all others. -/
def put (sh : Shell) (v : Variable) : Shell :=
  if (sh.binding? v.name).isSome then
    { sh with bindings := sh.bindings.map fun w => if w.name == v.name then v else w }
  else { sh with bindings := sh.bindings ++ [v] }

def optionIndexName : Bytes := text "OPTIND"

/-- A new value; the marks of the variable stay. -/
def store (sh : Shell) (name value : Bytes) : Shell :=
  let old := sh.binding? name
  let sh := if name == optionIndexName then
      { sh with optionIndex := max 1 (Bytes.number (value.takeWhile Bytes.isDigit)), optionOffset := none }
    else sh
  sh.put ⟨name, some value, old.any (·.exported) || sh.options.has .allexport, old.any (·.constant)⟩

def forget (sh : Shell) (name : Bytes) : Shell := { sh with bindings := sh.bindings.filter (·.name != name) }

/-- The slot of a name in a table that is listed slot by slot. -/
def slot (slots : Nat) (name : Bytes) : Nat :=
  ((name.headD 0).toNat * 16 + (name.map UInt8.toNat).sum) % 2 ^ 15 % slots

def listed {α : Type} (slots : Nat) (name : α → Bytes) (xs : List α) : List α :=
  xs.mergeSort fun a b => decide (slot slots (name a) ≤ slot slots (name b))

def variableSlots : Nat := 39

/-- The variables that programs are given. -/
def exported (sh : Shell) : Kernel.Variables :=
  listed variableSlots (·.1) (sh.bindings.filterMap fun v =>
    if v.exported then v.value.map (v.name, ·) else none)

def isUnset (sh : Shell) (name : Bytes) : Bool := (sh.get? name).isNone

/-- Characters that separate fields. -/
def separators (sh : Shell) : Bytes := (sh.get? (text "IFS")).getD [0x20, 0x09, 0x0A]

def searchPath (sh : Shell) : Bytes := (sh.get? (text "PATH")).getD []

/-- One of the processes of a job has ended. -/
def noteEnd (sh : Shell) (process : Nat) (outcome : Outcome) : Shell :=
  { sh with jobs := sh.jobs.map (Job.note process outcome) }

/-! ## Local variables -/

/-- Remembers a variable for the end of the command under way. -/
def keepLocal (sh : Shell) (name : Bytes) : Shell :=
  match sh.locals with
  | frame :: frames =>
    if frame.any (·.1 == name) then sh else { sh with locals := ((name, sh.binding? name) :: frame) :: frames }
  | [] => sh

def enterFrame (sh : Shell) : Shell := { sh with locals := [] :: sh.locals }

/-- Brings back the variables that were remembered, down to so many frames. -/
def leaveFrames (depth : Nat) (sh : Shell) : Shell :=
  let gone := sh.locals.take (sh.locals.length - depth)
  let restored := gone.flatten.foldl (fun sh (name, saved) =>
    match saved with
    | some v => sh.put v
    | none => sh.forget name) sh
  { restored with locals := sh.locals.drop (sh.locals.length - depth) }

/-! ## Descriptions -/

/-- What stands in front of a message: the name of the shell, the line, and the own command under way. -/
def place (sh : Shell) : Bytes :=
  sh.name ++ text (": " ++ toString sh.line ++ ": ") ++
    match sh.command with
    | some c => c ++ text ": "
    | none => []

def decimal (n : Nat) : Bytes := text (toString n)

/-- A text between single quotes; a single quote in it stands between double ones. -/
def quoteRuns : (fuel : Nat) → Bytes → Bytes
  | 0, _ => []
  | fuel + 1, bs =>
    let quote := Bytes.ascii '\''
    let plain := bs.takeWhile (· != quote)
    let rest := bs.drop plain.length
    let quotes := rest.takeWhile (· == quote)
    let tail := if quotes.isEmpty then [] else Bytes.ascii '"' :: quotes ++ [Bytes.ascii '"']
    let after := rest.drop quotes.length
    quote :: plain ++ [quote] ++ tail ++ if after.isEmpty then [] else quoteRuns fuel after

def singleQuoted (bs : Bytes) : Bytes := quoteRuns (bs.length + 1) bs

/-! ## Actions -/

namespace Action

open Shell (text)

def lift {α : Type} (x : Activity α) : Action α := ExceptT.lift (StateT.lift x)

def call (c : Kernel.Call) : Action c.Reply := lift (Activity.call c)

def succeed : Action Unit := modify fun sh => { sh with status := 0 }

def setStatus (n : Nat) : Action Unit := modify fun sh => { sh with status := n }

/-- Writes to a descriptor, if it is open. -/
def writeTo (descriptor : Nat) (bs : Bytes) : Action Unit := do
  if !bs.isEmpty then
    let _ ← lift (Activity.write descriptor bs)

/-- Says something on the descriptor for messages. -/
def complainBytes (message : Bytes) : Action Unit := do writeTo 2 ((← get).place ++ message ++ [Bytes.newline])

def complain (message : String) : Action Unit := complainBytes (text message)

/-- Prints on the standard output, at the latest when the own command under way ends. -/
def print (bs : Bytes) : Action Unit := modify fun sh => { sh with printed := bs :: sh.printed }

def printLine (bs : Bytes) : Action Unit := print (bs ++ [Bytes.newline])

/-- The status of what went wrong. -/
def errorStatus : Nat := 2

/-- Gives up with a message. -/
def failBytes {α : Type} (message : Bytes) : Action α := do
  complainBytes message
  setStatus errorStatus
  throw .failed

def fail {α : Type} (message : String) : Action α := failBytes (text message)

/-- Gives up because of the script, where its reading has come to. -/
def failReading {α : Type} (message : String) : Action α := do
  modify fun sh => { sh with line := sh.reached }
  fail ("Syntax error: " ++ message)

/-- Runs something and finds out how it left. -/
def attempt (x : Action Unit) : Action (Option Leaving) := fun sh => do
  match ← x sh with
  | (.ok (), sh) => return (.ok none, sh)
  | (.error l, sh) => return (.ok (some l), sh)

/-- Goes on as something left. -/
def releave (l : Option Leaving) : Action Unit :=
  match l with
  | some l => throw l
  | none => return ()

/-- Does something after another thing, however that was left. -/
def after (x : Action Unit) (f : Action Unit) : Action Unit := do
  let l ← attempt x
  f
  releave l

/-- Finds out which signals were noted. -/
def lookForSignals : Action Unit := do
  let noted ← call .noted
  modify fun sh => { sh with arrived := sh.arrived ++ noted.filter (!sh.arrived.contains ·) }

/-- Commands with processes are given the lowest number that is free; jobs that were waited for make room. -/
def startJob (processes : List Nat) : Action Nat := do
  let jobs := (← get).jobs.filter fun j => !(j.waited && j.isOver)
  let free := ((List.range (jobs.length + 1)).map (· + 1)).find? fun n => !jobs.any (·.number == n)
  let number := free.getD 1
  let job : Job := ⟨number, processes.map (·, none), false⟩
  modify fun sh => { sh with jobs := job :: jobs }
  return number

def job? (number : Nat) : Action (Option Job) := do return (← get).jobs.find? (·.number == number)

/-- What is said about a signal that has ended a process. -/
def signalMessage? : Outcome → Option Bytes
  | .killed n =>
    if n = Kernel.Signal.interrupt || n = Kernel.Signal.pipe then none
    else some (text (Kernel.Signal.description n ++ "\n"))
  | .exited _ => none

/-- Waits for the end of one process of any job. If it belongs to the job that is waited for, a signal that
has ended it is told of. -/
def awaitAny (wanted : Option Nat) : Action Kernel.Waited := do
  let sh ← get
  let running := sh.jobs.flatMap fun j => (j.processes.filter (·.2.isNone)).map (·.1)
  let answer ← call (.wait running true)
  match answer with
  | .ended id outcome =>
    let own := sh.jobs.any fun j => some j.number == wanted && j.processes.any (·.1 == id)
    if own then writeTo 2 ((signalMessage? outcome).getD [])
    modify (·.noteEnd id outcome)
  | _ => pure ()
  return answer

/-- More than any script waits for. -/
def mostWaits : Nat := 10 ^ 7

def awaitJob (number : Nat) : (waits : Nat) → Action Unit
  | 0 => return ()
  | waits + 1 => do
    match ← job? number with
    | some j =>
      if j.isOver then return ()
      else match ← awaitAny (some number) with
        | .nobody => return ()
        | _ => awaitJob number waits
    | none => return ()

/-- Waits for a job that is then forgotten; its status is that of the shell. -/
def finishJob (number : Nat) : Action Nat := do
  awaitJob number mostWaits
  let status := ((← job? number).map Job.status).getD 0
  modify fun sh => { sh with jobs := sh.jobs.filter (·.number != number) }
  return status

/-- A new value for a variable that is not constant. -/
def assign (name value : Bytes) : Action Unit := do
  if (← get).isConstant name then failBytes (name ++ text ": is read only")
  else modify (·.store name value)

end Action

end Shell

end DesktopRefresh
