import DesktopRefresh.Host.Search
import DesktopRefresh.Kernel.Call
import DesktopRefresh.Kernel.Signal

/-!
# Machines

A machine carries out the codes of processes. They run side by side: each call takes a little time, and
the next one to be served is always that of the process that has waited longest. A process that cannot
go on, because a pipe is empty or full or a child is still running, is passed over until something
has changed.

Time is counted in nanoseconds from the start of the first process.
-/

namespace DesktopRefresh.Kernel

/-- The two pipes that lead out of the machine. -/
inductive Outlet where
  | out | err
  deriving DecidableEq, Repr

/-- What a descriptor leads to. -/
inductive Opened where
  | file (loc : Location) (position : Nat) (access : Access)
  | directory
  | device (d : Device)
  | pipeEnd (pipe : Nat) (writes : Bool)
  /-- The rest of a text that is kept in memory. -/
  | text (rest : Bytes)
  | outlet (o : Outlet)
  deriving DecidableEq, Repr

/-- What is in a pipe: chunks that came in first, and those behind them in reverse order. -/
structure Conduit where
  front : List Bytes
  back : List Bytes
  size : Nat

namespace Conduit

def empty : Conduit := ⟨[], [], 0⟩

def push (c : Conduit) (bs : Bytes) : Conduit := { c with back := bs :: c.back, size := c.size + bs.length }

def content (c : Conduit) : Bytes := (c.front ++ c.back.reverse).flatten

def drop (c : Conduit) (count : Nat) : Conduit := ⟨[c.content.drop count], [], c.size - count⟩

/-- A pipe that holds so much takes no more for now. -/
def capacity : Nat := 65536

end Conduit

structure Descriptor where
  number : Nat
  opened : Nat
  /-- Programs that are started have it too. -/
  inherited : Bool

structure Process where
  id : Nat
  parent : Nat
  code : Code
  /-- When its next call is served. -/
  ready : Nat
  /-- It has to wait until something has changed. -/
  blocked : Bool
  asleep : Bool
  stopped : Bool
  /-- A signal was noted while it was waiting. -/
  interrupted : Bool
  descriptors : List Descriptor
  cwd : Location
  mask : Nat
  reactions : List (Nat × Reaction)
  noted : List Nat
  ended : Option Outcome

structure Written where
  outlet : Outlet
  text : Bytes

structure Machine where
  tree : FileTree
  clock : Nat
  opened : List (Nat × Opened)
  pipes : List (Nat × Conduit)
  processes : List Process
  /-- A number that was not used for anything yet. -/
  fresh : Nat
  /-- What left the machine, last first. -/
  written : List Written
  /-- When the parent of the first process was sent a signal that ends it, and which one. -/
  struck : Option (Nat × Nat)

namespace Process

def opened? (p : Process) (number : Nat) : Option Nat := (p.descriptors.find? (·.number == number)).map (·.opened)

/-- The lowest number at or above a bound that is free. -/
def freeNumber (p : Process) (least : Nat) : Nat :=
  ((List.range (p.descriptors.length + 1)).map (least + ·)).find? (fun n => !p.descriptors.any (·.number == n))
    |>.getD least

def reaction (p : Process) (signal : Nat) : Reaction :=
  ((p.reactions.find? (·.1 == signal)).map (·.2)).getD .standard

def isRunnable (p : Process) : Bool := p.ended.isNone && !p.stopped && !p.blocked

end Process

namespace Machine

/-! ## Time that calls take -/

def callTime : Nat := 10 ^ 3

def forkTime : Nat := 10 ^ 5

/-- A child starts so much later than the call that makes it. -/
def childTime : Nat := 2 * 10 ^ 5

def startTime : Nat := 10 ^ 6

/-! ## Tables -/

def process? (m : Machine) (id : Nat) : Option Process := m.processes.find? (·.id == id)

def update (m : Machine) (id : Nat) (f : Process → Process) : Machine :=
  { m with processes := m.processes.map fun p => if p.id == id then f p else p }

/-- Processes that had to wait try again. -/
def rouse (m : Machine) : Machine :=
  { m with processes := m.processes.map fun p =>
      if p.blocked then { p with blocked := false, ready := max p.ready m.clock } else p }

def entry? (m : Machine) (opened : Nat) : Option Opened := (m.opened.find? (·.1 == opened)).map (·.2)

def setEntry (m : Machine) (opened : Nat) (o : Opened) : Machine :=
  { m with opened := m.opened.map fun e => if e.1 == opened then (opened, o) else e }

def conduit (m : Machine) (pipe : Nat) : Conduit := ((m.pipes.find? (·.1 == pipe)).map (·.2)).getD .empty

def setConduit (m : Machine) (pipe : Nat) (c : Conduit) : Machine :=
  { m with pipes := (pipe, c) :: m.pipes.filter (·.1 != pipe) }

def isHeld (m : Machine) (opened : Nat) : Bool :=
  m.processes.any fun p => p.descriptors.any (·.opened == opened)

/-- Some process holds one end of a pipe. -/
def hasEnd (m : Machine) (pipe : Nat) (writes : Bool) : Bool :=
  m.opened.any fun e => e.2 == .pipeEnd pipe writes

/-- Forgets what is not held any more. -/
def release (m : Machine) (opened : List Nat) : Machine :=
  let gone := opened.filter (!m.isHeld ·)
  if gone.isEmpty then m
  else
    let m := { m with opened := m.opened.filter fun e => !gone.contains e.1 }
    { m with pipes := m.pipes.filter fun e => m.hasEnd e.1 true || m.hasEnd e.1 false }

def isOutletHeld (m : Machine) : Bool := m.opened.any fun e =>
  match e.2 with
  | .outlet _ => true
  | _ => false

/-- Gives a process a new descriptor with a number. -/
def attach (m : Machine) (id number : Nat) (o : Opened) : Machine :=
  let m := { m with opened := (m.fresh, o) :: m.opened, fresh := m.fresh + 1 }
  m.update id fun p => { p with descriptors := ⟨number, m.fresh - 1, true⟩ :: p.descriptors }

def view (m : Machine) (p : Process) : View where
  tree := m.tree
  cwd := p.cwd
  clock := m.clock
  mask := p.mask
  id := p.id
  parent := p.parent
  files := p.descriptors.filterMap fun d =>
    match m.entry? d.opened with
    | some (.file loc position _) => some (d.number, loc, position)
    | _ => none
  ignored := (p.reactions.filter (·.2 == .ignored)).map (·.1)

/-! ## Ends and signals -/

/-- The parent of the first process, whose end is kept for good. -/
def keeper : Nat := 1

/-- The end of a process. It is kept until its parent has asked for it, if it has one. -/
def finish (m : Machine) (id : Nat) (outcome : Outcome) : Machine :=
  match m.process? id with
  | none => m
  | some p =>
    let processes := m.processes.map fun q =>
      if q.id == id then { q with ended := some outcome, descriptors := [], code := .done 0 }
      else if q.parent == id then { q with parent := 0 } else q
    let isAlive (id : Nat) : Bool := processes.any fun q => q.id == id && q.ended.isNone
    let processes := processes.filter fun q => q.ended.isNone || isAlive q.parent || q.parent == keeper
    ({ m with processes := processes }.release (p.descriptors.map Descriptor.opened)).rouse

/-- A signal reaches a process. -/
def deliver (m : Machine) (id signal : Nat) : Machine :=
  match m.process? id with
  | none => m
  | some p =>
    if p.ended.isSome || signal = 0 then m
    else if signal = Signal.kill then m.finish id (.killed signal)
    else if signal = Signal.stop then m.update id fun p => { p with stopped := true }
    else
      let m := if signal = Signal.resume then
          m.update id fun p => { p with stopped := false, ready := max p.ready m.clock }
        else m
      match p.reaction signal with
      | .ignored => m
      | .noted => m.update id fun p =>
        { p with
          noted := if p.noted.contains signal then p.noted else p.noted ++ [signal]
          interrupted := p.blocked || p.asleep
          blocked := false
          ready := if p.blocked then max p.ready m.clock else p.ready }
      | .standard =>
        if Signal.isIgnoredByDefault signal then m
        else if Signal.stopsByDefault signal then m.update id fun p => { p with stopped := true }
        else m.finish id (.killed signal)

/-! ## Reading and writing -/

/-- What becomes of a call: an answer, or the process has to wait, or what it does next was decided already. -/
inductive Served (α : Type) where
  | answer (a : α)
  | blocked
  | settled

/-- What can be read now through a descriptor; nothing if that takes waiting. -/
def available (m : Machine) (count : Nat) : Opened → Except Errno (Option Bytes)
  | .file loc position access =>
    if !access.reads then .error .badDescriptor
    else match m.tree.entry? loc with
      | some (.file _ content) => .ok (some ((content.drop position).take count))
      | _ => .ok (some [])
  | .directory => .error .isDirectory
  | .device .zero | .device .full => .ok (some (List.replicate count 0))
  | .device _ => .ok (some [])
  | .pipeEnd pipe writes =>
    if writes then .error .badDescriptor
    else
      let c := m.conduit pipe
      if 0 < c.size then .ok (some (c.content.take count))
      else if m.hasEnd pipe true then .ok none else .ok (some [])
  | .text rest => .ok (some (rest.take count))
  | .outlet _ => .error .badDescriptor

/-- Passes over what was read. -/
def consume (m : Machine) (opened count : Nat) : Opened → Machine
  | .file loc position access => m.setEntry opened (.file loc (position + count) access)
  | .pipeEnd pipe _ => m.setConduit pipe ((m.conduit pipe).drop count)
  | .text rest => m.setEntry opened (.text (rest.drop count))
  | _ => m

def readThrough (m : Machine) (p : Process) (number count : Nat) (cut : Bytes → Bytes) :
    Machine × Served (Except Errno Bytes) :=
  match (p.opened? number).bind fun id => (m.entry? id).map (id, ·) with
  | none => (m, .answer (.error .badDescriptor))
  | some (id, o) =>
    match m.available count o with
    | .error e => (m, .answer (.error e))
    | .ok none => (m, .blocked)
    | .ok (some bs) =>
      let bs := cut bs
      (m.consume id bs.length o, .answer (.ok bs))

/-- The first line of a text with its end. -/
def firstLine (stop : UInt8) (bs : Bytes) : Bytes := bs.take ((bs.takeWhile (· != stop)).length + 1)

def longestLine : Nat := 65536

def writeTo (m : Machine) (p : Process) (number : Nat) (text : Bytes) : Machine × Served (Except Errno Unit) :=
  match (p.opened? number).bind fun id => (m.entry? id).map (id, ·) with
  | none => (m, .answer (.error .badDescriptor))
  | some (id, o) =>
    match o with
    | .file loc position access =>
      if !access.writes then (m, .answer (.error .badDescriptor))
      else if access.appends then ({ m with tree := m.tree.append loc text }, .answer (.ok ()))
      else (({ m with tree := m.tree.writeAt loc position text }).setEntry id
        (.file loc (position + text.length) access), .answer (.ok ()))
    | .directory | .text _ => (m, .answer (.error .badDescriptor))
    | .device .full => (m, .answer (if text.isEmpty then .ok () else .error .noSpace))
    | .device _ => (m, .answer (.ok ()))
    | .outlet o => ({ m with written := ⟨o, text⟩ :: m.written }, .answer (.ok ()))
    | .pipeEnd pipe writes =>
      if !writes then (m, .answer (.error .badDescriptor))
      else if !m.hasEnd pipe false then
        match p.reaction Signal.pipe with
        | .standard => (m.finish p.id (.killed Signal.pipe), .settled)
        | _ => (m.deliver p.id Signal.pipe, .answer (.error .brokenPipe))
      else
        let c := m.conduit pipe
        if c.size < Conduit.capacity then (m.setConduit pipe (c.push text), .answer (.ok ())) else (m, .blocked)

/-! ## Files -/

def openPath (m : Machine) (p : Process) (path : Bytes) (access : Access) (mode : Nat) :
    Machine × Except Errno Nat :=
  let number := p.freeNumber 0
  let opened (m : Machine) (o : Opened) : Machine × Except Errno Nat := (m.attach p.id number o, .ok number)
  let existing (l : Location) : Entry → Machine × Except Errno Nat
    | .directory _ => if access.writes then (m, .error .isDirectory) else opened m .directory
    | .device (.descriptor n) =>
      match (p.opened? n).bind m.entry? with
      | some (.file loc _ _) =>
        let tree := if access.truncates then m.tree.insert loc (.file ((m.tree.entry? loc).elim mode (·.mode)) [])
          else m.tree
        opened { m with tree := tree } (.file loc 0 access)
      | some o => opened m o
      | none => (m, .error .noEntry)
    | .device d => opened m (.device d)
    | .program _ => if access.writes then (m, .error .textBusy) else opened m (.file l 0 access)
    | .file mode _ =>
      let tree := if access.truncates then m.tree.insert l (.file mode []) else m.tree
      opened { m with tree := tree } (.file l 0 access)
    | .link _ => (m, .error .linkLoop)
  match m.tree.find (if access.creates then .create else .visit true) p.cwd path with
  | .error e => (m, .error e)
  | .ok (.absent l) =>
    if access.creates then
      opened { m with tree := m.tree.insert l (.file (mode &&& (0o777 ^^^ (p.mask &&& 0o777))) []) } (.file l 0 access)
    else (m, .error .noEntry)
  | .ok (.existing l e) => if access.exclusive then (m, .error .entryExists) else existing l e

def closeNumber (m : Machine) (p : Process) (number : Nat) : Machine :=
  match p.opened? number with
  | none => m
  | some id =>
    (m.update p.id fun p => { p with descriptors := p.descriptors.filter (·.number != number) }).release [id]

def copyNumber (m : Machine) (p : Process) (number target : Nat) : Machine × Except Errno Unit :=
  match p.opened? number with
  | none => (m, .error .badDescriptor)
  | some id =>
    if number = target then (m, .ok ())
    else
      let old := (p.opened? target).toList
      ((m.update p.id fun p =>
        { p with descriptors := ⟨target, id, true⟩ :: p.descriptors.filter (·.number != target) }).release old, .ok ())

/-- Numbers from here on are those of saved descriptors. -/
def leastSaved : Nat := 10

def saveNumber (m : Machine) (p : Process) (number : Nat) : Machine × Option Nat :=
  match p.opened? number with
  | none => (m, none)
  | some id =>
    let n := p.freeNumber leastSaved
    (m.update p.id fun p => { p with descriptors := ⟨n, id, false⟩ :: p.descriptors }, some n)

def makePipe (m : Machine) (p : Process) : Machine × (Nat × Nat) :=
  let pipe := m.fresh
  let a := p.freeNumber 0
  let m := { m with fresh := m.fresh + 1, pipes := (pipe, .empty) :: m.pipes }.attach p.id a (.pipeEnd pipe false)
  let b := ((m.process? p.id).getD p).freeNumber 0
  (m.attach p.id b (.pipeEnd pipe true), (a, b))

/-! ## Children -/

def waitFor (m : Machine) (p : Process) (children : List Nat) (blocking : Bool) : Machine × Served Waited :=
  let own := m.processes.filter fun q => q.parent == p.id && children.contains q.id
  match own.find? (·.ended.isSome) with
  | some q =>
    ({ m with processes := m.processes.filter (·.id != q.id) }, .answer (.ended q.id (q.ended.getD (.exited 0))))
  | none =>
    if own.isEmpty || !blocking then (m, .answer .nobody)
    else if p.interrupted then (m.update p.id fun p => { p with interrupted := false }, .answer .interrupted)
    else (m, .blocked)

/-- A signal reaches the parent of the first process, which ignores what is about pipes. -/
def strike (m : Machine) (signal : Nat) : Machine :=
  if Signal.isIgnoredByDefault signal || Signal.stopsByDefault signal || signal = Signal.pipe then m
  else { m with struck := m.struck.or (some (m.clock, signal)) }

def sendSignal (m : Machine) (target signal : Nat) : Machine × Except Errno Unit :=
  if target = keeper then (m.strike signal, .ok ())
  else match m.process? target with
    | some _ => (m.deliver target signal, .ok ())
    | none => (m, .error .noProcess)

/-- The process goes on as another program. -/
def become (m : Machine) (p : Process) (code : Code) : Machine :=
  let closed := (p.descriptors.filter (!·.inherited)).map Descriptor.opened
  (m.update p.id fun p =>
    { p with
      code := code
      ready := m.clock + startTime
      descriptors := p.descriptors.filter (·.inherited)
      reactions := p.reactions.filter (·.2 == .ignored)
      noted := [] }).release closed

/-! ## Steps -/

section
variable (start : Surroundings.Launch → Variables → Code)

def serve (m : Machine) (p : Process) : (c : Call) → Machine × Served c.Reply
  | .spend _ => (m, .answer ())
  | .sleep nanos =>
    if p.asleep then (m.update p.id fun p => { p with asleep := false }, .answer ())
    else (m.update p.id fun p => { p with asleep := true, ready := m.clock + nanos }, .settled)
  | .read number count => m.readThrough p number count id
  | .readLine number stop => m.readThrough p number longestLine (firstLine stop)
  | .write number text => m.writeTo p number text
  | .openFile path access mode =>
    let (m, answer) := m.openPath p path access mode
    (m, .answer answer)
  | .openText content =>
    let number := p.freeNumber 0
    (m.attach p.id number (.text content), .answer number)
  | .close number => (m.closeNumber p number, .answer ())
  | .copy number target =>
    let (m, answer) := m.copyNumber p number target
    (m, .answer answer)
  | .save number =>
    let (m, answer) := m.saveNumber p number
    (m, .answer answer)
  | .pipe =>
    let (m, answer) := m.makePipe p
    (m, .answer answer)
  | .seek number position =>
    match (p.opened? number).bind fun id => (m.entry? id).map (id, ·) with
    | some (id, .file loc _ access) => (m.setEntry id (.file loc position access), .answer (.ok ()))
    | some (_, .pipeEnd _ _) | some (_, .outlet _) | some (_, .text _) => (m, .answer (.error .illegalSeek))
    | some _ => (m, .answer (.ok ()))
    | none => (m, .answer (.error .badDescriptor))
  | .wait children blocking => m.waitFor p children blocking
  | .signal target number =>
    let (m, answer) := m.sendSignal target number
    (m, .answer answer)
  | .react signal reaction =>
    (m.update p.id fun p => { p with reactions := (signal, reaction) :: p.reactions.filter (·.1 != signal) }, .answer ())
  | .noted => (m.update p.id fun p => { p with noted := [] }, .answer p.noted)
  | .enter directory =>
    match m.tree.locate true p.cwd directory with
    | .ok (l, .directory _) => (m.update p.id fun p => { p with cwd := l }, .answer (.ok ()))
    | .ok _ => (m, .answer (.error .notDirectory))
    | .error e => (m, .answer (.error e))
  | .setMask mask => (m.update p.id fun p => { p with mask := mask }, .answer ())
  | .exec path name args settings =>
    match (Surroundings.mk m.tree p.cwd none none).load Surroundings.deepestInterpreter path name args with
    | .ok launch => (m.become p (start launch settings), .settled)
    | .error e => (m, .answer e)

def timeOf : Call → Nat
  | .spend nanos => nanos
  | _ => callTime

/-- Serves the next call of a process. -/
def step (m : Machine) (p : Process) : Machine :=
  match p.code with
  | .done status => m.finish p.id (.exited (status % 256))
  | .files change next =>
    let v := m.view p
    { m with tree := change v }.update p.id fun p => { p with code := next v, ready := m.clock + callTime }
  | .fork child next =>
    let id := m.fresh
    let m := { m with fresh := m.fresh + 1 }.update p.id fun p =>
      { p with code := next id, ready := m.clock + forkTime }
    let born : Process := { p with
      id := id, parent := p.id, code := child, ready := m.clock + childTime, noted := [], interrupted := false }
    { m with processes := m.processes ++ [born] }
  | .call c next =>
    match m.serve start p c with
    | (m, .answer a) =>
      let m := m.update p.id fun p => { p with code := next a, ready := m.clock + timeOf c }
      match c with
      | .spend _ | .sleep _ => m
      | _ => m.rouse
    | (m, .blocked) => m.update p.id fun p => { p with blocked := true }
    | (m, .settled) => m.rouse

/-- The process whose turn it is. -/
def next? (m : Machine) : Option Process :=
  m.processes.foldl (fun best p =>
    if !p.isRunnable then best
    else match best with
      | some b => if p.ready < b.ready then some p else best
      | none => some p) none

/-- Lets processes run as long as `goesOn` holds of the machine and the instant of the next step. -/
def run (goesOn : Machine → Nat → Bool) : (steps : Nat) → Machine → Machine
  | 0, m => m
  | steps + 1, m =>
    match m.next? with
    | none => m
    | some p =>
      let m := { m with clock := max m.clock p.ready }
      if goesOn m m.clock then run goesOn steps (m.step start p) else m

end

end Machine

end DesktopRefresh.Kernel
