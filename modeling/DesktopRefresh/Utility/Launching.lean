import DesktopRefresh.Kernel.Signal
import DesktopRefresh.Utility.Concatenation
import DesktopRefresh.Utility.Status

/-!
# Utilities that start other programs

A program is searched for in the directories that the variables name. Some utilities go on as the program,
others start it as a child and wait for it.
-/

namespace DesktopRefresh.Utility

open Kernel (Activity Code Outcome Signal.kill Signal.terminate Variables Waited)

/-! ## Starting programs -/

def pathName : Bytes := text "PATH"

def standardShell : Bytes := text "/bin/sh"

/-- Goes on as the first of some files that can be executed. There is an answer only if none can. -/
def becomeFirst (name : Bytes) (args : List Bytes) (settings : Variables) (denied : Bool) (last : Errno) :
    List Bytes → Activity Errno
  | [] => return if denied then .accessDenied else last
  | path :: rest => do
    let first : Errno ← Activity.call (.exec path name args settings)
    match first with
    | .execFormat => Activity.call (.exec standardShell standardShell (path :: args) settings)
    | .accessDenied => becomeFirst name args settings true last rest
    | .noEntry | .notDirectory => becomeFirst name args settings denied first rest
    | e => return e

/-- Goes on as a program; the answer is why that cannot be done. -/
def become (name : Bytes) (args : List Bytes) (settings : Variables) : Activity Errno :=
  if name.isEmpty then return .noEntry
  else
    let path := (settings.lookup pathName).getD Surroundings.standardSearchPath
    let candidates := if name.contains Bytes.slash then [name] else Surroundings.candidates path name
    becomeFirst name args settings false .noEntry candidates

/-- The status for a program that could not be started. -/
def missingStatus (e : Errno) : Nat := if e = .noEntry then 127 else 126

/-- Goes on as a program, or says why not. -/
def becomeOr (s : Start) (message : Bytes → Bytes) (name : Bytes) (args : List Bytes) (settings : Variables) :
    Activity Nat := do
  let e ← become name args settings
  complain s (refusal (message name) e)
  return missingStatus e

/-- Waits for the end of a child. -/
def awaitEnd (child : Nat) : (tries : Nat) → Activity Outcome
  | 0 => return .exited 0
  | tries + 1 => do
    match (← Activity.call (.wait [child] true) : Waited) with
    | .ended _ outcome => return outcome
    | .nobody => return .exited 0
    | .interrupted => awaitEnd child tries

def send (target signal : Nat) : Activity Unit := do
  let _ ← Activity.call (.signal target signal)

/-! ## env -/

/-- Sets a variable where it stands, or behind all others. -/
def setVariable (name value : Bytes) (vs : Variables) : Variables :=
  if vs.any (·.1 == name) then vs.map fun v => if v.1 == name then (name, value) else v else vs ++ [(name, value)]

def assignment? (a : Bytes) : Option (Bytes × Bytes) :=
  match a.span (· != Bytes.ascii '=') with
  | (name, _ :: value) => some (name, value)
  | (_, []) => none

/-- Leading assignments change variables; the rest is a command. -/
def assignLeading : List Bytes → Variables → Variables × List Bytes
  | [], vs => (vs, [])
  | a :: rest, vs =>
    match assignment? a with
    | some (name, value) => assignLeading rest (setVariable name value vs)
    | none => (vs, a :: rest)

/-- Why a text cannot be split into arguments. -/
inductive SplitFault where
  | noQuote | backslashAtEnd | sequence (b : UInt8) | cut | expansion (rest : Bytes)

def SplitFault.message : SplitFault → Bytes
  | noQuote => text "no terminating quote in -S string"
  | backslashAtEnd => text "invalid backslash at end of string in -S"
  | sequence b => text "invalid sequence '\\" ++ b :: text "' in -S"
  | cut => text "'\\c' must not appear in double-quoted -S string"
  | expansion rest => text "only $\x7bVARNAME\x7d expansion is supported, error at: " ++ rest

/-- The quotation marks that are open while a text is split. -/
inductive Quotation where
  | none | single | double
  deriving DecidableEq

/-- The bytes that letters behind a backslash stand for. -/
def splitEscapes : List (Char × UInt8) :=
  [('f', 0x0C), ('n', 0x0A), ('r', 0x0D), ('t', 0x09), ('v', 0x0B)]

def isNameByte (b : UInt8) : Bool := Bytes.toLower b != b || Bytes.toUpper b != b || Bytes.isDigit b || b = Bytes.ascii '_'

/-- The name of a variable in braces after its dollar, and what follows it. -/
def bracedName? (bs : Bytes) : Option (Bytes × Bytes) :=
  match bs with
  | b :: rest =>
    let name := rest.takeWhile isNameByte
    match rest.drop name.length with
    | c :: after =>
      if b = Bytes.ascii '\x7b' && c = Bytes.ascii '\x7d' && !name.isEmpty && !name.head?.any Bytes.isDigit then
        some (name, after)
      else none
    | [] => none
  | [] => none

/-- Splits a text into arguments; the one under way is given in reverse. -/
def splitArguments (vs : Variables) : (fuel : Nat) → Quotation → (under : Option Bytes) → Bytes →
    Except SplitFault (List Bytes)
  | 0, _, _, _ => .ok []
  | fuel + 1, q, under, bs =>
    let close : List Bytes := (under.map List.reverse).toList
    let add (b : UInt8) (rest : Bytes) := splitArguments vs fuel q (some (b :: under.getD [])) rest
    match bs with
    | [] => if q = .none then .ok close else .error .noQuote
    | b :: rest =>
      if q != .double && b = Bytes.ascii '\'' then
        splitArguments vs fuel (if q = .single then .none else .single) (some (under.getD [])) rest
      else if q != .single && b = Bytes.ascii '"' then
        splitArguments vs fuel (if q = .double then .none else .double) (some (under.getD [])) rest
      else if q = .none && (b = Bytes.ascii ' ' || (0x09 ≤ b && b ≤ 0x0D)) then do
        return close ++ (← splitArguments vs fuel q none rest)
      else if q = .none && b = Bytes.ascii '#' && under.isNone then .ok []
      else if b = Bytes.ascii '\\' then
        match rest with
        | [] => .error .backslashAtEnd
        | c :: after =>
          if q = .single then
            if c = Bytes.ascii '\\' || c = Bytes.ascii '\'' then add c after else add b rest
          else if (text "\"#$'\\").contains c then add c after
          else if c = Bytes.ascii '_' then
            if q = .double then add (Bytes.ascii ' ') after
            else do return close ++ (← splitArguments vs fuel q none after)
          else if c = Bytes.ascii 'c' then if q = .double then .error .cut else .ok close
          else match splitEscapes.find? fun e => Bytes.ascii e.1 == c with
            | some (_, v) => add v after
            | none => .error (.sequence c)
      else if b = Bytes.ascii '$' && q != .single then
        match bracedName? rest with
        | some (name, after) =>
          let value := (vs.lookup name).getD []
          let under := if value.isEmpty then under else some (value.reverse ++ under.getD [])
          splitArguments vs fuel q under after
        | none => .error (.expansion bs)
      else add b rest

def environmentOptions : List OptionSpec :=
  [⟨'C', .argument, ["chdir"]⟩, ⟨'i', .nothing, ["ignore-environment"]⟩, ⟨'u', .argument, ["unset"]⟩,
    ⟨'v', .nothing, ["debug"]⟩, ⟨'0', .nothing, ["null"]⟩, ⟨'S', .argument, ["split-string"]⟩,
    ⟨'Β', .maybe, ["block-signal"]⟩, ⟨'Δ', .maybe, ["default-signal"]⟩, ⟨'Ι', .maybe, ["ignore-signal"]⟩,
    ⟨'Λ', .nothing, ["list-signal-handling"]⟩]

/-- Options up to the first that holds a text to split; that is replaced by its parts. -/
def splitOptions (vs : Variables) : (fuel : Nat) → List Bytes → Except SplitFault (List Bytes)
  | 0, args => .ok args
  | fuel + 1, args =>
    match args with
    | [] => .ok []
    | a :: rest =>
      let split (front : List Bytes) (t : Bytes) (rest : List Bytes) : Except SplitFault (List Bytes) := do
        let parts ← splitArguments vs (t.length + 1) .none none t
        return front ++ (← splitOptions vs fuel (parts ++ rest))
      let keep (n : Nat) : Except SplitFault (List Bytes) := do
        return args.take n ++ (← splitOptions vs fuel (args.drop n))
      let isLong := (text "--").isPrefixOf a
      if a == text "--" || a.head? != some (Bytes.ascii '-') || a.length = 1 then .ok args
      else if (text "--split-string=").isPrefixOf a then split [] (a.drop 15) rest
      else if isLong then
        match rest with
        | t :: rest => if a == text "--split-string" then split [] t rest else
            keep (if a == text "--unset" || a == text "--chdir" then 2 else 1)
        | [] => keep 1
      else
        let plain := (a.drop 1).takeWhile fun b => !(text "SuC").contains b
        match (a.drop 1).drop plain.length, rest with
        | [], _ => keep 1
        | o :: own, rest =>
          let front := if plain.isEmpty then [] else [Bytes.ascii '-' :: plain]
          if o = Bytes.ascii 'S' then
            match own, rest with
            | [], t :: rest => split front t rest
            | [], [] => .ok args
            | own, rest => split front own rest
          else keep (if own.isEmpty then 2 else 1)

def hasBlank (bs : Bytes) : Bool := bs.any fun b => b = Bytes.ascii ' ' || (0x09 ≤ b && b ≤ 0x0D)

def lineHint (s : Start) : Activity Unit := complain s (text "use -[v]S to pass options in shebang lines")

/-- The variables without those that options take away, or the name that cannot be one. -/
def withoutNames : List Bytes → Variables → Except Bytes Variables
  | [], vs => .ok vs
  | name :: rest, vs =>
    if name.isEmpty || name.contains (Bytes.ascii '=') then .error name
    else withoutNames rest (vs.filter (·.1 != name))

def showVariables (stop : UInt8) (vs : Variables) : Bytes :=
  vs.flatMap fun (name, value) => name ++ Bytes.ascii '=' :: value ++ [stop]

def cannotCancel : Nat := 125

/-- A line about what is done, if they are asked for. -/
def trace (o : Options) (line : Bytes) : Activity Unit := do
  if o.has 'v' then write 2 (line ++ [Bytes.newline])

def traceCommand (o : Options) (name : Bytes) (args : List Bytes) : Activity Unit := do
  trace o (text "executing: " ++ name)
  for (a, i) in (name :: args).zipIdx do trace o (text s!"   arg[{i}]= " ++ quoted a)

def runIn (s : Start) (o : Options) (vs : Variables) (operands : List Bytes) : Activity Nat := do
  let (vs, command) := assignLeading operands vs
  for a in operands.take (operands.length - command.length) do trace o (text "setenv:   " ++ a)
  match command with
  | [] =>
    if o.has 'C' then misuse s cannotCancel (text "must specify command with --chdir (-C)")
    else deliver s (showVariables (if o.has '0' then 0 else Bytes.newline) vs) 0
  | name :: args =>
    if o.has '0' then misuse s cannotCancel (text "cannot specify --null (-0) with command")
    else
      let moved ← match o.last? 'C' with
        | some dir => do
          trace o (text "chdir:    " ++ always dir)
          match (← Activity.call (.enter dir) : Except Errno Unit) with
          | .ok _ => pure none
          | .error e => pure (some (dir, e))
        | none => pure none
      match moved with
      | some (dir, e) =>
        complain s (text "cannot change directory to " ++ always dir ++ text (": " ++ e.text))
        return cannotCancel
      | none =>
        traceCommand o name args
        let status ← becomeOr s always name args vs
        if status = 127 && hasBlank name then lineHint s
        return status

def env : Utility := fun s => do
  match splitOptions s.settings (s.args.length + 1) s.args with
  | .error f =>
    complain s f.message
    return cannotCancel
  | .ok args =>
    match sortOut (environmentOptions ++ commonOptions) false (args.length + 1) args with
    | .error message =>
      complain s message
      if (args.head?.any fun a => a.head? == some (Bytes.ascii '-') && hasBlank a) &&
          (text "invalid option -- ").isPrefixOf message && hasBlank (message.drop 19) then lineHint s
      hint s
      return cannotCancel
    | .ok o =>
      if o.has helpLetter || o.has versionLetter then return 0
      else
        let (dropsAll, operands) := match o.operands with
          | a :: rest => if a == hyphen then (true, rest) else (false, a :: rest)
          | [] => (false, [])
        let start := if o.has 'i' || dropsAll then [] else s.settings
        let unwanted := (o.given.filter (·.1 == 'u')).map (·.2)
        if o.has 'i' || dropsAll then trace o (text "cleaning environ")
        else for name in unwanted do trace o (text "unset:    " ++ name)
        match withoutNames unwanted start with
        | .error name =>
          complain s (text "cannot unset " ++ always name ++ text (": " ++ Errno.invalid.text))
          return cannotCancel
        | .ok vs => runIn s o vs operands

def printenv : Utility := fun s =>
  withOptions [⟨'0', .nothing, ["null"]⟩] 2 false s fun o => do
    let stop := if o.has '0' then 0 else Bytes.newline
    if o.operands.isEmpty then deliver s (showVariables stop s.settings) 0
    else
      let found := o.operands.map fun name => if name.contains (Bytes.ascii '=') then none else s.settings.lookup name
      let output := found.flatMap fun v => match v with
        | some value => value ++ [stop]
        | none => []
      deliver s output (if found.all (·.isSome) then 0 else 1)

/-! ## Surroundings of a program -/

def isSignedNumber (bs : Bytes) : Bool :=
  let digits := if bs.head? == some (Bytes.ascii '-') || bs.head? == some (Bytes.ascii '+') then bs.drop 1 else bs
  !digits.isEmpty && digits.all Bytes.isDigit

/-- An old way to give a number: digits behind a hyphen. -/
def withoutOldNumber (args : List Bytes) : Option Bytes × List Bytes :=
  match args with
  | a :: rest => if a.head? == some (Bytes.ascii '-') && isSignedNumber (a.drop 1) then (some (a.drop 1), rest)
    else (none, args)
  | [] => (none, [])

def nice : Utility := fun s => do
  let (old, args) := withoutOldNumber s.args
  withOptions [⟨'n', .argument, ["adjustment"]⟩] cannotCancel false { s with args := args } fun o => do
    let given := o.last? 'n' <|> old
    match given, o.operands with
    | some n, operands =>
      if !isSignedNumber n then
        complain s (text "invalid adjustment " ++ quoted n)
        return cannotCancel
      else match operands with
        | [] => misuse s cannotCancel (text "a command must be given with an adjustment")
        | name :: args => becomeOr s always name args s.settings
    | none, [] => deliver s (text "0\n") 0
    | none, name :: args => becomeOr s always name args s.settings

def hangUp : Nat := 1

def nohup : Utility := fun s =>
  withOptions [] cannotCancel false s fun o => do
    match o.operands with
    | [] => misuse s cannotCancel (text "missing operand")
    | name :: args =>
      Activity.call (.react hangUp .ignored)
      becomeOr s (fun n => text "failed to run command " ++ always n) name args s.settings

def setsid : Utility := fun s =>
  let s := { s with name := lastPart s.name }
  withOptions [⟨'c', .nothing, ["ctty"]⟩, ⟨'f', .nothing, ["fork"]⟩, ⟨'w', .nothing, ["wait"]⟩] 1 false s fun o => do
    match o.operands with
    | [] => misuse s 1 (text "no command specified")
    | name :: args =>
      let run : Activity Nat := becomeOr s (text "failed to execute " ++ ·) name args s.settings
      if o.has 'f' then
        let _ ← Activity.fork run.code
        return 0
      else run
where
  /-- The name behind the last slash. -/
  lastPart (path : Bytes) : Bytes := (path.reverse.takeWhile (· != Bytes.slash)).reverse

/-! ## timeout -/

/-- The status of a utility whose child has ended. -/
def statusOf : Outcome → Nat
  | .exited n => n
  | .killed signal => 128 + signal

structure Limit where
  nanos : Nat
  signal : Nat
  /-- How long after the signal the child is killed. -/
  killAfter : Option Nat
  verbose : Bool
  keepsStatus : Bool

/-- Ends in the same way as a child. -/
def endAs (outcome : Outcome) : Activity Nat := do
  match outcome with
  | .exited n => return n
  | .killed signal =>
    send (← Activity.look (·.id)) signal
    return 128 + signal

def announceSignal (s : Start) (l : Limit) (signal : Nat) (name : Bytes) : Activity Unit := do
  if l.verbose then complain s (text ("sending signal " ++ Kernel.Signal.name signal ++ " to command ") ++ always name)

/-- Waits for a child or for some time to pass; no answer means that the time has passed. -/
def awaitWithin (child nanos : Nat) : Activity (Option Outcome) := do
  if nanos = 0 then return some (← awaitEnd child mostWaits)
  let clock ← Activity.fork (do
    Activity.call (.sleep nanos)
    return 0 : Activity Nat).code
  waitBoth clock mostWaits
where
  mostWaits : Nat := 10 ^ 6
  waitBoth (clock : Nat) : Nat → Activity (Option Outcome)
    | 0 => return none
    | tries + 1 => do
      match (← Activity.call (.wait [child, clock] true) : Waited) with
      | .ended id outcome =>
        if id = child then
          send clock Signal.kill
          let _ ← awaitEnd clock mostWaits
          return some outcome
        else return none
      | .nobody => return none
      | .interrupted => waitBoth clock tries

def timeOutStatus : Nat := 124

def limited (s : Start) (l : Limit) (name : Bytes) (args : List Bytes) : Activity Nat := do
  let child ← Activity.fork
    (becomeOr s (fun n => text "failed to run command " ++ always n) name args s.settings).code
  match ← awaitWithin child l.nanos with
  | some outcome => endAs outcome
  | none =>
    announceSignal s l l.signal name
    send child l.signal
    let (outcome, isKilled) ← match l.killAfter with
      | some nanos => do
        match ← awaitWithin child nanos with
        | some outcome => pure (outcome, l.signal == Signal.kill)
        | none => do
          announceSignal s l Signal.kill name
          send child Signal.kill
          pure (← awaitEnd child 1000, true)
      | none => do pure (← awaitEnd child 1000, l.signal == Signal.kill)
    if isKilled then endAs (.killed Signal.kill)
    else return if l.keepsStatus then statusOf outcome else timeOutStatus

def timeout : Utility := fun s =>
  withOptions [⟨'f', .nothing, ["foreground"]⟩, ⟨'k', .argument, ["kill-after"]⟩, ⟨'p', .nothing, ["preserve-status"]⟩,
      ⟨'s', .argument, ["signal"]⟩, ⟨'v', .nothing, ["verbose"]⟩] cannotCancel false s fun o => do
    let wrongTime (a : Bytes) : Activity Nat := misuse s cannotCancel (text "invalid time interval " ++ quoted a)
    let killAfter := o.last? 'k'
    let signal := (o.last? 's').map fun a => (a, Kernel.Signal.ofBytes? (if (text "SIG").isPrefixOf a then a.drop 3 else a))
    match killAfter, signal with
    | some k, _ => if (interval? k).isNone then wrongTime k else go s o (interval? k) signal
    | none, _ => go s o none signal
where
  go (s : Start) (o : Options) (killAfter : Option Nat) (signal : Option (Bytes × Option Nat)) : Activity Nat := do
    match signal with
    | some (a, none) => misuse s cannotCancel (quoted a ++ text ": invalid signal")
    | _ =>
      match o.operands with
      | time :: name :: args =>
        match interval? time with
        | none => misuse s cannotCancel (text "invalid time interval " ++ quoted time)
        | some nanos =>
          let number := (signal.bind (·.2)).getD Signal.terminate
          limited s ⟨nanos, number, killAfter, o.has 'v', o.has 'p'⟩ name args
      | _ =>
        hint s
        return cannotCancel

/-! ## xargs -/

/-- How the input is cut into arguments. -/
inductive Cutting where
  | words
  /-- A line is one argument. -/
  | lines
  | marks (b : UInt8)
  deriving DecidableEq

/-- An argument, and whether a line ends after it. -/
structure Item where
  content : Bytes
  endsLine : Bool

/-- The quotation mark that has no other one. -/
inductive ItemFault where
  | quote (isDouble : Bool)

def ItemFault.message : ItemFault → Bytes
  | quote isDouble => text ("unmatched " ++ (if isDouble then "double" else "single") ++
      " quote; by default quotes are special to xargs unless you use the -0 option")

/-- Cuts a text into arguments that can have quotation marks and backslashes in them. -/
def cutItems (byLine : Bool) : (fuel : Nat) → (under : Option Bytes) → (afterBlank : Bool) → Bytes →
    List Item × Option ItemFault
  | 0, _, _, _ => ([], none)
  | fuel + 1, under, afterBlank, bs =>
    let item (endsLine : Bool) : List Item := (under.map fun u => ⟨u.reverse, endsLine⟩).toList
    let go (items : List Item) (under : Option Bytes) (afterBlank : Bool) (rest : Bytes) :=
      let (more, fault) := cutItems byLine fuel under afterBlank rest
      (items ++ more, fault)
    match bs with
    | [] => (item true, none)
    | b :: rest =>
      if b = Bytes.newline then
        -- A blank at the end of a line joins it to the next one.
        go (item (byLine || !afterBlank)) none false rest
      else if Bytes.isBlank b then
        if byLine then go [] (under.map (b :: ·)) true rest else
          match under with
          | none => go [] none true rest
          | some u =>
            let ends := rest.head? == some Bytes.newline
            go [⟨u.reverse, false⟩] none true (if ends then rest.drop 1 else rest)
      else if b = Bytes.ascii '\\' then
        match rest with
        | c :: rest => go [] (some (c :: under.getD [])) false rest
        | [] => (item true, none)
      else if b = Bytes.ascii '\'' || b = Bytes.ascii '"' then
        let inner := rest.takeWhile fun c => c != b && c != Bytes.newline
        match rest.drop inner.length with
        | c :: after => if c = b then go [] (some (inner.reverse ++ under.getD [])) false after
          else ([], some (.quote (b = Bytes.ascii '"')))
        | [] => ([], some (.quote (b = Bytes.ascii '"')))
      else go [] (some (b :: under.getD [])) false rest

def itemsOf (c : Cutting) (bs : Bytes) : List Item × Option ItemFault :=
  match c with
  | .words => cutItems false (bs.length + 1) none false bs
  | .lines => cutItems true (bs.length + 1) none false bs
  | .marks b =>
    let parts := Bytes.splitAt b bs
    ((if parts.getLast? == some [] then parts.dropLast else parts).map (⟨·, true⟩), none)

structure Batch where
  most : Option Nat
  mostLines : Option Nat
  size : Nat

/-- How much room arguments take. -/
def room (args : List Bytes) : Nat := args.foldl (fun n a => n + a.length + 1) 0

/-- Collects arguments into commands; those of the one under way are given in reverse. -/
def batches (b : Batch) (base : Nat) : List Item → (under : List Bytes) → (lines size : Nat) → List (List Bytes)
  | [], under, _, _ => if under.isEmpty then [] else [under.reverse]
  | i :: rest, under, lines, size =>
    let own := i.content.length + 1
    if !under.isEmpty && b.size < base + size + own then
      let lines' := if i.endsLine then 1 else 0
      if b.most == some 1 || (b.mostLines.any (· ≤ lines')) then under.reverse :: [i.content] :: batches b base rest [] 0 0
      else under.reverse :: batches b base rest [i.content] lines' own
    else
      let under := i.content :: under
      let lines := if i.endsLine then lines + 1 else lines
      if b.most.any (· ≤ under.length) || b.mostLines.any (· ≤ lines) then under.reverse :: batches b base rest [] 0 0
      else batches b base rest under lines (size + own)

/-- A text with another one in the place of a mark. -/
def replaceMark (mark new : Bytes) : (fuel : Nat) → Bytes → Bytes
  | 0, bs => bs
  | _, [] => []
  | fuel + 1, b :: rest =>
    if mark.isPrefixOf (b :: rest) then new ++ replaceMark mark new fuel ((b :: rest).drop mark.length)
    else b :: replaceMark mark new fuel rest

structure Repeated where
  trace : Bool
  /-- The input that the children have, if it is not empty. -/
  keepsInput : Bool

/-- Runs one command: the status, and whether that is the end of all. -/
def runCommand (s : Start) (r : Repeated) (command : List Bytes) : Activity (Nat × Bool) := do
  match command with
  | [] => return (0, false)
  | name :: args =>
    if r.trace then write 2 (List.intercalate [Bytes.ascii ' '] (command.map (shellQuoted false false)) ++ [Bytes.newline])
    let child : Activity Nat := do
      if !r.keepsInput then
        Activity.close 0
        let _ ← Activity.openFile (text "/dev/null") .input
      let e ← become name args s.settings
      complain s (refusal name e)
      return missingStatus e
    match ← awaitEnd (← Activity.fork child.code) 1000 with
    | .killed signal =>
      complain s (name ++ text (": terminated by signal " ++ toString signal))
      return (125, true)
    | .exited 255 =>
      complain s (name ++ text ": exited with status 255; aborting")
      return (124, true)
    | .exited 126 => return (126, true)
    | .exited 127 => return (127, true)
    | .exited 0 => return (0, false)
    | .exited _ => return (123, false)

def runCommands (s : Start) (r : Repeated) : List (List Bytes) → (status : Nat) → Activity Nat
  | [], status => return status
  | c :: rest, status => do
    match ← runCommand s r c with
    | (n, true) => return n
    | (n, false) => runCommands s r rest (max n status)

def repeatOptions : List OptionSpec :=
  [⟨'0', .nothing, ["null"]⟩, ⟨'a', .argument, ["arg-file"]⟩, ⟨'d', .argument, ["delimiter"]⟩, ⟨'E', .argument, []⟩,
    ⟨'e', .maybe, ["eof"]⟩, ⟨'I', .argument, []⟩, ⟨'i', .maybe, ["replace"]⟩, ⟨'L', .argument, []⟩,
    ⟨'l', .maybe, ["max-lines"]⟩, ⟨'n', .argument, ["max-args"]⟩, ⟨'o', .nothing, ["open-tty"]⟩,
    ⟨'p', .nothing, ["interactive"]⟩, ⟨'P', .argument, ["max-procs"]⟩, ⟨'r', .nothing, ["no-run-if-empty"]⟩,
    ⟨'s', .argument, ["max-chars"]⟩, ⟨'t', .nothing, ["verbose"]⟩, ⟨'x', .nothing, ["exit"]⟩,
    ⟨'Σ', .nothing, ["show-limits"]⟩, ⟨'Π', .argument, ["process-slot-var"]⟩]

/-- The byte that an option names as a delimiter. -/
def delimiterOf (a : Bytes) : UInt8 :=
  match a with
  | [b] => b
  | [_, c] => ((splitEscapes.find? fun e => Bytes.ascii e.1 == c).map (·.2)).getD
      (if c = Bytes.ascii '0' then 0 else if c = Bytes.ascii '\\' then c else Bytes.newline)
  | _ => Bytes.newline

def cuttingOf (o : Options) : Cutting :=
  match o.lastOf? ['0', 'd'] with
  | some '0' => .marks 0
  | some _ => .marks (delimiterOf ((o.last? 'd').getD []))
  | none => if o.has 'I' || o.has 'i' then .lines else .words

/-- An option whose number is none, or too low. -/
def badNumber? (o : Options) : Option Bytes :=
  (o.given.find? fun g => (g.1 = 'n' || g.1 = 'L' || g.1 = 's') && ((natural? g.2).getD 0 = 0)).map fun (letter, a) =>
    let name := text (" for -" ++ String.ofList [letter] ++ " option")
    if (natural? a).isNone then text "invalid number \"" ++ a ++ text "\"" ++ name
    else text "value 0" ++ name ++ text " should be >= 1"

def mostRoom : Nat := 131072

def commandsOf (o : Options) (command : List Bytes) (items : List Item) : List (List Bytes) :=
  let mark := match o.lastOf? ['I', 'i'] with
    | some c => some (match (o.last? c).getD [] with
      | [] => text "\x7b\x7d"
      | m => m)
    | none => none
  match mark with
  | some mark => items.map fun i => command.map fun a => replaceMark mark i.content (a.length + 1) a
  | none =>
    let lines := (o.last? 'L' <|> o.last? 'l').map fun a => (natural? a).getD 1
    let b : Batch := ⟨(o.last? 'n').bind natural?, lines, ((o.last? 's').bind natural?).getD mostRoom⟩
    let found := batches b (room command) items [] 0 0
    let all := if found.isEmpty && !o.has 'r' then [[]] else found
    all.map (command ++ ·)

def xargs : Utility := fun s =>
  withOptions repeatOptions 1 false s fun o => do
    match badNumber? o with
    | some message => misuse s 1 message
    | none =>
      let command := if o.operands.isEmpty then [text "echo"] else o.operands
      let (content, _) ← readInput ((o.last? 'a').getD hyphen)
      match content with
      | .error e =>
        complain s (text "Cannot open input file " ++ always ((o.last? 'a').getD []) ++ text (": " ++ e.text))
        return 1
      | .ok bs =>
        let (items, fault) := itemsOf (cuttingOf o) bs
        let stop := o.last? 'E'
        let items := items.takeWhile fun i => stop != some i.content
        match fault with
        | some f => complain s f.message
        | none => pure ()
        let commands := if fault.isSome && items.isEmpty then [] else commandsOf o command items
        let status ← runCommands s ⟨o.has 't', o.has 'a'⟩ commands 0
        return if fault.isSome then 1 else status

/-! ## which -/

def which : Utility := fun s =>
  match sortOut [⟨'a', .nothing, []⟩, ⟨'s', .nothing, []⟩] false (s.args.length + 1) s.args with
  | .error message => do
    write 2 (text "Illegal option -" ++ (message.drop 19).take 1 ++ [Bytes.newline])
    write 1 (text "Usage: /usr/bin/which [-as] args\n")
    return 2
  | .ok o => do
    let path := (s.settings.lookup pathName).getD []
    let finds (name : Bytes) : Activity (List Bytes) := Activity.look fun v =>
      let all := (if name.contains Bytes.slash then [name] else Surroundings.candidates path name).filter fun p =>
        match v.stat p with
        | .ok (_, e) => e.isExecutable
        | .error _ => false
      if o.has 'a' then all else all.take 1
    let found ← o.operands.mapM finds
    let output := found.flatten.flatMap (· ++ [Bytes.newline])
    let isComplete := !o.operands.isEmpty && found.all (!·.isEmpty)
    deliver s (if o.has 's' then [] else output) (if isComplete then 0 else 1)

end DesktopRefresh.Utility
