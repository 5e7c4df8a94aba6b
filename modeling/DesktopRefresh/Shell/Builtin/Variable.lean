import DesktopRefresh.Shell.Builtin.Arguments

/-!
# Own commands for variables, parameters and switches
-/

namespace DesktopRefresh.Shell.Builtin

open Shell (text singleQuoted)

/-! ## Listing -/

/-- The variables of some kind in the order of their names, each as an assignment behind a word. -/
def listVariables (word : String) (shows : Variable → Bool) : Action Nat := do
  let lead := if word.isEmpty then [] else text (word ++ " ")
  let vs := ((← get).bindings.filter shows).mergeSort fun a b => decide (a.name ≤ b.name)
  for v in vs do
    Action.printLine (lead ++ v.name ++ match v.value with
      | some value => Bytes.ascii '=' :: singleQuoted value
      | none => [])
  return 0

/-! ## Marks -/

/-- Marks variables, of which some get a value too. -/
def markEach (mark : Variable → Variable) : List Bytes → Action Unit
  | [] => return ()
  | a :: rest => do
    let (name, value) := cutAssignment a
    checkName name
    match value with
    | some v => Action.assign name v
    | none => pure ()
    modify fun sh => sh.put (mark ((sh.binding? name).getD ⟨name, none, false, false⟩))
    markEach mark rest

def marks (word : String) (shows : Variable → Bool) (mark : Variable → Variable) : Own := fun args => do
  let (given, names) ← options "p" "" args
  if given.isEmpty && !names.isEmpty then
    markEach mark names
    return 0
  else listVariables word shows

def exports : Own := marks "export" (·.exported) fun v => { v with exported := true }

def constants : Own := marks "readonly" (·.constant) fun v => { v with constant := true }

def localEach : List Bytes → Action Unit
  | [] => return ()
  | a :: rest => do
    let (name, value) := cutAssignment a
    modify fun sh =>
      let sh := sh.keepLocal name
      if (sh.binding? name).isNone then sh.put ⟨name, none, false, false⟩ else sh
    match value with
    | some v => Action.assign name v
    | none => pure ()
    localEach rest

def locals : Own := fun args => do
  if (← get).locals.isEmpty then Action.fail "not in a function"
  localEach args
  return 0

def unset : Own := fun args => do
  let (given, names) ← options "vf" "" args
  let functions := (given.getLast?.map (·.letter)) == some 'f'
  for name in names do
    if functions then modify fun sh => { sh with functions := sh.functions.filter (·.1 != name) }
    else
      checkName name
      if (← get).isConstant name then Action.failBytes (name ++ text ": is read only")
      modify fun sh =>
        let sh := if name == Shell.optionIndexName then { sh with optionIndex := 1, optionOffset := none } else sh
        sh.forget name
  return 0

/-! ## Switches -/

def pad (width : Nat) (s : String) : String := s ++ String.ofList (List.replicate (width - s.length) ' ')

/-- All switches, to be read or to be set again. Before any of them was decided, all of them count as on. -/
def listSwitches (readable undecided : Bool) : Action Unit := do
  let sh ← get
  let o : Options := if undecided then Switch.table.map (·.1) else sh.options
  if readable then Action.printLine (text "Current option settings")
  for (s, name, _) in Switch.table do
    Action.printLine (text (if readable then pad 16 name ++ if o.has s then "on" else "off"
      else "set " ++ (if o.has s then "-o " else "+o ") ++ name))

def setSwitch (on : Bool) (s : Switch) : Action Unit := modify fun sh =>
  let o := match s, on with
    | .vi, true => sh.options.set false .emacs
    | .emacs, true => sh.options.set false .vi
    | _, _ => sh.options
  { sh with options := o.set on s }

def setNamed (on : Bool) (name : Bytes) : Action Unit :=
  match Switch.ofName? name with
  | some s => setSwitch on s
  | none => Action.failBytes (text "Illegal option -o " ++ name)

/-- What the letters of one argument ask for: whether a command follows, and the arguments that are left. -/
def switchLetters (on atStart : Bool) : (letters : Bytes) → (rest : List Bytes) → (command : Bool) →
    Action (Bool × List Bytes)
  | [], rest, command => return (command, rest)
  | b :: letters, rest, command => do
    if b = Bytes.ascii 'c' && atStart then switchLetters on atStart letters rest true
    else if b = Bytes.ascii 'l' && atStart then switchLetters on atStart letters rest command
    else if b = Bytes.ascii 'o' then
      match rest with
      | name :: rest =>
        setNamed on name
        switchLetters on atStart letters rest command
      | [] =>
        listSwitches on atStart
        switchLetters on atStart letters [] command
    else match Switch.ofLetter? b with
      | some s =>
        setSwitch on s
        switchLetters on atStart letters rest command
      | none => Action.failBytes (text "Illegal option -" ++ [b])

/-- Switches in front of other arguments: whether a command follows, the other arguments, and whether they
replace the positional parameters even if there are none. -/
def switches (atStart : Bool) : (fuel : Nat) → List Bytes → (command : Bool) → Action (Bool × List Bytes × Bool)
  | 0, args, command => return (command, args, false)
  | fuel + 1, args, command => do
    match args with
    | (sign :: letters) :: rest =>
      if sign = Bytes.ascii '-' && letters.isEmpty then
        if !atStart then
          setSwitch false .xtrace
          setSwitch false .verbose
        return (command, rest, false)
      else if sign = Bytes.ascii '-' && letters == text "-" then return (command, rest, true)
      else if sign = Bytes.ascii '-' || sign = Bytes.ascii '+' then
        let (command, rest) ← switchLetters (sign = Bytes.ascii '-') atStart letters rest command
        switches atStart fuel rest command
      else return (command, args, false)
    | args => return (command, args, false)

def setParameters (args : List Bytes) : Action Unit :=
  modify fun sh => { sh with args := args, optionIndex := 1, optionOffset := none }

def set : Own := fun args => do
  if args.isEmpty then listVariables "" (·.value.isSome)
  else
    let (_, rest, replaces) ← switches false (args.length + 1) args false
    if replaces || !rest.isEmpty then setParameters rest
    return 0

def shift : Own := fun args => do
  let n ← match args with
    | [] => pure 1
    | a :: _ => toNumber a
  let own := (← get).args
  if own.length < n then Action.fail "can't shift that many"
  setParameters (own.drop n)
  return 0

/-! ## Reading options -/

/-- What `getopts` finds next: the letter, what it does to the argument of the option, a message, and where
the reading goes on. -/
structure Found where
  letter : Bytes
  argument : Option (Option Bytes)
  message : Bytes
  index : Nat
  offset : Option Nat
  complete : Bool

/-- What a list of letters says of one: it is an option, with an argument or without. -/
def declared? (letter : UInt8) : Bytes → Option Bool
  | [] => none
  | b :: rest =>
    let valued := rest.head? == some (Bytes.ascii ':')
    if b = letter then some valued
    else match rest with
      | c :: rest' => if c = Bytes.ascii ':' then declared? letter rest' else declared? letter (c :: rest')
      | [] => none

/-- Finds the next option among arguments, after `index - 1` of them and `offset` bytes of the last. -/
def nextOption (letters : Bytes) (args : List Bytes) (index : Nat) (offset : Option Nat) : Found :=
  let silent := letters.head? == some (Bytes.ascii ':')
  let within := match offset with
    | some n => if 1 < index then ((args[index - 2]?).getD []).drop n else []
    | none => []
  let atEnd (index : Nat) : Found := ⟨[Bytes.ascii '?'], none, [], index, none, true⟩
  let start : Except Found (Bytes × Nat) :=
    if !within.isEmpty then .ok (within, index)
    else match args[index - 1]? with
      | some (sign :: b :: bs) =>
        if sign != Bytes.ascii '-' then .error (atEnd index)
        else if b :: bs == text "-" then .error (atEnd (index + 1))
        else .ok (b :: bs, index + 1)
      | _ => .error (atEnd index)
  match start with
  | .error f => f
  | .ok ([], index) => atEnd index
  | .ok (b :: rest, index) =>
    let current := (args[index - 2]?).getD []
    let offsetOf (rest : Bytes) : Option Nat := some (current.length - rest.length)
    let unknown (message : String) : Found :=
      if silent then ⟨[Bytes.ascii '?'], some (some [b]), [], index, offsetOf rest, false⟩
      else ⟨[Bytes.ascii '?'], some none, text message ++ [b] ++ [Bytes.newline], index, offsetOf rest, false⟩
    match declared? b letters with
    | none => unknown "Illegal option -"
    | some false => ⟨[b], some (some []), [], index, offsetOf rest, false⟩
    | some true =>
      if !rest.isEmpty then ⟨[b], some (some rest), [], index, none, false⟩
      else match args[index - 1]? with
        | some a => ⟨[b], some (some a), [], index + 1, none, false⟩
        | none =>
          if silent then ⟨[Bytes.ascii ':'], some (some [b]), [], index, none, false⟩
          else
            let message := text "No arg for -" ++ [b] ++ text " option" ++ [Bytes.newline]
            ⟨[Bytes.ascii '?'], some none, message, index, none, false⟩

def optionArgument : Bytes := text "OPTARG"

def getopts : Own := fun args => do
  match args with
  | letters :: name :: given =>
    let sh ← get
    let args := if given.isEmpty then sh.args else given
    let (index, offset) := if args.length + 1 < sh.optionIndex then (1, none) else (sh.optionIndex, sh.optionOffset)
    let f := nextOption letters args index offset
    Action.writeTo 2 f.message
    match f.argument with
    | some (some a) => Action.assign optionArgument a
    | some none => modify (·.forget optionArgument)
    | none => pure ()
    Action.assign Shell.optionIndexName (Shell.decimal f.index)
    modify fun sh => { sh with optionIndex := f.index, optionOffset := f.offset }
    assign name f.letter
    return if f.complete then 1 else 0
  | _ => Action.fail "Usage: getopts optstring var [arg...]"

/-! ## Reading input -/

/-- A line on its way into variables: the fields that are done, and the one that grows, last byte first. -/
structure Sharing where
  fields : List Bytes
  /-- How many variables are left before the last one, which takes all the rest. -/
  left : Nat
  inLast : Bool
  current : Bytes
  /-- Where the last field ends if nothing more comes. -/
  cut : Option Nat
  afterBlank : Bool
  /-- Separators after a field are passed over. -/
  skipping : Bool

def isDefaultSeparator (b : UInt8) : Bool := Bytes.isBlank b || b = Bytes.newline

namespace Sharing

/-- Takes one more byte, which separates fields only if it is not protected. -/
def take (ifs : Bytes) (s : Sharing) (b : UInt8) (isProtected : Bool) : Sharing :=
  let grown : Sharing := { s with current := b :: s.current, skipping := false }
  if isProtected then { grown with afterBlank := false }
  else
    let separates := ifs.contains b
    let blank := separates && isDefaultSeparator b
    if s.inLast then
      if blank then { grown with cut := some (s.cut.getD s.current.length) }
      else { grown with cut := if separates && s.afterBlank then s.cut else none, afterBlank := false }
    else if s.skipping && blank then s
    else if s.skipping && separates && s.afterBlank then { s with afterBlank := false }
    else if !separates then grown
    else
      let s := { s with afterBlank := blank, skipping := false }
      if s.current.isEmpty && blank then { s with afterBlank := false }
      else if s.left = 0 then
        { s with inLast := true, cut := some s.current.length, current := b :: s.current }
      else { s with fields := s.current.reverse :: s.fields, left := s.left - 1, current := [], skipping := true }

def finish (s : Sharing) : List Bytes :=
  let last := match s.cut with
    | some n => s.current.reverse.take n
    | none => s.current.reverse
  (if last.isEmpty then s.fields else last :: s.fields).reverse

end Sharing

/-- The fields of a line for a number of variables. -/
def shareOut (ifs : Bytes) (names : Nat) (line : List (UInt8 × Bool)) : List Bytes :=
  let start : Sharing := ⟨[], names - 1, false, [], none, false, false⟩
  (line.foldl (fun s b => s.take ifs b.1 b.2) start).finish

/-- What a piece of input adds to a line; unless `raw` is set, a backslash protects the byte after it and takes
away the end of a line. The last value says whether a backslash is open. -/
def protect (raw : Bool) : Bytes → (seen : List (UInt8 × Bool)) → (isOpen : Bool) → List (UInt8 × Bool) × Bool
  | [], seen, isOpen => (seen, isOpen)
  | b :: rest, seen, isOpen =>
    if b = 0 then protect raw rest seen isOpen
    else if isOpen then protect raw rest (if b = Bytes.newline then seen else (b, true) :: seen) false
    else if b = Bytes.ascii '\\' && !raw then protect raw rest seen true
    else protect raw rest (if b = Bytes.newline then seen else (b, false) :: seen) false

/-- Reads a line, last byte first, and whether it is complete. -/
def inputLine (raw : Bool) : (pieces : Nat) → List (UInt8 × Bool) → (isOpen : Bool) →
    Action (List (UInt8 × Bool) × Bool)
  | 0, seen, _ => return (seen, false)
  | pieces + 1, seen, isOpen => do
    match ← Action.call (.readLine 0 Bytes.newline) with
    | .error _ | .ok [] => return (seen, false)
    | .ok bs =>
      let (seen, stillOpen) := protect raw bs seen isOpen
      -- The line is over unless its end was taken away.
      let ended := bs.getLast? == some Bytes.newline && !(protect raw bs.dropLast [] isOpen).2
      if ended then return (seen, true) else inputLine raw pieces seen stillOpen

def assignEach : List Bytes → List Bytes → Action Unit
  | [], _ => return ()
  | name :: names, values => do
    assign name (values.headD [])
    assignEach names (values.drop 1)

def read : Own := fun args => do
  let (given, names) ← options "r" "p" args
  if names.isEmpty then Action.fail "arg count"
  let (line, complete) ← inputLine (given.any (·.letter == 'r')) Kernel.Activity.mostPieces [] false
  assignEach names (shareOut (← get).separators names.length line.reverse)
  return if complete then 0 else 1

end DesktopRefresh.Shell.Builtin
