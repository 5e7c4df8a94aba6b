import DesktopRefresh.Shell.Pattern
import DesktopRefresh.Utility.Launching
import DesktopRefresh.Utility.Listing

/-!
# Expressions about files

An expression says what is asked of an entry and what is done with it. Most of its parts ask something; those
that do something count as true. Some parts only change how the trees are gone through.
-/

namespace DesktopRefresh.Utility

namespace Finding

open Kernel (Activity Outcome View)

/-- A number to be compared with another one. -/
inductive Bound where
  | exactly (n : Nat) | more (n : Nat) | less (n : Nat)
  deriving DecidableEq

def Bound.holds (n : Nat) : Bound → Bool
  | exactly m => n = m
  | more m => m < n
  | less m => n < m

/-- How the permissions of an entry have to be. -/
inductive ModeTest where
  | same (mode : Nat) | all (mode : Nat) | some (mode : Nat)

/-- What is asked of an entry or done with it. -/
inductive Primary where
  | constant (b : Bool)
  | name (wild : Bytes) (anyCase whole : Bool)
  | linkName (wild : Bytes) (anyCase : Bool)
  | fits (r : Regular) (anyCase : Bool)
  | kinds (letters : List UInt8) (followed : Bool)
  | size (b : Bound) (unit : Nat)
  | empty
  | mode (t : ModeTest)
  | newer (than : Location)
  | same (as : Location)
  | links (b : Bound)
  | number (b : Bound)
  | executable
  | prune
  /-- What is printed goes to a file, if one is named. -/
  | print (stop : UInt8) (file : Option Bytes)
  | printf (format : Bytes) (file : Option Bytes)
  | list (file : Option Bytes)
  | delete
  | quit
  | exec (command : List Bytes) (inDirectory asks : Bool)
  | execAll (command : List Bytes) (inDirectory : Bool)

inductive Expression where
  | primary (p : Primary)
  | negation (e : Expression)
  | conjunction (a b : Expression)
  | alternative (a b : Expression)
  | sequence (a b : Expression)

/-- How the trees are gone through. -/
structure Walk where
  most : Option Nat
  least : Nat
  depthFirst : Bool
  followsAll : Bool
  followsArguments : Bool

/-- Why arguments are no expression. -/
inductive Fault where
  | text (bs : Bytes)
  | missingArgument (name : Bytes)
  | unknown (name : Bytes)

def grave (bs : Bytes) : Bytes := text "\x60" ++ bs ++ text "'"

def Fault.message : Fault → Bytes
  | text bs => bs
  | missingArgument name => Utility.text "missing argument to " ++ grave name
  | unknown name => Utility.text "unknown predicate " ++ grave name

/-! ## Reading expressions -/

structure Reader where
  rest : List Bytes
  walk : Walk
  /-- Something is done with entries, so that they are not printed. -/
  acts : Bool
  dialect : Regular.Dialect
  /-- Regular expressions are written as an editor writes them: groups and choices are marked by backslashes. -/
  marked : Bool
  warnings : List Bytes
  files : List Bytes
  /-- The first word that asks for a command in the directory of an entry. -/
  entering : Option Bytes

/-- Reading can look at the files that are named. -/
abbrev Read (α : Type) := StateT Reader (ReaderT View (Except Fault)) α

def argument (name : Bytes) : Read Bytes := do
  let r ← get
  match r.rest with
  | a :: rest =>
    set { r with rest := rest }
    return a
  | [] => throw (.missingArgument name)

def bound? (bs : Bytes) : Option Bound :=
  match bs with
  | b :: rest =>
    if b = Bytes.ascii '+' then (natural? rest).map .more
    else if b = Bytes.ascii '-' then (natural? rest).map .less
    else (natural? bs).map .exactly
  | [] => none

/-- The units of sizes by their letters. -/
def units : List (Char × Nat) := [('b', 512), ('c', 1), ('w', 2), ('k', 1024), ('M', 1024 ^ 2), ('G', 1024 ^ 3)]

def sizeTest (a : Bytes) : Read Primary := do
  let (digits, unit) := match a.getLast?.bind fun b => units.find? fun u => Bytes.ascii u.1 == b with
    | some (_, n) => (a.dropLast, n)
    | none => (a, 512)
  match bound? digits with
  | some b => return .size b unit
  | none =>
    match a.getLast? with
    | some b =>
      if Bytes.isDigit b then throw (.text (text "Invalid argument " ++ grave a ++ text " to -size"))
      else throw (.text (text "invalid -size type " ++ grave [b]))
    | none => throw (.text (text "invalid null argument to -size"))

def depthOf (name a : Bytes) : Read Nat :=
  match natural? a with
  | some n => return n
  | none => throw (.text (text "Expected a positive decimal integer argument to " ++ name ++ text ", but got " ++ quoted a))

def kindLetters : Bytes := text "bcdpflsD"

def kindsOf (name a : Bytes) : Read (List UInt8) := do
  let parts := Bytes.splitAt (Bytes.ascii ',') a
  match parts.find? fun p => !(p.length = 1 && p.all kindLetters.contains) with
  | some [] => throw (.text (text "Arguments to " ++ name ++ text " should contain at least one letter"))
  | some p => throw (.text (text "Unknown argument to " ++ name ++ text ": " ++ p.take 1))
  | none => return parts.flatten

def placeOf (a : Bytes) : Read Location := do
  match (← read).stat a with
  | .ok (l, _) => return l
  | .error e => throw (.text (quoted a ++ text (": " ++ e.text)))

def modeTest (a : Bytes) : Read Primary := do
  let (lead, rest) := match a with
    | b :: rest => if b = Bytes.ascii '-' || b = Bytes.ascii '/' then (some b, rest) else (none, a)
    | [] => (none, [])
  match ModeSpec.ofBytes? rest with
  | none => throw (.text (text "invalid mode " ++ quoted a))
  | some spec =>
    let mode := spec.apply false 0 0
    return .mode (if lead = some (Bytes.ascii '-') then .all mode else if lead.isSome then .some mode else .same mode)

/-- A command up to a semicolon, or up to a plus behind braces. -/
def command (name : Bytes) (inDirectory asks : Bool) : Read Primary := do
  let r ← get
  let braces := text "\x7b\x7d"
  let rec cut : List Bytes → List Bytes → Option (List Bytes × Bool × List Bytes)
    | _, [] => none
    | seen, a :: rest =>
      if a == text ";" then some (seen.reverse, false, rest)
      else if a == text "+" && seen.head? == some braces then some (seen.tail.reverse, true, rest)
      else cut (a :: seen) rest
  match cut [] r.rest with
  | none => throw (.missingArgument name)
  | some (command, all, rest) =>
    if command.isEmpty then throw (.missingArgument name)
    else
      let entering := r.entering <|> if inDirectory then some name else none
      set { r with rest := rest, acts := true, entering := entering }
      return if all then .execAll command inDirectory else .exec command inDirectory asks

def act (p : Primary) : Read Primary := do
  modify fun r => { r with acts := true }
  return p

def setWalk (f : Walk → Walk) : Read Primary := do
  modify fun r => { r with walk := f r.walk }
  return .constant true

/-- The file that an action writes to. -/
def outputFile (name : Bytes) : Read Bytes := do
  let file ← argument name
  modify fun r => { r with files := if r.files.contains file then r.files else r.files ++ [file] }
  return file

/-! ### Regular expressions -/

def basicTypes : List String := ["ed", "grep", "posix-basic", "posix-minimal-basic", "sed"]

def extendedTypes : List String := ["gnu-awk", "posix-awk", "awk", "posix-egrep", "egrep", "posix-extended"]

def regularTypes : List String :=
  ["findutils-default", "ed", "emacs", "gnu-awk", "grep", "posix-awk", "awk", "posix-basic", "posix-egrep", "egrep",
    "posix-extended", "posix-minimal-basic", "sed"]

def setRegularType (a : Bytes) : Read Unit := do
  let isIn (names : List String) : Bool := names.any (text · == a)
  if isIn basicTypes then modify fun r => { r with dialect := ⟨false, true⟩, marked := false }
  else if isIn extendedTypes then modify fun r => { r with dialect := ⟨true, false⟩, marked := false }
  else if isIn regularTypes then modify fun r => { r with dialect := ⟨true, false⟩, marked := true }
  else
    let known := List.intercalate (text ", ") (regularTypes.map fun t => quoted (text t))
    throw (.text (text "Unknown regular expression type " ++ quoted a ++ text "; valid types are " ++ known ++ text "."))

/-- Where a byte of a regular expression stands: behind a backslash, or so far within brackets. -/
inductive MarkPlace where
  | outside | escaped | opened | negated | inside

/-- Exchanges the marks with backslashes and those without; what stands in brackets stays as it is. -/
def exchangeMarks : MarkPlace → Bytes → Bytes
  | .escaped, [] => [Bytes.ascii '\\']
  | _, [] => []
  | .escaped, b :: rest =>
    (if (text "()|").contains b then [b] else [Bytes.ascii '\\', b]) ++ exchangeMarks .outside rest
  | .opened, b :: rest => b :: exchangeMarks (if b = Bytes.ascii '^' then .negated else .inside) rest
  | .negated, b :: rest => b :: exchangeMarks .inside rest
  | .inside, b :: rest => b :: exchangeMarks (if b = Bytes.ascii ']' then .outside else .inside) rest
  | .outside, b :: rest =>
    if b = Bytes.ascii '[' then b :: exchangeMarks .opened rest
    else if b = Bytes.ascii '\\' then exchangeMarks .escaped rest
    else (if (text "()|\x7b\x7d").contains b then [Bytes.ascii '\\', b] else [b]) ++ exchangeMarks .outside rest

def regular (anyCase : Bool) (a : Bytes) : Read Primary := do
  let r ← get
  match Regular.ofBytes r.dialect (if r.marked then exchangeMarks .outside a else a) with
  | .ok e => return .fits e anyCase
  | .error f => throw (.text (text f.message))

/-! ### Formats -/

/-- Letters that stand for something behind a percent sign. -/
def directives : Bytes := text "abcdDfFgGhHiklmMnpPsStTuUyYZ%"

/-- What is said of a letter behind a percent sign that stands for nothing. -/
def formatWarnings : (fuel : Nat) → Bytes → List Bytes
  | 0, _ | _, [] => []
  | fuel + 1, b :: rest =>
    if b = Bytes.ascii '%' then
      match rest.dropWhile fun c => (text "-0123456789.#+ ").contains c with
      | c :: after =>
        let after := if (text "ABCT").contains c then after.drop 1 else after
        (if directives.contains c || (text "ABC").contains c then []
          else [text "unrecognized format directive " ++ grave [b, c]]) ++ formatWarnings fuel after
      | [] => []
    else if b = Bytes.ascii '\\' then
      match rest with
      | c :: after =>
        (if (text "abcfnrtv\\01234567").contains c then [] else [text "unrecognized escape " ++ grave [b, c]]) ++
          formatWarnings fuel after
      | [] => [text "escape " ++ grave [b] ++ text " followed by nothing at all"]
    else formatWarnings fuel rest

def readFormat (a : Bytes) (file : Option Bytes) : Read Primary := do
  if (a.reverse.takeWhile (· == Bytes.ascii '%')).length % 2 = 1 then
    throw (.text (text "error: % at end of format string"))
  modify fun r => { r with acts := true, warnings := r.warnings ++ formatWarnings (a.length + 1) a }
  return .printf a file

def bounded (name : Bytes) (use : Bound → Primary) : Read Primary := do
  let a ← argument name
  match bound? a with
  | some b => return use b
  | none => throw (.text (text "invalid argument " ++ grave a ++ text " to " ++ grave name))

/-- Letters for the times of a file behind `-newer`; the second one can ask for a time that is given. -/
def isTimes (letters : String) : Bool :=
  match letters.toList with
  | [x, y] => "aBcm".toList.contains x && "aBcmt".toList.contains y
  | _ => false

def primary (name : Bytes) : Read Primary := do
  let word := if name.head? == some (Bytes.ascii '-') then String.ofList ((name.drop 1).map fun b => Char.ofNat b.toNat)
    else ""
  match word with
  | "true" | "noleaf" | "daystart" | "mount" | "xdev" | "warn" | "nowarn" | "ignore_readdir_race"
  | "noignore_readdir_race" | "readable" | "writable" => return .constant true
  | "follow" => setWalk fun w => { w with followsAll := true }
  | "false" | "nouser" | "nogroup" => return .constant false
  | "name" => return .name (← argument name) false false
  | "iname" => return .name (← argument name) true false
  | "path" | "wholename" => return .name (← argument name) false true
  | "ipath" | "iwholename" => return .name (← argument name) true true
  | "lname" => return .linkName (← argument name) false
  | "ilname" => return .linkName (← argument name) true
  | "regex" => regular false (← argument name)
  | "iregex" => regular true (← argument name)
  | "regextype" =>
    setRegularType (← argument name)
    return .constant true
  | "type" => return .kinds (← kindsOf name (← argument name)) false
  | "xtype" => return .kinds (← kindsOf name (← argument name)) true
  | "size" => sizeTest (← argument name)
  | "empty" => return .empty
  | "perm" => modeTest (← argument name)
  | "newer" | "anewer" | "cnewer" => return .newer (← placeOf (← argument name))
  | "samefile" => return .same (← placeOf (← argument name))
  | "links" => bounded name .links
  | "inum" => bounded name .number
  | "user" | "group" =>
    let a ← argument name
    if a == text "root" || a == text "0" then return .constant true
    else if (natural? a).isSome then return .constant false
    else throw (.text (quoted a ++ text (" is not the name of " ++
      (if word == "user" then "a known user" else "an existing group"))))
  | "uid" | "gid" => bounded name fun b => .constant (b.holds 0)
  | "mtime" | "atime" | "ctime" | "mmin" | "amin" | "cmin" | "used" => bounded name fun b => .constant (b.holds 0)
  | "executable" => return .executable
  | "prune" => return .prune
  | "print" => act (.print Bytes.newline none)
  | "print0" => act (.print 0 none)
  | "printf" => readFormat (← argument name) none
  | "ls" => act (.list none)
  | "fprint" => act (.print Bytes.newline (some (← outputFile name)))
  | "fprint0" => act (.print 0 (some (← outputFile name)))
  | "fls" => act (.list (some (← outputFile name)))
  | "fprintf" =>
    let file ← outputFile name
    readFormat (← argument name) (some file)
  | "delete" =>
    discard (setWalk fun w => { w with depthFirst := true })
    act .delete
  | "quit" => act .quit
  | "exec" => command name false false
  | "ok" => command name false true
  | "execdir" => command name true false
  | "okdir" => command name true true
  | "maxdepth" =>
    let n ← depthOf name (← argument name)
    setWalk fun w => { w with most := some n }
  | "mindepth" =>
    let n ← depthOf name (← argument name)
    setWalk fun w => { w with least := n }
  | "depth" | "d" => setWalk fun w => { w with depthFirst := true }
  | word =>
    if word.startsWith "newer" && isTimes (word.drop 5).toString then
      let a ← argument name
      if word.endsWith "t" then return .constant true else return .newer (← placeOf a)
    else if name.head? == some (Bytes.ascii '-') then throw (.unknown name)
    else throw (.text (text "paths must precede expression: " ++ grave name))

def isWord (a : Bytes) (words : List String) : Bool := words.any fun w => text w == a

def binary : List String := ["-o", "-or", "-a", "-and", ","]

mutual

def unary : (fuel : Nat) → Read Expression
  | 0 => throw (.text (text "expression too complicated"))
  | fuel + 1 => do
    let r ← get
    match r.rest with
    | [] => throw (.text (text "expected an expression"))
    | a :: rest =>
      set { r with rest := rest }
      if isWord a ["!", "-not"] then
        if rest.isEmpty then throw (.text (text "expected an expression after " ++ quoted a))
        else return .negation (← unary fuel)
      else if a == text "(" then
        if rest.isEmpty then
          throw (.text (text ("invalid expression; expected to find a ')' but didn't see one. " ++
            "Perhaps you need an extra predicate after '('")))
        else
          let e ← series fuel
          let r ← get
          match r.rest with
          | b :: rest =>
            if b == text ")" then
              set { r with rest := rest }
              return e
            else throw (.text (text "invalid expression; I was expecting to find a ')' somewhere but did not see one."))
          | [] => throw (.text (text "invalid expression; I was expecting to find a ')' somewhere but did not see one."))
      else if a == text ")" then throw (.text (text "invalid expression; you have too many ')'"))
      else if isWord a binary then
        throw (.text (text "invalid expression; you have used a binary operator " ++ quoted a ++
          text " with nothing before it."))
      else return .primary (← primary a)

def conjunctions : (fuel : Nat) → Read Expression
  | 0 => throw (.text (text "expression too complicated"))
  | fuel + 1 => do
    let first ← unary fuel
    let r ← get
    match r.rest with
    | [] => return first
    | a :: rest =>
      if isWord a ["-a", "-and"] then
        set { r with rest := rest }
        if rest.isEmpty then throw (.text (text "expected an expression after " ++ quoted a))
        return .conjunction first (← conjunctions fuel)
      else if isWord a ["-o", "-or", ",", ")"] then return first
      else return .conjunction first (← conjunctions fuel)

def alternatives : (fuel : Nat) → Read Expression
  | 0 => throw (.text (text "expression too complicated"))
  | fuel + 1 => do
    let first ← conjunctions fuel
    let r ← get
    match r.rest with
    | a :: rest =>
      if isWord a ["-o", "-or"] then
        set { r with rest := rest }
        if rest.isEmpty then throw (.text (text "expected an expression after " ++ quoted a))
        return .alternative first (← alternatives fuel)
      else return first
    | [] => return first

def series : (fuel : Nat) → Read Expression
  | 0 => throw (.text (text "expression too complicated"))
  | fuel + 1 => do
    let first ← alternatives fuel
    let r ← get
    match r.rest with
    | a :: rest =>
      if a == text "," then
        set { r with rest := rest }
        return .sequence first (← series fuel)
      else return first
    | [] => return first

end

/-- More than the levels of an expression need for each token. -/
def depthPerToken : Nat := 8

/-- The expression that arguments make, and what was found out in reading it. -/
def expression (walk : Walk) (v : View) (args : List Bytes) : Except Fault (Expression × Reader) := do
  let start : Reader :=
    { rest := args, walk := walk, acts := false, dialect := ⟨true, false⟩, marked := true, warnings := [], files := []
      entering := none }
  if args.isEmpty then return (.primary (.constant true), start)
  else
    let (e, r) ← (series ((args.length + 1) * depthPerToken) start).run v
    match r.rest with
    | [] => return (e, r)
    | a :: _ =>
      if a == text ")" then .error (.text (text "you have too many ')'"))
      else .error (.text (text "paths must precede expression: " ++ grave a))

end Finding

end DesktopRefresh.Utility
