import DesktopRefresh.Host.Catalogue
import DesktopRefresh.Shell.Arithmetic
import DesktopRefresh.Shell.Pattern
import DesktopRefresh.Shell.State

/-!
# Expansion of words

A word becomes a list of fields. First its parts are expanded to chunks; then what came out of an
expansion outside of quotes is split where the separators stand; at last a field with a wildcard
becomes the list of the paths that it fits, if there are any.
-/

namespace DesktopRefresh.Shell

inductive Chunk where
  /-- Text that is not split. -/
  | text (quoted : Bool) (bs : Bytes)
  /-- The value of an expansion outside of quotes. -/
  | value (bs : Bytes)
  /-- The border between two fields, of which each can be empty. -/
  | border
  /-- The border between two values, which counts as a blank separator. -/
  | gap
  deriving DecidableEq, Repr

namespace Expansion

open Bytes (isBlank isDigit number)
open Shell (text decimal)

def char (c : Char) : UInt8 := Bytes.ascii c

/-! ## Parameters -/

def isList (name : Bytes) : Bool := name == [char '@'] || name == [char '*']

def parameter? (sh : Shell) (name : Bytes) : Option Bytes :=
  match name with
  | [b] =>
    if b = char '#' then some (decimal sh.args.length)
    else if b = char '?' then some (decimal sh.status)
    else if b = char '$' then some (decimal sh.root)
    else if b = char '!' then sh.lastBackground.map decimal
    else if b = char '-' then some (text sh.options.letters)
    else if b = char '0' then some sh.name
    else if isDigit b then sh.args[number name - 1]?
    else sh.get? name
  | _ =>
    if name.all isDigit then if number name = 0 then some sh.name else sh.args[number name - 1]?
    else sh.get? name

/-- What stands between positional parameters that are joined. -/
def glue (sh : Shell) : Bytes :=
  match sh.get? (text "IFS") with
  | some ifs => ifs.take 1
  | none => [0x20]

def chunk (quoted : Bool) (bs : Bytes) : Chunk := if quoted then .text true bs else .value bs

/-- Several parameters stay apart: where fields are made, unless they are joined between quotes. -/
def staysApart (fields quoted : Bool) (name : Bytes) : Bool := fields && (!quoted || name == [char '@'])

/-- Parameters that stay apart. -/
def separate (quoted : Bool) (values : List Bytes) : List Chunk :=
  if quoted then List.intersperse .border (values.map (.text true)) else List.intersperse .gap (values.map .value)

/-- All positional parameters, as values of their own where fields are made, or joined. -/
def positional (sh : Shell) (fields quoted : Bool) (name : Bytes) : List Chunk :=
  if staysApart fields quoted name then separate quoted sh.args
  else [chunk quoted (List.intercalate (glue sh) sh.args)]

/-- The length of all positional parameters with what stands between them. -/
def positionalLength (sh : Shell) : Nat := (sh.args.map List.length).sum + (sh.args.length - 1)

/-! ## Chunks put together -/

def join (cs : List Chunk) : Bytes := cs.flatMap fun
  | .text _ bs => bs
  | .value bs => bs
  | .border | .gap => [0x20]

def mark (cs : List Chunk) : Pattern.Marked := cs.flatMap fun
  | .text quoted bs => bs.map (·, quoted)
  | .value bs => bs.map (·, false)
  | .border | .gap => [(0x20, true)]

/-- Literal text inside of an expansion outside of quotes is part of its value. -/
def exposed : Chunk → Chunk
  | .text false bs => .value bs
  | c => c

/-- Takes the shortest or longest part that fits a pattern off the front or the end. -/
def strip (p : Pattern) (front longest : Bool) (value : Bytes) : Bytes :=
  let sizes := List.range (value.length + 1)
  let sizes := if longest then sizes.reverse else sizes
  let fits := fun n => if front then p.fits (value.take n) else p.fits (value.drop (value.length - n))
  match sizes.find? fits with
  | some n => if front then value.drop n else value.take (value.length - n)
  | none => value

/-- Strips parameters that stay apart. At the front only the first one counts; when it fits as a whole, the longest
part is all of them. At the end, what follows a parameter with a part that fits is dropped too, and the longest
part is looked for in the first one. -/
def stripEach (p : Pattern) (front longest : Bool) : List Bytes → List Bytes
  | [] => []
  | first :: rest =>
    let ends (value : Bytes) : Bool := (List.range (value.length + 1)).any fun n => p.fits (value.drop n)
    match front, longest with
    | true, false => strip p true false first :: rest
    | true, true => if p.fits first then [[]] else strip p true true first :: rest
    | false, true => if ends first then [strip p false true first] else first :: rest
    | false, false =>
      match (first :: rest).reverse.dropWhile fun value => !ends value with
      | [] => first :: rest
      | last :: before => before.reverse ++ [strip p false false last]

/-! ## Home directories -/

/-- The home directories of the users that everybody knows. -/
def homes : List (String × String) :=
  [("root", "/root"), ("daemon", "/usr/sbin"), ("bin", "/bin"), ("sys", "/dev"), ("nobody", "/nonexistent"),
    ("www-data", "/var/www"), ("mail", "/var/mail"), ("man", "/var/cache/man"), ("games", "/usr/games")]

def home? (sh : Shell) (user : Bytes) : Option Bytes :=
  if user.isEmpty then sh.get? (text "HOME")
  else (homes.find? fun e => text e.1 == user).map fun e => text e.2

/-- A part of a word that begins where a tilde counts, up to a slash or its end. -/
def withHome (sh : Shell) (complete : Bool) (bs : Bytes) : List Part :=
  match bs with
  | b :: rest =>
    let user := rest.takeWhile (· != Bytes.slash)
    let after := rest.drop user.length
    if b = char '~' && (complete || !after.isEmpty) then
      match home? sh user with
      | some home => [.literal true home, .literal false after]
      | none => [.literal false bs]
    else [.literal false bs]
  | [] => []

/-- The pieces between the colons of a text, of which the first one is taken as it is unless `atStart`. -/
def expandPieces (sh : Shell) (atStart lastPart : Bool) : List Bytes → List Part
  | [] => []
  | [piece] => if atStart then withHome sh lastPart piece else [.literal false piece]
  | piece :: pieces =>
    let first := if atStart then withHome sh true piece else [.literal false piece]
    first ++ .literal false [char ':'] :: expandPieces sh true lastPart pieces

/-- Puts home directories in the place of tildes: at the start of a word, and in the value of an assignment
after every colon too. -/
def expandTildes (sh : Shell) (assignment : Bool) : (atStart : Bool) → Word → Word
  | _, [] => []
  | atStart, .literal false bs :: rest =>
    let pieces := if assignment then Bytes.splitAt (char ':') bs else [bs]
    let parts := if atStart || assignment then expandPieces sh atStart rest.isEmpty pieces else [.literal false bs]
    parts ++ expandTildes sh assignment false rest
  | _, p :: rest => p :: expandTildes sh assignment false rest

/-! ## Expansion of parts -/

/-- What is expanded for: with `fields`, parameters can stay apart; in an assignment, tildes count after
colons too. -/
structure Aim where
  fields : Bool
  assignment : Bool

def Aim.words : Aim := ⟨true, false⟩

def Aim.single : Aim := ⟨false, false⟩

def Aim.assigning : Aim := ⟨false, true⟩

def describe : Arithmetic.Fault → Bytes → Bytes
  | .malformed reason, source => text ("arithmetic expression: " ++ reason ++ ": \"") ++ source ++ text "\""
  | .illegalNumber value, _ => text "Illegal number: " ++ value
  | .constant name, _ => name ++ text ": is read only"

def signed (n : Int) : Bytes := text (toString n)

def calculate (source : Bytes) : Action Bytes := do
  let sh ← get
  match Arithmetic.evaluate sh.get? sh.isConstant source with
  | .ok (n, assigned) =>
    for (name, value) in assigned do modify (·.store name (signed value))
    return signed n
  | .error fault => Action.failBytes (describe fault source)

def notSet {α : Type} (name : Bytes) : Action α := Action.failBytes (name ++ text ": parameter not set")

section
variable (substitute : Command → Action Bytes)

mutual

def part : (fuel : Nat) → Aim → Part → Action (List Chunk)
  | 0, _, _ => return []
  | _ + 1, _, .literal quoted bs => return [.text quoted bs]
  | fuel + 1, aim, .parameter quoted name operator nullCounts operand =>
    parameter fuel aim quoted name operator nullCounts operand
  | _ + 1, _, .substitution quoted body => do return [chunk quoted (← substitute body)]
  | fuel + 1, _, .arithmetic quoted expression => do
    return [chunk quoted (← calculate (join (← parts fuel Aim.single expression)))]

def parts : (fuel : Nat) → Aim → Word → Action (List Chunk)
  | 0, _, _ => return []
  | _ + 1, _, [] => return []
  | fuel + 1, aim, p :: ps => do
    let first ← part fuel aim p
    return first ++ (← parts fuel aim ps)

def parameter : (fuel : Nat) → Aim → (quoted : Bool) → Bytes → Operator → Bool → Word → Action (List Chunk)
  | 0, _, _, _, _, _, _ => return []
  | fuel + 1, aim, quoted, name, operator, nullCounts, operand => do
    let sh ← get
    let value := if isList name then some (List.intercalate (glue sh) sh.args) else parameter? sh name
    let isSet := value.any fun v => !(nullCounts && v.isEmpty)
    let own : List Chunk :=
      if isList name then positional sh aim.fields quoted name else [chunk quoted (value.getD [])]
    let word : Action (List Chunk) := do
      let operand := if quoted then operand else expandTildes sh aim.assignment true operand
      let cs ← parts fuel aim operand
      return if quoted then cs else cs.map exposed
    if name.isEmpty || operator = .unknown then Action.fail "Bad substitution"
    else match operator with
      | .value => if value.isNone && sh.options.has .nounset then notSet name else return own
      | .length =>
        if value.isNone && sh.options.has .nounset then notSet name
        else return [chunk quoted (decimal (if isList name then positionalLength sh else (value.getD []).length))]
      | .default => if isSet then return own else word
      | .alternative => if isSet then word else return if quoted then [.text true []] else []
      | .assign =>
        if isSet then return own
        else
          let cs ← parts fuel Aim.single (expandTildes sh aim.assignment (!quoted) operand)
          if isName name then
            Action.assign name (join cs)
            return [chunk quoted (join cs)]
          else Action.failBytes (name ++ text ": bad variable name")
      | .refuse =>
        if isSet then return own
        else
          let cs ← parts fuel Aim.single (expandTildes sh aim.assignment (!quoted) operand)
          let standard := if nullCounts then "parameter not set or null" else "parameter not set"
          Action.failBytes (name ++ text ": " ++ if operand.isEmpty then text standard else join cs)
      | .dropFront longest | .dropBack longest =>
        if value.isNone && sh.options.has .nounset then notSet name
        else
          let cs ← parts fuel Aim.single (expandTildes sh false true operand)
          let front := match operator with
            | .dropFront _ => true
            | _ => false
          let p := Pattern.ofText (mark cs)
          if isList name && staysApart aim.fields quoted name && !sh.args.isEmpty then
            return separate quoted (stripEach p front longest sh.args)
          else return [chunk quoted (strip p front longest (value.getD []))]
      | .unknown => Action.fail "Bad substitution"

end

/-- Deep enough for every word of a script. -/
def deepest : Nat := 10 ^ 6

def chunks (aim : Aim) (w : Word) : Action (List Chunk) := do
  parts substitute deepest aim (expandTildes (← get) aim.assignment true w)

/-- The text of a word that is not split into fields. -/
def single (w : Word) : Action Bytes := do return join (← chunks substitute Aim.single w)

def assigned (w : Word) : Action Bytes := do return join (← chunks substitute Aim.assigning w)

/-- The text of a here-document, in which a tilde is nothing special. -/
def document (w : Word) : Action Bytes := do return join (← parts substitute deepest Aim.single w)

def pattern (w : Word) : Action Pattern := do return Pattern.ofText (mark (← chunks substitute Aim.single w))

end

/-! ## Fields -/

/-- A field: pieces of text, each quoted or not, last first while the field grows. -/
abbrev Field := List (Bool × Bytes)

structure Splitter where
  done : List Field
  current : Option Field
  /-- Blank separators have just ended a field. -/
  afterBlank : Bool

namespace Splitter

def add (s : Splitter) (quoted : Bool) (bs : Bytes) : Splitter :=
  if bs.isEmpty && !quoted then s
  else { s with current := some ((quoted, bs) :: s.current.getD []), afterBlank := false }

def close (s : Splitter) : Splitter :=
  match s.current with
  | some f => { s with done := f.reverse :: s.done, current := none }
  | none => s

def blank (s : Splitter) : Splitter := { s.close with afterBlank := s.afterBlank || s.current.isSome }

def splitValue (ifs : Bytes) : (fuel : Nat) → Splitter → Bytes → Splitter
  | fuel + 1, s, b :: rest =>
    if ifs.contains b then
      if isBlank b || b == Bytes.newline then splitValue ifs fuel s.blank rest
      else if s.current.isSome || s.afterBlank then splitValue ifs fuel { s.close with afterBlank := false } rest
      else splitValue ifs fuel { s with done := [] :: s.done } rest
    else
      let (run, after) := (b :: rest).span fun b => !ifs.contains b
      splitValue ifs fuel (s.add false run) after
  | _, s, _ => s

def push (ifs : Bytes) (s : Splitter) : Chunk → Splitter
  | .text quoted bs => s.add quoted bs
  | .value bs => splitValue ifs (bs.length + 1) { s with afterBlank := false } bs
  | .gap => s.blank
  | .border => { s with done := (s.current.getD []).reverse :: s.done, current := some [], afterBlank := false }

end Splitter

def split (ifs : Bytes) (cs : List Chunk) : List Field :=
  (cs.foldl (Splitter.push ifs) ⟨[], none, false⟩).close.done.reverse

/-! ## Wildcards -/

def marked (f : Field) : Pattern.Marked := f.flatMap fun (quoted, bs) => bs.map (·, quoted)

def bytesOf (f : Field) : Bytes := f.flatMap (·.2)

def mayExpand (f : Field) : Bool := f.any fun (quoted, bs) =>
  !quoted && (bs.contains (char '*') || bs.contains (char '?') || bs.contains (char '['))

/-- The names in a directory, with those of the directory itself and the one above it in front. -/
def namesAt (v : Kernel.View) (path : Bytes) : List Bytes :=
  match v.tree.locate true v.cwd (if path.isEmpty then Path.here else path) with
  | .ok (l, .directory _) => Path.here :: Path.up :: v.tree.namesIn l
  | _ => []

def splitMarked (bs : Pattern.Marked) : List Pattern.Marked :=
  bs.foldr (fun b parts => if b.1 = Bytes.slash then [] :: parts else
    match parts with
    | [] => [[b]]
    | p :: ps => (b :: p) :: ps) [[]]

/-- The paths that the parts of a pattern fit, below paths that were found already. -/
def below (v : Kernel.View) (found : List Bytes) : List Pattern.Marked → List Bytes
  | [] => found
  | p :: ps =>
    let pattern := Pattern.ofText p
    let next := found.flatMap fun path =>
      if pattern.hasWildcard then
        let point := some (char '.')
        let hidden := (p.map (·.1)).head? == point
        ((namesAt v path).filter fun n => (hidden || n.head? != point) && pattern.fits n).map (path ++ ·)
      else [path ++ p.map (·.1)]
    below v (if ps.isEmpty then next else next.map (· ++ [Bytes.slash])) ps

def paths (v : Kernel.View) (f : Field) : List Bytes :=
  if mayExpand f then
    let found := (below v [[]] (splitMarked (marked f))).filter fun path =>
      match v.tree.locate false v.cwd path with
      | .ok _ => true
      | .error _ => false
    if found.isEmpty then [bytesOf f] else found.mergeSort fun a b => decide (a ≤ b)
  else [bytesOf f]

section
variable (substitute : Command → Action Bytes)

/-- The fields of one word. -/
def fields (w : Word) : Action (List Bytes) := do
  let cs ← chunks substitute Aim.words w
  let sh ← get
  let fs := split sh.separators cs
  if sh.options.has .noglob || !fs.any mayExpand then return fs.map bytesOf
  else
    let v ← Action.lift (Kernel.Activity.look id)
    return fs.flatMap (paths v)

end

end Expansion

end DesktopRefresh.Shell
