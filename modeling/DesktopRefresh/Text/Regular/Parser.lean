import DesktopRefresh.Text.Regular

/-!
# Reading regular expressions

An expression is written in one of two ways: in the basic one the marks for groups, choices and bounds begin
with a backslash, in the extended one they do not. What stands where it can have no meaning is either a fault
or taken for itself.
-/

namespace DesktopRefresh.Regular

structure Dialect where
  extended : Bool
  /-- Marks for repetition need something in front of them. -/
  strict : Bool
  deriving DecidableEq, Repr

/-- Why a text is no expression. -/
inductive Fault where
  | openGroup | closedGroup | openBracket | openBound | bound | tooBig | repetition | rangeEnd | className
  | collation | reference | backslash | classSyntax | malformed
  deriving DecidableEq, Repr

def Fault.message : Fault → String
  | openGroup => "Unmatched ( or \\("
  | closedGroup => "Unmatched ) or \\)"
  | openBracket => "Unmatched [, [^, [:, [., or [="
  | openBound => "Unmatched \\\x7b"
  | bound => "Invalid content of \\\x7b\\\x7d"
  | tooBig => "Regular expression too big"
  | repetition => "Invalid preceding regular expression"
  | rangeEnd => "Invalid range end"
  | className => "Invalid character class name"
  | collation => "Invalid collation character"
  | reference => "Invalid back reference"
  | backslash => "Trailing backslash"
  | malformed => "Invalid regular expression"
  | classSyntax => "character class syntax is [[:space:]], not [:space:]"

inductive Token where
  | single (r : Regular)
  | openGroup | closeGroup | or
  | bounds (low : Nat) (high : Option Nat)
  | reference (number : Nat)

/-! ## Bracket expressions -/

def char (c : Char) : UInt8 := Bytes.ascii c

/-- What stands up to a mark and a closing bracket, and what follows those. -/
def untilMark (mark : UInt8) : Bytes → Option (Bytes × Bytes)
  | a :: b :: rest =>
    if a = mark ∧ b = char ']' then some ([], rest)
    else (untilMark mark (b :: rest)).map fun (inner, after) => (a :: inner, after)
  | _ => none

/-- A single byte of a bracket expression or a whole class. -/
def bracketItem : Bytes → Except Fault (BracketItem × Bytes)
  | [] => .error .openBracket
  | a :: rest =>
    match rest with
    | mark :: inner =>
      if a = char '[' && (mark = char ':' || mark = char '.' || mark = char '=') then
        match untilMark mark inner with
        | none => .error .openBracket
        | some (name, after) =>
          if mark = char ':' then
            match CharacterClass.ofName? name with
            | some c => .ok (.class c, after)
            | none => .error .className
          else match name with
            | [b] => .ok (.range b b, after)
            | _ => .error .collation
      else .ok (.range a a, rest)
    | [] => .ok (.range a a, rest)

/-- The members up to the closing bracket, and what follows it. -/
def bracketItems : (fuel : Nat) → (first : Bool) → Bytes → Except Fault (List BracketItem × Bytes)
  | 0, _, _ | _, _, [] => .error .openBracket
  | fuel + 1, first, b :: rest =>
    if b = char ']' ∧ !first then .ok ([], rest)
    else do
      let (item, after) ← bracketItem (b :: rest)
      match item, after with
      | .range low _, dash :: high :: more =>
        if dash = char '-' ∧ high != char ']' then
          match ← bracketItem (high :: more) with
          | (.range high _, after) =>
            if high < low then .error .rangeEnd
            else
              let (items, after) ← bracketItems fuel false after
              return (.range low high :: items, after)
          | _ => .error .rangeEnd
        else
          let (items, after) ← bracketItems fuel false after
          return (item :: items, after)
      | _, _ =>
        let (items, after) ← bracketItems fuel false after
        return (item :: items, after)

/-- A bracket expression after its opening bracket. -/
def bracket (bs : Bytes) : Except Fault (Regular × Bytes) := do
  let negated := bs.head? == some (char '^')
  let inner := if negated then bs.drop 1 else bs
  if inner.isEmpty then throw .malformed
  let (items, after) ← bracketItems (inner.length + 1) true inner
  let written := bs.take (bs.length - after.length - 1)
  let looksLikeClass := 2 < written.length && written.head? == some (char ':') && written.getLast? == some (char ':')
  if looksLikeClass then .error .classSyntax else return (.oneOf negated items, after)

/-! ## Bounds -/

def greatestBound : Nat := 32767

/-- The bounds of a repetition after its brace, and what follows it. -/
def bounds (closing : Bytes) (bs : Bytes) : Except Fault ((Nat × Option Nat) × Bytes) := do
  let lowDigits := bs.takeWhile Bytes.isDigit
  let rest := bs.drop lowDigits.length
  let low := Bytes.number lowDigits
  let (high, rest) := match rest with
    | comma :: more =>
      if comma = char ',' then
        let digits := more.takeWhile Bytes.isDigit
        (if digits.isEmpty then none else some (Bytes.number digits), more.drop digits.length)
      else (some low, rest)
    | [] => (some low, rest)
  if rest.isEmpty then .error .openBound
  else if !closing.isPrefixOf rest || (lowDigits.isEmpty && rest.length = bs.length) then .error .bound
  else if high.any (· < low) then .error .bound
  else if greatestBound < max low (high.getD 0) then .error .tooBig
  else return ((low, high), rest.drop closing.length)

/-! ## Tokens -/

/-- What a letter behind a backslash stands for. -/
def escapes : List (Char × Regular) :=
  [('w', .oneOf false [.class .alnum, .range (char '_') (char '_')]),
    ('W', .oneOf true [.class .alnum, .range (char '_') (char '_')]),
    ('s', .oneOf false [.class .space]), ('S', .oneOf true [.class .space]),
    ('b', .place .wordEdge), ('B', .place .noWordEdge), ('<', .place .wordStart), ('>', .place .wordEnd),
    ('\x60', .place .lineStart), ('\'', .place .lineEnd)]

/-- Marks whose meaning depends on a backslash in front of them. -/
def marks : List (Char × Token) :=
  [('(', .openGroup), (')', .closeGroup), ('|', .or), ('+', .bounds 1 none), ('?', .bounds 0 (some 1))]

/-- What comes before the next token: whether nothing can be repeated yet, and whether a part begins here. -/
structure Context where
  nothing : Bool
  begins : Bool

def Context.fresh : Context := ⟨true, true⟩

def Context.within : Context := ⟨false, false⟩

def Context.after (c : Context) : Token → Context
  | .openGroup | .or => .fresh
  | .single (.place .lineStart) => ⟨c.nothing, false⟩
  | _ => .within

def literal (b : UInt8) : Token := .single (.byte b)

/-- The end of a part: of the expression, of a group or of a choice. -/
def endsPart (bs : Bytes) : Bool :=
  bs.isEmpty || (Bytes.ofString "\\)").isPrefixOf bs || (Bytes.ofString "\\|").isPrefixOf bs

/-- Bounds, or the brace itself if there are none. -/
def braceToken (d : Dialect) (c : Context) (rest : Bytes) : Except Fault (Token × Bytes) :=
  let closing := if d.extended then [char '\x7d'] else Bytes.ofString "\\\x7d"
  if c.nothing && d.strict then .error .repetition
  else if c.nothing && !d.extended then .error .repetition
  else match bounds closing rest with
    | .ok ((low, high), after) => .ok (.bounds low high, after)
    | .error .openBound => if d.extended && !d.strict then .ok (literal (char '\x7b'), rest) else .error .openBound
    | .error e =>
      let hasBounds := (rest.drop (rest.takeWhile fun b => Bytes.isDigit b || b = char ',').length).head? ==
        some (char '\x7d')
      if d.extended && !d.strict && e = .bound && !(hasBounds && rest.head?.any Bytes.isDigit) then
        .ok (literal (char '\x7b'), rest)
      else .error e

def escapeToken (d : Dialect) (c : Context) (b : UInt8) (rest : Bytes) : Except Fault (Token × Bytes) :=
  if Bytes.isDigit b && b != char '0' then .ok (.reference (b.toNat - 48), rest)
  else match escapes.find? fun e => char e.1 == b with
    | some (_, r) => .ok (.single r, rest)
    | none =>
      if d.extended then .ok (literal b, rest)
      else if b = char '\x7b' then braceToken d c rest
      else match marks.find? fun e => char e.1 == b with
        | some (_, .bounds low high) =>
          if c.nothing then .ok (literal b, rest) else .ok (.bounds low high, rest)
        | some (_, t) => .ok (t, rest)
        | none => .ok (literal b, rest)

def plainToken (d : Dialect) (c : Context) (b : UInt8) (rest : Bytes) : Except Fault (Token × Bytes) := do
  if b = char '[' then
    let (r, after) ← bracket rest
    return (.single r, after)
  else if b = char '.' then return (.single .any, rest)
  else if b = char '*' then
    if c.nothing && !d.extended then return (literal b, rest) else return (.bounds 0 none, rest)
  else if b = char '^' then
    return (if d.extended || c.begins then .single (.place .lineStart) else literal b, rest)
  else if b = char '$' then
    return (if d.extended || endsPart rest then .single (.place .lineEnd) else literal b, rest)
  else if !d.extended then return (literal b, rest)
  else if b = char '\x7b' then braceToken d c rest
  else match marks.find? fun e => char e.1 == b with
    | some (_, t) => return (t, rest)
    | none => return (literal b, rest)

def tokens (d : Dialect) : (fuel : Nat) → Context → Bytes → Except Fault (List Token)
  | 0, _, _ | _, _, [] => .ok []
  | fuel + 1, c, b :: rest => do
    let (t, after) ← match rest with
      | e :: more => if b = char '\\' then escapeToken d c e more else plainToken d c b rest
      | [] => if b = char '\\' then .error .backslash else plainToken d c b rest
    let others ← tokens d fuel (c.after t) after
    return t :: others

/-! ## Expressions -/

/-- What is read so far of a group. -/
structure Frame where
  number : Nat
  /-- The choice before the last bar. -/
  before : Option Regular
  /-- The parts behind that, the last first. -/
  parts : List Regular
  /-- The last part can be repeated. -/
  repeatable : Bool
  /-- The last part is a repetition. -/
  isRepetition : Bool

namespace Frame

def new (number : Nat) : Frame := ⟨number, none, [], false, false⟩

def branch (f : Frame) : Regular :=
  match f.parts with
  | [] => .empty
  | last :: earlier => earlier.foldl (fun r p => .sequence p r) last

def whole (f : Frame) : Regular :=
  match f.before with
  | some r => .choice r f.branch
  | none => f.branch

def add (f : Frame) (r : Regular) (repeatable : Bool) : Frame :=
  { f with parts := r :: f.parts, repeatable := repeatable, isRepetition := false }

end Frame

structure Reader where
  /-- The groups that are open, the innermost first. -/
  frames : List Frame
  groups : Nat
  closed : List Nat

def isMark : Regular → Bool
  | .place .lineStart => true
  | _ => false

def read (d : Dialect) (r : Reader) (t : Token) : Except Fault Reader :=
  match r.frames with
  | [] => .ok r
  | f :: outer =>
    match t with
    | .single e => .ok { r with frames := f.add e (!isMark e) :: outer }
    | .openGroup => .ok { r with frames := Frame.new (r.groups + 1) :: f :: outer, groups := r.groups + 1 }
    | .or => .ok { r with frames := { Frame.new f.number with before := some f.whole } :: outer }
    | .reference n =>
      if r.closed.contains n then .ok { r with frames := f.add (.again n) true :: outer } else .error .reference
    | .bounds low high =>
      if !f.repeatable && d.strict then .error .repetition
      else if f.isRepetition && d.strict && !d.extended then .error .repetition
      else match f.parts with
        | last :: earlier =>
          if f.repeatable then
            .ok { r with frames :=
              { f with parts := .repeated low high last :: earlier, isRepetition := true } :: outer }
          else .ok r
        | [] => .ok r
    | .closeGroup =>
      match outer with
      | g :: more =>
        .ok { r with frames := g.add (.group f.number f.whole) true :: more, closed := f.number :: r.closed }
      | [] =>
        if d.extended && !d.strict then .ok { r with frames := [f.add (.byte (char ')')) true] }
        else .error .closedGroup

/-- The expression that a text stands for. -/
def ofBytes (d : Dialect) (bs : Bytes) : Except Fault Regular := do
  let ts ← tokens d (bs.length + 1) .fresh bs
  let r ← ts.foldlM (read d) ⟨[Frame.new 0], 0, []⟩
  match r.frames with
  | [f] => return f.whole
  | _ => .error .openGroup

/-- How many groups an expression has. -/
def groupCount : Regular → Nat
  | .group _ r => groupCount r + 1
  | .repeated _ _ r => groupCount r
  | .sequence a b | .choice a b => groupCount a + groupCount b
  | _ => 0

end DesktopRefresh.Regular
