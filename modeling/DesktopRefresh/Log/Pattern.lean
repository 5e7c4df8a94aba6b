import DesktopRefresh.Text.Alphanumeric
import DesktopRefresh.Text.Blank

/-!
# Patterns of field values

The value that a field has to fit is written as a regular expression. No record lies in a span, so
that what a pattern fits is never asked; `isPattern` says which texts are patterns at all.

Tables of characters are not at hand: classes of letters, digits and blanks, boundaries of words and
letters of either case need ASCII to be asked for with `(?-u)`, and then nothing may fit a part of a
character. An opening brace begins what only a closing one could end, and that one ends the field, so
outside of a class it makes no pattern.
-/

namespace DesktopRefresh.Log.Pattern

/-- The switches that decide how what follows is read. -/
structure Flags where
  unicode : Bool
  anyCase : Bool
  /-- Blanks and comments mean nothing. -/
  spaced : Bool
  deriving DecidableEq, Repr

structure Reading where
  rest : List Char
  flags : Flags
  /-- The names of the groups so far. -/
  names : List (List Char)
  deriving Repr

/-- A reader of a part of a pattern; it fails where no pattern can go on. -/
abbrev Read (α : Type) := StateT Reading Option α

/-! ## Characters -/

def peek : Read (Option Char) := do return (← get).rest.head?

def advance : Read Unit := modify fun r => { r with rest := r.rest.drop 1 }

def next : Read Char := do
  let some c ← peek | failure
  advance
  return c

/-- Passes over a text, if it comes next. -/
def accept (text : String) : Read Bool := do
  let r ← get
  if text.toList.isPrefixOf r.rest then
    set { r with rest := r.rest.drop text.length }
    return true
  else return false

/-- What is left after blanks and comments, which end with their line. -/
def afterBlanks : (comment : Bool) → List Char → List Char
  | _, [] => []
  | true, c :: rest => afterBlanks (c != '\n') rest
  | false, c :: rest =>
    if Text.isBlank c then afterBlanks false rest
    else if c = '#' then afterBlanks true rest
    else c :: rest

def skip : Read Unit := modify fun r => if r.flags.spaced then { r with rest := afterBlanks false r.rest } else r

/-! ## Heights

How deep the parts of a pattern lie in each other is bounded. -/

def greatestHeight : Nat := 250

/-- The height of parts in a row; a single one needs nothing that holds it. -/
def together : List Nat → Nat
  | [] => 0
  | [h] => h
  | hs => hs.foldl max 0 + 1

/-! ## Escapes -/

/-- What stands for itself, or for a class, or for a place between characters. -/
inductive Atom where
  | literal (c : Char)
  /-- A character given by two digits, which without Unicode is a byte. -/
  | byte (c : Char)
  | shorthand
  | place
  deriving DecidableEq, Repr

def hexValue? (c : Char) : Option Nat :=
  if '0' ≤ c ∧ c ≤ '9' then some (c.toNat - 48)
  else if 'a' ≤ c ∧ c ≤ 'f' then some (c.toNat - 87)
  else if 'A' ≤ c ∧ c ≤ 'F' then some (c.toNat - 55)
  else none

def hexNumber : (digits : Nat) → (value : Nat) → Read Nat
  | 0, value => return value
  | digits + 1, value => do
    skip
    let some d := hexValue? (← next) | failure
    hexNumber digits (value * 16 + d)

def hexChar (digits : Nat) : Read Char := do
  let n ← hexNumber digits 0
  skip
  if n < 0xD800 ∨ (0xDFFF < n ∧ n ≤ 0x10FFFF) then return Char.ofNat n else failure

/-- A class or boundary that has an ASCII reading only. -/
def needsAscii (a : Atom) : Read Atom := do
  if (← get).flags.unicode then failure else return a

/-- What follows a backslash. -/
def escape : Read Atom := do
  let c ← next
  match c with
  | 'x' => return .byte (← hexChar 2)
  | 'u' => return .literal (← hexChar 4)
  | 'U' => return .literal (← hexChar 8)
  | 'd' | 's' | 'w' => needsAscii .shorthand
  | 'b' | 'B' | '<' | '>' => needsAscii .place
  | 'A' | 'z' => return .place
  | 'a' | 'f' | 't' | 'n' | 'r' | 'v' => return .literal c
  | c => if c.toNat < 0x80 ∧ !c.isAlphanum then return .literal c else failure

/-- A literal outside of a class. -/
def literal (c : Char) (isByte : Bool) : Read Unit := do
  let f := (← get).flags
  if f.unicode then guard !f.anyCase else guard (!isByte || c.toNat < 0x80)

/-! ## Classes -/

/-- A character of a class. -/
def member (c : Char) : Read Unit := do
  let f := (← get).flags
  if f.unicode then guard !f.anyCase else guard (decide (c.toNat < 0x80))

def classNames : List String :=
  ["alnum", "alpha", "ascii", "blank", "cntrl", "digit", "graph", "lower", "print", "punct", "space", "upper", "word",
    "xdigit"]

/-- The rest of a name such as `[:alpha:]` after its bracket: whether it is negated, and what follows it. -/
def className? (cs : List Char) : Option (Bool × List Char) :=
  match cs with
  | ':' :: rest =>
    let negated := rest.head? == some '^'
    let rest := if negated then rest.drop 1 else rest
    match rest.dropWhile (· != ':') with
    | ':' :: ']' :: after =>
      if classNames.contains (String.ofList (rest.takeWhile (· != ':'))) then some (negated, after) else none
    | _ => none
  | _ => none

def classAtom : Read Atom := do
  match ← next with
  | '\\' => escape
  | c => return .literal c

def asMember : Atom → Read Char
  | .literal c | .byte c => do
    member c
    return c
  | _ => failure

/-- A range, or a single item of a class. -/
def classItem : Read Unit := do
  let first ← classAtom
  skip
  let r ← get
  let isRange := match r.rest with
    | '-' :: after =>
      let after := if r.flags.spaced then afterBlanks false after else after
      !(after.head? == some ']' || after.head? == some '-')
    | _ => false
  if isRange then
    advance
    skip
    let low ← asMember first
    let high ← asMember (← classAtom)
    guard (decide (low ≤ high))
  else match first with
    | .shorthand => pure ()
    | .place => failure
    | a => discard (asMember a)

/-- Hyphens at the beginning of a class, or else a closing bracket, stand for themselves. -/
def leadingItems : (fuel : Nat) → (count : Nat) → Read Nat
  | 0, _ => failure
  | fuel + 1, count => do
    match ← peek with
    | some '-' =>
      member '-'
      advance
      skip
      leadingItems fuel (count + 1)
    | some ']' =>
      if count = 0 then
        member ']'
        advance
        skip
        return 1
      else return count
    | _ => return count

/-- The beginning of a class after its bracket, and how many items it has. Without Unicode the opposite
of a class fits parts of characters. -/
def classStart (fuel : Nat) : Read Nat := do
  skip
  if ← accept "^" then
    guard (← get).flags.unicode
    skip
  leadingItems fuel 0

/-- The rest of a class, with the heights of its items and of the operands before them; its height. -/
def classRest : (fuel : Nat) → (operands items : List Nat) → Read Nat
  | 0, _, _ => failure
  | fuel + 1, operands, items => do
    skip
    let r ← get
    match r.rest with
    | '[' :: rest =>
      match className? rest with
      | some (negated, after) =>
        guard (if r.flags.unicode then !r.flags.anyCase else !negated)
        set { r with rest := after }
        classRest fuel operands (0 :: items)
      | none =>
        advance
        let count ← classStart fuel
        let h ← classRest fuel [] (List.replicate count 0)
        classRest fuel operands ((h + 1) :: items)
    | ']' :: _ =>
      advance
      -- Operators group to the left, so that the first operand lies deepest.
      return (operands.reverse ++ [together items]).tail.foldl (fun h o => max h o + 1)
        ((operands.reverse ++ [together items]).headD 0)
    | '&' :: '&' :: rest | '-' :: '-' :: rest | '~' :: '~' :: rest =>
      set { r with rest := rest }
      classRest fuel (together items :: operands) []
    | _ =>
      classItem
      classRest fuel operands (0 :: items)

/-- A class after its opening bracket; its height. -/
def charClass (fuel : Nat) : Read Nat := do
  let count ← classStart fuel
  return (← classRest fuel [] (List.replicate count 0)) + 1

/-! ## Groups -/

/-- The characters of flags up to the mark that ends them: those that switch on and those that switch off. -/
def flagLetters : (fuel : Nat) → (off : Option (List Char)) → (on : List Char) → Read (List Char × Option (List Char))
  | 0, _, _ => failure
  | fuel + 1, off, on => do
    match ← peek with
    | some ':' | some ')' => return (on, off)
    | some '-' =>
      guard off.isNone
      advance
      flagLetters fuel (some []) on
    | some c =>
      guard ("imsUuRx".toList.contains c && !on.contains c && !(off.getD []).contains c)
      advance
      match off with
      | some cs => flagLetters fuel (some (c :: cs)) on
      | none => flagLetters fuel none (c :: on)
    | none => failure

def switch (on off : List Char) (f : Flags) : Flags :=
  let decided (c : Char) (before : Bool) : Bool := if on.contains c then true else before && !off.contains c
  ⟨decided 'u' f.unicode, decided 'i' f.anyCase, decided 'x' f.spaced⟩

/-- The name of a group up to its closing mark; each can be given once. -/
def groupName : Read Unit := do
  let r ← get
  let name := r.rest.takeWhile (· != '>')
  let isInner (c : Char) : Bool := ['_', '.', '[', ']'].contains c || Text.isAlphanumeric c
  let isFirst (c : Char) : Bool := c == '_' || (Text.isAlphanumeric c && !c.isDigit)
  guard (r.rest.contains '>' && name.head?.any isFirst && name.all isInner && !r.names.contains name)
  set { r with rest := r.rest.drop (name.length + 1), names := name :: r.names }

/-- What a parenthesis begins. -/
inductive Opening where
  | group
  /-- Flags for what follows, without a group. -/
  | flags

def opening (fuel : Nat) : Read Opening := do
  skip
  if ← accept "?P<" then
    groupName
    return .group
  else if ← accept "?<" then
    groupName
    return .group
  else if ← accept "?" then
    let (on, off) ← flagLetters fuel none []
    guard (off != some [])
    modify fun r => { r with flags := switch on (off.getD []) r.flags }
    if (← next) = ':' then return .group
    guard (!on.isEmpty || off.isSome)
    return .flags
  else return .group

/-! ## Whole patterns -/

/-- A part of a pattern that was read: its height, and whether it can be repeated. -/
structure Part where
  height : Nat
  repeatable : Bool

/-- Branches up to the end of a group, with the heights of those before and the parts of the one under
way, last first. -/
def branches : (fuel : Nat) → (before : List Nat) → List Part → Read Nat
  | 0, _, _ => failure
  | fuel + 1, before, parts => do
    skip
    let branch := together (parts.map (·.height))
    let r ← get
    match r.rest with
    | [] | ')' :: _ => return together (branch :: before)
    | c :: _ =>
      advance
      match c with
      | '|' => branches fuel (branch :: before) []
      | '(' =>
        match ← opening fuel with
        | .flags => branches fuel before (⟨0, false⟩ :: parts)
        | .group =>
          let h ← branches fuel [] []
          guard (← accept ")")
          modify fun inner => { inner with flags := r.flags }
          branches fuel before (⟨h + 1, true⟩ :: parts)
      | '[' => do branches fuel before (⟨← charClass fuel, true⟩ :: parts)
      | '*' | '+' | '?' =>
        match parts with
        | p :: rest =>
          guard p.repeatable
          discard (accept "?")
          branches fuel before (⟨p.height + 1, true⟩ :: rest)
        | [] => failure
      | '\x7b' => failure
      | '.' =>
        guard r.flags.unicode
        branches fuel before (⟨0, true⟩ :: parts)
      | '^' | '$' => branches fuel before (⟨0, true⟩ :: parts)
      | '\\' =>
        match ← escape with
        | .literal c => literal c false
        | .byte c => literal c true
        | _ => pure ()
        branches fuel before (⟨0, true⟩ :: parts)
      | c =>
        literal c false
        branches fuel before (⟨0, true⟩ :: parts)

def isPattern (cs : List Char) : Bool :=
  match branches (cs.length + 1) [] [] |>.run ⟨cs, ⟨true, false, false⟩, []⟩ with
  | some (height, r) => r.rest.isEmpty && height ≤ greatestHeight
  | none => false

end DesktopRefresh.Log.Pattern
