import DesktopRefresh.Log.Level
import DesktopRefresh.Log.Pattern
import DesktopRefresh.Text.Alphanumeric
import DesktopRefresh.Text.Blank
import DesktopRefresh.Text.Utf8

/-!
# Directives

A directive sets the limit for the records of some origin: `target=level`, with a span and fields in
brackets after the target if it is for spans, as in `target[span{field}]=level`. A word of its
own is a level, or else a target whose records are all shown. Blanks around a directive are passed
over when its marks are searched for, but the parts between the marks are cut out of the text with
the blanks, so that blanks in front shift every part. A cut that comes to lie inside a character in this
way cannot be made, and it is not taken for a text that is no directive: it ends the program.
-/

namespace DesktopRefresh.Log

/-- A field that has to be there, with a value or whatever its value. -/
structure FieldPattern where
  name : Bytes
  hasValue : Bool
  deriving DecidableEq, Repr

structure Directive where
  target : Option Bytes
  span : Option Bytes
  fields : List FieldPattern
  limit : Limit
  deriving DecidableEq, Repr

/-- How a directive can fail to be read. -/
inductive Fault where
  /-- The text is no directive. -/
  | malformed
  /-- A part would begin or end inside a character. -/
  | split
  deriving DecidableEq, Repr

def Fault.orMalformed {α : Type} : Option α → Except Fault α
  | some a => .ok a
  | none => .error .malformed

namespace Directive

open Fault (orMalformed)

def all : Limit := some .trace

/-! ## Marks -/

def equals : UInt8 := Bytes.ascii '='

def opening : UInt8 := Bytes.ascii '['

def closing : UInt8 := Bytes.ascii ']'

def openingFields : UInt8 := Bytes.ascii '\x7b'

def closingFields : UInt8 := Bytes.ascii '\x7d'

/-- The text of a directive, with and without the blanks around it. -/
structure Source where
  whole : Bytes
  trimmed : Bytes

namespace Source

def ofChars (cs : List Char) : Source := ⟨Bytes.ofChars cs, Bytes.ofChars (Text.trimChars cs)⟩

def at? (s : Source) (i : Nat) : Option UInt8 := s.trimmed[i]?

/-- The first position from `start` on with one of two marks. -/
def find? (s : Source) (mark other : UInt8) (start : Nat) : Option Nat :=
  ((s.trimmed.drop start).findIdx? fun b => b == mark || b == other).map (· + start)

/-- The position lies inside a character of the whole text: a byte that begins none is there. -/
def splits (s : Source) (i : Nat) : Bool := s.whole[i]?.any fun b => 0x80 ≤ b && b < 0xC0

def between (s : Source) (start stop : Nat) : Except Fault Bytes :=
  if s.splits start || s.splits stop then .error .split else .ok ((s.whole.drop start).take (stop - start))

def after (s : Source) (start : Nat) : Except Fault Bytes :=
  if s.splits start then .error .split else .ok (s.whole.drop start)

end Source

/-! ## Reading -/

/-- An empty level is the most detailed one. -/
def readLimit (bs : Bytes) : Except Fault Limit := if bs.isEmpty then .ok all else orMalformed (Limit.ofBytes? bs)

def withoutSign (bs : Bytes) : Bytes :=
  if bs.head? == some (Bytes.ascii '+') || bs.head? == some (Bytes.ascii '-') then bs.drop 1 else bs

/-- A decimal fraction, maybe with an exponent, or a word for what is no finite number. -/
def isNumber (bs : Bytes) : Bool :=
  let bs := withoutSign bs
  let (whole, rest) := bs.span Bytes.isDigit
  let (fraction, rest) := if rest.head? == some (Bytes.ascii '.') then (rest.drop 1).span Bytes.isDigit else ([], rest)
  let isExponent := match rest with
    | [] => true
    | e :: digits =>
      let digits := withoutSign digits
      Bytes.toLower e == Bytes.ascii 'e' && !digits.isEmpty && digits.all Bytes.isDigit
  ["inf", "infinity", "nan"].any (Bytes.ofString · == bs.map Bytes.toLower) ||
    (!(whole.isEmpty && fraction.isEmpty) && isExponent)

/-- A value is a number or else a pattern. -/
def isValue (bs : Bytes) : Bool := isNumber bs || (Utf8.decode? bs).any fun s => Pattern.isPattern s.toList

/-- A name, and a value between the first two marks after it. -/
def fieldPattern (bs : Bytes) : Except Fault FieldPattern :=
  match Bytes.splitAt equals bs with
  | name :: value :: _ => if isValue value then .ok ⟨name, true⟩ else .error .malformed
  | _ => .ok ⟨bs, false⟩

/-- What follows the brackets: nothing, or a level. -/
def readEnd (s : Source) (d : Directive) (i : Nat) : Except Fault Directive :=
  match s.at? i with
  | none => .ok d
  | some b =>
    if b = equals then do
      let limit ← readLimit (← s.after (i + 1))
      return { d with limit := limit }
    else .error .malformed

/-- The inside of the brackets: a span, and at most one field in braces. -/
def readSpan (s : Source) (target : Option Bytes) (start : Nat) : Except Fault Directive := do
  let i ← orMalformed (s.find? closing openingFields start)
  let span ← s.between start i
  if s.at? i = some closing then
    readEnd s ⟨target, some span, [], all⟩ (i + 1)
  else
    let j ← orMalformed (s.find? closingFields closingFields (i + 1))
    let field ← s.between (i + 1) j
    if field.isEmpty || s.at? (j + 1) != some closing then .error .malformed
    else
      let pattern ← fieldPattern field
      readEnd s ⟨target, if span.isEmpty then none else some span, [pattern], all⟩ (j + 2)

def startsTarget (c : Char) : Bool := c == '-' || c == ':' || c == '_' || Text.isAlphanumeric c

def readTarget (s : Source) : Except Fault Directive :=
  match s.find? equals opening 0 with
  | none =>
    match Limit.ofBytes? s.whole with
    | some limit => .ok ⟨none, none, [], limit⟩
    | none => .ok ⟨some s.whole, none, [], all⟩
  | some i => do
    let target ← s.between 0 i
    if s.at? i = some equals then
      let limit ← readLimit (← s.after (i + 1))
      return ⟨some target, none, [], limit⟩
    else readSpan s (some target) (i + 1)

def read (cs : List Char) : Except Fault Directive :=
  let s := Source.ofChars cs
  match (Text.trimChars cs).head? with
  | none => .error .malformed
  | some c => if c = '[' then readSpan s none 1 else if startsTarget c then readTarget s else .error .malformed

/-! ## Meaning -/

/-- A directive for spans of some name, or for fields with some value, says nothing of single records. -/
def isStatic (d : Directive) : Bool := d.span.isNone && !d.fields.any (·.hasValue)

/-- The one field that every record has. -/
def messageField : Bytes := Bytes.ofString "message"

def covers (d : Directive) (r : Record) : Bool :=
  d.isStatic && d.target.all (·.isPrefixOf (Bytes.ofString r.origin.path)) && d.fields.all (·.name == messageField)

/-- One directive is at least as specific as another: its target is at least as long, and then it
names at least as many fields. -/
def isAsSpecificAs (d e : Directive) : Bool :=
  let size (d : Directive) : Nat := (d.target.map (·.length + 1)).getD 0
  size e < size d || (size e == size d && e.fields.length ≤ d.fields.length)

end Directive

end DesktopRefresh.Log
