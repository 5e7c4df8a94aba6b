import DesktopRefresh.Text.Utf8

/-!
# Text without terminal sequences

A terminal reads control sequences as commands. `plain` keeps what it would show: it follows the
terminal's states from byte to byte and drops every byte that belongs to a sequence, and every
control character that is not white space.
-/

namespace DesktopRefresh.Terminal

/-- What the terminal is in the middle of. -/
inductive Mode where
  | ground
  | escape | escapeIntermediate
  | sequence | parameters | intermediates | ignored
  | device | deviceParameters | deviceIntermediates | deviceData | deviceIgnored
  | command
  | message
  deriving DecidableEq, Repr

def Mode.isIntermediate (b : UInt8) : Bool := 0x20 ≤ b && b ≤ 0x2F

def Mode.isParameter (b : UInt8) : Bool := 0x30 ≤ b && b ≤ 0x3B

def Mode.isPrivate (b : UInt8) : Bool := 0x3C ≤ b && b ≤ 0x3F

def Mode.isFinal (b : UInt8) : Bool := 0x40 ≤ b && b ≤ 0x7E

open Mode in
/-- The mode after a byte. A byte that means nothing in a mode leaves it as it is. -/
def Mode.next (m : Mode) (b : UInt8) : Mode :=
  if b = 0x18 ∨ b = 0x1A then ground
  else if b = 0x1B then escape
  else match m with
    | ground => ground
    | escape =>
      if isIntermediate b then escapeIntermediate
      else if b = 0x5B then sequence
      else if b = 0x5D then command
      else if b = 0x50 then device
      else if b = 0x58 ∨ b = 0x5E ∨ b = 0x5F then message
      else if 0x30 ≤ b ∧ b ≤ 0x7E then ground else escape
    | escapeIntermediate => if 0x30 ≤ b ∧ b ≤ 0x7E then ground else escapeIntermediate
    | sequence =>
      if isIntermediate b then intermediates
      else if isParameter b || isPrivate b then parameters
      else if isFinal b then ground else sequence
    | parameters =>
      if isIntermediate b then intermediates
      else if isPrivate b then ignored
      else if isFinal b then ground else parameters
    | intermediates =>
      if isParameter b || isPrivate b then ignored
      else if isFinal b then ground else intermediates
    | ignored => if isFinal b then ground else ignored
    | device =>
      if isIntermediate b then deviceIntermediates
      else if isParameter b || isPrivate b then deviceParameters
      else if isFinal b then deviceData else device
    | deviceParameters =>
      if isIntermediate b then deviceIntermediates
      else if isPrivate b then deviceIgnored
      else if isFinal b then deviceData else deviceParameters
    | deviceIntermediates =>
      if isParameter b || isPrivate b then deviceIgnored
      else if isFinal b then deviceData else deviceIntermediates
    | deviceData => deviceData
    | deviceIgnored => deviceIgnored
    | command => if b = 0x07 then ground else command
    | message => message

/-- Control characters act at once in these modes; in the others they are part of the data. -/
def Mode.obeysControls : Mode → Bool
  | .ground | .escape | .escapeIntermediate | .sequence | .parameters | .intermediates | .ignored => true
  | _ => false

def isSpace (b : UInt8) : Bool := b = 0x20 ∨ b = 0x09 ∨ b = 0x0A ∨ b = 0x0C ∨ b = 0x0D

def Mode.shows (m : Mode) (b : UInt8) : Bool :=
  if b < 0x20 then m.obeysControls && isSpace b
  else m = .ground && b != 0x7F

/-- A byte that is shown ends whatever sequence the terminal was in. -/
def push : Bytes × Mode → UInt8 → Bytes × Mode
  | (shown, m), b => if m.shows b then (b :: shown, .ground) else (shown, m.next b)

def plainBytes (bs : Bytes) : Bytes := (bs.foldl push ([], .ground)).1.reverse

def plain (s : String) : String := Utf8.lossy (plainBytes (Bytes.ofString s))

end DesktopRefresh.Terminal
