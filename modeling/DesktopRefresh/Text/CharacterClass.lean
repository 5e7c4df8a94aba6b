import DesktopRefresh.Bytes

/-!
# Character classes

The classes of bytes that have names. Only bytes of ASCII belong to a class. A bracket expression is a set of
bytes that is made of classes and ranges.
-/

namespace DesktopRefresh

inductive CharacterClass where
  | alnum | alpha | blank | cntrl | digit | graph | lower | print | punct | space | upper | xdigit
  deriving DecidableEq, Repr

namespace CharacterClass

def table : List (String × CharacterClass) :=
  [("alnum", alnum), ("alpha", alpha), ("blank", blank), ("cntrl", cntrl), ("digit", digit), ("graph", graph),
    ("lower", lower), ("print", print), ("punct", punct), ("space", space), ("upper", upper), ("xdigit", xdigit)]

def isLower (b : UInt8) : Bool := 0x61 ≤ b && b ≤ 0x7A

def isUpper (b : UInt8) : Bool := 0x41 ≤ b && b ≤ 0x5A

def isGraph (b : UInt8) : Bool := 0x21 ≤ b && b ≤ 0x7E

def contains (c : CharacterClass) (b : UInt8) : Bool :=
  match c with
  | alnum => isLower b || isUpper b || Bytes.isDigit b
  | alpha => isLower b || isUpper b
  | blank => Bytes.isBlank b
  | cntrl => b < 0x20 || b == 0x7F
  | digit => Bytes.isDigit b
  | graph => isGraph b
  | lower => isLower b
  | print => isGraph b || b == 0x20
  | punct => isGraph b && !(isLower b || isUpper b || Bytes.isDigit b)
  | space => b == 0x20 || (0x09 ≤ b && b ≤ 0x0D)
  | upper => isUpper b
  | xdigit => Bytes.isDigit b || (0x61 ≤ b && b ≤ 0x66) || (0x41 ≤ b && b ≤ 0x46)

def ofName? (name : Bytes) : Option CharacterClass := (table.find? fun e => Bytes.ofString e.1 == name).map (·.2)

end CharacterClass

/-- A member of a bracket expression. -/
inductive BracketItem where
  | range (low high : UInt8)
  | class (c : CharacterClass)
  deriving DecidableEq, Repr

def BracketItem.accepts (b : UInt8) : BracketItem → Bool
  | .range low high => low ≤ b && b ≤ high
  | .class c => c.contains b

end DesktopRefresh
