import DesktopRefresh.Text.CharacterClass

/-!
# Patterns

A pattern matches text: `*` any text, `?` one byte, a bracket expression one byte out of a set.
Everything that was quoted stands for itself.
-/

namespace DesktopRefresh.Shell

inductive PatternItem where
  | byte (b : UInt8)
  | anyByte
  | anyText
  | oneOf (negated : Bool) (items : List BracketItem)
  deriving DecidableEq, Repr

abbrev Pattern := List PatternItem

namespace Pattern

/-- A text, given which of its bytes are quoted. -/
abbrev Marked := List (UInt8 × Bool)

def char (c : Char) : UInt8 := Bytes.ascii c

/-- The class whose name stands in front, after the bracket that opens it, and what follows it. -/
def class? (m : Marked) : Option (CharacterClass × Marked) :=
  match m with
  | (colon, false) :: rest =>
    if colon = char ':' then
      let name := (rest.map (·.1)).takeWhile CharacterClass.isLower
      match (rest.drop name.length).take 2, CharacterClass.ofName? name with
      | [(colon, false), (bracket, false)], some c =>
        if colon = char ':' ∧ bracket = char ']' then some (c, rest.drop (name.length + 2)) else none
      | _, _ => none
    else none
  | _ => none

/-- The members of a bracket expression, and what follows its closing bracket. -/
def members : (fuel : Nat) → (first : Bool) → Marked → Option (List BracketItem × Marked)
  | fuel + 1, first, (b, quoted) :: rest =>
    let closes := b = char ']' && !quoted && !first
    let named := if b = char '[' && !quoted then class? rest else none
    if closes then some ([], rest)
    else match named with
      | some (c, rest) => (members fuel false rest).map fun (items, after) => (.class c :: items, after)
      | none =>
        let single := (members fuel false rest).map fun (items, after) => (.range b b :: items, after)
        match rest with
        | (dash, false) :: (high, highQuoted) :: rest =>
          if dash = char '-' && !(high = char ']' && !highQuoted) then
            (members fuel false rest).map fun (items, after) => (.range b high :: items, after)
          else single
        | _ => single
  | _, _, _ => none

def ofMarked : (fuel : Nat) → Marked → Pattern
  | fuel + 1, (b, quoted) :: rest =>
    if quoted then .byte b :: ofMarked fuel rest
    else if b = char '*' then .anyText :: ofMarked fuel rest
    else if b = char '?' then .anyByte :: ofMarked fuel rest
    else if b = char '[' then
      let (negated, inner) := match rest with
        | (c, false) :: after => if c = char '!' then (true, after) else (false, rest)
        | _ => (false, rest)
      match members (inner.length + 1) true inner with
      | some (items, after) => .oneOf negated items :: ofMarked fuel after
      | none => .byte b :: ofMarked fuel rest
    else .byte b :: ofMarked fuel rest
  | _, _ => []

/-- The pattern that a text stands for. -/
def ofText (m : Marked) : Pattern := ofMarked (m.length + 1) m

def hasWildcard (p : Pattern) : Bool := p.any fun
  | .byte _ => false
  | _ => true

def PatternItem.accepts (b : UInt8) : PatternItem → Bool
  | .byte c => b = c
  | .anyByte => true
  | .anyText => true
  | .oneOf negated items => items.any (BracketItem.accepts b) != negated

/-- Whether any text before some rest makes the rest match. -/
def skipping (rest : Bytes → Bool) : Bytes → Bool
  | [] => rest []
  | b :: text => rest (b :: text) || skipping rest text

def fits : Pattern → Bytes → Bool
  | [], text => text.isEmpty
  | .anyText :: p, text => skipping (fits p) text
  | item :: p, b :: text => PatternItem.accepts b item && fits p text
  | _ :: _, [] => false

end Pattern

end DesktopRefresh.Shell
