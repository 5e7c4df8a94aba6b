import DesktopRefresh.Text.CharacterClass

/-!
# Regular expressions

An expression fits parts of a text. Of all parts that it fits the first one counts, and of those that begin
there the longest; its groups are as long as they can be, those to the left first.
-/

namespace DesktopRefresh

/-- A place between two bytes that an expression can ask for. -/
inductive Regular.Boundary where
  | lineStart | lineEnd | wordStart | wordEnd | wordEdge | noWordEdge
  deriving DecidableEq, Repr

inductive Regular where
  | empty
  | byte (b : UInt8)
  | any
  | oneOf (negated : Bool) (items : List BracketItem)
  | place (p : Regular.Boundary)
  | group (number : Nat) (r : Regular)
  /-- The text of a group once more. -/
  | again (number : Nat)
  | sequence (a b : Regular)
  | choice (a b : Regular)
  | repeated (low : Nat) (high : Option Nat) (r : Regular)
  deriving Repr

namespace Regular

def isWordByte (b : UInt8) : Bool := b == Bytes.ascii '_' || CharacterClass.alnum.contains b

/-- A place in a text, with what was read to get there. -/
structure Spot where
  before : Option UInt8
  rest : Bytes
  position : Nat
  /-- The texts of the groups, the latest first. -/
  groups : List (Nat × Bytes)
  deriving DecidableEq, Repr

namespace Spot

def start (text : Bytes) : Spot := ⟨none, text, 0, []⟩

def advance (s : Spot) : Spot :=
  match s.rest with
  | b :: rest => ⟨some b, rest, s.position + 1, s.groups⟩
  | [] => s

def jump : (count : Nat) → Spot → Spot
  | 0, s => s
  | count + 1, s => jump count s.advance

def group? (s : Spot) (number : Nat) : Option Bytes := s.groups.lookup number

end Spot

def Boundary.holds (s : Spot) (p : Boundary) : Bool :=
  let before := s.before.any isWordByte
  let after := s.rest.head?.any isWordByte
  match p with
  | .lineStart => s.before.isNone
  | .lineEnd => s.rest.isEmpty
  | .wordStart => !before && after
  | .wordEnd => before && !after
  | .wordEdge => before != after
  | .noWordEdge => before == after

/-- Puts a place in front of others that are no farther, unless it leads to what one of them leads to. -/
def putFirst (exact : Bool) (s : Spot) (kept : List Spot) : List Spot :=
  let here := kept.takeWhile (·.position == s.position)
  if here.isEmpty then s :: kept
  else s :: (if exact then here.filter (·.groups != s.groups) else []) ++ kept.drop here.length

/-- Longer ways first, and only one way to each place, unless the groups can make a difference later. -/
def settle (exact : Bool) (spots : List Spot) : List Spot :=
  match spots with
  | [] => []
  | [s] => [s]
  | spots => (spots.mergeSort fun a b => b.position ≤ a.position).foldr (putFirst exact) []

/-- Goes a step exactly so many times. -/
def stepping (exact : Bool) (step : Spot → List Spot) : (times : Nat) → List Spot → List Spot
  | 0, spots => spots
  | times + 1, spots => stepping exact step times (settle exact (spots.flatMap step))

/-- Goes a step at most once for each byte of a text. What was found is in order, so that places beyond all of it
are new. -/
def roaming (exact : Bool) (step : Spot → List Spot) : (times : Bytes) → (front found : List Spot) → List Spot
  | [], _, found => found
  | _ :: times, front, found =>
    let next := settle exact (front.flatMap step)
    let isBeyond (s : Spot) : Bool := found.head?.all (·.position < s.position)
    let fresh := next.filter fun s => isBeyond s ||
      !found.any fun f => f.position == s.position && (!exact || f.groups == s.groups)
    if fresh.isEmpty then found
    else
      let found := if fresh.all isBeyond then fresh ++ found else settle exact (found ++ fresh)
      roaming exact step times fresh found

structure Reading where
  anyCase : Bool
  /-- Some group is asked for once more. -/
  exact : Bool
  deriving DecidableEq, Repr

def equalBytes (anyCase : Bool) (a b : UInt8) : Bool := a == b || (anyCase && Bytes.toLower a == Bytes.toLower b)

def accepts (anyCase negated : Bool) (items : List BracketItem) (b : UInt8) : Bool :=
  let isIn (b : UInt8) : Bool := items.any (BracketItem.accepts b)
  (isIn b || (anyCase && (isIn (Bytes.toLower b) || isIn (Bytes.toUpper b)))) != negated

def afterByte (p : UInt8 → Bool) (s : Spot) : List Spot :=
  match s.rest with
  | b :: _ => if p b then [s.advance] else []
  | [] => []

/-- The places that an expression can lead to, the farthest first. -/
def ends (how : Reading) : Regular → Spot → List Spot
  | empty, s => [s]
  | byte b, s => afterByte (equalBytes how.anyCase b) s
  | any, s => afterByte (fun _ => true) s
  | oneOf negated items, s => afterByte (accepts how.anyCase negated items) s
  | place p, s => if p.holds s then [s] else []
  | group number r, s => (ends how r s).map fun e =>
      { e with groups := (number, s.rest.take (e.position - s.position)) :: e.groups }
  | again number, s =>
    match s.group? number with
    | none => []
    | some text =>
      let seen := s.rest.take text.length
      if seen.length = text.length && (seen.zip text).all fun p => equalBytes how.anyCase p.1 p.2 then
        [s.jump text.length]
      else []
  | sequence a b, s => settle how.exact ((ends how a s).flatMap (ends how b))
  | choice a b, s => settle how.exact (ends how a s ++ ends how b s)
  | repeated low high r, s =>
    let base := stepping how.exact (ends how r) low [s]
    let more := match high with
      | some high => (0 :: s.rest).take (high - low)
      | none => 0 :: s.rest
    settle how.exact (roaming how.exact (ends how r) more base base)

/-- Whether some group is asked for once more. -/
def looksBack : Regular → Bool
  | again _ => true
  | group _ r | repeated _ _ r => looksBack r
  | sequence a b | choice a b => looksBack a || looksBack b
  | _ => false

/-- A part of a text that an expression fits. -/
structure Match where
  start : Spot
  stop : Spot

namespace Match

def text (m : Match) : Bytes := m.start.rest.take (m.stop.position - m.start.position)

def isEmpty (m : Match) : Bool := m.start.position == m.stop.position

/-- The text of a group; the whole part is group zero. -/
def group (m : Match) (number : Nat) : Bytes := if number = 0 then m.text else (m.stop.group? number).getD []

end Match

/-- The first part that is fitted from a place on, of which the farthest end that is good enough counts. -/
def searchFrom (how : Reading) (r : Regular) (good : Match → Bool) : (ahead : Bytes) → Spot → Option Match
  | ahead, s =>
    match ((r.ends how s).map (⟨s, ·⟩ : Spot → Match)).find? good, ahead with
    | some m, _ => some m
    | none, [] => none
    | none, _ :: ahead => searchFrom how r good ahead s.advance

/-- The first part of a text that an expression fits, from a place on. -/
def search? (anyCase : Bool) (r : Regular) (s : Spot) : Option Match :=
  searchFrom ⟨anyCase, r.looksBack⟩ r (fun _ => true) s.rest { s with groups := [] }

end Regular

end DesktopRefresh
