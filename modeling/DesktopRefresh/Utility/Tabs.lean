import DesktopRefresh.Utility.Concatenation

/-!
# Utilities for tabs

Tabs reach to the next of some stops. A text can have blanks in place of its tabs, or tabs in place of blanks
that reach up to a stop.
-/

namespace DesktopRefresh.Utility

open Kernel (Activity)

/-! ## Stops -/

/-- What the stops repeat behind the last one that is named. -/
inductive Repeating where
  | never
  /-- At all multiples of a width. -/
  | multiples (width : Nat)
  /-- At multiples of a width from the last stop on. -/
  | steps (width : Nat)
  deriving DecidableEq, Repr

structure TabStops where
  named : List Nat
  behind : Repeating
  deriving DecidableEq, Repr

/-- The first stop behind a column, if there is one. -/
def TabStops.next? (t : TabStops) (column : Nat) : Option Nat :=
  match t.named.find? (column < ·), t.behind with
  | some stop, _ => some stop
  | none, .multiples w => some (column + (w - column % w))
  | none, .steps w => some (column + (w - (column - t.named.getLast?.getD 0) % w))
  | none, .never => none

/-! ## Reading stops -/

/-- The marks that can stand in front of a width. -/
inductive StopMark where
  | plain | slash | plus
  deriving DecidableEq

/-- The stops so far, the number under way with its digits, and the mark that holds for it. -/
structure StopReading where
  named : List Nat
  multiple : Option Nat
  step : Option Nat
  digits : Bytes
  mark : StopMark

abbrev StopFault := Bytes

def onlyLast (mark : String) : StopFault := quoted (text mark) ++ text " specifier only allowed with the last value"

def StopReading.finish (r : StopReading) : Except StopFault StopReading :=
  let n := Bytes.number r.digits
  if r.digits.isEmpty then .ok r
  else match r.mark with
    | .plain => .ok { r with named := r.named ++ [n], digits := [] }
    | .slash => if r.multiple.isSome then .error (onlyLast "/") else .ok { r with multiple := some n, digits := [] }
    | .plus => if r.step.isSome then .error (onlyLast "+") else .ok { r with step := some n, digits := [] }

def StopReading.read (r : StopReading) : Bytes → Except StopFault StopReading
  | [] => r.finish
  | b :: rest => do
    let marked (mark : StopMark) (name : String) : Except StopFault StopReading :=
      if r.digits.isEmpty then { r with mark := mark }.read rest
      else .error (quoted (text name) ++ text " specifier not at start of number: " ++ quoted (b :: rest))
    if b = Bytes.ascii ',' || Bytes.isBlank b then (← r.finish).read rest
    else if b = Bytes.ascii '/' then marked .slash "/"
    else if b = Bytes.ascii '+' then marked .plus "+"
    else if Bytes.isDigit b then
      let digits := r.digits ++ [b]
      if mostCount < Bytes.number digits then
        throw (text "tab stop is too large " ++ quoted (digits ++ rest.takeWhile Bytes.isDigit))
      else ({ r with digits := digits } : StopReading).read rest
    else throw (text "tab size contains invalid character(s): " ++ quoted (b :: rest))

def noStops : StopReading := ⟨[], none, none, [], .plain⟩

/-- Every stop has to be behind the one before it. -/
def isAscending : List Nat → Bool
  | a :: b :: rest => a < b && isAscending (b :: rest)
  | _ => true

/-- The stops that were read. A single one stands for all its multiples. -/
def StopReading.stops (r : StopReading) : Except StopFault TabStops :=
  let wrong? := (r.named.zipIdx).findSome? fun (n, i) =>
    if n = 0 then some (text "tab size cannot be 0")
    else if (r.named.take i).getLast?.any (n ≤ ·) then some (text "tab sizes must be ascending")
    else none
  match wrong?, r.multiple, r.step with
  | some message, _, _ => .error message
  | none, some _, some _ => .error (quoted (text "/") ++ text " specifier is mutually exclusive with " ++ quoted (text "+"))
  | none, some w, none => .ok ⟨r.named, .multiples (max 1 w)⟩
  | none, none, some w => .ok ⟨r.named, if r.named.isEmpty then .multiples (max 1 w) else .steps (max 1 w)⟩
  | none, none, none =>
    match r.named with
    | [] => .ok ⟨[], .multiples 8⟩
    | [w] => .ok ⟨[], .multiples w⟩
    | named => .ok ⟨named, .never⟩

/-! ## Blanks in place of tabs -/

/-- The text so far, last piece first, the column, and whether tabs still count. -/
structure TabState where
  done : List Bytes
  column : Nat
  counts : Bool

def blank : UInt8 := Bytes.ascii ' '

def expandByte (t : TabStops) (onlyLeading : Bool) (s : TabState) (b : UInt8) : TabState :=
  if b = Bytes.newline then ⟨[b] :: s.done, 0, true⟩
  else if !s.counts then { s with done := [b] :: s.done }
  else if b = 0x09 then
    let next := (t.next? s.column).getD (s.column + 1)
    { s with done := List.replicate (next - s.column) blank :: s.done, column := next }
  else
    { done := [b] :: s.done
      column := if b = 0x08 then s.column - 1 else s.column + 1
      counts := !onlyLeading || b = blank }

def expandTabs (t : TabStops) (onlyLeading : Bool) (bs : Bytes) : Bytes :=
  (bs.foldl (expandByte t onlyLeading) ⟨[], 0, true⟩).done.reverse.flatten

/-- Goes on with the stops that options ask for. -/
def withStops (s : Start) (given : List Bytes) (use : TabStops → Activity Nat) : Activity Nat :=
  match given.foldlM (fun r g => StopReading.read { r with mark := .plain, digits := [] } g) noStops with
  | .error message => do
    complain s message
    return 1
  | .ok r =>
    match r.stops with
    | .error message => do
      complain s message
      return 1
    | .ok t => use t

/-- The digits that are options of their own. -/
def stopDigits : List Char := ['0', '1', '2', '3', '4', '5', '6', '7', '8', '9']

def expand : Utility := fun s =>
  let specs : List OptionSpec := [⟨'i', .nothing, ["initial"]⟩, ⟨'t', .argument, ["tabs"]⟩] ++
    stopDigits.map (⟨·, .maybe, []⟩)
  withOptions specs 1 true s fun o =>
    let given := o.given.filterMap fun (letter, a) =>
      if letter = 't' then some a
      else if stopDigits.contains letter then some (Bytes.ascii letter :: a) else none
    withStops s given fun t => do
      let (texts, status) ← gather s 1 (inputsOr o.operands)
      deliver s (expandTabs t (o.has 'i') texts.flatten) status

/-! ## Tabs in place of blanks -/

/-- The text so far, last byte first, with the blanks of which is not known yet whether a tab replaces them. -/
structure BlankState where
  done : Bytes
  column : Nat
  /-- Blanks still become tabs in this line. -/
  counts : Bool
  /-- The byte before was a blank, or the line begins here. -/
  behindBlank : Bool
  pending : Bytes
  /-- The first of the pending blanks was alone in front of a stop. -/
  single : Bool

namespace BlankState

def atStart (done : Bytes) : BlankState := ⟨done, 0, true, true, [], false⟩

/-- Lets the pending blanks out, and a byte behind them. -/
def release (s : BlankState) (wholeLine isBlank : Bool) (b : UInt8) : BlankState :=
  let pending := match s.pending with
    | _ :: rest@(_ :: _) => if s.single then 0x09 :: rest else s.pending
    | few => few
  let s := { s with done := b :: pending.reverse ++ s.done, pending := [], single := s.single && pending.isEmpty
                    behindBlank := isBlank, counts := s.counts && (wholeLine || isBlank) }
  if b = Bytes.newline then atStart s.done else s

def step (t : TabStops) (wholeLine : Bool) (s : BlankState) (b : UInt8) : BlankState :=
  if !s.counts then
    if b = Bytes.newline then atStart (b :: s.done) else { s with done := b :: s.done }
  else if Bytes.isBlank b then
    match t.next? s.column with
    | none => { s with counts := false }.release false true b
    | some next =>
      let kept (bs : Bytes) : Bytes := if s.single then bs.take 1 else []
      if b = 0x09 then
        let pending := match s.pending with
          | _ :: rest => 0x09 :: rest
          | [] => []
        { s with column := next, pending := kept pending }.release wholeLine true b
      else
        let column := s.column + 1
        if s.behindBlank && column = next then
          { s with column := column, pending := kept (0x09 :: s.pending.drop 1) }.release wholeLine true 0x09
        else
          { s with column := column, single := s.single || column = next, pending := s.pending ++ [b]
                   behindBlank := true }
  else
    { s with column := if b = 0x08 then s.column - 1 else s.column + 1 }.release wholeLine false b

end BlankState

def unexpandBlanks (t : TabStops) (wholeLine : Bool) (bs : Bytes) : Bytes :=
  let s := bs.foldl (BlankState.step t wholeLine) (BlankState.atStart [])
  let pending := match s.pending with
    | _ :: rest@(_ :: _) => if s.single then 0x09 :: rest else s.pending
    | few => few
  (pending.reverse ++ s.done).reverse

/-- Stops whose digits are options, with commas between them that are options as well. -/
def spelledStops (given : List (Char × Bytes)) : List Bytes :=
  let spelled := (given.filter fun g => g.1 = ',' || stopDigits.contains g.1).map fun g => Bytes.ascii g.1
  if spelled.isEmpty then [] else [spelled]

def unexpand : Utility := fun s =>
  let specs : List OptionSpec := [⟨'a', .nothing, ["all"]⟩, ⟨'Φ', .nothing, ["first-only"]⟩, ⟨'t', .argument, ["tabs"]⟩,
    ⟨',', .nothing, []⟩] ++ stopDigits.map (⟨·, .nothing, []⟩)
  withOptions specs 1 true s fun o =>
    let given := (o.given.filter (·.1 = 't')).map (·.2)
    withStops s (given ++ spelledStops o.given) fun t => do
      let (texts, status) ← gather s 1 (inputsOr o.operands)
      deliver s (unexpandBlanks t ((o.has 'a' || o.has 't') && !o.has 'Φ') texts.flatten) status

end DesktopRefresh.Utility
