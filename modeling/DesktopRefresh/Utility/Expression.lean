import DesktopRefresh.Text.Regular.Parser
import DesktopRefresh.Utility.Basic

/-!
# Values of expressions

Every argument is a token. Operators bind in levels: texts and parts of them, products, sums, comparisons,
conjunctions, and alternatives. What is not needed for the value is read but not calculated.
-/

namespace DesktopRefresh.Utility

namespace Expression

/-- Why an expression has no value. -/
inductive Fault where
  | missingAfter (token : Bytes)
  | unexpected (token : Bytes)
  | expectedParenthesis (after : Option Bytes)
  | noNumber
  | division
  | pattern (f : Regular.Fault)

def Fault.message : Fault → Bytes
  | missingAfter token => text "syntax error: missing argument after " ++ quoted token
  | unexpected token => text "syntax error: unexpected argument " ++ quoted token
  | expectedParenthesis (some token) => text "syntax error: expecting ')' after " ++ quoted token
  | expectedParenthesis none => text "syntax error: unexpected ')'"
  | noNumber => text "non-integer argument"
  | division => text "division by zero"
  | pattern f => text f.message

/-- What is left of the tokens, and the last one that was read. -/
structure Reader where
  rest : List Bytes
  last : Bytes

abbrev Read (α : Type) := StateT Reader (Except Fault) α

def next? : Read (Option Bytes) := do
  let r ← get
  match r.rest with
  | t :: rest =>
    set (⟨rest, t⟩ : Reader)
    return some t
  | [] => return none

def next : Read Bytes := do
  match ← next? with
  | some t => return t
  | none => throw (.missingAfter (← get).last)

/-- Takes one of some operators, if it comes next. -/
def operator? (names : List String) : Read (Option String) := do
  match (← get).rest with
  | t :: _ =>
    match names.find? fun n => text n == t with
    | some n =>
      discard next
      return some n
    | none => return none
  | [] => return none

def integer? (bs : Bytes) : Option Int :=
  match bs with
  | b :: rest =>
    if b = Bytes.ascii '-' then (natural? rest).map fun n => -(n : Int) else (natural? bs).map fun n => (n : Int)
  | [] => none

def ofInt (n : Int) : Bytes := text (toString n)

/-- Nothing, or a number that is zero. -/
def isNull (bs : Bytes) : Bool :=
  bs.isEmpty || ((if bs.head? == some (Bytes.ascii '-') then bs.drop 1 else bs).all (· == Bytes.ascii '0') &&
    bs != text "-")

/-- The part of a text that a pattern fits at its beginning: its first group, or else its length. -/
def fitted (pattern value : Bytes) : Except Fault Bytes :=
  match Regular.ofBytes ⟨false, true⟩ pattern with
  | .error f => .error (.pattern f)
  | .ok r =>
    let start := Regular.Spot.start value
    match r.ends ⟨false, r.looksBack⟩ start with
    | stop :: _ =>
      let m : Regular.Match := ⟨start, stop⟩
      .ok (if 0 < r.groupCount then m.group 1 else decimal m.text.length)
    | [] => .ok (if 0 < r.groupCount then [] else text "0")

def indexOf (value set : Bytes) : Nat := ((value.findIdx? set.contains).map (· + 1)).getD 0

/-- The part of a text from a position on. -/
def part (value position length : Bytes) : Bytes :=
  match integer? position, integer? length with
  | some p, some n => if 0 < p && 0 < n then (value.drop (p.toNat - 1)).take n.toNat else []
  | _, _ => []

def compare (name : String) (a b : Bytes) : Bool :=
  let order := match integer? a, integer? b with
    | some m, some n => if m < n then Ordering.lt else if m = n then .eq else .gt
    | _, _ => if a < b then .lt else if a == b then .eq else .gt
  match name with
  | "<" => order == .lt
  | "<=" => order != .gt
  | "=" | "==" => order == .eq
  | "!=" => order != .eq
  | ">=" => order != .lt
  | _ => order == .gt

def calculate (name : String) (a b : Bytes) : Except Fault Bytes :=
  match integer? a, integer? b with
  | some m, some n =>
    match name with
    | "+" => .ok (ofInt (m + n))
    | "-" => .ok (ofInt (m - n))
    | "*" => .ok (ofInt (m * n))
    | "/" => if n = 0 then .error .division else .ok (ofInt (m.tdiv n))
    | _ => if n = 0 then .error .division else .ok (ofInt (m.tmod n))
  | _, _ => .error .noNumber

/-- The operators of each level, those that bind least first. -/
def levels : List (List String) :=
  [["|"], ["&"], ["<", "<=", "=", "==", "!=", ">=", ">"], ["+", "-"], ["*", "/", "%"], [":"]]

def apply (name : String) (needed : Bool) (a b : Bytes) : Except Fault Bytes :=
  if !needed then .ok a
  else match name with
    | "|" => .ok (if isNull a then (if isNull b then text "0" else b) else a)
    | "&" => .ok (if isNull a || isNull b then text "0" else a)
    | ":" => fitted b a
    | "<" | "<=" | "=" | "==" | "!=" | ">=" | ">" => .ok (text (if compare name a b then "1" else "0"))
    | name => calculate name a b

/-- The right operand matters for the value. -/
def needsRight (name : String) (a : Bytes) : Bool :=
  match name with
  | "|" => isNull a
  | "&" => !isNull a
  | _ => true

mutual

/-- A single token, or what stands in parentheses or behind a word. -/
def simple (needed : Bool) : (fuel : Nat) → Read Bytes
  | 0 => throw (.missingAfter [])
  | fuel + 1 => do
    let t ← next
    if t == text "(" then
      let v ← level needed levels fuel
      match ← operator? [")"] with
      | some _ => return v
      | none =>
        let r ← get
        throw (match r.rest with
          | [] => .expectedParenthesis (some r.last)
          | t :: _ => .unexpected t)
    else if t == text ")" then throw (.expectedParenthesis none)
    else if t == text "+" then next
    else if t == text "length" then return decimal (← simple needed fuel).length
    else if t == text "match" then
      let value ← simple needed fuel
      let pattern ← simple needed fuel
      if needed then fitted pattern value else return value
    else if t == text "index" then
      let value ← simple needed fuel
      return decimal (indexOf value (← simple needed fuel))
    else if t == text "substr" then
      let value ← simple needed fuel
      let position ← simple needed fuel
      return part value position (← simple needed fuel)
    else return t

/-- Operands with the operators of a level between them. -/
def level (needed : Bool) : List (List String) → (fuel : Nat) → Read Bytes
  | _, 0 => throw (.missingAfter [])
  | [], fuel + 1 => simple needed fuel
  | names :: tighter, fuel + 1 => do
    let first ← level needed tighter fuel
    more needed names tighter first fuel

def more (needed : Bool) (names : List String) (tighter : List (List String)) (value : Bytes) : (fuel : Nat) → Read Bytes
  | 0 => return value
  | fuel + 1 => do
    match ← operator? names with
    | none => return value
    | some name =>
      let inner := needed && needsRight name value
      let right ← level inner tighter fuel
      let value ← match apply name needed value right with
        | .ok v => pure v
        | .error f => throw f
      more needed names tighter value fuel

end

/-- More than the levels of an expression need for each token. -/
def depthPerToken : Nat := 16

def evaluate (tokens : List Bytes) : Except Fault Bytes := do
  let (v, r) ← (level true levels ((tokens.length + 1) * depthPerToken)).run ⟨tokens, []⟩
  match r.rest with
  | [] => return v
  | t :: _ => .error (.unexpected t)

end Expression

open Kernel (Activity)

def expr : Utility := fun s =>
  let args := if s.args.head? == some (text "--") then s.args.drop 1 else s.args
  if args == [text "--help"] || args == [text "--version"] then return 0
  else if args.isEmpty then misuse s 2 (text "missing operand")
  else match Expression.evaluate args with
    | .ok v => deliver s (v ++ [Bytes.newline]) (if Expression.isNull v then 1 else 0)
    | .error f => do
      complain s f.message
      return 2

end DesktopRefresh.Utility
