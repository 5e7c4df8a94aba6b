import DesktopRefresh.Shell.Command

/-!
# Arithmetic of the shell

Expressions over words of 64 bits with the operators of C, variables by name, and assignment. An operand
that has no effect on the value is read but not evaluated.
-/

namespace DesktopRefresh.Shell.Arithmetic

open Bytes (isBlank isDigit)

inductive Token where
  | finish
  | number (n : Int)
  | name (bs : Bytes)
  | operator (text : String)
  /-- A byte that means nothing here. -/
  | stray
  deriving DecidableEq, Repr

/-- Why an expression has no value. -/
inductive Fault where
  | malformed (reason : String)
  | illegalNumber (text : Bytes)
  | constant (name : Bytes)
  deriving DecidableEq, Repr

/-- The variables are asked for by `read`, and what was assigned is remembered. -/
structure Calculator where
  rest : Bytes
  /-- The token that was read last. -/
  last : Token
  read : Bytes → Option Bytes
  isConstant : Bytes → Bool
  assigned : List (Bytes × Int)

abbrev Calc := StateT Calculator (Except Fault)

/-! ## Numbers -/

def least : Int := -2 ^ 63

def greatest : Int := 2 ^ 63 - 1

/-- Words of 64 bits. -/
def wrap (n : Int) : Int := n.bmod (2 ^ 64)

def digitValue (b : UInt8) : Nat :=
  if isDigit b then b.toNat - 48
  else if 0x61 ≤ b ∧ b ≤ 0x7A then b.toNat - 87
  else if 0x41 ≤ b ∧ b ≤ 0x5A then b.toNat - 55
  else 99

def isDigitOf (base : Nat) (b : UInt8) : Bool := digitValue b < base

/-- The base of a numeral and its digits with what follows: 16 after `0x`, 8 after `0`, 10 otherwise. -/
def cutNumeral (bs : Bytes) : Nat × Bytes × Bytes :=
  match bs with
  | zero :: x :: rest =>
    if zero = 0x30 ∧ (x = Bytes.ascii 'x' ∨ x = Bytes.ascii 'X') ∧ rest.head?.any (isDigitOf 16) then
      (16, rest.span (isDigitOf 16))
    else if zero = 0x30 then (8, bs.span (isDigitOf 8))
    else (10, bs.span isDigit)
  | _ => (10, bs.span isDigit)

def digitsValue (base : Nat) (digits : Bytes) : Nat := digits.foldl (fun n b => n * base + digitValue b) 0

/-- The value of the numeral that a text begins with, and what follows it. -/
def numeral (bs : Bytes) : Int × Bytes :=
  let (base, digits, after) := cutNumeral bs
  (min greatest (digitsValue base digits), after)

def isSpace (b : UInt8) : Bool := b = 0x20 || (0x09 ≤ b && b ≤ 0x0D)

/-- The number that all of a text is, with a sign if it has one; nothing for a text without a number. -/
def integer? (bs : Bytes) : Option Int :=
  let trimmed := bs.dropWhile isSpace
  let negative := trimmed.head? == some (Bytes.ascii '-')
  let signed := negative || trimmed.head? == some (Bytes.ascii '+')
  let (base, digits, after) := cutNumeral (if signed then trimmed.drop 1 else trimmed)
  if digits.isEmpty then if trimmed.isEmpty then some 0 else none
  else
    let size : Int := digitsValue base digits
    let n := if negative then -size else size
    if n < least || greatest < n || !(after.dropWhile isSpace).isEmpty then none else some n

/-! ## Tokens -/

def operators : List String :=
  ["<<=", ">>=", "&&", "||", "==", "!=", "<=", ">=", "<<", ">>", "+=", "-=", "*=", "/=", "%=", "&=", "|=", "^=",
    "+", "-", "*", "/", "%", "<", ">", "=", "!", "~", "&", "|", "^", "(", ")", "?", ":"]

/-- The first token of a text and what follows it. -/
def cutToken (bs : Bytes) : Token × Bytes :=
  match bs.dropWhile fun b => isBlank b || b == Bytes.newline with
  | [] => (.finish, [])
  | b :: rest =>
    if isDigit b then
      let (n, after) := numeral (b :: rest)
      (.number n, after)
    else if isNameStart b then
      let (name, after) := (b :: rest).span isNameByte
      (.name name, after)
    else match operators.find? fun op => (Bytes.ofString op).isPrefixOf (b :: rest) with
      | some op => (.operator op, (b :: rest).drop op.length)
      | none => (.stray, rest)

def next : Calc Token := do
  let c ← get
  let (t, rest) := cutToken c.rest
  set { c with rest := rest }
  return t

def setLast (t : Token) : Calc Unit := modify fun c => { c with last := t }

def fail {α : Type} (reason : String) : Calc α := throw (.malformed reason)

/-! ## Variables and operations -/

def lookUp (name : Bytes) : Calc Int := do
  let c ← get
  match c.assigned.find? (·.1 == name) with
  | some (_, n) => return n
  | none =>
    let value := (c.read name).getD []
    match integer? value with
    | some n => return n
    | none => throw (.illegalNumber value)

def assign (name : Bytes) (n : Int) : Calc Int := do
  let c ← get
  if c.isConstant name then throw (.constant name)
  set { c with assigned := (name, n) :: c.assigned.filter (·.1 != name) }
  return n

def ofBool (b : Bool) : Int := if b then 1 else 0

def bitwise (f : Nat → Nat → Nat) (a b : Int) : Int := wrap (f (a % 2 ^ 64).toNat (b % 2 ^ 64).toNat)

/-- How tightly an operator between two values binds; a small number binds tightly. -/
def looseness? (op : String) : Option Nat :=
  match op with
  | "*" | "/" | "%" => some 0
  | "+" | "-" => some 1
  | "<<" | ">>" => some 2
  | "<" | "<=" | ">" | ">=" => some 3
  | "==" | "!=" => some 4
  | "&" => some 5
  | "^" => some 6
  | "|" => some 7
  | _ => none

def loosest : Nat := 8

def apply (op : String) (a b : Int) : Calc Int :=
  match op with
  | "|" => return bitwise (· ||| ·) a b
  | "^" => return bitwise (· ^^^ ·) a b
  | "&" => return bitwise (· &&& ·) a b
  | "==" => return ofBool (a == b)
  | "!=" => return ofBool (a != b)
  | "<" => return ofBool (a < b)
  | "<=" => return ofBool (a ≤ b)
  | ">" => return ofBool (b < a)
  | ">=" => return ofBool (b ≤ a)
  | "<<" => return wrap (a * 2 ^ (b % 64).toNat)
  | ">>" => return Int.fdiv a (2 ^ (b % 64).toNat)
  | "+" => return wrap (a + b)
  | "-" => return wrap (a - b)
  | "*" => return wrap (a * b)
  | "/" => if b = 0 then fail "division by zero" else return wrap (a.tdiv b)
  | "%" => if b = 0 then fail "division by zero" else return a.tmod b
  | _ => return 0

/-- The operator inside an assignment: `+` for `+=`, nothing for `=`. -/
def assignment? (op : String) : Option String :=
  if op = "=" then some ""
  else if op.endsWith "=" ∧ !(["==", "!=", "<=", ">="].contains op) then some (op.dropEnd 1).toString
  else none

/-! ## Expressions -/

section
-- An expression of any form that begins with a token.
variable (expression : Token → (skipped : Bool) → Calc Int)

/-- A value with its signs, given its first token and the one behind it. -/
def primary : (fuel : Nat) → Token → (ahead : Token) → (skipped : Bool) → Calc Int
  | 0, _, _, _ => fail "expecting primary"
  | fuel + 1, t, ahead, skipped => do
    match t with
    | .number n =>
      setLast ahead
      return n
    | .name name =>
      setLast ahead
      if skipped then return 0 else lookUp name
    | .operator "(" =>
      let n ← expression ahead skipped
      if (← get).last != .operator ")" then fail "expecting ')'"
      setLast (← next)
      return n
    | .operator "+" => primary fuel ahead (← next) skipped
    | .operator "-" => return wrap (-(← primary fuel ahead (← next) skipped))
    | .operator "!" => return ofBool ((← primary fuel ahead (← next) skipped) == 0)
    | .operator "~" => return -(← primary fuel ahead (← next) skipped) - 1
    | _ => fail "expecting primary"

/-- The operator between two values that was read last. -/
def lastOperator? : Calc (Option (String × Nat)) := do
  match (← get).last with
  | .operator op => return (looseness? op).map (op, ·)
  | _ => return none

/-- Goes on after a value and an operator, as long as operators bind more tightly than `bound`. -/
def operations : (fuel : Nat) → Int → String → (own bound : Nat) → (skipped : Bool) → Calc Int
  | 0, a, _, _, _, _ => return a
  | fuel + 1, a, op, own, bound, skipped => do
    let t ← next
    let b ← primary expression fuel t (← next) skipped
    let b ← match ← lastOperator? with
      | some (inner, tight) => if tight < own then operations fuel b inner tight own skipped else pure b
      | none => pure b
    let a ← if skipped then pure b else apply op a b
    match ← lastOperator? with
    | some (later, loose) => if loose < bound then operations fuel a later loose bound skipped else return a
    | none => return a

def binary (fuel : Nat) (t ahead : Token) (skipped : Bool) : Calc Int := do
  let a ← primary expression fuel t ahead skipped
  match ← lastOperator? with
  | some (op, loose) => operations expression fuel a op loose loosest skipped
  | none => return a

def conjunction : (fuel : Nat) → Token → Token → (skipped : Bool) → Calc Int
  | 0, _, _, _ => fail "expecting primary"
  | fuel + 1, t, ahead, skipped => do
    let a ← binary expression fuel t ahead skipped
    if (← get).last == .operator "&&" then
      let t ← next
      let b ← conjunction fuel t (← next) (skipped || a == 0)
      return ofBool (a != 0 && b != 0)
    else return a

def disjunction : (fuel : Nat) → Token → Token → (skipped : Bool) → Calc Int
  | 0, _, _, _ => fail "expecting primary"
  | fuel + 1, t, ahead, skipped => do
    let a ← conjunction expression fuel t ahead skipped
    if (← get).last == .operator "||" then
      let t ← next
      let b ← disjunction fuel t (← next) (skipped || a != 0)
      return ofBool (a != 0 || b != 0)
    else return a

/-- A choice between two values by the one before the question mark. -/
def conditional : (fuel : Nat) → Token → Token → (skipped : Bool) → Calc Int
  | 0, _, _, _ => fail "expecting primary"
  | fuel + 1, t, ahead, skipped => do
    let a ← disjunction expression fuel t ahead skipped
    if (← get).last == .operator "?" then
      let b ← expression (← next) (skipped || a == 0)
      if (← get).last != .operator ":" then fail "expecting ':'"
      let t ← next
      let c ← conditional fuel t (← next) (skipped || a != 0)
      return if a != 0 then b else c
    else return a

end

/-- An expression, which can be an assignment; `depth` bounds how far expressions are nested. -/
def expression : (depth : Nat) → Token → (skipped : Bool) → Calc Int
  | 0, _, _ => fail "expecting primary"
  | depth + 1, t, skipped => do
    let ahead ← next
    let value := conditional (expression depth) (depth + 1) t ahead skipped
    match t, ahead with
    | .name name, .operator op =>
      match assignment? op with
      | some inner =>
        let n ← expression depth (← next) skipped
        if skipped then return n
        else if inner.isEmpty then assign name n
        else assign name (← apply inner (← lookUp name) n)
      | none => value
    | _, _ => value

/-- The value of a text and the assignments in it. -/
def evaluate (read : Bytes → Option Bytes) (isConstant : Bytes → Bool) (source : Bytes) :
    Except Fault (Int × List (Bytes × Int)) := do
  let start : Calculator := ⟨source, .finish, read, isConstant, []⟩
  let whole : Calc Int := do
    let n ← expression (source.length + 6) (← next) false
    if (← get).last != .finish then fail "expecting EOF"
    return n
  let (n, c) ← whole.run start
  return (n, c.assigned)

end DesktopRefresh.Shell.Arithmetic
