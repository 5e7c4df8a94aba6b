import DesktopRefresh.Kernel.Call
import DesktopRefresh.Shell.Arithmetic
import DesktopRefresh.Text.Utf8

/-!
# Conditions

What `test` and `[` decide: properties of texts, numbers and files, negated, joined and grouped. An
argument is an operator or an operand depending on those that follow it, and with up to four arguments
also on their number. A condition that cannot be read has a fault instead of a value.
-/

namespace DesktopRefresh.Shell.Condition

open Bytes (isDigit number)
open Kernel (View)

/-- Why a condition has no value. -/
inductive Fault where
  | notInteger (a : Bytes)
  | missingOperand (op : String)
  | unclosed
  | unexpected (last : Bytes)
  | tooDeep
  deriving DecidableEq, Repr

def Fault.message : Fault → String
  | .notInteger a => "Illegal number: " ++ Utf8.lossy a
  | .missingOperand op => op ++ ": argument expected"
  | .unclosed => "closing paren expected"
  | .unexpected last => (if last.isEmpty then "" else Utf8.lossy last ++ ": ") ++ "unexpected operator"
  | .tooDeep => "expression too deep"

abbrev Value (α : Type) := Except Fault α

/-! ## Operators -/

def integer (bs : Bytes) : Value Int :=
  let trimmed := ((bs.dropWhile Arithmetic.isSpace).reverse.dropWhile Arithmetic.isSpace).reverse
  let negative := trimmed.head? == some (Bytes.ascii '-')
  let digits := if negative || trimmed.head? == some (Bytes.ascii '+') then trimmed.drop 1 else trimmed
  let size : Int := number digits
  let n := if negative then -size else size
  if digits.isEmpty || !digits.all isDigit || n < Arithmetic.least || Arithmetic.greatest < n then
    .error (.notInteger bs)
  else .ok n

/-- Bits of a mode beyond the permissions. -/
def userIdBit : Nat := 0o4000

def groupIdBit : Nat := 0o2000

def stickyBit : Nat := 0o1000

/-- The operators on one operand. -/
def unary? (v : View) (op : String) : Option (Bytes → Value Bool) :=
  let entry (p : Entry → Bool) : Option (Bytes → Value Bool) := some fun a =>
    .ok (match v.tree.stat v.cwd a with
      | .ok e => p e
      | .error _ => false)
  let hasBit (bit : Nat) : Option (Bytes → Value Bool) := entry fun e => e.mode &&& bit != 0
  match op with
  | "-n" => some fun a => .ok !a.isEmpty
  | "-z" => some fun a => .ok a.isEmpty
  | "-e" | "-r" | "-w" | "-O" | "-G" => entry fun _ => true
  | "-f" => entry Entry.isRegular
  | "-d" => entry Entry.isDirectory
  | "-x" => entry fun e => e.isExecutable || e.isDirectory
  | "-s" => entry fun e => e.size != 0
  | "-c" => entry Entry.isDevice
  | "-u" => hasBit userIdBit
  | "-g" => hasBit groupIdBit
  | "-k" => hasBit stickyBit
  | "-L" | "-h" => some fun a => .ok (match v.tree.locate false v.cwd a with
    | .ok (_, e) => e.isLink
    | .error _ => false)
  | "-t" => some fun a => (integer a).map fun _ => false
  | "-b" | "-p" | "-S" => some fun _ => .ok false
  | _ => none

/-- The operators on two files. -/
def comparesFiles? (v : View) (op : String) : Option (Bytes → Bytes → Bool) :=
  let both (p : Location → Location → Bool) (a b : Bytes) : Bool :=
    match v.tree.locate true v.cwd a, v.tree.locate true v.cwd b with
    | .ok (l, _), .ok (m, _) => p l m
    | _, _ => false
  match op with
  | "-nt" => some (both v.tree.isLater)
  | "-ot" => some (both fun a b => v.tree.isLater b a)
  | "-ef" => some (both (· == ·))
  | _ => none

/-- The operators on two operands. -/
def binary? (v : View) (op : String) : Option (Bytes → Bytes → Value Bool) :=
  let numeric (f : Int → Int → Bool) (a b : Bytes) : Value Bool := do return f (← integer a) (← integer b)
  match op with
  | "=" => some fun a b => .ok (a == b)
  | "!=" => some fun a b => .ok (a != b)
  | "<" => some fun a b => .ok (decide (a < b))
  | ">" => some fun a b => .ok (decide (b < a))
  | "-eq" => some (numeric (· == ·))
  | "-ne" => some (numeric (· != ·))
  | "-lt" => some (numeric (· < ·))
  | "-le" => some (numeric (· ≤ ·))
  | "-gt" => some (numeric fun x y => y < x)
  | "-ge" => some (numeric fun x y => y ≤ x)
  | _ => (comparesFiles? v op).map fun f a b => .ok (f a b)

def isBinary (v : View) (a : Bytes) : Bool := (binary? v (Utf8.lossy a)).isSome

/-- What an argument is, given those after it. -/
inductive Role where
  | missing
  | negation | conjunction | disjunction | opening | closing
  | unary (op : String) (apply : Bytes → Value Bool)
  | binary (op : String) (apply : Bytes → Bytes → Value Bool)
  | operand

/-- Nothing follows, or an operator that needs something on its left. -/
def isOperandBefore (v : View) : List Bytes → Bool
  | [] => true
  | [_] => false
  | next :: _ => isBinary v next

def role (v : View) : List Bytes → Role
  | [] => .missing
  | a :: rest =>
    match Utf8.lossy a with
    | "!" => .negation
    | "-a" => .conjunction
    | "-o" => .disjunction
    | "(" => if rest.isEmpty then .operand else .opening
    | ")" => .closing
    | op =>
      match unary? v op, binary? v op with
      | some apply, _ => if isOperandBefore v rest then .operand else .unary op apply
      | none, some apply => .binary op apply
      | none, none => .operand

/-! ## Reading -/

/-- The value of what was read, and the arguments after it. -/
abbrev Reading := Value (Bool × List Bytes)

/-- An operand, with the operator after it if there is one. -/
def comparison (v : View) : List Bytes → Reading
  | [] => .ok (false, [])
  | a :: rest =>
    match role v rest, rest.drop 1 with
    | .binary op _, [] => .error (.missingOperand op)
    | .binary _ apply, b :: rest => do return (← apply a b, rest)
    | _, _ => .ok (!a.isEmpty, rest)

mutual

def primary (v : View) : (fuel : Nat) → List Bytes → Reading
  | 0, _ => .error .tooDeep
  | fuel + 1, args =>
    match role v args, args.drop 1 with
    | .missing, _ => .ok (false, [])
    | .opening, rest =>
      match role v rest with
      | .closing => .ok (false, rest.drop 1)
      | _ => do
        let (value, rest) ← disjunction v fuel rest
        match role v rest with
        | .closing => return (value, rest.drop 1)
        | _ => .error .unclosed
    | .unary _ apply, a :: rest => do return (← apply a, rest)
    | .unary op _, [] => .error (.missingOperand op)
    | _, _ => comparison v args

def negation (v : View) : (fuel : Nat) → List Bytes → Reading
  | 0, _ => .error .tooDeep
  | fuel + 1, args =>
    match role v args with
    | .negation => do
      let (value, rest) ← negation v fuel (args.drop 1)
      return (!value, rest)
    | _ => primary v fuel args

def conjunction (v : View) : (fuel : Nat) → List Bytes → Reading
  | 0, _ => .error .tooDeep
  | fuel + 1, args => do
    let (value, rest) ← negation v fuel args
    match role v rest with
    | .conjunction =>
      let (other, rest) ← conjunction v fuel (rest.drop 1)
      return (value && other, rest)
    | _ => return (value, rest)

def disjunction (v : View) : (fuel : Nat) → List Bytes → Reading
  | 0, _ => .error .tooDeep
  | fuel + 1, args => do
    let (value, rest) ← conjunction v fuel args
    match role v rest with
    | .disjunction =>
      let (other, rest) ← disjunction v fuel (rest.drop 1)
      return (value || other, rest)
    | _ => return (value, rest)

end

/-- A whole condition; what is left over makes the last argument that was read a fault. -/
def whole (args : List Bytes) (reading : Reading) : Value Bool :=
  match reading with
  | .error e => .error e
  | .ok (value, []) => .ok value
  | .ok (_, rest) =>
    let last := (args.take (args.length - rest.length)).getLast?.getD []
    .error (.unexpected last)

def read (v : View) (args : List Bytes) : Value Bool :=
  whole args (disjunction v (5 * args.length + 5) args)

def isParenthesised (args : List Bytes) : Bool :=
  args.head? == some (Bytes.ofString "(") && args.getLast? == some (Bytes.ofString ")")

/-- Arguments with parentheses around them, or a negation in front; `rest` decides what is negated. -/
def enclosed (v : View) (rest : List Bytes → Value Bool) (args : List Bytes) : Value Bool :=
  if isParenthesised args then read v (args.drop 1).dropLast
  else if args.head? == some (Bytes.ofString "!") then (rest (args.drop 1)).map (!·)
  else read v args

/-- Three arguments are a comparison if the second one can be an operator between the others. -/
def ofThree (v : View) (args : List Bytes) : Value Bool :=
  if (args.drop 1).head?.any (isBinary v) then whole args (comparison v args) else enclosed v (read v) args

/-- The value of a condition; without arguments it is false. -/
def evaluate (v : View) (args : List Bytes) : Value Bool :=
  match args with
  | [] => .ok false
  | [_, _, _] => ofThree v args
  | [_, _, _, _] => enclosed v (ofThree v) args
  | _ => read v args

end DesktopRefresh.Shell.Condition
