import DesktopRefresh.Shell.Condition
import DesktopRefresh.Utility.Basic

/-!
# Conditions as a utility

What the program `test` decides. Its operators are those of the shell, but it reads an expression by the
number of its arguments: one to four of them have readings of their own, and only longer ones are read by
the grammar of conjunctions and disjunctions. Both sides of those are always evaluated.
-/

namespace DesktopRefresh.Utility.Condition

open Kernel (View)
open Shell.Condition (unary? comparesFiles?)

/-- Why an expression has no value. -/
inductive Fault where
  | notInteger (a : Bytes)
  | missingAfter (a : Bytes)
  | notUnary (a : Bytes)
  | notBinary (a : Bytes)
  /-- A parenthesis is not closed, at the end or where something else stands. -/
  | unclosed (found : Option Bytes)
  | extra (a : Bytes)
  deriving DecidableEq, Repr

def Fault.message : Fault → Bytes
  | .notInteger a => text "invalid integer " ++ quoted a
  | .missingAfter a => text "missing argument after " ++ quoted a
  | .notUnary a => quoted a ++ text ": unary operator expected"
  | .notBinary a => quoted a ++ text ": binary operator expected"
  | .unclosed none => quoted (text ")") ++ text " expected"
  | .unclosed (some a) => quoted (text ")") ++ text " expected, found " ++ quoted a
  | .extra a => text "extra argument " ++ quoted a

/-! ## Operators -/

def integer? (bs : Bytes) : Option Int :=
  let isBlank (b : UInt8) : Bool := b == 0x20 || b == 0x09
  let trimmed := ((bs.dropWhile Shell.Arithmetic.isSpace).reverse.dropWhile isBlank).reverse
  let negative := trimmed.head? == some (Bytes.ascii '-')
  let digits := if negative || trimmed.head? == some (Bytes.ascii '+') then trimmed.drop 1 else trimmed
  let size : Int := Bytes.number digits
  if digits.isEmpty || !digits.all Bytes.isDigit then none else some (if negative then -size else size)

/-- A number, or the length of what stands after `-l`. -/
inductive Operand where
  | plain (a : Bytes)
  | length (a : Bytes)

def Operand.value : Operand → Except Fault Int
  | .plain a => match integer? a with
    | some n => .ok n
    | none => .error (.notInteger a)
  | .length a => .ok a.length

def Operand.bytes : Operand → Bytes
  | .plain a => a
  | .length _ => text "-l"

def comparesNumbers? : String → Option (Int → Int → Bool)
  | "-eq" => some (· == ·)
  | "-ne" => some (· != ·)
  | "-lt" => some fun x y => x < y
  | "-le" => some fun x y => x ≤ y
  | "-gt" => some fun x y => y < x
  | "-ge" => some fun x y => y ≤ x
  | _ => none

def binary? (v : View) (op : Bytes) : Option (Operand → Operand → Except Fault Bool) :=
  let name := Utf8.lossy op
  match name, comparesNumbers? name with
  | "=", _ | "==", _ => some fun a b => .ok (a.bytes == b.bytes)
  | "!=", _ => some fun a b => .ok (a.bytes != b.bytes)
  | _, some f => some fun a b => do return f (← a.value) (← b.value)
  | _, none => (comparesFiles? v name).map fun f a b => .ok (f a.bytes b.bytes)

/-- An argument that has the form of an operator on one operand: a minus sign and one byte. -/
def isSwitch (a : Bytes) : Bool := a.head? == some (Bytes.ascii '-') && a.length == 2

/-! ## Reading -/

/-- The value of what was read, and the arguments after it. -/
abbrev Reading := Except Fault (Bool × List Bytes)

def isText (a : Bytes) (s : String) : Bool := a == text s

/-- The last argument of all is the one after which something is missing. -/
def beyond {α : Type} (args : List Bytes) : Except Fault α := .error (.missingAfter (args.getLast?.getD []))

def one : List Bytes → Reading
  | [] => .ok (false, [])
  | a :: rest => .ok (!a.isEmpty, rest)

/-- The operators on one operand; beside those of the shell, whether a file was written since it was read last. -/
def switch? (v : View) (op : Bytes) : Option (Bytes → Except Fault Bool) :=
  match Utf8.lossy op with
  | "-N" => (unary? v "-e").map fun f a => .ok ((f a).toOption.getD false)
  | "-t" => some fun a => if (integer? a).isSome then .ok false else .error (.notInteger a)
  | name => (unary? v name).map fun f a => .ok ((f a).toOption.getD false)

def unary (v : View) (all : List Bytes) : List Bytes → Reading
  | op :: rest =>
    match switch? v op, rest with
    | none, _ => .error (.notUnary op)
    | some _, [] => beyond all
    | some apply, a :: rest => do return (← apply a, rest)
  | [] => beyond all

/-- The operator that comes next with its right operand, measured by its length if `-l` stands before it. -/
def applied (v : View) (left : Operand) : List Bytes → Option Reading
  | op :: b :: rest =>
    (binary? v op).map fun apply =>
      match isText b "-l", rest with
      | true, c :: after => do return (← apply left (.length c), after)
      | _, _ => do return (← apply left (.plain b), rest)
  | _ => none

/-- Two operands with an operator between them, if that is what comes next. -/
def binary (v : View) : List Bytes → Option Reading
  | a :: rest => applied v (.plain a) rest
  | [] => none

/-- Two operands, the left one measured by its length. -/
def measured (v : View) : List Bytes → Option Reading
  | l :: a :: rest => if isText l "-l" then applied v (.length a) rest else none
  | _ => none

def two (v : View) (all args : List Bytes) : Reading :=
  match args with
  | op :: rest =>
    if isText op "!" then do
      let (value, rest) ← one rest
      return (!value, rest)
    else if isSwitch op then unary v all args
    else beyond all
  | [] => beyond all

/-- How many arguments a parenthesis is taken to hold: those before the next closing one, if they are few. -/
def held (rest : List Bytes) : Nat :=
  let inside := (rest.drop 1).takeWhile fun a => !isText a ")"
  if inside.length ≥ 3 && rest.length > 4 then rest.length else inside.length + 1

def isNegation (args : List Bytes) : Bool := args.head?.any (isText · "!")

mutual

def term (v : View) (all : List Bytes) : (fuel : Nat) → List Bytes → Reading
  | 0, _ => beyond all
  | fuel + 1, args =>
    match args with
    | [] => beyond all
    | a :: rest =>
      if isText a "!" then do
        let (value, rest) ← term v all fuel rest
        return (!value, rest)
      else if isText a "(" then
        if rest.isEmpty then beyond all
        else do
          let (value, rest) ← counted v all fuel (held rest) rest
          match rest with
          | [] => .error (.unclosed none)
          | b :: rest => if isText b ")" then return (value, rest) else .error (.unclosed (some b))
      else match measured v args, binary v args with
        | some r, _ => r
        | none, some r => r
        | none, none => if isSwitch a then unary v all args else one args

def conjunction (v : View) (all : List Bytes) : (fuel : Nat) → List Bytes → Reading
  | 0, _ => beyond all
  | fuel + 1, args => do
    let (value, rest) ← term v all fuel args
    match rest with
    | a :: after =>
      if isText a "-a" then
        let (other, rest) ← conjunction v all fuel after
        return (value && other, rest)
      else return (value, rest)
    | [] => return (value, rest)

def disjunction (v : View) (all : List Bytes) : (fuel : Nat) → List Bytes → Reading
  | 0, _ => beyond all
  | fuel + 1, args => do
    let (value, rest) ← conjunction v all fuel args
    match rest with
    | a :: after =>
      if isText a "-o" then
        let (other, rest) ← disjunction v all fuel after
        return (value || other, rest)
      else return (value, rest)
    | [] => return (value, rest)

def three (v : View) (all : List Bytes) : (fuel : Nat) → List Bytes → Reading
  | 0, _ => beyond all
  | fuel + 1, args =>
    match args, binary v (args.take 3) with
    | _, some r => r.map fun (value, _) => (value, args.drop 3)
    | a :: op :: b :: rest, none =>
      if isText a "!" then do
        let (value, rest) ← two v all (op :: b :: rest)
        return (!value, rest)
      else if isText a "(" && isText b ")" then .ok (!op.isEmpty, rest)
      else if isText op "-a" || isText op "-o" then disjunction v all fuel args
      else .error (.notBinary op)
    | _, none => beyond all

/-- So many arguments. -/
def counted (v : View) (all : List Bytes) : (fuel count : Nat) → List Bytes → Reading
  | 0, _, _ => beyond all
  | fuel + 1, count, args =>
    match count with
    | 0 | 1 => one args
    | 2 => two v all args
    | 3 => three v all fuel args
    | 4 =>
      if isNegation args then do
        let (value, rest) ← three v all fuel (args.drop 1)
        return (!value, rest)
      else if args.head?.any (isText · "(") && args[3]?.any (isText · ")") then do
        let (value, rest) ← two v all (args.drop 1)
        return (value, rest.drop 1)
      else disjunction v all fuel args
    | _ => disjunction v all fuel args

end

/-- The value of an expression; without arguments it is false. -/
def evaluate (v : View) (args : List Bytes) : Except Fault Bool :=
  if args.isEmpty then .ok false
  else do
    let (value, rest) ← counted v args (6 * args.length + 6) args.length args
    match rest with
    | [] => return value
    | a :: _ => .error (.extra a)

end DesktopRefresh.Utility.Condition
