import DesktopRefresh.Shell.State

/-!
# Arguments of own commands

Options are letters after a hyphen, and some of them take an argument; numbers are lists of digits. What is
wrong with an argument ends the command.
-/

namespace DesktopRefresh.Shell.Builtin

open Bytes (isDigit number)
open Shell (text)

/-- What an own command does with its arguments; the answer is its status. -/
abbrev Own := List Bytes → Action Nat

/-- An option that was given. -/
structure Given where
  letter : Char
  argument : Bytes

def isLetter (letters : String) (b : UInt8) : Bool := letters.toList.any (Bytes.ascii · == b)

/-- The options within one argument: single letters, up to one that takes an argument. -/
def cluster (plain valued : String) (rest : List Bytes) : Bytes → List Given → Action (List Given × List Bytes)
  | [], seen => return (seen, rest)
  | b :: bs, seen => do
    let letter := Char.ofNat b.toNat
    if isLetter plain b then cluster plain valued rest bs (⟨letter, []⟩ :: seen)
    else if isLetter valued b then
      match bs, rest with
      | [], a :: rest => return (⟨letter, a⟩ :: seen, rest)
      | [], [] => Action.failBytes (text "No arg for -" ++ [b] ++ text " option")
      | bs, rest => return (⟨letter, bs⟩ :: seen, rest)
    else Action.failBytes (text "Illegal option -" ++ [b])

def optionsFrom (plain valued : String) : (fuel : Nat) → List Bytes → List Given → Action (List Given × List Bytes)
  | 0, args, seen => return (seen.reverse, args)
  | fuel + 1, args, seen => do
    match args with
    | (sign :: b :: bs) :: rest =>
      if sign != Bytes.ascii '-' then return (seen.reverse, args)
      else if b :: bs == text "-" then return (seen.reverse, rest)
      else
        let (seen, rest) ← cluster plain valued rest (b :: bs) seen
        optionsFrom plain valued fuel rest seen
    | _ => return (seen.reverse, args)

/-- The options in front of the arguments, and the other arguments. -/
def options (plain valued : String) (args : List Bytes) : Action (List Given × List Bytes) :=
  optionsFrom plain valued (args.length + 1) args []

/-- The other arguments of a command that has no options. -/
def operands (args : List Bytes) : Action (List Bytes) := do return (← options "" "" args).2

def isNumber (bs : Bytes) : Bool := !bs.isEmpty && bs.all isDigit

def illegalNumber {α : Type} (bs : Bytes) : Action α := Action.failBytes (text "Illegal number: " ++ bs)

def toNumber (bs : Bytes) : Action Nat := if isNumber bs then return number bs else illegalNumber bs

/-- The name and the value of an argument of the form `name=value`. -/
def cutAssignment (a : Bytes) : Bytes × Option Bytes :=
  match a.span (· != Bytes.ascii '=') with
  | (name, _ :: value) => (name, some value)
  | (name, []) => (name, none)

def badName {α : Type} (name : Bytes) : Action α := Action.failBytes (name ++ text ": bad variable name")

/-- The status of a name that stands for nothing. -/
def unknownName : Nat := 127

def checkName (name : Bytes) : Action Unit := if isName name then return () else badName name

/-- Gives a variable a value, if it has a name that variables can have. -/
def assign (name value : Bytes) : Action Unit := do
  checkName name
  Action.assign name value

end DesktopRefresh.Shell.Builtin
