import DesktopRefresh.Bytes

/-!
# Shell commands

The words and commands of the POSIX shell. A word is a list of parts that are expanded one by one, and
a substitution among them holds the command whose output it stands for. The text of a here-document is
known by a number, since it is read after the command that asks for it.
-/

namespace DesktopRefresh.Shell

/-- What is done with the value of a parameter. -/
inductive Operator where
  | value | length
  /-- Takes the operand if there is no value. -/
  | default
  | assign | refuse
  /-- Takes the operand if there is a value. -/
  | alternative
  | dropFront (longest : Bool)
  | dropBack (longest : Bool)
  | unknown
  deriving DecidableEq, Repr

/-- How a file is opened for a descriptor. -/
inductive Direction where
  | input | output | overwrite | append | both
  deriving DecidableEq, Repr

mutual

inductive Part where
  | literal (quoted : Bool) (text : Bytes)
  /-- An operator with `nullCounts` takes an empty value for none. -/
  | parameter (quoted : Bool) (name : Bytes) (operator : Operator) (nullCounts : Bool) (operand : List Part)
  | substitution (quoted : Bool) (body : Command)
  | arithmetic (quoted : Bool) (expression : List Part)

inductive Redirection where
  | file (descriptor : Nat) (direction : Direction) (path : List Part)
  /-- The descriptor becomes a copy of another one, or is closed. -/
  | copy (descriptor : Nat) (source : List Part)
  | here (descriptor document : Nat)

inductive Command where
  | simple (line : Nat) (assignments : List (Bytes × List Part)) (words : List (List Part))
      (redirections : List Redirection)
  | pipeline (stages : List Command)
  | negation (body : Command)
  | both (left right : Command)
  | either (left right : Command)
  | sequence (left right : Command)
  | background (body : Command)
  | subshell (line : Nat) (body : Command)
  | redirected (line : Nat) (body : Command) (redirections : List Redirection)
  | choice (condition yes no : Command)
  | loop (negated : Bool) (condition body : Command)
  | each (line : Nat) (name : Bytes) (words : List (List Part)) (body : Command)
  | select (line : Nat) (subject : List Part) (arms : List (List (List Part) × Command))
  | define (name : Bytes) (body : Command)
  | nothing

end

instance : Inhabited Command := ⟨.nothing⟩

abbrev Word := List Part

/-! ## Characters -/

def isNameStart (b : UInt8) : Bool := (0x41 ≤ b ∧ b ≤ 0x5A) ∨ (0x61 ≤ b ∧ b ≤ 0x7A) ∨ b = 0x5F

def isNameByte (b : UInt8) : Bool := isNameStart b || Bytes.isDigit b

def isName (bs : Bytes) : Bool :=
  match bs with
  | [] => false
  | b :: rest => isNameStart b && rest.all isNameByte

/-- The one-letter names of what a shell knows about itself. -/
def isSpecial (b : UInt8) : Bool := ['@', '*', '#', '?', '-', '$', '!'].any (Bytes.ascii · = b) || Bytes.isDigit b

end DesktopRefresh.Shell
