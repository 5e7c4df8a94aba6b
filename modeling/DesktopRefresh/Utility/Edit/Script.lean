import DesktopRefresh.Text.Regular.Parser

/-!
# Scripts for editing texts

A script is a list of commands, each of which acts on the lines that it is for. Blocks and jumps lead to
places in that list.
-/

namespace DesktopRefresh.Edit

/-- What a line has to be like. An expression that is left out stands for the last one that was used. -/
inductive Address where
  | line (n : Nat)
  | every (first step : Nat)
  | last
  | fits (r : Option Regular) (anyCase : Bool)

/-- Where a range ends that was begun. -/
inductive Stop where
  | address (a : Address)
  | lines (n : Nat)
  | multiple (n : Nat)

/-- The lines that a command is for. -/
structure Selection where
  first : Option Address
  stop : Option Stop
  negated : Bool

/-- A piece of what is put in the place of a part that was found. -/
inductive Piece where
  | text (bs : Bytes)
  | group (n : Nat)
  /-- Changes the case of what follows: `U` and `L` up to an `E`, `u` and `l` for one byte. -/
  | turn (letter : Char)

/-- A file that lines are written to. -/
inductive Target where
  | output
  | messages
  | file (path : Bytes)
  deriving DecidableEq

structure Substitution where
  /-- The expression, or none for the last one that was used. -/
  expression : Option Regular
  anyCase : Bool
  replacement : List Piece
  everywhere : Bool
  /-- The first of the parts that are replaced. -/
  number : Nat
  prints : Bool
  target : Option Target

inductive Jump where
  | always | ifReplaced | unlessReplaced
  deriving DecidableEq

inductive Action where
  | opening
  | closing
  | label (name : Bytes)
  | jump (j : Jump) (label : Bytes)
  | text (place : Char) (bs : Bytes)
  | file (path : Bytes)
  | lineOf (path : Bytes)
  | write (target : Target) (firstLine : Bool)
  | substitute (s : Substitution)
  | exchange (table : List (UInt8 × UInt8))
  | quit (silent : Bool) (status : Nat)
  | list (width : Option Nat)
  /-- A command that is only a letter. -/
  | plain (letter : Char)

structure Command where
  selection : Selection
  action : Action

/-- Why a text is no script. -/
inductive Fault where
  | unknownCommand (b : UInt8)
  | missingCommand
  | extraCharacters
  | unexpectedComma
  | unmatchedOpening
  | unexpectedClosing
  | closingAddress
  | multipleNegations
  | invalidLineZero
  | relativeFirst
  | oneAddress
  | noAddressComment
  | noAddressLabel
  | emptyLabel
  | expectedBackslash
  | unterminatedAddress
  | unterminatedSubstitution
  | unterminatedExchange
  | differentLengths
  | unknownOption
  | multipleOptions (what : String)
  | zeroNumber
  | missingFile
  | invalidReference (n : Nat)
  | newerVersion
  | expression (f : Regular.Fault)

/-- The character of a mark. -/
def shown (b : UInt8) : String := String.ofList [Char.ofNat b.toNat]

def Fault.message : Fault → String
  | unknownCommand b => "unknown command: \x60" ++ shown b ++ "'"
  | missingCommand => "missing command"
  | extraCharacters => "extra characters after command"
  | unexpectedComma => "unexpected \x60,'"
  | unmatchedOpening => "unmatched \x60\x7b'"
  | unexpectedClosing => "unexpected \x60\x7d'"
  | closingAddress => "\x60\x7d' doesn't want any addresses"
  | multipleNegations => "multiple \x60!'s"
  | invalidLineZero => "invalid usage of line address 0"
  | relativeFirst => "invalid usage of +N or ~N as first address"
  | oneAddress => "command only uses one address"
  | noAddressComment => "comments don't accept any addresses"
  | noAddressLabel => ": doesn't want any addresses"
  | emptyLabel => "\":\" lacks a label"
  | expectedBackslash => "expected \\ after \x60a', \x60c' or \x60i'"
  | unterminatedAddress => "unterminated address regex"
  | unterminatedSubstitution => "unterminated \x60s' command"
  | unterminatedExchange => "unterminated \x60y' command"
  | differentLengths => "strings for \x60y' command are different lengths"
  | unknownOption => "unknown option to \x60s'"
  | multipleOptions what => "multiple " ++ what ++ " options to \x60s' command"
  | zeroNumber => "number option to \x60s' command may not be zero"
  | missingFile => "missing filename in r/R/w/W commands"
  | invalidReference n => "invalid reference \\" ++ toString n ++ " on \x60s' command's RHS"
  | newerVersion => "expected newer version of sed"
  | expression f => f.message

/-- Where the text after a label begins. -/
def labelAt? (commands : List Command) (name : Bytes) : Option Nat :=
  commands.findIdx? fun c => match c.action with
    | .label n => n == name
    | _ => false

/-- Where the block ends that begins before some commands, counted from there. -/
def blockLength : (depth : Nat) → List Command → Nat
  | _, [] => 0
  | depth, c :: rest =>
    match c.action, depth with
    | .opening, _ => blockLength (depth + 1) rest + 1
    | .closing, 0 => 0
    | .closing, depth + 1 => blockLength depth rest + 1
    | _, _ => blockLength depth rest + 1

/-- A label that is jumped to and is not there. -/
def missingLabel? (commands : List Command) : Option Bytes :=
  commands.findSome? fun c => match c.action with
    | .jump _ name => if name.isEmpty || (labelAt? commands name).isSome then none else some name
    | _ => none

end DesktopRefresh.Edit
