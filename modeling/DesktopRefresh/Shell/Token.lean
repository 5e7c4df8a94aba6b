import DesktopRefresh.Shell.Command

/-!
# Tokens of a shell script

A script is read token by token, and what a token is can depend on the place where it is expected. The
reader keeps the rest of the script, a token that was looked at too early, and the here-documents that
were asked for and whose texts are still to come.
-/

namespace DesktopRefresh.Shell

/-- The place at which a script stops making sense, and why. -/
structure SyntaxError where
  line : Nat
  message : String
  deriving DecidableEq, Repr

inductive Token where
  | finish
  | newline
  | operator (text : String)
  | keyword (text : String)
  /-- A redirection to or from a file, whose name follows. -/
  | redirection (descriptor : Nat) (direction : Direction)
  | copy (descriptor : Nat)
  | here (descriptor : Nat) (untabbed : Bool)
  /-- A word, and what it says if nothing in it is quoted or expanded. -/
  | word (parts : Word) (plain : Option Bytes)

namespace Token

def keywords : List String :=
  ["!", "case", "do", "done", "elif", "else", "esac", "fi", "for", "if", "in", "then", "until", "while", "\x7b", "\x7d"]

/-- How a token is called in a message. -/
def name : Token → String
  | finish => "end of file"
  | newline => "newline"
  | operator text | keyword text => "\"" ++ text ++ "\""
  | redirection _ _ | copy _ | here _ _ => "redirection"
  | word _ _ => "word"

def isOperator (text : String) : Token → Bool
  | operator t => t == text
  | _ => false

def isKeyword (text : String) : Token → Bool
  | keyword t => t == text
  | _ => false

/-- The tokens before which a list of commands can be empty or end. -/
def endsList : Token → Bool
  | finish => true
  | operator text => [")", ";;"].contains text
  | keyword text => ["do", "done", "elif", "else", "esac", "fi", "then", "\x7d"].contains text
  | _ => false

end Token

/-- A here-document whose text is still to be read. -/
structure Awaited where
  document : Nat
  delimiter : Bytes
  literal : Bool
  untabbed : Bool

structure Reader where
  rest : Bytes
  line : Nat
  pending : Option Token
  /-- The first one asked for comes first. -/
  awaited : List Awaited
  documents : List (Nat × Word)
  nextDocument : Nat
  aliases : List (Bytes × Bytes)
  /-- The aliases that are being read, each with how much of the script is left after it. -/
  active : List (Bytes × Nat)
  /-- The delimiter of the here-document that is being read. -/
  ending : Option Awaited

abbrev Read (α : Type) := StateT Reader (Except SyntaxError) α

namespace Reader

/-- A bound on the steps of any reading. -/
def longest : Nat := 10 ^ 7

def char (c : Char) : UInt8 := Bytes.ascii c

def start (source : Bytes) (nextDocument : Nat) (aliases : List (Bytes × Bytes)) : Reader :=
  ⟨source, 1, none, [], [], nextDocument, aliases, [], none⟩

def fail {α : Type} (message : String) : Read α := do throw ⟨(← get).line, message⟩

def unexpected {α : Type} (t : Token) : Read α := fail (t.name ++ " unexpected")

/-- A token stands where only another one makes sense. -/
def expected {α : Type} (t : Token) (wanted : String) : Read α :=
  fail (t.name ++ " unexpected (expecting \"" ++ wanted ++ "\")")

def putBack (t : Token) : Read Unit := modify fun r => { r with pending := some t }

/-! ## Bytes -/

def newline : UInt8 := Bytes.newline

/-- Passes over a byte and counts the line that may end with it. -/
def advance : Read Unit := modify fun r =>
  match r.rest with
  | [] => r
  | b :: rest => { r with rest := rest, line := if b = newline then r.line + 1 else r.line }

/-- Drops the line ends that a backslash takes away. -/
def joinLines : Bytes → (line : Nat) → Bytes × Nat
  | a :: b :: rest, line =>
    if a = char '\\' ∧ b = newline then joinLines rest (line + 1) else (a :: b :: rest, line)
  | bs, line => (bs, line)

/-- The next byte as it stands. -/
def rawByte : Read (Option UInt8) := do return (← get).rest.head?

/-- The next byte after lines are joined. -/
def peek : Read (Option UInt8) := do
  let r ← get
  let (rest, line) := joinLines r.rest r.line
  set { r with rest := rest, line := line }
  return rest.head?

def next : Read (Option UInt8) := do
  let b ← peek
  advance
  return b

/-- The next byte, of which the line that may end with it does not notice. -/
def nextUncounted : Read (Option UInt8) := do
  let b ← peek
  modify fun r => { r with rest := r.rest.drop 1 }
  return b

/-- Passes over a byte, if it comes next. -/
def accept (c : Char) : Read Bool := do
  if (← peek) = some (char c) then
    advance
    return true
  else return false

end Reader

end DesktopRefresh.Shell
