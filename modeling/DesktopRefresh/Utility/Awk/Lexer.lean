import DesktopRefresh.Text.Regular.Parser
import DesktopRefresh.Utility.Awk.Program
import DesktopRefresh.Utility.Basic

/-!
# The words of a program

A slash begins a regular expression where no operator can stand, and divides elsewhere.
-/

namespace DesktopRefresh.Awk

open Utility (text)

inductive Token where
  | number (x : Floating)
  | text (bs : Bytes)
  | regular (source : Bytes)
  /-- A name, and whether a parenthesis follows it at once. -/
  | word (name : Bytes) (called : Bool)
  | mark (m : String)
  | newline
  deriving DecidableEq, Repr

structure Lexeme where
  token : Token
  line : Nat
  spelling : Bytes

/-- Why a program cannot be read, with the line. -/
structure Fault where
  line : Nat
  message : Bytes
  /-- The word for the line is left out. -/
  isBare : Bool

def marks : List String :=
  ["&&", "||", "++", "--", "+=", "-=", "*=", "/=", "%=", "^=", "==", "!=", "<=", ">=", ">>", "!~", "(", ")", "[", "]",
    "\x7b", "\x7d", ",", ";", "+", "-", "*", "/", "%", "^", "!", "<", ">", "=", "~", "?", ":", "$", "|"]

def isNameStart (b : UInt8) : Bool := b = Bytes.ascii '_' || Bytes.toLower b != b || Bytes.toUpper b != b

def isNamePart (b : UInt8) : Bool := isNameStart b || Bytes.isDigit b

def keywords : List String :=
  ["BEGIN", "END", "function", "func", "if", "else", "while", "for", "do", "break", "continue", "next", "nextfile",
    "exit", "return", "delete", "in", "getline", "print", "printf"]

/-- Whether an operand has ended, so that an operator can follow. -/
def endsOperand : Option Token → Bool
  | some (.number _) | some (.text _) | some (.regular _) => true
  | some (.word name _) => !keywords.any (text · == name)
  | some (.mark m) => m == ")" || m == "]" || m == "$" || m == "++" || m == "--"
  | _ => false

/-! ## Escapes -/

def letterEscapes : List (Char × UInt8) :=
  [('"', 0x22), ('\\', 0x5C), ('a', 0x07), ('b', 0x08), ('f', 0x0C), ('n', 0x0A), ('r', 0x0D), ('t', 0x09), ('v', 0x0B)]

def isOctalDigit (b : UInt8) : Bool := 0x30 ≤ b && b ≤ 0x37

def octalByte (digits : Bytes) : UInt8 := (digits.foldl (fun (n : Nat) d => n * 8 + (d.toNat - 48)) 0).toUInt8

/-- The text that escapes stand for; a backslash that begins none stands for itself. -/
def unescape : (fuel : Nat) → Bytes → Bytes
  | 0, bs => bs
  | _, [] => []
  | fuel + 1, b :: rest =>
    if b != Bytes.ascii '\\' then b :: unescape fuel rest
    else match rest with
      | [] => [b]
      | c :: after =>
        match letterEscapes.find? fun e => Bytes.ascii e.1 == c with
        | some (_, v) => v :: unescape fuel after
        | none =>
          if isOctalDigit c then
            let digits := (rest.take 3).takeWhile isOctalDigit
            octalByte digits :: unescape fuel (rest.drop digits.length)
          else if c = Bytes.ascii 'x' && (after.head?.any fun d => Floating.digitValue d < 16) then
            let digits := (after.take 2).takeWhile fun d => Floating.digitValue d < 16
            (digits.foldl (fun n d => n * 16 + Floating.digitValue d) 0).toUInt8 :: unescape fuel (after.drop digits.length)
          else if c = Bytes.newline then unescape fuel after
          else b :: c :: unescape fuel after

/-- A byte as it stands for itself in a regular expression. -/
def quotedByte (b : UInt8) : Bytes := if (text ".[]()*+?|^$\\\x7b\x7d").contains b then [Bytes.ascii '\\', b] else [b]

/-- A regular expression with its escapes in the form that all of them are read in. -/
def plainRegular : (fuel : Nat) → (inBrackets : Bool) → Bytes → Bytes
  | 0, _, bs => bs
  | _, _, [] => []
  | fuel + 1, inside, b :: rest =>
    if b = Bytes.ascii '\\' then
      match rest with
      | [] => [b, b]
      | c :: after =>
        let plain (v : UInt8) : Bytes := if inside then [v] else quotedByte v
        if isOctalDigit c then
          let digits := (rest.take 3).takeWhile isOctalDigit
          plain (octalByte digits) ++
            plainRegular fuel inside (rest.drop digits.length)
        else
          let value := match letterEscapes.find? fun e => Bytes.ascii e.1 == c && c != Bytes.ascii '\\' with
            | some (_, v) => v
            | none => c
          plain value ++ plainRegular fuel inside after
    else if inside then b :: plainRegular fuel (b != Bytes.ascii ']') rest
    else if b = Bytes.ascii '[' then
      -- A closing bracket that stands first is one of the bytes.
      let negation := if rest.head? == some (Bytes.ascii '^') then [Bytes.ascii '^'] else []
      let first := if (rest.drop negation.length).head? == some (Bytes.ascii ']') then [Bytes.ascii ']'] else []
      b :: negation ++ first ++ plainRegular fuel true (rest.drop (negation.length + first.length))
    else b :: plainRegular fuel false rest

def regularOf (source : Bytes) : Except Regular.Fault Regular :=
  Regular.ofBytes ⟨true, false⟩ (plainRegular (source.length + 1) false source)

/-! ## Words -/

/-- A text up to a mark that is not escaped, and what follows the mark. -/
def upTo (mark : UInt8) : (fuel : Nat) → (done : Bytes) → Bytes → Option (Bytes × Bytes)
  | fuel + 1, done, b :: c :: rest =>
    if b = Bytes.ascii '\\' then upTo mark fuel (c :: b :: done) rest
    else if b = mark then some (done.reverse, c :: rest)
    else if b = Bytes.newline then none
    else upTo mark fuel (b :: done) (c :: rest)
  | _, done, [b] => if b = mark then some (done.reverse, []) else none
  | _, _, _ => none

def isSpace (b : UInt8) : Bool := b = 0x20 || b = 0x09 || b = 0x0D || b = 0x0C || b = 0x0B

def countLines (bs : Bytes) : Nat := bs.count Bytes.newline

/-- A number that is written with digits at its beginning. -/
def numeral? (bs : Bytes) : Option (Floating × Bytes) :=
  let starts := bs.head?.any Bytes.isDigit || (bs.head? == some (Bytes.ascii '.') && (bs.drop 1).head?.any Bytes.isDigit)
  if !starts then none
  else match Floating.read? bs with
    | some (x, _, rest) =>
      -- The letter of an exponent without digits belongs to the number as well.
      some (x, if rest.head?.any fun b => Bytes.toLower b = Bytes.ascii 'e' then rest.drop 1 else rest)
    | none => none

/-- Cuts a program into its words. -/
def lex : (fuel : Nat) → (line : Nat) → (before : Option Token) → Bytes → Except Fault (List Lexeme)
  | 0, _, _, _ | _, _, _, [] => .ok []
  | fuel + 1, line, before, b :: rest => do
    let bs := b :: rest
    let word (t : Token) (size : Nat) : Except Fault (List Lexeme) := do
      let spelling := bs.take size
      let line' := line + countLines spelling
      return ⟨t, line, spelling⟩ :: (← lex fuel line' (some t) (bs.drop size))
    if isSpace b then lex fuel line before rest
    else if b = Bytes.newline then word .newline 1
    else if b = Bytes.ascii '\\' && rest.head? == some Bytes.newline then lex fuel (line + 1) before (rest.drop 1)
    else if b = Bytes.ascii '#' then lex fuel line before (rest.dropWhile (· != Bytes.newline))
    else if b = Bytes.ascii '"' then
      match upTo b rest.length [] rest with
      | some (inner, after) => word (.text (unescape (inner.length + 1) inner)) (bs.length - after.length)
      | none => throw ⟨line, text "runaway string constant " ++ bs.takeWhile (· != Bytes.newline) ++ text " ...", false⟩
    else if b = Bytes.ascii '/' && !endsOperand before then
      match upTo b rest.length [] rest with
      | some (inner, after) => word (.regular inner) (bs.length - after.length)
      | none => throw ⟨line, text "runaway regular expression " ++ bs.takeWhile (· != Bytes.newline) ++ text " ...", false⟩
    else match numeral? bs with
      | some (x, after) => word (.number x) (bs.length - after.length)
      | none =>
        if isNameStart b then
          let name := bs.takeWhile isNamePart
          word (.word name ((bs.drop name.length).head? == some (Bytes.ascii '('))) name.length
        else match marks.find? fun m => (text m).isPrefixOf bs with
          | some m => word (.mark m) m.length
          | none => throw ⟨line, text "unexpected character '" ++ b :: text "'", true⟩

end DesktopRefresh.Awk
