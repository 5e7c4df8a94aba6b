import DesktopRefresh.Shell.Lexer

/-!
# Commands of a shell script

The grammar of the POSIX shell over tokens. A script is read one complete line at a time, because what
stands before a syntax error is still executed, and can change how the rest is read.
-/

namespace DesktopRefresh.Shell.Parser

open Lexer (Expecting)
open Reader

/-- Where a list of commands stands: on a line of its own, inside of a compound command, or where it can
be empty too. -/
inductive Nesting where
  | line | nested | optional
  deriving DecidableEq

/-- What a script goes on with. -/
inductive Next where
  | finish
  | command (c : Option Command)

section
variable (list : Nesting → Read (Option Command))

def token (e : Expecting) : Read Token := Lexer.token (list .optional) e longest

def nested : Read Command := do return (← list .nested).getD .nothing

def expectKeyword (k : String) : Read Unit := do
  let t ← token list .nothing
  if t.isKeyword k then return () else expected t k

/-! ## Redirections -/

/-- The redirection that a token begins, if it begins one. -/
def redirection? (t : Token) : Read (Option Redirection) := do
  let target : Read Word := do
    match ← Lexer.token (list .optional) .nothing longest with
    | .word w _ => return w
    | t => unexpected t
  match t with
  | .redirection fd direction => return some (.file fd direction (← target))
  | .copy fd => return some (.copy fd (← target))
  | .here fd untabbed =>
    match ← Lexer.raw (list .optional) true longest with
    | .word w _ =>
      let delimiter := w.flatMap fun
        | .literal _ text => text
        | _ => []
      let literal := w.any fun
        | .literal quoted _ => quoted
        | _ => false
      let r ← get
      let a : Awaited := ⟨r.nextDocument, delimiter, literal, untabbed⟩
      set { r with awaited := r.awaited ++ [a], nextDocument := r.nextDocument + 1 }
      return some (.here fd r.nextDocument)
    | t => unexpected t
  | _ => return none

/-- The redirections behind a compound command. Words of the grammar are looked for only in front of them. -/
def redirections : (fuel : Nat) → List Redirection → Read (List Redirection)
  | 0, seen => return seen.reverse
  | fuel + 1, seen => do
    let t ← token list (if seen.isEmpty then .command else .nothing)
    match ← redirection? list t with
    | some r => redirections fuel (r :: seen)
    | none =>
      putBack t
      return seen.reverse

/-! ## Simple commands -/

/-- A word of the form `name=value`, with what belongs to the value. -/
def assignment? : Word → Option (Bytes × Word)
  | .literal false text :: rest =>
    let name := text.takeWhile (· != char '=')
    match text.dropWhile (· != char '=') with
    | [] => none
    | _ :: value =>
      if isName name then some (name, if value.isEmpty then rest else .literal false value :: rest) else none
  | _ => none

structure Simple where
  assignments : List (Bytes × Word)
  words : List Word
  redirections : List Redirection
  /-- What the last word says, if it is plain. -/
  last : Option Bytes

/-- The names that cannot be those of functions. -/
def specialCommands : List String :=
  [".", ":", "break", "continue", "eval", "exec", "exit", "export", "readonly", "return", "set", "shift", "times", "trap",
    "unset"]

/-- The rest of a simple command, or of the definition of a function. -/
def simple (command : Read Command) (line : Nat) : (fuel : Nat) → Simple → Read Command
  | 0, _ => return .nothing
  | fuel + 1, s => do
    let finish (t : Token) : Read Command := do
      putBack t
      return .simple line s.assignments s.words s.redirections
    let t ← token list ⟨false, false, s.words.isEmpty⟩
    match t with
    | .word w plain =>
      match (if s.words.isEmpty then assignment? w else none) with
      | some a => simple command line fuel { s with assignments := s.assignments ++ [a] }
      | none => simple command line fuel { s with words := s.words ++ [w], last := plain }
    | .operator "(" =>
      if s.words.length = 1 && s.assignments.isEmpty && s.redirections.isEmpty then
        let closing ← token list .nothing
        if !closing.isOperator ")" then expected closing ")"
        else match s.last with
          | some name =>
            if isName name && !specialCommands.any (Bytes.ofString · == name) then return .define name (← command)
            else fail "Bad function name"
          | none => fail "Bad function name"
      else finish t
    | t =>
      match ← redirection? list t with
      | some r => simple command line fuel { s with redirections := s.redirections ++ [r] }
      | none => finish t

/-! ## Compound commands -/

/-- The rest of a choice after its condition. -/
def choice : (fuel : Nat) → Command → Read Command
  | 0, c => return c
  | fuel + 1, condition => do
    expectKeyword list "then"
    let yes ← nested list
    let t ← token list .nothing
    if t.isKeyword "elif" then
      let inner ← nested list
      return .choice condition yes (← choice fuel inner)
    else if t.isKeyword "else" then return .choice condition yes (← nested list)
    else
      putBack t
      return .choice condition yes .nothing

/-- Words up to the token that is not one. -/
def words : (fuel : Nat) → List Word → Read (List Word × Token)
  | 0, seen => return (seen.reverse, .finish)
  | fuel + 1, seen => do
    match ← token list .nothing with
    | .word w _ => words fuel (w :: seen)
    | t => return (seen.reverse, t)

def allParameters : Word := [.parameter true [char '@'] .value false []]

def expectDo : Read Unit := do
  let t ← token list .anyLine
  if t.isKeyword "do" then return () else expected t "do"

def each (line : Nat) : Read Command := do
  match ← token list .nothing with
  | .word _ (some name) =>
    if isName name then
      let t ← token list .anyLine
      let ws ← (if t.isKeyword "in" then do
          let (ws, t) ← words list longest []
          match t with
          | .newline =>
            Lexer.documents (list .optional)
            return ws
          | .operator ";" => return ws
          | t => unexpected t
        else do
          if !t.isOperator ";" then putBack t
          return [allParameters])
      expectDo list
      return .each line name ws (← nested list)
    else fail "Bad for loop variable"
  | _ => fail "Bad for loop variable"

/-- The patterns of one arm of a selection, separated by bars, up to the closing parenthesis. -/
def patterns : (fuel : Nat) → Token → List Word → Read (List Word)
  | 0, _, seen => return seen.reverse
  | fuel + 1, t, seen => do
    let w := match t with
      | .word w _ => w
      | .keyword k => [.literal false (Bytes.ofString k)]
      | _ => []
    let after ← token list .nothing
    if after.isOperator "|" then patterns fuel (← token list .nothing) (w :: seen)
    else if after.isOperator ")" then return (w :: seen).reverse
    else expected after ")"

/-- The arms of a selection up to its last word. -/
def arms : (fuel : Nat) → List (List Word × Command) → Read (List (List Word × Command))
  | 0, seen => return seen.reverse
  | fuel + 1, seen => do
    let t ← token list ⟨true, true, false⟩
    if t.isKeyword "esac" then return seen.reverse
    else
      let t ← if t.isOperator "(" then token list .nothing else pure t
      let ps ← patterns list longest t []
      let body := (← list .optional).getD .nothing
      let seen := (ps, body) :: seen
      let t ← token list ⟨true, true, false⟩
      if t.isKeyword "esac" then return seen.reverse
      else if t.isOperator ";;" then arms fuel seen
      else expected t ";;"

def select (line : Nat) : Read Command := do
  match ← token list .nothing with
  | .word w _ =>
    let t ← token list .anyLine
    if t.isKeyword "in" then return .select line w (← arms list longest []) else expected t "in"
  | t => fail (t.name ++ " unexpected (expecting word)")

/-- The compound command that a keyword or parenthesis begins, and the token that has to end it. -/
def compound? (t : Token) (line : Nat) : Read (Option (Command × Option Token)) := do
  match t with
  | .operator "(" => return some (.subshell line (← nested list), some (.operator ")"))
  | .keyword "\x7b" => return some (← nested list, some (.keyword "\x7d"))
  | .keyword "if" => return some (← choice list longest (← nested list), some (.keyword "fi"))
  | .keyword "for" => return some (← each list line, some (.keyword "done"))
  | .keyword "case" => return some (← select list line, none)
  | .keyword k =>
    if k = "while" || k = "until" then
      let condition ← nested list
      expectKeyword list "do"
      return some (.loop (k = "until") condition (← nested list), some (.keyword "done"))
    else return none
  | _ => return none

/-- A token that is the one wanted, or else a fault. -/
def expectToken (wanted : Token) : Read Unit := do
  let t ← token list .nothing
  match wanted with
  | .operator text => if t.isOperator text then return () else expected t text
  | .keyword text => if t.isKeyword text then return () else expected t text
  | _ => return ()

/-- A command with redirections. Those of a subshell alone take the place of the ones it had. -/
def withRedirections (line : Nat) (rs : List Redirection) : Command → Command
  | .redirected inner (.subshell l body) _ => .redirected inner (.subshell l body) rs
  | c => .redirected line c rs

def command : (fuel : Nat) → (e : Expecting) → Read Command
  | 0, _ => return .nothing
  | fuel + 1, e => do
    let line := (← get).line
    let t ← token list e
    match ← compound? list t line with
    | some (c, closing) =>
      match closing with
      | some wanted => expectToken list wanted
      | none => pure ()
      let rs ← redirections list longest []
      return if rs.isEmpty then c else withRedirections line rs c
    | none =>
      match t with
      | .word _ _ | .redirection _ _ | .copy _ | .here _ _ =>
        putBack t
        simple list (command fuel .anyLine) (← get).line longest ⟨[], [], [], none⟩
      | t => unexpected t

def stages : (fuel : Nat) → List Command → Read (List Command)
  | 0, seen => return seen.reverse
  | fuel + 1, seen => do
    let t ← token list .nothing
    if t.isOperator "|" then stages fuel ((← command list longest .anyLine) :: seen)
    else
      putBack t
      return seen.reverse

def pipeline (e : Expecting) : Read Command := do
  let t ← token list e
  let negated := t.isKeyword "!"
  let first ← if negated then command list longest .command else do
    putBack t
    command list longest .nothing
  let c ← match ← stages list longest [first] with
    | [c] => pure c
    | cs => pure (.pipeline cs)
  return if negated then .negation c else c

def andOr : (fuel : Nat) → Command → Read Command
  | 0, left => return left
  | fuel + 1, left => do
    let t ← token list .nothing
    if t.isOperator "&&" then andOr fuel (.both left (← pipeline list .anyLine))
    else if t.isOperator "||" then andOr fuel (.either left (← pipeline list .anyLine))
    else
      putBack t
      return left

def after (before : Option Command) (c : Command) : Command :=
  match before with
  | some b => .sequence b c
  | none => c

/-- Commands up to what ends them. -/
def commands (nesting : Nesting) : (fuel : Nat) → (first : Bool) → Option Command → Read (Option Command)
  | 0, _, before => return before
  | fuel + 1, first, before => do
    let here : Expecting := ⟨nesting != .line, true, true⟩
    let t ← token list here
    let atEnd : Read (Option Command) := do
      Lexer.documents (list .optional)
      putBack .finish
      return before
    match t with
    | .newline =>
      Lexer.documents (list .optional)
      return before
    | .finish => atEnd
    | t =>
      putBack t
      if (!first && nesting = .nested || nesting = .optional) && t.endsList then return before
      else
        let c ← andOr list longest (← pipeline list .nothing)
        let t ← token list .nothing
        let c := if t.isOperator "&" then .background c else c
        let all := some (after before c)
        match t with
        | .finish =>
          Lexer.documents (list .optional)
          putBack .finish
          return all
        | .newline =>
          putBack .newline
          commands nesting fuel false all
        | .operator "&" | .operator ";" => commands nesting fuel false all
        | t =>
          if nesting = .line then unexpected t
          else
            putBack t
            return all

end

/-- A list of commands; `depth` bounds how far they are nested. -/
def list : (depth : Nat) → Nesting → Read (Option Command)
  | 0, _ => return none
  | depth + 1, nesting => commands (list depth) nesting longest true none

def deepest : Nat := 10 ^ 5

/-- The next complete line of commands, or the end of the script. -/
def line : Read Next := do
  modify fun r => { r with pending := none }
  match ← Lexer.raw (list deepest .optional) false longest with
  | .finish => return .finish
  | .newline => return .command none
  | t =>
    putBack t
    return .command (← list deepest .line)

end DesktopRefresh.Shell.Parser
