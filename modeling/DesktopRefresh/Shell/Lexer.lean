import DesktopRefresh.Shell.Token

/-!
# Words of a shell script

A word goes on to the first byte that ends it outside of quotes. Quotes, braces and arithmetic each
have rules of their own for what stands inside of them; a substitution holds commands, which are read
by the function `commands` that is handed in.
-/

namespace DesktopRefresh.Shell.Lexer

open Bytes (isBlank isDigit)
open Reader

/-! ## Drafts -/

/-- A word under way: its parts and the literal text after them, last first. -/
structure Draft where
  parts : List Part
  text : Bytes
  quoted : Bool
  /-- Something in the word is quoted or expanded. -/
  marked : Bool

namespace Draft

def empty : Draft := ⟨[], [], false, false⟩

def flush (d : Draft) : Draft :=
  if d.text.isEmpty then d else { d with parts := .literal d.quoted d.text.reverse :: d.parts, text := [] }

def add (d : Draft) (quoted : Bool) (b : UInt8) : Draft :=
  let d := if d.quoted = quoted then d else { d.flush with quoted := quoted }
  { d with text := b :: d.text, marked := d.marked || quoted }

def push (d : Draft) (p : Part) : Draft := { d.flush with parts := p :: d.flush.parts, marked := true }

def word (d : Draft) : Word := d.flush.parts.reverse

/-- The text of a word in which nothing is quoted or expanded. -/
def plain? (d : Draft) : Option Bytes :=
  if d.marked then none
  else match d.flush.parts with
    | [] => some []
    | [.literal _ text] => some text
    | _ => none

end Draft

/-! ## Contexts -/

/-- What a text is inside of. -/
inductive Context where
  | plain
  /-- The word that will end a here-document, in which nothing is expanded. -/
  | delimiter
  /-- The operand of an operator in braces. -/
  | braces
  | double
  /-- An operand inside of double quotes, in which quotes open and close once more. -/
  | doubleBraces (document inner : Bool)
  | document
  | arithmetic (depth : Nat)
  deriving DecidableEq, Repr

namespace Context

/-- Outside of all quotes. -/
def isBare : Context → Bool
  | plain | delimiter | braces => true
  | _ => false

/-- A backslash before this byte takes its meaning away and disappears. -/
def escapes (c : Context) (b : UInt8) : Bool :=
  if c.isBare then true
  else if [char '\\', char '`', char '$'].contains b then true
  else match c with
    | doubleBraces _ _ => b = char '"' || b = char '\x7d'
    | document => false
    | _ => b = char '"'

/-- The context of an operand. -/
def operand : Context → Context
  | plain | delimiter | braces => braces
  | doubleBraces d _ => doubleBraces d false
  | document => doubleBraces true false
  | double | arithmetic _ => doubleBraces false false

/-- What is wrong if the script ends here, if anything is. -/
def fault? : Context → Option String
  | plain | delimiter | document => none
  | braces | doubleBraces true _ => some "Missing '\x7d'"
  | double | doubleBraces false _ => some "Unterminated quoted string"
  | arithmetic _ => some "Missing '))'"

end Context

/-- The byte ends a word outside of quotes. -/
def isMeta (b : UInt8) : Bool := isBlank b || [char '\n', char ';', char '&', char '|', char '<', char '>',
  char '(', char ')'].contains b

/-! ## Parts -/

/-- The text of a document ends here: the line is the delimiter. -/
def atDelimiter (delimiter : Bytes) : Read Bool := do
  let r ← get
  let line := r.rest.takeWhile (· != newline)
  if line = delimiter && !r.rest.isEmpty then
    set { r with rest := r.rest.drop (line.length + 1), line := r.line + 1 }
    return true
  else return false

def dropTabs : Read Unit := modify fun r => { r with rest := r.rest.dropWhile (· == char '\t') }

/-- After a byte, the here-document that is being read ends: a line begins that is the delimiter. -/
def documentEnds (after : UInt8) : Read Bool := do
  match after == newline, (← get).ending with
  | true, some a =>
    if a.untabbed then dropTabs
    atDelimiter a.delimiter
  | _, _ => return false

/-- The rest of a text between single quotes. -/
def singleQuoted : (fuel : Nat) → (seen : Bytes) → Read Bytes
  | 0, _ => fail "Unterminated quoted string"
  | fuel + 1, seen => do
    match ← rawByte with
    | none => fail "Unterminated quoted string"
    | some b =>
      advance
      if b = char '\'' then return seen.reverse
      else
        if ← documentEnds b then fail "Missing '\x7d'"
        singleQuoted fuel (b :: seen)

/-- The text between backquotes, in which a backslash takes the meaning from a few bytes. -/
def backquoted (doubled : Bool) : (fuel : Nat) → (seen : Bytes) → Read Bytes
  | 0, _ => fail "EOF in backquote substitution"
  | fuel + 1, seen => do
    match ← next with
    | none => fail "EOF in backquote substitution"
    | some b =>
      if b = char '`' then return seen.reverse
      else if b = char '\\' then
        match ← rawByte with
        | none => fail "EOF in backquote substitution"
        | some c =>
          advance
          if [char '\\', char '`', char '$'].contains c || (doubled && c = char '"') then
            backquoted doubled fuel (c :: seen)
          else backquoted doubled fuel (c :: b :: seen)
      else backquoted doubled fuel (b :: seen)

/-- The longest run of bytes of a class. -/
def run (p : UInt8 → Bool) : (fuel : Nat) → (seen : Bytes) → Read Bytes
  | 0, seen => return seen.reverse
  | fuel + 1, seen => do
    match ← peek with
    | some b =>
      if p b then
        advance
        run p fuel (b :: seen)
      else return seen.reverse
    | none => return seen.reverse

/-- What is inside of braces up to the operand: a name, an operator, and whether an operand follows. -/
structure BraceHead where
  name : Bytes
  operator : Operator
  nullCounts : Bool
  hasOperand : Bool

def operator? (b : UInt8) : Option Operator :=
  if b = char '\x7d' then some .value
  else if b = char '-' then some .default
  else if b = char '+' then some .alternative
  else if b = char '?' then some .refuse
  else if b = char '=' then some .assign
  else none

/-- The operator after a name; a byte that begins none is passed over too, and counts no line. -/
def braceOperator (name : Bytes) : Read BraceHead := do
  match ← nextUncounted with
  | none => return ⟨name, .unknown, false, true⟩
  | some b =>
    if b = char ':' then
      match ← nextUncounted with
      | none => return ⟨name, .unknown, true, true⟩
      | some c => return ⟨name, (operator? c).getD .unknown, true, true⟩
    else if b = char '#' then return ⟨name, .dropFront (← accept '#'), false, true⟩
    else if b = char '%' then return ⟨name, .dropBack (← accept '%'), false, true⟩
    else match operator? b with
      | some .value => return ⟨name, .value, false, false⟩
      | some op => return ⟨name, op, false, true⟩
      | none => return ⟨name, .unknown, false, true⟩

/-- The length of a parameter: nothing but the closing brace may follow its name. -/
def braceLength (name : Bytes) : Read BraceHead := do
  return ⟨name, if (← peek) = some (char '\x7d') then .length else .unknown, false, true⟩

def braceName : Read Bytes := do
  match ← peek with
  | some b => if isNameStart b then run isNameByte longest [] else run isDigit longest []
  | none => return []

/-- After a number sign comes the name whose length is asked for, unless the sign is the name itself. -/
def braceNumberSign : Read BraceHead := do
  match ← peek with
  | none => return ⟨[char '#'], .unknown, false, true⟩
  | some b =>
    if isNameByte b then braceLength (← braceName)
    else
      let before ← get
      advance
      let closed := (← peek) = some (char '\x7d')
      if b = char '\x7d' || !closed then
        set before
        braceOperator [char '#']
      else if isSpecial b then braceLength [b]
      else return ⟨[], .unknown, false, true⟩

def braceHead : Read BraceHead := do
  match ← peek with
  | none => return ⟨[], .unknown, false, true⟩
  | some b =>
    if isNameByte b then braceOperator (← braceName)
    else if b = char '\x7d' then return ⟨[], .unknown, false, true⟩
    else
      let _ ← nextUncounted
      if b = char '#' then braceNumberSign
      else if isSpecial b then braceOperator [b]
      else return ⟨[], .unknown, false, true⟩

/-- Reads commands from a text of its own. -/
def within (source : Bytes) (commands : Read (Option Command)) : Read Command := do
  let outer ← get
  set { outer with rest := source, line := 1, pending := none, awaited := [], active := [], ending := none }
  let c ← commands
  modify fun r => { outer with documents := r.documents, nextDocument := r.nextDocument }
  return c.getD .nothing

section
variable (commands : Read (Option Command))

/-- The commands of a substitution up to its closing parenthesis. The here-documents asked for inside
are read inside. -/
def substitution : Read Command := do
  let outer ← get
  set { outer with awaited := [], pending := none, ending := none }
  let c ← commands
  match (← get).pending with
  | some t => if !t.isOperator ")" then expected t ")"
  | none => pure ()
  modify fun r => { r with awaited := outer.awaited, pending := none, ending := outer.ending }
  return c.getD .nothing

/-- The part that begins with a dollar sign, which was passed over; none if it stands for itself. -/
def dollar (inner : Context → Read Word) (c : Context) : Read (Option Part) := do
  let quoted := !c.isBare
  if c = .delimiter then return none
  else match ← peek with
    | none => return none
    | some b =>
      if b = char '(' then
        advance
        if ← accept '(' then return some (.arithmetic quoted (← inner (.arithmetic 0)))
        else return some (.substitution quoted (← substitution commands))
      else if b = char '\x7b' then
        advance
        let h ← braceHead
        let within := match h.operator with
          | .dropFront _ | .dropBack _ => .braces
          | _ => c.operand
        let operand ← if h.hasOperand then inner within else pure []
        return some (.parameter quoted h.name h.operator h.nullCounts operand)
      else if isNameStart b then
        return some (.parameter quoted (← run isNameByte longest []) .value false [])
      else if isSpecial b then
        advance
        return some (.parameter quoted [b] .value false [])
      else return none

/-- A text in some context up to what ends it. At the beginning of a line of a document its delimiter is
looked for. -/
def text : (fuel : Nat) → Context → Draft → Read Draft
  | 0, _, d => return d
  | fuel + 1, c, d => do
    let quoted := !c.isBare
    match ← peek with
    | none =>
      match c.fault? with
      | some message => fail message
      | none => return d
    | some b =>
      if (c = .plain || c = .delimiter) && isMeta b then return d
      else
        advance
        let literal := text fuel c (d.add quoted b)
        if ← documentEnds b then
          match c with
          | .document => return d.add quoted b
          | .arithmetic _ => fail "Missing '))'"
          | _ => fail "Missing '\x7d'"
        else if b = char '\\' then
          match ← rawByte with
          | none => text fuel c (d.add true b)
          | some e =>
            advance
            let d := if c.escapes e then d else d.add true b
            text fuel c (d.add true e)
        else if b = char '\'' && c.isBare then
          let inner ← singleQuoted longest []
          text fuel c (d.push (.literal true inner))
        else if b = char '$' then
          match ← dollar commands (fun c => do return (← text fuel c .empty).word) c with
          | some p => text fuel c (d.push p)
          | none => literal
        else if b = char '`' && c != .delimiter then
          let source ← backquoted quoted longest []
          text fuel c (d.push (.substitution quoted (← within source commands)))
        else match c with
          | .plain | .delimiter | .braces =>
            if b = char '"' then
              let inner := (← text fuel .double .empty).word
              -- An empty list of parameters between quotes leaves nothing at all.
              let isList := match inner with
                | [.parameter _ name .value _ _] => name == [char '@']
                | _ => false
              let d := if isList then d else d.push (.literal true [])
              text fuel c (inner.foldl Draft.push d)
            else if b = char '\x7d' && c = .braces then return d
            else literal
          | .double => if b = char '"' then return d else literal
          | .doubleBraces document inner =>
            if b = char '"' then text fuel (.doubleBraces document !inner) (d.push (.literal true []))
            else if b = char '\x7d' && !inner then return d
            else literal
          | .document => literal
          | .arithmetic depth =>
            if b = char '(' then text fuel (.arithmetic (depth + 1)) (d.add quoted b)
            else if b = char ')' && depth = 0 then
              if ← accept ')' then return d else literal
            else if b = char ')' then text fuel (.arithmetic (depth - 1)) (d.add quoted b)
            else literal

end

/-! ## Here-documents -/

/-- The lines of a document in which nothing is expanded. -/
def literalLines (a : Awaited) : (fuel : Nat) → (seen : List Bytes) → Read Bytes
  | 0, seen => return seen.reverse.flatten
  | fuel + 1, seen => do
    if a.untabbed then dropTabs
    if ← atDelimiter a.delimiter then return seen.reverse.flatten
    else
      let r ← get
      let line := r.rest.takeWhile (· != newline)
      let rest := r.rest.drop line.length
      if rest.isEmpty then
        set { r with rest := [] }
        return (line :: seen).reverse.flatten
      else
        set { r with rest := rest.drop 1, line := r.line + 1 }
        literalLines a fuel ((line ++ [newline]) :: seen)

def document (commands : Read (Option Command)) (a : Awaited) : Read Word := do
  if a.literal then return [.literal true (← literalLines a longest [])]
  else
    modify fun r => { r with ending := some a }
    let w ← if ← documentEnds newline then pure [] else do pure (← text commands longest .document .empty).word
    modify fun r => { r with ending := none }
    return w

/-- Reads the here-documents that were asked for. -/
def documents (commands : Read (Option Command)) : Read Unit := do
  let awaited := (← get).awaited
  modify fun r => { r with awaited := [] }
  for a in awaited do
    let w ← document commands a
    modify fun r => { r with documents := (a.document, w) :: r.documents }

/-! ## Tokens -/

/-- The rest of a redirection after its first byte. -/
def redirection (given : Option Nat) (b : UInt8) : Read Token := do
  if b = char '>' then
    let fd := given.getD 1
    if ← accept '>' then return .redirection fd .append
    else if ← accept '|' then return .redirection fd .overwrite
    else if ← accept '&' then return .copy fd
    else return .redirection fd .output
  else
    let fd := given.getD 0
    if ← accept '<' then return .here fd (← accept '-')
    else if ← accept '&' then return .copy fd
    else if ← accept '>' then return .redirection fd .both
    else return .redirection fd .input

def isAngle (b : Option UInt8) : Bool := b = some (char '<') || b = some (char '>')

/-- A word, or a redirection with the digit in front of it. -/
def wordToken (commands : Read (Option Command)) (isDelimiter : Bool) : Read Token := do
  let d ← text commands longest (if isDelimiter then .delimiter else .plain) .empty
  let b ← peek
  let plain := d.plain?
  let given : Option (Option Nat) := match plain with
    | some [] => some none
    | some [digit] => if isDigit digit then some (some (digit.toNat - 48)) else none
    | _ => none
  match given, b with
  | some fd, some b =>
    if isAngle (some b) then
      advance
      redirection fd b
    else return .word d.word plain
  | _, _ => return .word d.word plain

/-- The next token, whatever is expected. -/
def raw (commands : Read (Option Command)) (isDelimiter : Bool) : (fuel : Nat) → Read Token
  | 0 => return .finish
  | fuel + 1 => do
    let r ← get
    match r.pending with
    | some t =>
      set { r with pending := none }
      return t
    | none =>
      match ← peek with
      | none => return .finish
      | some b =>
        let double (c : Char) : Read Token := do
          advance
          if ← accept c then return .operator (String.ofList [c, c]) else return .operator (String.ofList [c])
        if isBlank b then
          advance
          raw commands isDelimiter fuel
        else if b = char '#' then
          modify fun r => { r with rest := r.rest.dropWhile (· != newline) }
          raw commands isDelimiter fuel
        else if b = newline then
          advance
          return .newline
        else if b = char '&' then double '&'
        else if b = char '|' then double '|'
        else if b = char ';' then double ';'
        else if b = char '(' then
          advance
          return .operator "("
        else if b = char ')' then
          advance
          return .operator ")"
        else wordToken commands isDelimiter

/-- What is expected at a place: line ends that are passed over, keywords, aliases. -/
structure Expecting where
  newlines : Bool
  keywords : Bool
  aliases : Bool

namespace Expecting

def nothing : Expecting := ⟨false, false, false⟩

def command : Expecting := ⟨false, true, true⟩

def anyLine : Expecting := ⟨true, true, true⟩

end Expecting

/-- Puts the text of an alias in front of the script, unless the alias is being read already. -/
def expandAlias? (name : Bytes) : Read Bool := do
  let r ← get
  let active := r.active.filter fun a => a.2 ≤ r.rest.length
  match r.aliases.find? (·.1 == name) with
  | some (_, value) =>
    if active.any (·.1 == name) then return false
    else
      set { r with rest := value ++ r.rest, active := (name, r.rest.length) :: active }
      return true
  | none => return false

def skipNewlines (commands : Read (Option Command)) : (fuel : Nat) → Token → Read Token
  | 0, t => return t
  | fuel + 1, .newline => do
    documents commands
    skipNewlines commands fuel (← raw commands false longest)
  | _ + 1, t => return t

/-- The text of an alias that ends in a blank came to its end, so that the word after it can be an alias too. -/
def endsInBlank (r : Reader) (left : Nat) : Bool := r.active.any fun a =>
  a.2 ≤ r.rest.length && left < a.2 && ((r.aliases.find? (·.1 == a.1)).bind (·.2.getLast?)).any isBlank

def token (commands : Read (Option Command)) (e : Expecting) : (fuel : Nat) → Read Token
  | 0 => return .finish
  | fuel + 1 => do
    let before ← get
    let t ← raw commands false longest
    let e := { e with aliases := e.aliases || endsInBlank before (← get).rest.length }
    let t ← if e.newlines then skipNewlines commands longest t else pure t
    match t with
    | .word _ (some plain) =>
      match (if e.keywords then Token.keywords.find? (Bytes.ofString · == plain) else none) with
      | some k => return .keyword k
      | none =>
        if e.aliases then
          if ← expandAlias? plain then token commands e fuel else return t
        else return t
    | t => return t

end DesktopRefresh.Shell.Lexer
