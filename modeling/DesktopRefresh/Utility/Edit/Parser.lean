import DesktopRefresh.Utility.Edit.Script

/-!
# Reading scripts for editing texts

A fault is reported together with what was left of the script.
-/

namespace DesktopRefresh.Edit

abbrev Read (α : Type) := StateT Bytes (Except (Fault × Nat)) α

def char (c : Char) : UInt8 := Bytes.ascii c

def fail {α : Type} (f : Fault) : Read α := do throw (f, (← get).length)

def peek : Read (Option UInt8) := do return (← get).head?

def next : Read (Option UInt8) := do
  let rest ← get
  set (rest.drop 1)
  return rest.head?

def skipBlanks : Read Unit := modify fun rest => rest.dropWhile Bytes.isBlank

def isSpace (b : UInt8) : Bool := CharacterClass.space.contains b

/-- Takes the bytes up to the first that has some property. -/
def takeUntil (stops : UInt8 → Bool) : Read Bytes := do
  let taken := (← get).takeWhile fun b => !stops b
  modify (·.drop taken.length)
  return taken

def number : Read Nat := do return Bytes.number (← takeUntil fun b => !Bytes.isDigit b)

/-- A number if there are digits, after blanks. -/
def number? : Read (Option Nat) := do
  skipBlanks
  if (← peek).any Bytes.isDigit then return some (← number) else return none

/-- A command has to end here. -/
def commandEnd : Read Unit := do
  skipBlanks
  match ← peek with
  | none => return ()
  | some b =>
    if b = char '\x7d' || b = char '#' then return ()
    else
      discard next
      if b = Bytes.newline || b = char ';' then return () else fail .extraCharacters

/-! ## Texts between delimiters -/

/-- A bracket expression after its opening bracket, as far as it goes. -/
def bracketText : (fuel : Nat) → (first : Bool) → Bytes → Bytes × Bytes
  | 0, _, rest => ([], rest)
  | _, _, [] => ([], [])
  | fuel + 1, first, b :: rest =>
    let go (taken rest : Bytes) (first : Bool) : Bytes × Bytes :=
      let (inner, after) := bracketText fuel first rest
      (taken ++ inner, after)
    if b = char ']' && !first then ([b], rest)
    else if b = char '[' then
      match rest with
      | mark :: inner =>
        if mark = char ':' || mark = char '.' || mark = char '=' then
          match Regular.untilMark mark inner with
          | some (name, after) => go (b :: mark :: name ++ [mark, char ']']) after false
          | none => go [b] rest false
        else go [b] rest false
      | [] => ([b], [])
    else if b = char '\\' then
      match rest with
      | c :: after =>
        if c = char 'n' then go [Bytes.newline] after false
        else if c = char 't' then go [0x09] after false
        else go [b] rest false
      | [] => ([b], [])
    else go [b] rest (first && b = char '^')

/-- What stands up to a delimiter, and what follows it. In an expression a delimiter within brackets does not count. -/
def delimited (isExpression : Bool) (delimiter : UInt8) : (fuel : Nat) → Bytes → Option (Bytes × Bytes)
  | 0, _ | _, [] => none
  | fuel + 1, b :: rest =>
    let go (taken rest : Bytes) : Option (Bytes × Bytes) :=
      (delimited isExpression delimiter fuel rest).map fun (inner, after) => (taken ++ inner, after)
    if b = delimiter then some ([], rest)
    else if b = Bytes.newline then none
    else if b = char '\\' then
      match rest with
      | [] => none
      | c :: rest =>
        if c = delimiter && (isExpression || c != char '&') then go [c] rest
        else if isExpression && c = char 'n' then go [Bytes.newline] rest
        else if isExpression && c = Bytes.newline then go [c] rest
        else go [b, c] rest
    else if isExpression && b = char '[' then
      let (inner, after) := bracketText (rest.length + 1) true rest
      go (b :: inner) after
    else go [b] rest

/-- Takes a text up to a delimiter; without one, what is left up to the end of the line is gone as well. -/
def delimitedText (isExpression : Bool) (delimiter : UInt8) (f : Fault) : Read Bytes := do
  let rest ← get
  match delimited isExpression delimiter (rest.length + 1) rest with
  | some (text, after) =>
    set after
    return text
  | none =>
    let line := rest.takeWhile (· != Bytes.newline)
    set (rest.drop (if line.length < rest.length then line.length else rest.length))
    fail f

/-! ## Escapes -/

def letterBytes : List (Char × UInt8) :=
  [('a', 0x07), ('f', 0x0C), ('n', 0x0A), ('r', 0x0D), ('t', 0x09), ('v', 0x0B)]

def hexDigit? (b : UInt8) : Option Nat :=
  if Bytes.isDigit b then some (b.toNat - 48)
  else
    let l := (Bytes.toLower b).toNat
    if 97 ≤ l ∧ l ≤ 102 then some (l - 87) else none

/-- A number in some base with at most so many digits, and what follows it. -/
def digits (base most : Nat) (bs : Bytes) : Option (Nat × Bytes) :=
  let own := (bs.take most).takeWhile fun b => (hexDigit? b).any (· < base)
  if own.isEmpty then none
  else some (own.foldl (fun n b => n * base + (hexDigit? b).getD 0) 0, bs.drop own.length)

/-- The byte that stands for an escape after its backslash, and what follows it. -/
def escapedByte? (bs : Bytes) : Option (UInt8 × Bytes) :=
  match bs with
  | [] => none
  | b :: rest =>
    match letterBytes.find? fun e => char e.1 == b with
    | some (_, v) => some (v, rest)
    | none =>
      let numbered (base most : Nat) : Option (UInt8 × Bytes) :=
        (digits base most rest).map fun (n, after) => (n.toUInt8, after)
      if b = char 'x' then numbered 16 2
      else if b = char 'o' then numbered 8 3
      else if b = char 'd' then numbered 10 3
      else if b = char 'c' then
        match rest with
        | c :: after => some (Bytes.toUpper c ^^^ 0x40, after)
        | [] => none
      else none

/-- An expression with bytes in place of the escapes for them. -/
def plainExpression : (fuel : Nat) → Bytes → Bytes
  | 0, bs => bs
  | _, [] => []
  | fuel + 1, b :: rest =>
    if b = char '\\' then
      match escapedByte? rest, rest with
      | some (v, after), _ =>
        let own := if (Bytes.ofString "*.[]^$\\/+?()|").contains v then [b, v] else [v]
        own ++ plainExpression fuel after
      | none, c :: after => b :: c :: plainExpression fuel after
      | none, [] => [b]
    else b :: plainExpression fuel rest

structure Settings where
  extended : Bool

/-- The expression that a text stands for; an empty text stands for the last one. -/
def expression (k : Settings) (text : Bytes) : Read (Option Regular) :=
  if text.isEmpty then return none
  else match Regular.ofBytes ⟨k.extended, true⟩ (plainExpression (text.length + 1) text) with
    | .ok r => return some r
    | .error f => fail (.expression f)

/-! ## Addresses -/

def addressFlags : (fuel : Nat) → (anyCase : Bool) → Read Bool
  | 0, anyCase => return anyCase
  | fuel + 1, anyCase => do
    skipBlanks
    match ← peek with
    | some b =>
      if b = char 'I' then
        discard next
        addressFlags fuel true
      else if b = char 'M' then
        discard next
        addressFlags fuel anyCase
      else return anyCase
    | none => return anyCase

def expressionAddress (k : Settings) (delimiter : UInt8) : Read Address := do
  let text ← delimitedText true delimiter .unterminatedAddress
  let anyCase ← addressFlags (← get).length false
  return .fits (← expression k text) anyCase

def address (k : Settings) : Read (Option Address) := do
  match ← peek with
  | none => return none
  | some b =>
    if b = char '/' then
      discard next
      return some (← expressionAddress k b)
    else if b = char '\\' then
      discard next
      match ← next with
      | some d => return some (← expressionAddress k d)
      | none => fail .unterminatedAddress
    else if b = char '$' then
      discard next
      return some .last
    else if Bytes.isDigit b then
      let n ← number
      skipBlanks
      if (← peek) == some (char '~') then
        discard next
        let step ← number?
        return some (if step.getD 0 = 0 then .line n else .every n (step.getD 0))
      else return some (.line n)
    else return none

/-- The end of a range after its comma. -/
def stop (k : Settings) : Read Stop := do
  skipBlanks
  match ← peek with
  | some b =>
    if b = char '+' || b = char '~' then
      discard next
      let n := (← number?).getD 0
      return if b = char '+' then .lines n else .multiple n
    else match ← address k with
      | some a => return .address a
      | none =>
        discard next
        fail .unexpectedComma
  | none => fail .unexpectedComma

/-- A range from line zero on ends with an expression. -/
def allowsZero : Option Stop → Bool
  | some (.address (.fits _ _)) => true
  | _ => false

def selection (k : Settings) : Read Selection := do
  match ← peek with
  | some b =>
    if b = char '+' || b = char '~' then
      discard next
      let n ← number?
      if n.isSome || (← peek).isSome then
        discard (if n.isNone then next else pure none)
        fail .relativeFirst
    else pure ()
  | none => pure ()
  let first ← address k
  skipBlanks
  let stop ← if first.isSome && (← peek) == some (char ',') then do
      discard next
      let s ← stop k
      pure (some s)
    else pure none
  skipBlanks
  match first with
  | some (.line 0) =>
    if !allowsZero stop then
      discard next
      fail .invalidLineZero
  | _ => pure ()
  let negated := (← peek) == some (char '!')
  if negated then
    discard next
    skipBlanks
    if (← peek) == some (char '!') then
      discard next
      fail .multipleNegations
  return ⟨first, stop, negated⟩

/-! ## Arguments -/

/-- The text of a command up to an end of line that stands alone. -/
def textLines : (fuel : Nat) → Bytes → Bytes × Bytes
  | 0, rest => ([], rest)
  | _, [] => ([], [])
  | fuel + 1, b :: rest =>
    let go (taken rest : Bytes) : Bytes × Bytes :=
      let (inner, after) := textLines fuel rest
      (taken ++ inner, after)
    if b = Bytes.newline then ([], rest)
    else if b = char '\\' then
      match escapedByte? rest, rest with
      | some (v, after), _ => go [v] after
      | none, c :: after => go [c] after
      | none, [] => ([], [])
    else go [b] rest

def textArgument (place : Char) : Read Action := do
  skipBlanks
  match ← peek with
  | none => fail .expectedBackslash
  | some b =>
    if b = char '\\' then
      discard next
      let rest ← get
      let blank := rest.takeWhile Bytes.isBlank
      if (rest.drop blank.length).head? == some Bytes.newline then set (rest.drop (blank.length + 1))
    let rest ← get
    if rest.isEmpty then return .text place []
    else
      let (text, after) := textLines (rest.length + 1) rest
      set after
      return .text place (text ++ [Bytes.newline])

def fileArgument : Read Bytes := do
  skipBlanks
  let name ← takeUntil (· == Bytes.newline)
  discard next
  if name.isEmpty then fail .missingFile else return name

def targetOf (path : Bytes) : Target :=
  if path == Bytes.ofString "/dev/stdout" then .output
  else if path == Bytes.ofString "/dev/stderr" then .messages
  else .file path

def labelArgument : Read Bytes := do
  skipBlanks
  takeUntil fun b => isSpace b || b = char ';' || b = char '\x7d'

/-! ## Substitutions -/

/-- The pieces of a replacement. -/
def pieces : (fuel : Nat) → (text : Bytes) → Bytes → List Piece
  | 0, text, _ => [.text text.reverse]
  | _, text, [] => if text.isEmpty then [] else [.text text.reverse]
  | fuel + 1, text, b :: rest =>
    let cut (p : Piece) (after : Bytes) : List Piece :=
      if text.isEmpty then p :: pieces fuel [] after else .text text.reverse :: p :: pieces fuel [] after
    if b = char '&' then cut (.group 0) rest
    else if b = char '\\' then
      match rest with
      | [] => pieces fuel (b :: text) []
      | c :: after =>
        if Bytes.isDigit c then cut (.group (c.toNat - 48)) after
        else if (Bytes.ofString "LUEul").contains c then cut (.turn (Char.ofNat c.toNat)) after
        else match escapedByte? rest with
          | some (v, after) => pieces fuel (v :: text) after
          | none => pieces fuel (c :: text) after
    else pieces fuel (b :: text) rest

structure Flags where
  everywhere : Bool
  prints : Bool
  anyCase : Bool
  number : Option Nat
  target : Option Target

def substitutionFlags : (fuel : Nat) → Flags → Read Flags
  | 0, f => return f
  | fuel + 1, f => do
    match ← peek with
    | none => return f
    | some b =>
      if Bytes.isDigit b then
        let n ← number
        if f.number.isSome then fail (.multipleOptions "number")
        else if n = 0 then fail .zeroNumber
        else substitutionFlags fuel { f with number := some n }
      else if b = char '\x7d' || b = char '#' then return f
      else
        discard next
        if b = char 'g' then
          if f.everywhere then fail (.multipleOptions "\x60g'") else substitutionFlags fuel { f with everywhere := true }
        else if b = char 'p' then
          if f.prints then fail (.multipleOptions "\x60p'") else substitutionFlags fuel { f with prints := true }
        else if b = char 'i' || b = char 'I' then substitutionFlags fuel { f with anyCase := true }
        else if b = char 'm' || b = char 'M' || b = char 'e' then substitutionFlags fuel f
        else if b = char 'w' then return { f with target := some (targetOf (← fileArgument)) }
        else if Bytes.isBlank b then substitutionFlags fuel f
        else if b = Bytes.newline || b = char ';' then return f
        else fail .unknownOption

def substitution (k : Settings) : Read Action := do
  let some delimiter ← next | fail .unterminatedSubstitution
  if delimiter = Bytes.newline then fail .unterminatedSubstitution
  let text ← delimitedText true delimiter .unterminatedSubstitution
  let replacement ← delimitedText false delimiter .unterminatedSubstitution
  let f ← substitutionFlags ((← get).length + 1) ⟨false, false, false, none, none⟩
  let r ← expression k text
  let ps := pieces (replacement.length + 1) [] replacement
  let highest := ps.foldl (fun n p => match p with
    | .group m => max n m
    | _ => n) 0
  match r with
  | some r => if r.groupCount < highest then fail (.invalidReference highest)
  | none => pure ()
  return .substitute ⟨r, f.anyCase, ps, f.everywhere, f.number.getD 1, f.prints, f.target⟩

/-- The bytes that a text for an exchange stands for. -/
def exchangeBytes : Bytes → Bytes
  | [] => []
  | [b] => [b]
  | b :: c :: rest =>
    if b = char '\\' then
      if c = char '\\' then c :: exchangeBytes rest
      else match letterBytes.find? fun e => char e.1 == c with
        | some (_, v) => v :: exchangeBytes rest
        | none => c :: exchangeBytes rest
    else b :: exchangeBytes (c :: rest)

def exchange : Read Action := do
  let some delimiter ← next | fail .unterminatedExchange
  let old := exchangeBytes (← delimitedText false delimiter .unterminatedExchange)
  let new := exchangeBytes (← delimitedText false delimiter .unterminatedExchange)
  if old.length != new.length then fail .differentLengths
  commandEnd
  return .exchange (old.zip new)

/-! ## Commands -/

def plainLetters : List Char := "=dDFgGhHnNpPxz".toList

/-- How many blocks are open, and the action that comes next. -/
def action (k : Settings) (s : Selection) (depth : Nat) : Read (Option Action) := do
  match ← next with
  | none => fail .missingCommand
  | some b =>
    let c := Char.ofNat b.toNat
    match c with
    | '#' =>
      if s.first.isSome then fail .noAddressComment
      discard (takeUntil (· == Bytes.newline))
      return none
    | '\x7b' => return some .opening
    | '\x7d' =>
      if depth = 0 then fail .unexpectedClosing
      if s.first.isSome then fail .closingAddress
      commandEnd
      return some .closing
    | ':' =>
      if s.first.isSome then fail .noAddressLabel
      let name ← do
        skipBlanks
        takeUntil fun b => isSpace b || b = char ';'
      if name.isEmpty then fail .emptyLabel
      return some (.label name)
    | 'b' | 't' | 'T' =>
      let name ← labelArgument
      commandEnd
      return some (.jump (if c = 'b' then .always else if c = 't' then .ifReplaced else .unlessReplaced) name)
    | 'a' | 'i' | 'c' => return some (← textArgument c)
    | 'r' => return some (.file (← fileArgument))
    | 'R' => return some (.lineOf (← fileArgument))
    | 'w' => return some (.write (targetOf (← fileArgument)) false)
    | 'W' => return some (.write (targetOf (← fileArgument)) true)
    | 's' => return some (← substitution k)
    | 'y' => return some (← exchange)
    | 'q' | 'Q' =>
      if s.stop.isSome then fail .oneAddress
      let n ← number?
      commandEnd
      return some (.quit (c = 'Q') (n.getD 0))
    | 'l' =>
      let n ← number?
      commandEnd
      return some (.list n)
    | 'v' =>
      let version ← labelArgument
      if version.head?.any fun d => char '4' < d && Bytes.isDigit d then fail .newerVersion
      commandEnd
      return none
    | 'e' =>
      discard (takeUntil (· == Bytes.newline))
      return none
    | c =>
      if plainLetters.contains c then
        commandEnd
        return some (.plain c)
      else fail (.unknownCommand b)

def commands (k : Settings) : (fuel : Nat) → (depth : Nat) → Read (List Command)
  | 0, _ => return []
  | fuel + 1, depth => do
    modify fun rest => rest.dropWhile fun b => b = char ';' || isSpace b
    if (← get).isEmpty then
      if depth = 0 then return [] else fail .unmatchedOpening
    else
      let s ← selection k
      match ← action k s depth with
      | none => commands k fuel depth
      | some a =>
        let depth := match a with
          | .opening => depth + 1
          | .closing => depth - 1
          | _ => depth
        let rest ← commands k fuel depth
        return ⟨s, a⟩ :: rest

/-- The commands of a script, or a fault and how much was left when it was found. -/
def script (k : Settings) (bs : Bytes) : Except (Fault × Nat) (List Command) :=
  (·.1) <$> (commands k (bs.length + 1) 0).run bs

end DesktopRefresh.Edit
