import DesktopRefresh.Utility.Awk.Lexer

/-!
# Reading programs

Operators bind from the weakest to the strongest in the order: choice, or, and, membership, fitting, comparison,
putting texts together, sums, products, signs, powers, steps, fields.
-/

namespace DesktopRefresh.Awk

open Utility (text quoted)

/-- What is left to read, and where in the program that is. -/
structure Reader where
  rest : List Lexeme
  line : Nat
  inFunction : Bool
  /-- The action belongs to the start or the end, where there is no record to go on from. -/
  isOutside : Bool
  loops : Nat
  /-- The functions that are called, each with how many arguments and in which line. -/
  calls : List (Bytes × Nat × Nat)

abbrev Reading (α : Type) := StateT Reader (Except Fault) α

namespace Reading

def peek : Reading (Option Token) := return (← get).rest.head?.map (·.token)

def advance : Reading Unit := modify fun r => { r with
  rest := r.rest.drop 1
  line := match r.rest with
    | l :: _ => l.line + (if l.token = .newline then 1 else 0)
    | [] => r.line }

def fail {α : Type} (message : Bytes) : Reading α := do
  let r ← get
  throw ⟨(r.rest.head?.map (·.line)).getD r.line, message, false⟩

/-- Something stands where it cannot. -/
def unexpected {α : Type} : Reading α := do
  match (← get).rest with
  | l :: _ =>
    if l.token = .newline then fail (text "syntax error at or near end of line")
    else fail (text "syntax error at or near " ++ l.spelling)
  | [] => fail (text "syntax error at or near end of line")

def isMark (m : String) : Reading Bool := return (← peek) == some (.mark m)

def takeMark (m : String) : Reading Bool := do
  if ← isMark m then
    advance
    return true
  else return false

def takeWord (w : String) : Reading Bool := do
  match ← peek with
  | some (.word name _) =>
    if name == text w then
      advance
      return true
    else return false
  | _ => return false

def isWord (w : String) : Reading Bool := do
  match ← peek with
  | some (.word name _) => return name == text w
  | _ => return false

def expect (m : String) : Reading Unit := do
  if !(← takeMark m) then
    if m == ")" then
      match (← get).rest with
      | l :: _ => if l.token = .mark "\x7d" then fail (text "missing ) near " ++ l.spelling) else unexpected
      | [] => unexpected
    else unexpected

def skipNewlines : (fuel : Nat) → Reading Unit
  | 0 => return ()
  | fuel + 1 => do
    if (← peek) == some .newline then
      advance
      skipNewlines fuel

def newlines : Reading Unit := do skipNewlines (← get).rest.length

def isKeyword (name : Bytes) : Bool := keywords.any (text · == name)

def builtins : List (String × Builtin) :=
  [("length", .length), ("substr", .substr), ("index", .index), ("split", .split), ("sub", .sub), ("gsub", .gsub),
    ("match", .found), ("sprintf", .sprintf), ("sin", .sin), ("cos", .cos), ("atan2", .atan2), ("exp", .exp),
    ("log", .log), ("sqrt", .sqrt), ("int", .int), ("rand", .rand), ("srand", .srand), ("tolower", .tolower),
    ("toupper", .toupper), ("system", .system), ("close", .close), ("fflush", .fflush)]

def builtin? (name : Bytes) : Option Builtin := (builtins.find? fun e => text e.1 == name).map (·.2)

/-- How many arguments a function can have. -/
def arity : Builtin → Nat × Nat
  | .length => (0, 1)
  | .substr | .split => (2, 3)
  | .index | .found | .atan2 => (2, 2)
  | .sub | .gsub => (2, 3)
  | .sprintf => (1, 1000)
  | .rand => (0, 0)
  | .srand | .fflush => (0, 1)
  | _ => (1, 1)

def isTarget : Expr → Bool
  | .named _ | .field _ | .element _ _ => true
  | _ => false

/-- What an expression stands in: a list of things to print, or the head of a loop. -/
structure Position where
  inPrint : Bool
  inHead : Bool

def Position.plain : Position := ⟨false, false⟩

def assignments : List (String × Option Operation) :=
  [("=", none), ("+=", some .add), ("-=", some .subtract), ("*=", some .multiply), ("/=", some .divide),
    ("%=", some .remainder), ("^=", some .power)]

def relations : List (String × Relation) :=
  [("<", .less), ("<=", .lessEqual), ("==", .equal), ("!=", .unequal), (">", .greater), (">=", .greaterEqual)]

/-- Whether an operand begins with a word, so that it can follow another one directly. -/
def beginsOperand : Option Token → Bool
  | some (.number _) | some (.text _) => true
  | some (.regular _) => true
  | some (.word name _) => !isKeyword name || name == text "getline"
  | some (.mark m) => m == "(" || m == "$" || m == "!" || m == "++" || m == "--"
  | _ => false

def regular (source : Bytes) : Reading Expr := do
  match regularOf source with
  | .ok r => return .regular r
  | .error f =>
    let reason := match f with
      | .openGroup => "missing ')'"
      | .openBracket => "bad class -- [], [^] or ["
      | _ => "syntax error ^* or ^+"
    fail (text ("regular expression compile failed (" ++ reason ++ ")\n") ++ source)

mutual

def expression (p : Position) : (fuel : Nat) → Reading Expr
  | 0 => unexpected
  | fuel + 1 => do
    let condition ← disjunction p fuel
    if ← takeMark "?" then
      newlines
      let yes ← expression p fuel
      newlines
      expect ":"
      newlines
      return .choice condition yes (← expression p fuel)
    else return condition

def disjunction (p : Position) : (fuel : Nat) → Reading Expr
  | 0 => unexpected
  | fuel + 1 => do
    let left ← conjunction p fuel
    if ← takeMark "||" then
      newlines
      return .or left (← disjunction p fuel)
    else return left

def conjunction (p : Position) : (fuel : Nat) → Reading Expr
  | 0 => unexpected
  | fuel + 1 => do
    let left ← membership p fuel
    if ← takeMark "&&" then
      newlines
      return .and left (← conjunction p fuel)
    else return left

def membership (p : Position) : (fuel : Nat) → Reading Expr
  | 0 => unexpected
  | fuel + 1 => do
    let left ← fitting p fuel
    memberships p left fuel

def memberships (p : Position) (left : Expr) : (fuel : Nat) → Reading Expr
  | 0 => return left
  | fuel + 1 => do
    if !p.inHead then
      if ← takeWord "in" then
        match ← peek with
        | some (.word name _) =>
          advance
          let subscripts := match left with
            | .group es => es
            | e => [e]
          return ← memberships p (.isIn subscripts name) fuel
        | _ => unexpected
    return left

def fitting (p : Position) : (fuel : Nat) → Reading Expr
  | 0 => unexpected
  | fuel + 1 => do
    let left ← comparison p fuel
    fittings p left fuel

def fittings (p : Position) (left : Expr) : (fuel : Nat) → Reading Expr
  | 0 => return left
  | fuel + 1 => do
    if ← takeMark "~" then fittings p (.fits true left (← comparison p fuel)) fuel
    else if ← takeMark "!~" then fittings p (.fits false left (← comparison p fuel)) fuel
    else return left

def comparison (p : Position) : (fuel : Nat) → Reading Expr
  | 0 => unexpected
  | fuel + 1 => do
    let left ← piped p fuel
    match ← peek with
    | some (.mark m) =>
      match relations.lookup m with
      | some op =>
        if p.inPrint && m == ">" then return left
        else
          advance
          return .relation op left (← piped p fuel)
      | none => return left
    | _ => return left

def piped (p : Position) : (fuel : Nat) → Reading Expr
  | 0 => unexpected
  | fuel + 1 => do
    let command ← joined p fuel
    pipes p command fuel

/-- Takes records from the output of commands. -/
def pipes (p : Position) (command : Expr) : (fuel : Nat) → Reading Expr
  | 0 => return command
  | fuel + 1 => do
    let r ← get
    match r.rest with
    | a :: b :: _ =>
      if a.token = .mark "|" && (match b.token with
          | .word name _ => name == text "getline"
          | _ => false) then
        advance
        advance
        let target ← optionalTarget fuel
        pipes p (.getline target (some .command) command) fuel
      else return command
    | _ => return command

def joined (p : Position) : (fuel : Nat) → Reading Expr
  | 0 => unexpected
  | fuel + 1 => do
    let left ← sum p fuel
    joinedMore p left fuel

def joinedMore (p : Position) (left : Expr) : (fuel : Nat) → Reading Expr
  | 0 => return left
  | fuel + 1 => do
    let t ← peek
    -- Only what begins an operand and is no operator goes on.
    if beginsOperand t && !(← isWord "in") then joinedMore p (.concat left (← sum p fuel)) fuel
    else return left

def sum (p : Position) : (fuel : Nat) → Reading Expr
  | 0 => unexpected
  | fuel + 1 => do
    let left ← product p fuel
    sums p left fuel

def sums (p : Position) (left : Expr) : (fuel : Nat) → Reading Expr
  | 0 => return left
  | fuel + 1 => do
    if ← takeMark "+" then sums p (.operation .add left (← product p fuel)) fuel
    else if ← takeMark "-" then sums p (.operation .subtract left (← product p fuel)) fuel
    else return left

def product (p : Position) : (fuel : Nat) → Reading Expr
  | 0 => unexpected
  | fuel + 1 => do
    let left ← signed p fuel
    products p left fuel

def products (p : Position) (left : Expr) : (fuel : Nat) → Reading Expr
  | 0 => return left
  | fuel + 1 => do
    if ← takeMark "*" then products p (.operation .multiply left (← signed p fuel)) fuel
    else if ← takeMark "/" then products p (.operation .divide left (← signed p fuel)) fuel
    else if ← takeMark "%" then products p (.operation .remainder left (← signed p fuel)) fuel
    else return left

def signed (p : Position) : (fuel : Nat) → Reading Expr
  | 0 => unexpected
  | fuel + 1 => do
    if ← takeMark "!" then return .not (← signed p fuel)
    else if ← takeMark "-" then return .negate (← signed p fuel)
    else if ← takeMark "+" then return .plus (← signed p fuel)
    else power p fuel

def power (p : Position) : (fuel : Nat) → Reading Expr
  | 0 => unexpected
  | fuel + 1 => do
    let base ← stepped p true fuel
    if ← takeMark "^" then
      if ← takeMark "-" then return .operation .power base (.negate (← power p fuel))
      else return .operation .power base (← power p fuel)
    else return base

/-- An operand with steps around it; one that can be a target is assigned to, unless it is the index of a field. -/
def stepped (p : Position) (assigns : Bool) : (fuel : Nat) → Reading Expr
  | 0 => unexpected
  | fuel + 1 => do
    if ← takeMark "++" then return .step (← stepped p false fuel) true true
    else if ← takeMark "--" then return .step (← stepped p false fuel) false true
    else
      let e ← operand p fuel
      if !isTarget e then return e
      else if ← takeMark "++" then return .step e true false
      else if ← takeMark "--" then return .step e false false
      else match ← peek with
        | some (.mark m) =>
          match assigns, assignments.lookup m with
          | true, some op =>
            advance
            newlines
            return .assign e op (← expression p fuel)
          | _, _ => return e
        | _ => return e

def operand (p : Position) : (fuel : Nat) → Reading Expr
  | 0 => unexpected
  | fuel + 1 => do
    match ← peek with
    | some (.number x) =>
      advance
      return .number x
    | some (.text bs) =>
      advance
      return .text bs
    | some (.regular source) =>
      let e ← regular source
      advance
      return e
    | some (.mark "$") =>
      advance
      if ← takeMark "-" then return .field (.negate (← stepped p false fuel))
      else return .field (← stepped p false fuel)
    | some (.mark "(") =>
      advance
      let es ← arguments fuel
      expect ")"
      match es with
      | [e] => return .group [e]
      | [] => unexpected
      | es => return .group es
    | some (.word name called) =>
      if name == text "getline" then
        advance
        let target ← optionalTarget fuel
        if ← takeMark "<" then return .getline target (some .file) (← stepped p false fuel)
        else return .getline target none (.text [])
      else if isKeyword name then unexpected
      else match builtin? name with
        | some b =>
          advance
          if ← takeMark "(" then
            let args ← arguments fuel
            expect ")"
            let (least, most) := arity b
            if args.length < least || most < args.length then
              fail (text "wrong number of arguments in call to " ++ name)
            else return .builtin b args
          else if b = .length then return .builtin b []
          else unexpected
        | none =>
          advance
          if called then
            advance
            let line := (← get).line
            let args ← arguments fuel
            expect ")"
            modify fun r => { r with calls := r.calls ++ [(name, args.length, line)] }
            return .call name args
          else if ← takeMark "[" then
            let subscripts ← arguments fuel
            expect "]"
            if subscripts.isEmpty then unexpected else return .element name subscripts
          else return .named name
    | _ => unexpected

/-- What a record is put into, if that is said. -/
def optionalTarget : (fuel : Nat) → Reading (Option Expr)
  | 0 => return none
  | fuel + 1 => do
    match ← peek with
    | some (.mark "$") => return some (← operand Position.plain fuel)
    | some (.word name called) =>
      if isKeyword name || (builtin? name).isSome || called then return none
      else return some (← operand Position.plain fuel)
    | _ => return none

/-- Expressions with commas between them, up to a closing mark. -/
def arguments : (fuel : Nat) → Reading (List Expr)
  | 0 => return []
  | fuel + 1 => do
    newlines
    match ← peek with
    | some (.mark ")") | some (.mark "]") => return []
    | _ =>
      let e ← expression Position.plain fuel
      newlines
      if ← takeMark "," then return e :: (← arguments fuel) else return [e]

end

/-- Expressions with commas between them, as they are printed. -/
def printed : (fuel : Nat) → Reading (List Expr)
  | 0 => return []
  | fuel + 1 => do
    let e ← expression ⟨true, false⟩ (16 * fuel + 16)
    if ← takeMark "," then
      newlines
      return e :: (← printed fuel)
    else return [e]

def fuelOf (r : Reader) : Nat := 20 * r.rest.length + 20

def anyExpression : Reading Expr := do expression Position.plain (fuelOf (← get))

/-! ## Statements -/

def endsStatement : Option Token → Bool
  | none | some .newline => true
  | some (.mark m) => m == ";" || m == "\x7d"
  | _ => false

/-- The end of a statement, with the empty lines behind it. -/
def terminator : Reading Unit := do
  match ← peek with
  | some .newline | some (.mark ";") =>
    advance
    newlines
  | some (.mark "\x7d") | none => return ()
  | _ => unexpected

def printing (formatted : Bool) : Reading Statement := do
  let t ← peek
  let begins := !(endsStatement t || t == some (.mark ">") || t == some (.mark ">>") || t == some (.mark "|"))
  let args ← if begins then printed (← get).rest.length else pure []
  let args := match args with
    | [.group es] => es
    | args => args
  let fuel := fuelOf (← get)
  let sink ← if ← takeMark ">" then do pure (some (Sink.file, ← joined ⟨true, false⟩ fuel))
    else if ← takeMark ">>" then do pure (some (Sink.append, ← joined ⟨true, false⟩ fuel))
    else if ← takeMark "|" then do pure (some (Sink.command, ← joined ⟨true, false⟩ fuel))
    else pure none
  return .print formatted args sink

/-- A statement without others in it. -/
def simple : Reading Statement := do
  if ← takeWord "print" then printing false
  else if ← takeWord "printf" then printing true
  else if ← takeWord "delete" then
    match ← peek with
    | some (.word name _) =>
      advance
      if ← takeMark "[" then
        let subscripts ← arguments (fuelOf (← get))
        expect "]"
        return .delete name subscripts
      else return .delete name []
    | _ => unexpected
  else return .expr (← anyExpression)

/-- Something that only makes sense within a loop. -/
def inLoop (name : String) (s : Statement) : Reading Statement := do
  if (← get).loops = 0 then fail (text (name ++ " statement outside of loop")) else return s

def onRecords (name : String) (s : Statement) : Reading Statement := do
  if (← get).isOutside || (← get).inFunction then fail (text ("improper use of " ++ name)) else return s

mutual

def statement : (fuel : Nat) → Reading Statement
  | 0 => unexpected
  | fuel + 1 => do
    let closed (s : Statement) : Reading Statement := do
      terminator
      return s
    if ← isMark "\x7b" then
      let s ← block fuel
      -- An empty statement may follow.
      newlines
      return s
    else if ← takeMark ";" then
      newlines
      return .block []
    else if ← takeWord "if" then
      expect "("
      let condition ← anyExpression
      expect ")"
      newlines
      let yes ← statement fuel
      newlines
      if ← isMark ";" then
        let r ← get
        advance
        newlines
        if !(← isWord "else") then set r
      if ← takeWord "else" then
        newlines
        return .conditional condition yes (← statement fuel)
      else return .conditional condition yes (.block [])
    else if ← takeWord "while" then
      expect "("
      let condition ← anyExpression
      expect ")"
      if ← takeMark ";" then
        newlines
        return .loop true condition (.block []) (.block [])
      else
        newlines
        return .loop true condition (← body fuel) (.block [])
    else if ← takeWord "do" then
      newlines
      let inner ← body fuel
      newlines
      if !(← takeWord "while") then unexpected
      expect "("
      let condition ← anyExpression
      expect ")"
      closed (.loop false condition inner (.block []))
    else if ← takeWord "for" then
      expect "("
      let eachLoop ← isEachLoop
      match eachLoop with
      | some (name, table) =>
        advance
        advance
        advance
        expect ")"
        newlines
        return .each name table (← body fuel)
      | none =>
        let before ← if ← isMark ";" then pure (.block []) else simple
        expect ";"
        newlines
        -- Without a condition the loop goes on.
        let condition ← if ← isMark ";" then pure (.text (text "1")) else anyExpression
        expect ";"
        newlines
        let behind ← if ← isMark ")" then pure (.block []) else simple
        expect ")"
        if ← takeMark ";" then
          newlines
          return .block [before, .loop true condition (.block []) behind]
        else
          newlines
          return .block [before, .loop true condition (← body fuel) behind]
    else if ← takeWord "break" then do closed (← inLoop "break" .stop)
    else if ← takeWord "continue" then do closed (← inLoop "continue" .again)
    else if ← takeWord "next" then do closed (← onRecords "next" .next)
    else if ← takeWord "nextfile" then do closed (← onRecords "nextfile" .nextFile)
    else if ← takeWord "exit" then
      let status ← if endsStatement (← peek) then pure none else do pure (some (← anyExpression))
      closed (.exit status)
    else if ← takeWord "return" then
      if !(← get).inFunction then fail (text "return outside function body")
      let value ← if endsStatement (← peek) then pure none else do pure (some (← anyExpression))
      closed (.leave value)
    else do closed (← simple)

/-- A name, the word for membership, and a table with a parenthesis behind it. -/
def isEachLoop : Reading (Option (Bytes × Bytes)) := do
  match (← get).rest with
  | a :: b :: c :: d :: _ =>
    match a.token, b.token, c.token with
    | .word name _, .word keyword _, .word table _ =>
      return if keyword == text "in" && d.token = .mark ")" then some (name, table) else none
    | _, _, _ => return none
  | _ => return none

/-- The body of a loop. -/
def body : (fuel : Nat) → Reading Statement
  | 0 => unexpected
  | fuel + 1 => do
    modify fun r => { r with loops := r.loops + 1 }
    let s ← statement fuel
    modify fun r => { r with loops := r.loops - 1 }
    return s

def block : (fuel : Nat) → Reading Statement
  | 0 => unexpected
  | fuel + 1 => do
    expect "\x7b"
    newlines
    let ss ← statements fuel
    return .block ss

def statements : (fuel : Nat) → Reading (List Statement)
  | 0 => unexpected
  | fuel + 1 => do
    newlines
    if ← takeMark "\x7d" then return []
    else if (← get).rest.isEmpty then
      let r ← get
      throw ⟨r.line + 1, text "missing \x7d near end of file", false⟩
    else
      let s ← statement fuel
      return s :: (← statements fuel)

end

/-! ## Rules and functions -/

def anyBlock : Reading Statement := do block (fuelOf (← get))

def names : (fuel : Nat) → Reading (List Bytes)
  | 0 => unexpected
  | fuel + 1 => do
    match ← peek with
    | some (.word name _) =>
      advance
      if ← takeMark "," then
        newlines
        return name :: (← names fuel)
      else return [name]
    | _ => return []

def function : Reading Function := do
  match ← peek with
  | some (.word name _) =>
    if isKeyword name || (builtin? name).isSome then unexpected
    advance
    expect "("
    let parameters ← names (← get).rest.length
    match (parameters.zipIdx.find? fun (p, i) => (parameters.take i).contains p) with
    | some (p, _) => fail (p ++ text " is duplicated in argument list")
    | none => pure ()
    expect ")"
    newlines
    modify fun r => { r with inFunction := true }
    let body ← anyBlock
    modify fun r => { r with inFunction := false }
    return ⟨name, parameters, body⟩
  | _ => unexpected

/-- A rule without an action prints the record. -/
def action : Reading Statement := do
  if ← isMark "\x7b" then anyBlock else return .print false [] none

def outside (pattern : Pattern) : Reading Rule := do
  if !(← isMark "\x7b") then unexpected
  modify fun r => { r with isOutside := true }
  let body ← anyBlock
  modify fun r => { r with isOutside := false }
  return ⟨pattern, body⟩

def rule : Reading Rule := do
  if ← takeWord "BEGIN" then outside .start
  else if ← takeWord "END" then outside .finish
  else if ← isMark "\x7b" then return ⟨.always, ← anyBlock⟩
  else
    let first ← anyExpression
    if ← takeMark "," then
      newlines
      let last ← anyExpression
      return ⟨.range first last, ← action⟩
    else return ⟨.condition first, ← action⟩

def items : (fuel : Nat) → Program → Reading Program
  | 0, p => return p
  | fuel + 1, p => do
    match ← peek with
    | none => return p
    | some .newline | some (.mark ";") =>
      advance
      items fuel p
    | some t =>
      let begins := match t with
        | .word name _ => name == text "function" || name == text "func"
        | _ => false
      if begins then
        advance
        let f ← function
        items fuel { p with functions := p.functions ++ [f] }
      else
        let r ← rule
        items fuel { p with rules := p.rules ++ [r] }

end Reading

/-- The program that a text stands for. -/
def Program.ofBytes (bs : Bytes) : Except Fault Program := do
  let lexemes ← lex (bs.length + 1) 1 none bs
  let (p, r) ← (Reading.items (lexemes.length + 1) ⟨[], []⟩).run ⟨lexemes, 1, false, false, 0, []⟩
  let wrong? := r.calls.findSome? fun (name, count, line) =>
    match p.functions.find? (·.name == name) with
    | none => some (⟨r.line + 1, text "function " ++ name ++ text " never defined", false⟩ : Fault)
    | some f => if f.parameters.length < count then some ⟨line, text "too many arguments in call to " ++ name, false⟩ else none
  match wrong? with
  | some f => throw f
  | none => return p

end DesktopRefresh.Awk
