import DesktopRefresh.Utility.Awk.World

/-!
# Running programs on records

Expressions are evaluated for their values and for what they change; rules are tried on every record in turn.
-/

namespace DesktopRefresh.Awk

open Kernel (Activity)
open Utility (Start text decimal)

namespace Run

/-- A fault while a program runs, with the place in the inputs. -/
def runtimeFault {α : Type} (message : Bytes) : Run α := do
  let name ← setting "FILENAME"
  let fnr ← setting "FNR"
  let nr ← setting "NR"
  throw (.fault (text "run time error: " ++ message ++ text "\n\tFILENAME=\"" ++ name ++ text "\" FNR=" ++ fnr ++
    text " NR=" ++ nr))

def formatted (source : Bytes) (vs : List Value) : Run Bytes := do
  match format (← conversion) (source.length + 1) 1 source vs with
  | .ok bs => return bs
  | .error .tooFew => runtimeFault (text "not enough arguments passed to printf(\"" ++ source ++ text "\")")
  | .error (.improper n) =>
    runtimeFault (text "improper conversion(number " ++ decimal n ++ text ") in printf(\"" ++ source ++ text "\")")

/-- The expression that a value stands for. -/
def regularFrom (v : Value) : Run Regular := do
  let source ← textOf v
  match regularOf source with
  | .ok r => return r
  | .error f => throw (.fault (text ("regular expression compile failed (" ++ f.message ++ ")\n") ++ source))

/-! ## Replacing -/

/-- What is put in the place of a part: an ampersand stands for the part. -/
def replacement (part : Bytes) : Bytes → Bytes
  | a :: b :: c :: rest =>
    let backslash := Bytes.ascii '\\'
    let ampersand := Bytes.ascii '&'
    if a = backslash && b = ampersand then b :: replacement part (c :: rest)
    else if a = backslash && b = backslash && c = ampersand then a :: part ++ replacement part rest
    else if a = ampersand then part ++ replacement part (b :: c :: rest)
    else a :: replacement part (b :: c :: rest)
  | [a, b] =>
    if a = Bytes.ascii '\\' && b = Bytes.ascii '&' then [b]
    else (if a = Bytes.ascii '&' then part else [a]) ++ (if b = Bytes.ascii '&' then part else [b])
  | [a] => if a = Bytes.ascii '&' then part else [a]
  | [] => []

/-- Replaces parts from a place on, in the first part only or in all; how many there were, and the text. -/
def replaceParts (all : Bool) (r : Regular) (new : Bytes) : (fuel : Nat) → (afterPart : Bool) → Regular.Spot → Nat × Bytes
  | 0, _, s => (0, s.rest)
  | fuel + 1, afterPart, s =>
    match Regular.search? false r s with
    | none => (0, s.rest)
    | some m =>
      let before := s.rest.take (m.start.position - s.position)
      -- An empty part does not count directly behind another one.
      let touches := afterPart && m.isEmpty && m.start.position == s.position
      let own := if touches then [] else replacement m.text new
      let found := if touches then 0 else 1
      if !all then (1, before ++ own ++ m.stop.rest)
      else if m.isEmpty then
        match m.stop.rest with
        | [] => (found, before ++ own)
        | b :: _ =>
          let (n, more) := replaceParts all r new fuel false m.stop.advance
          (n + found, before ++ own ++ b :: more)
      else
        let (n, more) := replaceParts all r new fuel true m.stop
        (n + found, before ++ own ++ more)

/-! ## Functions -/

/-- The number next to zero or away from it, whichever is nearer. -/
def rounded (x : Floating) : Int := ((x.add (Floating.ofQuotient false 1 2)).truncate?).getD 0

/-- The part of a text from a place on. -/
def part (bs : Bytes) (first : Floating) (length : Option Floating) : Bytes :=
  let start := rounded first
  match length with
  | none => bs.drop (start - 1).toNat
  | some n =>
    match n with
    | .infinite false => bs.drop (start - 1).toNat
    | n =>
      let stop := rounded (first.add n)
      (bs.take (stop - 1).toNat).drop (start - 1).toNat

/-- Where a text stands in another one, counted from one. -/
def indexOf (part : Bytes) : (position : Nat) → Bytes → Nat
  | n, [] => if part.isEmpty && n = 1 then 0 else 0
  | n, b :: rest => if part.isPrefixOf (b :: rest) then n else indexOf part (n + 1) rest

def numeric (f : Float → Float) (v : Value) : Value := .number (v.toNumber.byFloat f)

/-- The next number of a row that looks like chance. -/
def chance : Run Value := do
  let seed := ((← get).seed * 6364136223846793005 + 1442695040888963407) % 2 ^ 64
  modify fun w => { w with seed := seed }
  return .number (Floating.ofQuotient false (seed / 2 ^ 33) (2 ^ 31))

def system (s : Start) (command : Bytes) : Run Value := do
  flush
  let child : Activity Nat := do
    let e ← Utility.become (text "/bin/sh") [text "-c", command] s.settings
    return Utility.missingStatus e
  let id ← act (Activity.fork child.code)
  return Value.ofNat (statusOf (← act (Utility.awaitEnd id 1000)))

/-- Functions of values alone. -/
def applyBuiltin (s : Start) (b : Builtin) (vs : List Value) : Run Value := do
  match b, vs with
  | .length, [] => return Value.ofNat (← get).record.length
  | .length, v :: _ => return Value.ofNat (← textOf v).length
  | .substr, v :: first :: more => return .text (part (← textOf v) first.toNumber (more.head?.map Value.toNumber))
  | .index, [v, w] => return Value.ofNat (indexOf (← textOf w) 1 (← textOf v))
  | .sprintf, f :: vs => return .text (← formatted (← textOf f) vs)
  | .sin, [v] => return numeric Float.sin v
  | .cos, [v] => return numeric Float.cos v
  | .exp, [v] => return numeric Float.exp v
  | .log, [v] => return numeric Float.log v
  | .sqrt, [v] => return numeric Float.sqrt v
  | .atan2, [v, w] => return .number (Floating.byFloats Float.atan2 v.toNumber w.toNumber)
  | .int, [v] => return .number (match v.toNumber.truncate? with
      | some n => Floating.ofInt n
      | none => v.toNumber)
  | .rand, _ => chance
  | .srand, vs =>
    let old := (← get).seed
    let now ← act (Activity.look fun v => v.clock)
    let new := match vs with
      | v :: _ => ((v.toNumber.truncate?).getD 0).natAbs
      | [] => now / 10 ^ 9
    modify fun w => { w with seed := new }
    return Value.ofNat old
  | .tolower, [v] => return .text ((← textOf v).map Bytes.toLower)
  | .toupper, [v] => return .text ((← textOf v).map Bytes.toUpper)
  | .system, [v] => system s (← textOf v)
  | .close, [v] => return .number (Floating.ofInt (← close (← textOf v)))
  | .fflush, _ =>
    flush
    return Value.ofNat 0
  | _, _ => return .unset

/-! ## Evaluation -/

/-- How long one step of a program takes, in nanoseconds. -/
def stepTime : Nat := 200

/-- Where a value is put. -/
inductive Place where
  | named (name : Bytes)
  | field (n : Nat)
  | element (table : Nat) (key : Bytes)

def load : Place → Run Value
  | .named name => valueOf name
  | .field n => field n
  | .element table key => do
    let (v, t) := (← tableOf table).find key
    match v with
    | some v =>
      setTable table t
      return v
    | none =>
      setTable table (t.insert key .unset)
      return .unset

def store (v : Value) : Place → Run Unit
  | .named name => setValue name v
  | .field n => setField n v
  | .element table key => do setTable table ((← tableOf table).insert key v)

def fieldIndex (v : Value) : Run Nat := do
  let n := (v.toNumber.truncate?).getD 0
  if n < 0 then runtimeFault (text ("negative field index $" ++ toString n)) else return n.toNat

variable (s : Start) (p : Program)

mutual

def eval : (fuel : Nat) → Expr → Run Value
  | 0, _ => return .unset
  | fuel + 1, e => do
    match e with
    | .number x => return .number x
    | .text bs => return .text bs
    | .regular r => return Value.ofBool (Regular.search? false r (.start (← get).record)).isSome
    | .field _ | .named _ | .element _ _ => load (← place fuel e)
    | .assign target op value =>
      let place ← place fuel target
      let v ← eval fuel value
      let v ← match op with
        | none => pure v
        | some op => do pure (.number (op.apply (← load place).toNumber v.toNumber))
      store v place
      return v
    | .step target up before =>
      let place ← place fuel target
      let old := (← load place).toNumber
      let new := if up then old.add Floating.one else old.subtract Floating.one
      store (.number new) place
      return .number (if before then new else old)
    | .choice c yes no => if (← eval fuel c).isTrue then eval fuel yes else eval fuel no
    | .or a b =>
      if (← eval fuel a).isTrue then return Value.ofBool true
      else return Value.ofBool (← eval fuel b).isTrue
    | .and a b =>
      if !(← eval fuel a).isTrue then return Value.ofBool false
      else return Value.ofBool (← eval fuel b).isTrue
    | .not a => return Value.ofBool !(← eval fuel a).isTrue
    | .negate a => return .number (← eval fuel a).toNumber.negate
    | .plus a => return .number (← eval fuel a).toNumber
    | .operation op a b =>
      let x ← eval fuel a
      let y ← eval fuel b
      return .number (op.apply x.toNumber y.toNumber)
    | .relation r a b =>
      let x ← eval fuel a
      let y ← eval fuel b
      return Value.ofBool (r.holds (compareValues (← conversion) x y))
    | .concat a b =>
      let x ← textOf (← eval fuel a)
      return .text (x ++ (← textOf (← eval fuel b)))
    | .fits wanted a b =>
      let subject ← textOf (← eval fuel a)
      let r ← regularIn fuel b
      return Value.ofBool ((Regular.search? false r (.start subject)).isSome == wanted)
    | .isIn subscripts table =>
      let key ← keyOf fuel subscripts
      let id ← tableId table
      let (v, t) := (← tableOf id).find key
      setTable id t
      return Value.ofBool v.isSome
    | .call name args => callFunction fuel name args
    | .builtin b args => builtin fuel b args
    | .getline target origin source => getline fuel target origin source
    | .group es =>
      match es with
      | [e] => eval fuel e
      | es => return .text (← keyOf fuel es)

/-- The texts of subscripts in one. -/
def keyOf : (fuel : Nat) → List Expr → Run Bytes
  | 0, _ => return []
  | fuel + 1, es => do
    let parts ← es.mapM fun e => do textOf (← eval fuel e)
    return List.intercalate (← setting "SUBSEP") parts

def place : (fuel : Nat) → Expr → Run Place
  | 0, _ => return .field 0
  | fuel + 1, e => do
    match e with
    | .named name => return .named name
    | .field index => return .field (← fieldIndex (← eval fuel index))
    | .element table subscripts =>
      let key ← keyOf fuel subscripts
      return .element (← tableId table) key
    | .group [e] => place fuel e
    | _ => return .field 0

/-- An expression that stands where a regular one is expected. -/
def regularIn : (fuel : Nat) → Expr → Run Regular
  | 0, _ => return .empty
  | fuel + 1, e => do
    match e with
    | .regular r => return r
    | e => regularFrom (← eval fuel e)

def builtin : (fuel : Nat) → Builtin → List Expr → Run Value
  | 0, _, _ => return .unset
  | fuel + 1, b, args => do
    match b, args with
    | .length, [.named name] =>
      match ← slot name with
      | some (.table id) => return Value.ofNat (← tableOf id).length
      | _ => applyBuiltin s b [← eval fuel (.named name)]
    | .split, subject :: .named table :: more =>
      let bs ← textOf (← eval fuel subject)
      let parts ← match more with
        | .regular r :: _ => pure (if bs.isEmpty then [] else splitBy r (bs.length + 1) bs)
        | e :: _ => do split (← textOf (← eval fuel e)) false bs
        | [] => do split (← setting "FS") false bs
      let elements := (parts.zipIdx 1).map fun (part, i) => (decimal i, Value.ofInput part)
      setTable (← tableId table) elements.reverse
      return Value.ofNat parts.length
    | .sub, r :: new :: more => replaceIn fuel false r new more
    | .gsub, r :: new :: more => replaceIn fuel true r new more
    | .found, [subject, r] =>
      let bs ← textOf (← eval fuel subject)
      let r ← regularIn fuel r
      let (start, length) : Nat × Int := match Regular.search? false r (.start bs) with
        | some m => (m.start.position + 1, m.text.length)
        | none => (0, -1)
      setValue (text "RSTART") (Value.ofNat start)
      setValue (text "RLENGTH") (.number (Floating.ofInt length))
      return Value.ofNat start
    | b, args => do
      let vs ← args.mapM (eval fuel)
      applyBuiltin s b vs

def replaceIn : (fuel : Nat) → Bool → Expr → Expr → List Expr → Run Value
  | 0, _, _, _, _ => return .unset
  | fuel + 1, all, r, new, more => do
    let r ← regularIn fuel r
    let new ← textOf (← eval fuel new)
    let place ← match more with
      | target :: _ => place fuel target
      | [] => pure (.field 0)
    let bs ← textOf (← load place)
    let (n, result) := replaceParts all r new (bs.length + 2) false (.start bs)
    if 0 < n then store (.text result) place
    return Value.ofNat n

def getline : (fuel : Nat) → Option Expr → Option Origin → Expr → Run Value
  | 0, _, _, _ => return .unset
  | fuel + 1, target, origin, source => do
    let place ← match target with
      | some e => do pure (some (← place fuel e))
      | none => pure none
    let take (bs : Bytes) : Run Unit :=
      match place with
      | some place => store (Value.ofInput bs) place
      | none => setRecord bs
    match origin with
    | none =>
      match ← nextMain mostInputs with
      | some bs =>
        take bs
        return Value.ofNat 1
      | none => return Value.ofNat 0
    | some origin =>
      match ← nextFrom s origin (← textOf (← eval fuel source)) with
      | .error _ => return .number Floating.one.negate
      | .ok none => return Value.ofNat 0
      | .ok (some bs) =>
        if origin = .command then count "NR"
        take bs
        return Value.ofNat 1

/-- Calls a function; tables are shared with it, and other values are not. -/
def callFunction : (fuel : Nat) → Bytes → List Expr → Run Value
  | 0, _, _ => return .unset
  | fuel + 1, name, args => do
    match p.functions.find? (·.name == name) with
    | none => return .unset
    | some f =>
      act (Activity.spend stepTime)
      let slots ← args.mapM fun e => do
        match e with
        | .named name =>
          match ← slot name with
          | some (.table id) => return Slot.table id
          | some (.undecided id) => return .undecided id
          | some (.scalar .unset) | none =>
            if name == text "NF" then return .scalar (← eval fuel e)
            else
              let id ← newTable
              setSlot name (.undecided id)
              return .undecided id
          | some (.scalar v) => return .scalar v
        | e => return .scalar (← eval fuel e)
      let saved := (← get).locals
      let slots := slots ++ List.replicate (f.parameters.length - slots.length) (.scalar .unset)
      modify fun w => { w with locals := f.parameters.zip slots }
      let value ← tryCatch (do
        exec fuel f.body
        pure Value.unset) fun
        | .leave v => pure v
        | e => throw e
      modify fun w => { w with locals := saved }
      return value

def exec : (fuel : Nat) → Statement → Run Unit
  | 0, _ => return ()
  | fuel + 1, st => do
    match st with
    | .expr e => discard <| eval fuel e
    | .print isFormatted args sink =>
      let vs ← args.mapM (eval fuel)
      let bs ← if isFormatted then
          match vs with
          | f :: vs => do formatted (← textOf f) vs
          | [] => pure []
        else do
          let numbers ← setting "OFMT"
          let parts := vs.map (Value.toText numbers)
          let between ← setting "OFS"
          let record := (← get).record
          let body := if args.isEmpty then record else List.intercalate between parts
          pure (body ++ (← setting "ORS"))
      match sink with
      | none => emit bs
      | some (sink, name) => emitTo s sink (← textOf (← eval fuel name)) bs
    | .conditional c yes no => if (← eval fuel c).isTrue then exec fuel yes else exec fuel no
    | .loop first c body behind => loop fuel first c body behind
    | .each name table body =>
      let keys := (← tableOf (← tableId table)).keys
      each fuel name body keys
    | .block ss => ss.forM (exec fuel)
    | .delete table subscripts =>
      let id ← tableId table
      if subscripts.isEmpty then setTable id []
      else
        let key ← keyOf fuel subscripts
        setTable id ((← tableOf id).eraseP (·.1 == key))
    | .next => throw .next
    | .nextFile => throw .nextFile
    | .exit status =>
      match status with
      | some e =>
        let n := ((← eval fuel e).toNumber.truncate?).getD 0
        modify fun w => { w with status := (n % 256).toNat }
      | none => pure ()
      throw .exit
    | .leave value =>
      match value with
      | some e => throw (.leave (← eval fuel e))
      | none => throw (.leave .unset)
    | .stop => throw .stopLoop
    | .again => throw .again

def loop : (fuel : Nat) → Bool → Expr → Statement → Statement → Run Unit
  | 0, _, _, _, _ => return ()
  | fuel + 1, first, c, body, behind => do
    act (Activity.spend stepTime)
    let goes ← if first then do pure (← eval fuel c).isTrue else pure true
    if goes then
      let ended ← round fuel body
      if !ended then
        exec fuel behind
        if first then loop fuel first c body behind
        else if (← eval fuel c).isTrue then loop fuel first c body behind

/-- The body of a loop once; the answer is whether it ended the loop. -/
def round : (fuel : Nat) → Statement → Run Bool
  | 0, _ => return true
  | fuel + 1, body =>
    tryCatch (do
      exec fuel body
      pure false) fun
      | .stopLoop => pure true
      | .again => pure false
      | e => throw e

def each : (fuel : Nat) → Bytes → Statement → List Bytes → Run Unit
  | 0, _, _, _ => return ()
  | _, _, _, [] => return ()
  | fuel + 1, name, body, key :: rest => do
    act (Activity.spend stepTime)
    setValue name (.text key)
    if !(← round fuel body) then each fuel name body rest

end

/-! ## Rules -/

/-- More than the steps of any program that ends. -/
def mostSteps : Nat := 10 ^ 12

/-- Whether a rule fits the record. -/
def applies (index : Nat) (pattern : Pattern) : Run Bool := do
  match pattern with
  | .start | .finish => return false
  | .always => return true
  | .condition e => return (← eval s p mostSteps e).isTrue
  | .range first last =>
    let began ← if (← get).ranges.contains index then pure true else do pure (← eval s p mostSteps first).isTrue
    if began then
      let ends := (← eval s p mostSteps last).isTrue
      modify fun w => { w with
        ranges := if ends then w.ranges.filter (· != index) else index :: w.ranges.filter (· != index) }
    return began

def applyRules : List (Rule × Nat) → Run Unit
  | [] => return ()
  | (r, i) :: rest => do
    if ← applies s p i r.pattern then exec s p mostSteps r.action
    applyRules rest

/-- Works on all records. -/
def records (rules : List (Rule × Nat)) : (fuel : Nat) → Run Unit
  | 0 => return ()
  | fuel + 1 => do
    match ← nextMain mostInputs with
    | none => return ()
    | some bs =>
      act (Activity.spend stepTime)
      setRecord bs
      tryCatch (applyRules s p rules) fun
        | .next => pure ()
        | .nextFile => modify fun w => { w with main := none }
        | e => throw e
      records rules fuel

/-- Closes everything that was written to, and waits for the commands among it. -/
def closeAll : Run Unit := do
  flush
  let outlets := (← get).outlets
  modify fun w => { w with outlets := [] }
  for (_, _, o) in outlets do
    act (Activity.close o.descriptor)
    discard <| awaitChild o.child

/-- The whole work; its end is told by an answer without a value. -/
def whole : Run Unit := do
  let isStart (r : Rule) : Bool := match r.pattern with
    | .start => true
    | _ => false
  let isFinish (r : Rule) : Bool := match r.pattern with
    | .finish => true
    | _ => false
  let others := p.rules.zipIdx.filter fun (r, _) => !isStart r && !isFinish r
  let finals := p.rules.filter isFinish
  tryCatch (do
    (p.rules.filter isStart).forM fun r => exec s p mostSteps r.action
    if !(others.isEmpty && finals.isEmpty) then records s p others Activity.mostPieces) fun
    | .exit => pure ()
    | e => throw e
  tryCatch (finals.forM fun r => exec s p mostSteps r.action) fun
    | .exit => pure ()
    | e => throw e

end Run

end DesktopRefresh.Awk
