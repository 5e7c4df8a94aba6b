import DesktopRefresh.Utility.Concatenation
import DesktopRefresh.Utility.Directory

/-!
# Utilities that compare files

Where two files differ first, and how the lines of one become those of the other. The status says whether
there was a difference, or trouble.
-/

namespace DesktopRefresh.Utility

open Kernel (Activity View)

/-- The status for trouble. -/
def trouble : Nat := 2

def comparisonMisuse (s : Start) (message : Bytes) : Activity Nat := do
  complain s message
  complain s (text "Try '" ++ s.name ++ text " --help' for more information.")
  return trouble

/-- Runs something with the options and other arguments, unless those cannot be read. -/
def withComparisonOptions (specs : List OptionSpec) (s : Start) (run : Options → Activity Nat) : Activity Nat :=
  match sortOut (specs ++ commonOptions) true (s.args.length + 1) s.args with
  | .error message => comparisonMisuse s message
  | .ok o => if o.has helpLetter || o.has versionLetter then return 0 else run o

/-! ## cmp -/

/-- How differences of bytes are shown. -/
inductive ByteReport where
  | first | all | nothing
  deriving DecidableEq

/-- How many bytes and lines two texts have in common, and what is left of both. -/
def commonStart : (left right : Bytes) → (bytes lines : Nat) → (ended : Bool) → Nat × Nat × Bool × Bytes × Bytes
  | a :: as, b :: bs, bytes, lines, ended =>
    if a = b then
      commonStart as bs (bytes + 1) (if a = Bytes.newline then lines + 1 else lines) (a = Bytes.newline)
    else (bytes, lines, ended, a :: as, b :: bs)
  | as, bs, bytes, lines, ended => (bytes, lines, ended, as, bs)

/-- The differences of two texts by their positions. -/
def byteDifferences (left right : Bytes) : List (Nat × UInt8 × UInt8) :=
  ((left.zip right).zipIdx 1).filterMap fun ((a, b), i) => if a = b then none else some (i, a, b)

def octal3 (b : UInt8) : Bytes := padLeft 3 (text (String.ofList (Nat.toDigits 8 b.toNat)))

/-- A byte in octal digits, and as a character if that is asked for. -/
def shownByte (asText : Bool) (b : UInt8) : Bytes :=
  octal3 b ++ if asText then [Bytes.ascii ' '] ++ visible b else []

/-- The number of digits that the positions of two texts need. -/
def positionWidth (left right : Bytes) : Nat := (decimal (max 1 (min left.length right.length))).length

def reportBytes (s : Start) (report : ByteReport) (asText : Bool) (names : Bytes × Bytes) (left right : Bytes) :
    Activity Nat := do
  let (bytes, lines, ended, restLeft, restRight) := commonStart left right 0 1 false
  -- One of them ends first.
  let short (name : Bytes) (shorter : Bytes) (withLines : Bool) : Activity Nat := do
    if report != .nothing then
      let place := if shorter.isEmpty then text " which is empty"
        else text " after byte " ++ decimal shorter.length ++
          (if !withLines then []
          else if ended then text ", line " ++ decimal (lines - 1) else text ", in line " ++ decimal lines)
      complain s (text "EOF on " ++ name ++ place)
    return 1
  match report, restLeft, restRight with
  | _, [], [] => return 0
  | .all, _, _ =>
    let width := positionWidth left right
    let cell (b : UInt8) : Bytes :=
      if asText then
        let shown := shownByte true b
        shown ++ List.replicate (8 - shown.length) (Bytes.ascii ' ')
      else octal3 b
    let line (d : Nat × UInt8 × UInt8) : Bytes :=
      padLeft width (decimal d.1) ++ text " " ++ cell d.2.1 ++ text " " ++ (if asText then shownByte true d.2.2 else octal3 d.2.2) ++
        [Bytes.newline]
    write 1 ((byteDifferences left right).flatMap line)
    if left.length < right.length then short names.1 left false
    else if right.length < left.length then short names.2 right false
    else return 1
  | _, [], _ => short names.1 left true
  | _, _, [] => short names.2 right true
  | .nothing, _, _ => return 1
  | .first, a :: _, b :: _ =>
    let place := decimal (bytes + 1) ++ text ", line " ++ decimal lines
    let front := names.1 ++ text " " ++ names.2 ++ text " differ: "
    write 1 (if asText then
        front ++ text "byte " ++ place ++ text " is " ++ shownByte true a ++ text " " ++ shownByte true b ++ [Bytes.newline]
      else front ++ text "char " ++ place ++ [Bytes.newline])
    return 1

/-- Two numbers that can be different, with a mark between them. -/
def skips? (bs : Bytes) : Option (Nat × Nat) :=
  match Bytes.splitAt (Bytes.ascii ':') bs with
  | [n] => (scaled? n).map fun n => (n, n)
  | [m, n] => do return (← scaled? m, ← scaled? n)
  | _ => none

def cmp : Utility := fun s =>
  withComparisonOptions [⟨'b', .nothing, ["print-bytes"]⟩, ⟨'i', .argument, ["ignore-initial"]⟩,
      ⟨'l', .nothing, ["verbose"]⟩, ⟨'n', .argument, ["bytes"]⟩, ⟨'s', .nothing, ["quiet", "silent"]⟩] s fun o => do
    if o.has 'l' && o.has 's' then comparisonMisuse s (text "options -l and -s are incompatible")
    else match (o.last? 'i').map skips?, (o.last? 'n').map scaled? with
    | some none, _ => comparisonMisuse s (text "invalid --ignore-initial value " ++ quoted ((o.last? 'i').getD []))
    | _, some none => comparisonMisuse s (text "invalid --bytes value " ++ quoted ((o.last? 'n').getD []))
    | initial, limit =>
      match o.operands with
      | [] => comparisonMisuse s (text "missing operand after " ++ quoted (s.args.getLast?.getD s.name))
      | left :: more =>
        let right := more.head?.getD hyphen
        let skip (i : Nat) : Option Nat := more[i]?.map fun n => (natural? n).getD 0
        match more[3]? with
        | some extra => comparisonMisuse s (text "extra operand " ++ quoted extra)
        | none =>
          let initial := (initial.getD none).getD (0, 0)
          let skips := ((skip 1).getD initial.1, (skip 2).getD initial.2)
          let report : ByteReport := if o.has 's' then .nothing else if o.has 'l' then .all else .first
          let failed (name : Bytes) (e : Errno) : Activity Nat := do
            if report != .nothing || e != .noEntry then complain s (refusal (name) e)
            return trouble
          let (l, r) ← Activity.look fun v => (v.stat left, v.stat right)
          let isSame := match l, r with
            | .ok (l, _), .ok (r, _) => l = r && left != hyphen && right != hyphen
            | _, _ => false
          if isSame && skips.1 = skips.2 then return 0
          else match ← readInput left with
          | (.error e, _) | (.ok _, some e) => failed left e
          | (.ok a, none) =>
            match ← readInput right with
            | (.error e, _) | (.ok _, some e) => failed right e
            | (.ok b, none) =>
              let part (n : Nat) (bs : Bytes) : Bytes :=
                let rest := bs.drop n
                match limit.getD none with
                | some most => rest.take most
                | none => rest
              reportBytes s report (o.has 'b') (left, right) (part skips.1 a) (part skips.2 b)

/-! ## Changes of lines -/

/-- What lines count as the same. -/
structure LineStyle where
  ignoresCase : Bool
  ignoresBlanks : Bool
  /-- Blanks count, but not how many. -/
  joinsBlanks : Bool
  deriving DecidableEq

/-- Blanks at the end are dropped and others in a row become one. -/
def joinBlanks : Bytes → Bytes
  | [] => []
  | b :: rest =>
    let rest := joinBlanks rest
    if Bytes.isBlank b || b = Bytes.newline then
      match rest with
      | [] => []
      | c :: _ => if c = Bytes.ascii ' ' then rest else Bytes.ascii ' ' :: rest
    else b :: rest

def LineStyle.key (c : LineStyle) (line : Bytes) : Bytes :=
  let line := if c.ignoresCase then line.map Bytes.toLower else line
  if c.ignoresBlanks then line.filter fun b => !(Bytes.isBlank b || b = Bytes.newline)
  else if c.joinsBlanks then joinBlanks line
  else line

/-- The lengths of longest common subsequences of a row of lines with the ends of another one. -/
def commonRow (a : Bytes) (right : List Bytes) (below : List Nat) : List Nat :=
  match right, below with
  | b :: bs, n :: rest =>
    let row := commonRow a bs rest
    (if a = b then rest.headD 0 + 1 else max n (row.headD 0)) :: row
  | _, _ => [0]

/-- The table of these lengths for all ends of the left lines. -/
def commonTable (right : List Bytes) : List Bytes → List (List Nat)
  | [] => [List.replicate (right.length + 1) 0]
  | a :: as =>
    let table := commonTable right as
    commonRow a right (table.headD []) :: table

/-- Which lines of both sides change; a line that both share is kept when that loses nothing. -/
def changedLines : List (List Nat) → (left right : List Bytes) → (fuel : Nat) → List Bool × List Bool
  | _, left, right, 0 => (left.map fun _ => true, right.map fun _ => true)
  | _, [], right, _ => ([], right.map fun _ => true)
  | _, left, [], _ => (left.map fun _ => true, [])
  | table, a :: as, b :: bs, fuel + 1 =>
    let below := table.drop 1
    if a = b then
      let (l, r) := changedLines (below.map (·.drop 1)) as bs fuel
      (false :: l, false :: r)
    else if ((table.headD []).drop 1).headD 0 ≤ (below.headD []).headD 0 then
      let (l, r) := changedLines below as (b :: bs) fuel
      (true :: l, r)
    else
      let (l, r) := changedLines (table.map (·.drop 1)) (a :: as) bs fuel
      (l, true :: r)

/-- Lines of both sides that take each other's place, with their first numbers. -/
structure LineChange where
  left : Nat
  right : Nat
  removed : List Bytes
  added : List Bytes

/-- Puts changed lines that follow each other into one change. -/
def changesOf : List (Bytes × Bool) → List (Bytes × Bool) → (fuel m n : Nat) → (removed added : List Bytes) → List LineChange
  | left, right, 0, m, n, _, _ => [⟨m, n, left.map (·.1), right.map (·.1)⟩]
  | (a, true) :: left, right, fuel + 1, m, n, removed, added => changesOf left right fuel m n (a :: removed) added
  | left, (b, true) :: right, fuel + 1, m, n, removed, added => changesOf left right fuel m n removed (b :: added)
  | left, right, fuel + 1, m, n, removed, added =>
    let own := if removed.isEmpty && added.isEmpty then [] else [⟨m, n, removed.reverse, added.reverse⟩]
    match left, right with
    | _ :: left, _ :: right =>
      own ++ changesOf left right fuel (m + removed.length + 1) (n + added.length + 1) [] []
    | _, _ => own

def lineChanges (c : LineStyle) (left right : List Bytes) : List LineChange :=
  let keys (ls : List Bytes) : List Bytes := ls.map c.key
  let fuel := left.length + right.length + 1
  let (l, r) := changedLines (commonTable (keys right) (keys left)) (keys left) (keys right) fuel
  changesOf (left.zip l) (right.zip r) fuel 1 1 [] []

/-- The numbers of some lines: the first and the last one, or only one. -/
def lineNumbers (first count : Nat) : Bytes :=
  if count ≤ 1 then decimal (if count = 0 then first - 1 else first)
  else decimal first ++ text "," ++ decimal (first + count - 1)

/-- Lines behind a mark; a missing end of the last one is pointed out. -/
def markedLines (mark : String) (lines : List Bytes) : Bytes := lines.flatMap fun l =>
  text mark ++ if l.getLast? == some Bytes.newline then l else l ++ text "\n\\ No newline at end of file\n"

/-- A change as lines to take away and lines to put in. -/
def LineChange.normal (c : LineChange) : Bytes :=
  let letter := if c.removed.isEmpty then "a" else if c.added.isEmpty then "d" else "c"
  lineNumbers c.left c.removed.length ++ text letter ++ lineNumbers c.right c.added.length ++ [Bytes.newline] ++
    markedLines "< " c.removed ++ (if c.removed.isEmpty || c.added.isEmpty then [] else text "---\n") ++
    markedLines "> " c.added

/-- Changes near each other, which share the lines around them. -/
def hunks (context : Nat) : List LineChange → List (List LineChange)
  | [] => []
  | c :: rest =>
    match hunks context rest with
    | (d :: ds) :: others =>
      if d.left ≤ c.left + c.removed.length + 2 * context then (c :: d :: ds) :: others else [c] :: (d :: ds) :: others
    | others => [c] :: others

/-- The lines of a hunk from one number on, with the lines that both sides share. -/
def hunkLines (left : List Bytes) : List LineChange → (next : Nat) → Bytes
  | [], _ => []
  | c :: rest, next =>
    markedLines " " ((left.drop (next - 1)).take (c.left - next)) ++ markedLines "-" c.removed ++
      markedLines "+" c.added ++ hunkLines left rest (c.left + c.removed.length)

def hunkNumbers (first count : Nat) : Bytes :=
  if count = 1 then decimal first
  else decimal (if count = 0 then first - 1 else first) ++ text "," ++ decimal count

def unified (context : Nat) (left : List Bytes) (h : List LineChange) : Bytes :=
  match h, h.getLast? with
  | first :: _, some last =>
    let before := min context (first.left - 1)
    let start := first.left - before
    let stop := last.left + last.removed.length
    let after := min context (left.length + 1 - stop)
    let removed := (h.map fun c => c.removed.length).sum
    let added := (h.map fun c => c.added.length).sum
    let size := stop + after - start
    text "@@ -" ++ hunkNumbers start size ++ text " +" ++ hunkNumbers (first.right - before) (size + added - removed) ++
      text " @@\n" ++ hunkLines left h start ++ markedLines " " ((left.drop (stop - 1)).take after)
  | _, _ => []

/-! ## diff -/

inductive ChangeReport where
  | normal
  | unified (context : Nat)
  /-- Only that there is a difference. -/
  | brief
  deriving DecidableEq

structure DiffStyle where
  lines : LineStyle
  /-- All files count as text. -/
  takesText : Bool
  report : ChangeReport
  /-- Files that are the same are reported as well. -/
  reportsSame : Bool
  descends : Bool
  /-- A file that is missing counts as an empty one. -/
  addsMissing : Bool
  labels : List Bytes
  /-- The options as they were given, for the titles of changes in directories. -/
  given : List Bytes

def DiffStyle.isTextual (c : DiffStyle) (bs : Bytes) : Bool := c.report != .brief && (c.takesText || !(bs.take 4096).contains 0)

def diffTexts (s : Start) (c : DiffStyle) (title : Bytes) (names : Bytes × Bytes) (left right : Bytes) : Activity Nat := do
  let same := left == right
  if same then
    let names := ((c.labels[0]?).getD names.1, (c.labels[1]?).getD names.2)
    if c.reportsSame then write 1 (text "Files " ++ names.1 ++ text " and " ++ names.2 ++ text " are identical\n")
    return 0
  else if !(c.isTextual left && c.isTextual right) then
    let isBinary := c.report != .brief
    let names := ((c.labels[0]?).getD names.1, (c.labels[1]?).getD names.2)
    write 1 (text (if isBinary then "Binary files " else "Files ") ++ names.1 ++ text " and " ++ names.2 ++ text " differ\n")
    return if isBinary then trouble else 1
  else
    let (l, r) := (linesOf left, linesOf right)
    match lineChanges c.lines l r with
    | [] => return 0
    | changes =>
      let heading (mark : String) (i : Nat) (name : Bytes) : Bytes :=
        text mark ++ (match c.labels[i]? with
          | some label => label
          | none => name ++ text "\t1970-01-01 00:00:00.000000000 +0000") ++ [Bytes.newline]
      deliver s (title ++ match c.report with
        | .unified context => heading "--- " 0 names.1 ++ heading "+++ " 1 names.2 ++
            (hunks context changes).flatMap (unified context l)
        | _ => changes.flatMap LineChange.normal) 1

def joined (dir name : Bytes) : Bytes :=
  if dir.getLast? == some Bytes.slash then dir ++ name else dir ++ Bytes.slash :: name

def lastPart (path : Bytes) : Bytes :=
  ((path.reverse.dropWhile (· = Bytes.slash)).takeWhile (· != Bytes.slash)).reverse

def kindOf (e : Entry) : String :=
  match e with
  | .directory _ => "directory"
  | .device _ => "character special file"
  | .file _ [] => "regular empty file"
  | _ => "regular file"

def namesAt (path : Bytes) (v : View) : List Bytes :=
  match v.stat path with
  | .ok (l, _) => v.tree.namesIn l
  | .error _ => []

/-- A file stands against a directory. -/
def reportKinds (left right : Bytes) (l r : Option Entry) : Activity Nat := do
  let kind (e : Option Entry) : Bytes := text ((e.map kindOf).getD "regular file")
  write 1 (text "File " ++ left ++ text " is a " ++ kind l ++ text " while file " ++ right ++ text " is a " ++ kind r ++
    [Bytes.newline])
  return 1

/-- Compares two files or directories; one that is missing is not an entry. -/
def diffPaths (s : Start) (c : DiffStyle) : (depth : Nat) → (inside : Bool) → (left right : Bytes) → Activity Nat
  | 0, _, _, _ => return trouble
  | depth + 1, inside, left, right => do
    let side (path : Bytes) : Activity (Except Errno (Option Entry)) :=
      if path == hyphen then return .ok none
      else do return (← targetOf path).map fun e => some e.2
    let isDirectory (e : Option Entry) : Bool := (e.map Entry.isDirectory).getD false
    let readSide (path : Bytes) (missing : Bool) : Activity (Except Errno Bytes) :=
      if missing then return .ok []
      else do
        match ← readInput path with
        | (.error e, _) | (.ok _, some e) => return .error e
        | (.ok bs, none) => return .ok bs
    let texts (missingLeft missingRight : Bool) : Activity Nat := do
      match ← readSide left missingLeft, ← readSide right missingRight with
      | .ok a, .ok b =>
        let title := if !inside then []
          else text "diff" ++ (c.given.flatMap fun o => Bytes.ascii ' ' :: o) ++ text " " ++ left ++ text " " ++ right ++ [Bytes.newline]
        diffTexts s c (if c.report == .brief then [] else title) (left, right) a b
      | .error e, .ok _ =>
        complain s (refusal left e)
        return trouble
      | .ok _, .error e =>
        complain s (refusal right e)
        return trouble
      | .error e, .error f =>
        complain s (refusal left e)
        complain s (refusal right f)
        return trouble
    let directories : Activity Nat := do
      let names ← Activity.look fun v => (namesAt left v, namesAt right v)
      let all := (names.1 ++ names.2.filter fun n => !names.1.contains n).mergeSort fun a b => decide (a ≤ b)
      forEach (fun name =>
        if names.1.contains name && names.2.contains name || c.addsMissing then
          diffPaths s c depth true (joined left name) (joined right name)
        else do
          write 1 (text "Only in " ++ (if names.1.contains name then left else right) ++ text ": " ++ name ++
            [Bytes.newline])
          return 1) all 0
    match ← side left, ← side right with
    | .error e, .error f =>
      complain s (refusal left e)
      complain s (refusal right f)
      return trouble
    | .error e, .ok r =>
      if e == .noEntry && c.addsMissing then (if isDirectory r then directories else texts true false)
      else
        complain s (refusal left e)
        return trouble
    | .ok l, .error e =>
      if e == .noEntry && c.addsMissing then (if isDirectory l then directories else texts false true)
      else
        complain s (refusal right e)
        return trouble
    | .ok l, .ok r =>
      match isDirectory l, isDirectory r with
      | false, false => texts false false
      | true, true =>
        if inside && !c.descends then
          write 1 (text "Common subdirectories: " ++ left ++ text " and " ++ right ++ [Bytes.newline])
          return 0
        else directories
      | true, false =>
        if inside then reportKinds left right l r else diffPaths s c depth false (joined left (lastPart right)) right
      | false, true =>
        if inside then reportKinds left right l r else diffPaths s c depth false left (joined right (lastPart left))

def diffOptions : List OptionSpec :=
  [⟨'a', .nothing, ["text"]⟩, ⟨'b', .nothing, ["ignore-space-change"]⟩, ⟨'B', .nothing, ["ignore-blank-lines"]⟩,
    ⟨'d', .nothing, ["minimal"]⟩, ⟨'E', .nothing, ["ignore-tab-expansion"]⟩, ⟨'i', .nothing, ["ignore-case"]⟩,
    ⟨'L', .argument, ["label"]⟩, ⟨'N', .nothing, ["new-file"]⟩, ⟨'q', .nothing, ["brief"]⟩,
    ⟨'r', .nothing, ["recursive"]⟩, ⟨'s', .nothing, ["report-identical-files"]⟩, ⟨'t', .nothing, ["expand-tabs"]⟩,
    ⟨'u', .nothing, []⟩, ⟨'U', .argument, ["unified"]⟩, ⟨'w', .nothing, ["ignore-all-space"]⟩,
    ⟨'Z', .nothing, ["ignore-trailing-space"]⟩, ⟨'ν', .nothing, ["normal"]⟩, ⟨'χ', .maybe, ["color"]⟩,
    ⟨'f', .nothing, ["forward-ed"]⟩, ⟨'T', .nothing, ["initial-tab"]⟩]

/-- How deep directories can be. -/
def deepest : Nat := 100

def diff : Utility := fun s =>
  withComparisonOptions diffOptions s fun o =>
    let style : DiffStyle :=
      { lines := ⟨o.has 'i', o.has 'w', o.has 'b' || o.has 'Z'⟩
        takesText := o.has 'a'
        report :=
          if o.has 'q' then .brief
          else match o.last? 'U' with
            | some n => .unified ((natural? n).getD 3)
            | none => if o.has 'u' then .unified 3 else .normal
        reportsSame := o.has 's'
        descends := o.has 'r'
        addsMissing := o.has 'N'
        labels := (o.given.filter (·.1 == 'L')).map (·.2)
        given := s.args.filter fun a => a.head? == some (Bytes.ascii '-') && 1 < a.length }
    if 2 < style.labels.length then do
      complain s (text "too many file label options")
      return trouble
    else match o.operands with
    | [left, right] => diffPaths s style deepest false left right
    | [only] => comparisonMisuse s (text "missing operand after " ++ quoted only)
    | [] => comparisonMisuse s (text "missing operand after " ++ quoted (s.args.getLast?.getD s.name))
    | _ :: _ :: extra :: _ => comparisonMisuse s (text "extra operand " ++ quoted extra)

end DesktopRefresh.Utility
