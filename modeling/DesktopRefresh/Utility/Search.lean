import DesktopRefresh.Text.Regular.Parser
import DesktopRefresh.Utility.Directory

/-!
# Searching texts

Lines that some pattern fits are printed or counted, or the inputs that have such lines are named. An input
with a zero byte in it is not shown; it is only said that it has such a line.
-/

namespace DesktopRefresh.Utility

open Kernel (Activity View)

/-- How much of a line, or of the text around it, a pattern has to account for. -/
inductive Span where
  | anywhere | words | lines
  deriving DecidableEq

/-- What is printed of an input. -/
inductive Listing where
  | lines | matching | count | having | lacking | nothing
  deriving DecidableEq

structure Search where
  patterns : List Regular
  anyCase : Bool
  span : Span
  inverted : Bool
  listing : Listing
  numbered : Bool
  withOffset : Bool
  asText : Bool
  /-- An input with a zero byte in it counts as one without such lines. -/
  skipsBinary : Bool
  most : Option Nat
  before : Nat
  after : Nat
  separator : UInt8
  nameEnd : Option UInt8
  silent : Bool

namespace Search

/-- A part that is fitted is good enough if it has the right surroundings. -/
def isGood (w : Search) (m : Regular.Match) : Bool :=
  match w.span with
  | .anywhere => true
  | .lines => m.start.before.isNone && m.stop.rest.isEmpty
  | .words => !m.start.before.any Regular.isWordByte && !m.stop.rest.head?.any Regular.isWordByte

/-- The first part of a line that some pattern fits, and of those the longest. -/
def find? (w : Search) (s : Regular.Spot) : Option Regular.Match :=
  let found := w.patterns.filterMap fun r =>
    Regular.searchFrom ⟨w.anyCase, r.looksBack⟩ r w.isGood s.rest { s with groups := [] }
  let better (best : Option Regular.Match) (m : Regular.Match) : Option Regular.Match :=
    match best with
    | none => some m
    | some b =>
      if m.start.position < b.start.position then some m
      else if m.start.position = b.start.position ∧ b.stop.position < m.stop.position then some m
      else some b
  found.foldl better none

def selects (w : Search) (line : Bytes) : Bool := (w.find? (.start line)).isSome != w.inverted

/-- All parts of a line that are not empty, with their positions. -/
def parts (w : Search) : (fuel : Nat) → Regular.Spot → List (Nat × Bytes)
  | 0, _ => []
  | fuel + 1, s =>
    match w.find? s with
    | none => []
    | some m =>
      if m.isEmpty then
        if m.stop.rest.isEmpty then [] else w.parts fuel m.stop.advance
      else (m.start.position, m.text) :: w.parts fuel m.stop

end Search

/-- How far the search of an input is. -/
structure Searching where
  line : Nat
  offset : Nat
  /-- The lines that were selected. -/
  count : Nat
  /-- The lines after the last selected one that are still to be shown. -/
  due : Nat
  /-- Lines that were not shown, with their numbers and offsets, the last first. -/
  held : List (Nat × Nat × Bytes)
  /-- The number of the last line that was shown. -/
  shown : Nat
  /-- Something was shown of this or an earlier input. -/
  separates : Bool
  isBinary : Bool
  finished : Bool
  /-- What is to be printed, the last first. -/
  output : List Bytes

def Searching.start (separates : Bool) : Searching := ⟨0, 0, 0, 0, [], 0, separates, false, false, []⟩

section
variable (w : Search) (title : Option Bytes)

/-- What stands in front of a line. -/
def lineFront (mark : UInt8) (number offset : Nat) : Bytes :=
  (match title with
    | some name => name ++ [w.nameEnd.getD mark]
    | none => []) ++
  (if w.numbered then decimal number ++ [mark] else []) ++
  (if w.withOffset then decimal offset ++ [mark] else [])

def showLine (mark : UInt8) (number offset : Nat) (line : Bytes) : Bytes :=
  lineFront w title mark number offset ++ line ++ [w.separator]

def hasContext : Bool := 0 < w.before || 0 < w.after

/-- Shows a line that was selected, after the ones before it. -/
def showSelected (st : Searching) (number offset : Nat) (line : Bytes) : Searching :=
  let colon := Bytes.ascii ':'
  let own : Bytes :=
    if w.listing = .matching then
      if w.inverted then []
      else (w.parts (line.length + 2) (.start line)).flatMap fun (position, part) =>
        showLine w title colon number (offset + position) part
    else showLine w title colon number offset line
  let around := (st.held.take w.before).reverse
  let first := (around.head?.map (·.1)).getD number
  let gap := if hasContext w && st.separates && (st.shown = 0 || st.shown + 1 < first) then text "--\n" else []
  let earlier := if w.listing = .matching then [] else around.flatMap fun (n, o, l) =>
    showLine w title (Bytes.ascii '-') n o l
  { st with held := [], shown := number, due := w.after, separates := true, output := own :: earlier :: gap :: st.output }

/-- Shows a line because of one before it, or keeps it for one after it. -/
def showOther (st : Searching) (number offset : Nat) (line : Bytes) : Searching :=
  if 0 < st.due then
    let own := if w.listing = .matching then [] else showLine w title (Bytes.ascii '-') number offset line
    { st with due := st.due - 1, shown := number, output := own :: st.output }
  else { st with held := ((number, offset, line) :: st.held).take w.before }

def searchLine (st : Searching) (whole : Bytes) : Searching :=
  if st.finished then st
  else
    let line := if whole.getLast? == some w.separator then whole.dropLast else whole
    let number := st.line + 1
    let offset := st.offset
    let st := { st with line := number, offset := offset + whole.length }
    let full := w.most.any (· ≤ st.count)
    let isSelected := w.selects line
    let prints := w.listing = .lines || w.listing = .matching
    if full then
      if isSelected || st.due = 0 then { st with finished := true } else showOther w title st number offset line
    else if isSelected then
      let st := { st with count := st.count + 1 }
      let st := if prints && !st.isBinary then showSelected w title st number offset line else st
      let enough := w.most.any (· ≤ st.count) && (st.due = 0 || !prints)
      let decided := (prints && st.isBinary) || w.listing = .having || w.listing = .lacking || w.listing = .nothing
      { st with finished := enough || decided }
    else if prints && !st.isBinary then showOther w title st number offset line
    else st

end

/-- Cuts into lines that end with a byte; the rest without an end comes last and can be empty. -/
def cutLines (separator : UInt8) (bs : Bytes) : List Bytes × Bytes :=
  let step (b : UInt8) (state : List Bytes × Bytes) : List Bytes × Bytes :=
    let (lines, rest) := state
    if b = separator then
      match lines with
      | [] => ([[b]], rest)
      | _ => ([b] :: lines, rest)
    else match lines with
      | [] => ([], b :: rest)
      | l :: more => ((b :: l) :: more, rest)
  bs.foldr step ([], [])

/-- Output that waits until there is enough of it. -/
def pourOut (s : Start) (least : Nat) (output : List Bytes) : Activity (List Bytes × Nat) := do
  let size := output.foldl (fun n bs => n + bs.length) 0
  if size = 0 || size < least then return (output, 0)
  else
    let status ← deliver s output.reverse.flatten 0
    return ([], status)

def blockSize : Nat := 4096

/-- Searches what comes out of a descriptor. -/
def searchInput (s : Start) (w : Search) (title : Option Bytes) (separates : Bool) (descriptor : Nat) :
    Activity (Searching × Nat × Option Errno) := do
  let use (state : Searching × Bytes × Nat) (bs : Bytes) : Activity ((Searching × Bytes × Nat) × Bool) := do
    let (st, rest, status) := state
    let st := if bs.contains 0 && !w.asText then { st with isBinary := true, finished := w.skipsBinary } else st
    let bs := if st.isBinary then bs.map fun b => if b = 0 then w.separator else b else bs
    let (lines, rest) := cutLines w.separator (rest ++ bs)
    let st := lines.foldl (searchLine w title) st
    let (output, own) ← pourOut s blockSize st.output
    return (({ st with output := output }, rest, max status own), !st.finished && own = 0)
  let ((st, rest, status), fault) ← eachPiece descriptor use Activity.mostPieces (Searching.start separates, [], 0)
  let st := if rest.isEmpty || 0 < status then st else searchLine w title st rest
  return (st, status, fault)

/-- What is said of an input at its end. -/
def searchReport (w : Search) (title : Option Bytes) (name : Bytes) (st : Searching) : Bytes :=
  let nameLine := name ++ [w.nameEnd.getD Bytes.newline]
  match w.listing with
  | .count => (match title with
      | some name => name ++ [w.nameEnd.getD (Bytes.ascii ':')]
      | none => []) ++ decimal st.count ++ [Bytes.newline]
  | .having => if 0 < st.count then nameLine else []
  | .lacking => if st.count = 0 then nameLine else []
  | _ => []

/-! ## Inputs -/

/-- What is done with directories, and with names in them. -/
structure Walking where
  recursive : Bool
  followsLinks : Bool
  skipsDirectories : Bool
  /-- Whether names stand in front of lines, if that is decided. -/
  titled : Option Bool
  manyInputs : Bool
  label : Bytes
  includes : List Bytes
  excludes : List Bytes

/-- What came of some inputs: whether a line was selected, whether something went wrong, and whether something
was shown. -/
structure Tally where
  selected : Bool
  failed : Bool
  shown : Bool

/-- The end of the search is known before all inputs were read. -/
def Tally.isDecided (t : Tally) (w : Search) : Bool := w.listing = .nothing && t.selected

def searchFault (s : Start) (w : Search) (name : Bytes) (e : Errno) : Activity Unit := do
  if !w.silent then complain s (refusal name e)

def searchOpened (s : Start) (w : Search) (k : Walking) (inDirectory : Bool) (name : Bytes) (descriptor : Nat)
    (t : Tally) : Activity Tally := do
  let isOwn ← Activity.look fun v =>
    match v.fileAt? 1, v.fileAt? descriptor with
    | some (out, _), some (l, _) => out = l
    | _, _ => false
  if isOwn && (w.listing = .lines || w.listing = .matching || w.listing = .count) then
    complain s (name ++ text ": input file is also the output")
    return { t with failed := true }
  else
    let title := if k.titled.getD (k.manyInputs || inDirectory) then some name else none
    let (st, status, fault) ← searchInput s w title t.shown descriptor
    let report := searchReport w title name st
    let (_, own) ← pourOut s 0 (report :: st.output)
    let hides := st.isBinary && 0 < st.count && (w.listing = .lines || w.listing = .matching)
    if hides then complain s (name ++ text ": binary file matches")
    match fault with
    | some e => if e != .isDirectory || !k.skipsDirectories then searchFault s w name e
    | none => pure ()
    let isFault := fault.any fun e => e != .isDirectory || !k.skipsDirectories
    return ⟨t.selected || 0 < st.count, t.failed || isFault || 0 < status || 0 < own, st.separates⟩

/-- A name with stars and question marks fits another name. -/
def fitsName (wild name : Bytes) : Bool :=
  let item (b : UInt8) : Regular :=
    if b = Bytes.ascii '*' then .repeated 0 none .any else if b = Bytes.ascii '?' then .any else .byte b
  let r : Regular := wild.foldr (fun b r => .sequence (item b) r) (.place .lineEnd)
  !(r.ends ⟨false, false⟩ (.start name)).isEmpty

def Walking.admits (k : Walking) (path : Bytes) : Bool :=
  let name := lastName path
  (k.includes.isEmpty || k.includes.any (fitsName · name)) && !k.excludes.any (fitsName · name)

def searchPath (s : Start) (w : Search) (k : Walking) : (depth : Nat) → (inDirectory : Bool) → Tally → Bytes →
    Activity Tally
  | 0, _, t, _ => return t
  | depth + 1, inDirectory, t, path => do
    let found ← if inDirectory && !k.followsLinks then entryOf path else targetOf path
    match found with
    | .ok (l, .directory _) =>
      if k.recursive then
        let names ← Activity.look fun v => v.tree.namesIn l
        let inside := names.map fun name => if path == Path.here && !inDirectory && k.label.isEmpty then name
          else Path.join path name
        inside.foldlM (searchPath s w k depth true) t
      else if k.skipsDirectories then return t
      else
        searchFault s w path .isDirectory
        return { t with failed := true }
    | .ok (_, .link _) => return t
    | .ok _ =>
      if t.isDecided w || !k.admits path then return t
      else match ← openInput path with
        | .error e =>
          searchFault s w path e
          return { t with failed := true }
        | .ok n =>
          let t ← searchOpened s w k inDirectory path n t
          closeInput n
          return t
    | .error e =>
      searchFault s w path e
      return { t with failed := true }

def searchArgument (s : Start) (w : Search) (k : Walking) (t : Tally) (path : Bytes) : Activity Tally := do
  if t.isDecided w then return t
  else if path == hyphen then searchOpened s w k false k.label 0 t
  else searchPath s w k deepestTree false t path

/-! ## grep -/

def searchUsage (s : Start) (message : Option Bytes) : Activity Nat := do
  match message with
  | some m => complain s m
  | none => pure ()
  write 2 (text "Usage: grep [OPTION]... PATTERNS [FILE]...\nTry 'grep --help' for more information.\n")
  return 2

def digitLetters : List Char := "0123456789".toList

def searchOptions : List OptionSpec :=
  digitLetters.map (⟨·, .nothing, []⟩) ++
  [⟨'E', .nothing, ["extended-regexp"]⟩, ⟨'F', .nothing, ["fixed-strings"]⟩, ⟨'G', .nothing, ["basic-regexp"]⟩,
    ⟨'P', .nothing, ["perl-regexp"]⟩, ⟨'e', .argument, ["regexp"]⟩, ⟨'f', .argument, ["file"]⟩,
    ⟨'i', .nothing, ["ignore-case"]⟩, ⟨'y', .nothing, []⟩, ⟨'Ν', .nothing, ["no-ignore-case"]⟩,
    ⟨'w', .nothing, ["word-regexp"]⟩, ⟨'x', .nothing, ["line-regexp"]⟩, ⟨'z', .nothing, ["null-data"]⟩,
    ⟨'s', .nothing, ["no-messages"]⟩, ⟨'v', .nothing, ["invert-match"]⟩, ⟨'V', .nothing, []⟩,
    ⟨'m', .argument, ["max-count"]⟩, ⟨'b', .nothing, ["byte-offset"]⟩, ⟨'n', .nothing, ["line-number"]⟩,
    ⟨'Β', .nothing, ["line-buffered"]⟩, ⟨'H', .nothing, ["with-filename"]⟩, ⟨'h', .nothing, ["no-filename"]⟩,
    ⟨'Λ', .argument, ["label"]⟩, ⟨'o', .nothing, ["only-matching"]⟩, ⟨'q', .nothing, ["quiet", "silent"]⟩,
    ⟨'a', .nothing, ["text"]⟩, ⟨'Δ', .argument, ["binary-files"]⟩, ⟨'I', .nothing, []⟩,
    ⟨'d', .argument, ["directories"]⟩, ⟨'D', .argument, ["devices"]⟩, ⟨'r', .nothing, ["recursive"]⟩,
    ⟨'R', .nothing, ["dereference-recursive"]⟩, ⟨'Φ', .argument, ["include"]⟩, ⟨'Ξ', .argument, ["exclude"]⟩,
    ⟨'Π', .argument, ["exclude-dir"]⟩, ⟨'L', .nothing, ["files-without-match"]⟩,
    ⟨'l', .nothing, ["files-with-matches"]⟩, ⟨'c', .nothing, ["count"]⟩, ⟨'T', .nothing, ["initial-tab"]⟩,
    ⟨'Z', .nothing, ["null"]⟩, ⟨'A', .argument, ["after-context"]⟩, ⟨'B', .argument, ["before-context"]⟩,
    ⟨'C', .argument, ["context"]⟩, ⟨'Γ', .maybe, ["color", "colour"]⟩, ⟨'U', .nothing, ["binary"]⟩]

/-- The texts of patterns, each on a line of its own. -/
def patternLines (bs : Bytes) : List Bytes := Bytes.splitAt Bytes.newline bs

/-- The patterns that a file holds; an end of line after the last one adds none. -/
def patternFile (name : Bytes) : Activity (Except Errno (List Bytes)) := do
  match ← readInput name with
  | (.error e, _) => return .error e
  | (.ok bs, _) => return .ok (if bs.isEmpty then [] else patternLines (withoutNewline bs))

/-- The texts of all patterns that options give. -/
def givenPatterns : List (Char × Bytes) → Activity (Except (Bytes × Errno) (List Bytes))
  | [] => return .ok []
  | (letter, a) :: rest => do
    let own ← if letter = 'e' then pure (.ok (patternLines a))
      else if letter = 'f' then patternFile a
      else pure (.ok [])
    match own with
    | .error e => return .error (a, e)
    | .ok ps => return (← givenPatterns rest).map (ps ++ ·)

/-- The ways in which patterns are written. -/
inductive Wording where
  | fixed | basic | extended
  deriving DecidableEq

def Wording.read (k : Wording) (bs : Bytes) : Except Regular.Fault Regular :=
  match k with
  | .fixed => .ok (bs.foldr (fun b r => .sequence (.byte b) r) .empty)
  | .basic => Regular.ofBytes ⟨false, false⟩ bs
  | .extended => Regular.ofBytes ⟨true, false⟩ bs

def wordingOf (o : Options) (standard : Wording) : Wording :=
  match o.lastOf? ['E', 'F', 'G', 'P'] with
  | some 'F' => .fixed
  | some 'G' => .basic
  | some _ => .extended
  | none => standard

/-- The lines of context that are asked for, or the argument that is no number. -/
def contextOf (o : Options) (letter : Char) : Except Bytes Nat :=
  let digits := (o.given.filter fun g => digitLetters.contains g.1).map fun g => Bytes.ascii g.1
  let own := o.last? letter
  match own, o.last? 'C' with
  | some a, _ | none, some a => (natural? a).elim (.error a) .ok
  | none, none => .ok (Bytes.number digits)

def listingOf (o : Options) : Listing :=
  if o.has 'q' then .nothing
  else match o.lastOf? ['l', 'L'] with
    | some 'l' => .having
    | some _ => .lacking
    | none => if o.has 'c' then .count else if o.has 'o' then .matching else .lines

def searchOf (o : Options) (patterns : List Regular) (before after : Nat) (most : Option Nat) : Search :=
  { patterns := patterns
    anyCase := (o.lastOf? ['i', 'y', 'Ν']).any (· != 'Ν')
    span := if o.has 'x' then .lines else if o.has 'w' then .words else .anywhere
    inverted := o.has 'v'
    listing := listingOf o
    numbered := o.has 'n'
    withOffset := o.has 'b'
    asText := o.has 'a' || o.has 'z' || o.last? 'Δ' == some (text "text")
    skipsBinary := match o.lastOf? ['I', 'Δ'] with
      | some 'I' => true
      | some _ => o.last? 'Δ' == some (text "without-match")
      | none => false
    most := most
    before := before
    after := after
    separator := if o.has 'z' then 0 else Bytes.newline
    nameEnd := if o.has 'Z' then some 0 else none
    silent := o.has 's' }

def walkingOf (o : Options) (operands : List Bytes) : Walking :=
  let recursive := o.has 'r' || o.has 'R' || o.last? 'd' == some (text "recurse")
  { recursive := recursive
    followsLinks := o.has 'R'
    skipsDirectories := o.last? 'd' == some (text "skip")
    titled := (o.lastOf? ['H', 'h']).map (· == 'H')
    manyInputs := 1 < operands.length
    label := if operands.isEmpty && recursive then [] else (o.last? 'Λ').getD (text "(standard input)")
    includes := (o.given.filter (·.1 == 'Φ')).map (·.2)
    excludes := (o.given.filter (·.1 == 'Ξ')).map (·.2) }

def runSearch (s : Start) (o : Options) (w : Search) (operands : List Bytes) : Activity Nat := do
  let k := walkingOf o operands
  let inputs := if operands.isEmpty then [if k.recursive then Path.here else hyphen] else operands
  if w.most = some 0 then return 1
  else
    let t ← inputs.foldlM (searchArgument s w k) ⟨false, false, false⟩
    return if t.isDecided w then 0 else if t.failed then 2 else if t.selected then 0 else 1

/-- The repetitions that have nothing in front of them, as they are pointed out. -/
def idleRepetitions : (isIdle : Bool) → List Regular.Token → List String
  | _, [] => []
  | isIdle, t :: rest =>
    match t with
    | .bounds low high =>
      let mark := match low, high with
        | 0, none => "*"
        | 1, none => "+"
        | 0, some 1 => "?"
        | _, _ => "\x7b...\x7d"
      (if isIdle then [mark] else []) ++ idleRepetitions isIdle rest
    | .openGroup | .or => idleRepetitions true rest
    | .single (.place .lineStart) => idleRepetitions isIdle rest
    | _ => idleRepetitions false rest

def warningsOf (k : Wording) (pattern : Bytes) : List String :=
  match k, Regular.tokens ⟨true, false⟩ (pattern.length + 1) .fresh pattern with
  | .extended, .ok ts => idleRepetitions true ts
  | _, _ => []

def searchWith (standard : Wording) : Utility := fun s =>
  match sortOut (searchOptions ++ commonOptions) true (s.args.length + 1) s.args with
  | .error message => searchUsage s (some message)
  | .ok o => do
    if o.has helpLetter || o.has versionLetter || o.has 'V' then return 0
    else match contextOf o 'B', contextOf o 'A' with
      | .error a, _ | _, .error a =>
        complain s (a ++ text ": invalid context length argument")
        return 2
      | .ok before, .ok after =>
        let most := o.last? 'm'
        if most.any fun a => (scaled? a).isNone && a.head? != some (Bytes.ascii '-') then
          complain s (text "invalid max count")
          return 2
        else match ← givenPatterns o.given with
          | .error (name, e) =>
            complain s (refusal name e)
            return 2
          | .ok given =>
            let (texts, operands) :=
              if o.has 'e' || o.has 'f' then (some given, o.operands)
              else match o.operands with
                | p :: rest => (some (patternLines p), rest)
                | [] => (none, [])
            match texts with
            | none => searchUsage s none
            | some texts =>
              let how := wordingOf o standard
              match texts.mapM how.read with
              | .error fault =>
                complain s (text fault.message)
                return 2
              | .ok patterns =>
                for w in texts.flatMap (warningsOf how) do
                  complain s (text ("warning: " ++ w ++ " at start of expression"))
                runSearch s o (searchOf o patterns before after (most.bind scaled?)) operands

def grep : Utility := searchWith .basic

/-- Programs that search in one way of writing call themselves by the common name. -/
def searchAs (standard : Wording) : Utility := fun s => searchWith standard { s with name := text "grep" }

end DesktopRefresh.Utility
