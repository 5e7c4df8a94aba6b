import DesktopRefresh.Utility.Order
import DesktopRefresh.Utility.Search

/-!
# Listing directories

Names are listed in the order of their bytes if nothing else is asked for, one on a line or in columns, with
marks for their kinds or with all that is known of them. Files stand before directories.
-/

namespace DesktopRefresh.Utility

open Kernel (Activity View)

inductive ListFormat where
  | lines | long | columns | across | commas
  deriving DecidableEq

inductive ListOrder where
  | name | age | size | suffix | version | width | none
  deriving DecidableEq

/-- How names are written: as they are, with question marks or escapes for what cannot be printed, or between
quotation marks, always or where they are needed. -/
inductive NameStyle where
  | literal | questioned | escaped | forShell (always : Bool) | double (always : Bool) | single
  deriving DecidableEq

/-- Which marks stand behind names. -/
inductive Marks where
  | none
  | slashes
  | kinds
  /-- Programs have a mark too. -/
  | all
  deriving DecidableEq

structure ListStyle where
  format : ListFormat
  order : ListOrder
  reversed : Bool
  hidden : Bool
  selfAndParent : Bool
  /-- Directories are listed as entries. -/
  asEntries : Bool
  recursive : Bool
  followsAll : Bool
  followsArguments : Bool
  /-- An argument that is a link to nothing cannot be listed. -/
  needsTargets : Bool
  marks : Marks
  numbers : Bool
  blocks : Bool
  human : Bool
  hasOwner : Bool
  hasGroup : Bool
  hasAuthor : Bool
  hasContext : Bool
  date : Bytes
  byNumber : Bool
  style : NameStyle
  directoriesFirst : Bool
  ignored : List Bytes
  /-- The length of a line that holds several names, if there is a limit, and of the steps of its tabs. -/
  width : Option Nat
  tabs : Nat
  stop : UInt8

/-- An entry as it is listed. -/
structure Listed where
  name : Bytes
  loc : Location
  entry : Entry
  /-- The target of a link, and what it leads to. -/
  target : Option (Bytes × Option Entry)

/-! ## Texts -/

def padRight (width : Nat) (bs : Bytes) : Bytes := bs ++ List.replicate (width - bs.length) (Bytes.ascii ' ')

/-- The blocks of a kilobyte that an entry takes. -/
def blocksOf : Entry → Nat
  | .directory _ => 4
  | .link _ | .device _ => 0
  | e => (e.size + 4095) / 4096 * 4

/-- A size with a letter for its unit, rounded up. -/
def humanSize (n : Nat) : Bytes :=
  let rec go (letters : List Char) (unit : Nat) : Bytes :=
    match letters with
    | [] => decimal n
    | l :: rest =>
      if n < unit * 1024 || rest.isEmpty then
        let tenths := (n * 10 + unit - 1) / unit
        if tenths < 100 then decimal (tenths / 10) ++ Bytes.ascii '.' :: decimal (tenths % 10) ++ [Bytes.ascii l]
        else decimal ((n + unit - 1) / unit) ++ [Bytes.ascii l]
      else go rest (unit * 1024)
  if n < 1024 then decimal n else go "KMGTPE".toList 1024

def doubleQuoted (name : Bytes) : Bytes :=
  let inner := name.flatMap fun b =>
    if b = Bytes.ascii '\\' || b = Bytes.ascii '"' then [Bytes.ascii '\\', b]
    else if isPrintable b then [b] else controlEscape b
  Bytes.ascii '"' :: inner ++ [Bytes.ascii '"']

def styledName (k : NameStyle) (name : Bytes) : Bytes :=
  match k with
  | .literal => name
  | .questioned => name.map fun b => if isPrintable b then b else Bytes.ascii '?'
  | .escaped => name.flatMap fun b =>
    if b = Bytes.ascii '\\' || b = Bytes.ascii ' ' then [Bytes.ascii '\\', b]
    else if isPrintable b then [b] else controlEscape b
  | .forShell isAlways => if isAlways then always name else shellQuoted false false name
  | .double isAlways =>
    let full := doubleQuoted name
    if isAlways || full.length != name.length + 2 then full else name
  | .single => quoted name

/-- A blank stands in front of names without quotation marks, if others have them. -/
def isAligned (k : ListStyle) : Bool :=
  (k.format = .long || (k.width.isSome && (k.format = .columns || k.format = .across))) &&
    (k.style = .forShell false || k.style = .double false)

def markOf (k : ListStyle) (e : Entry) : Bytes :=
  match e with
  | .directory _ => if k.marks = .none then [] else [Bytes.slash]
  | .link _ => if (k.marks = .kinds || k.marks = .all) && k.format != .long then [Bytes.ascii '@'] else []
  | e => if k.marks = .all && e.isExecutable then [Bytes.ascii '*'] else []

/-- A number for an entry, which no other entry has. -/
def entryNumber (t : FileTree) (l : Location) : Nat := (t.entries.findIdx? (·.1 == l)).getD 0 + 100000

def linkCount (t : FileTree) (l : Location) (e : Entry) : Nat :=
  if e.isDirectory then
    (t.namesIn l).countP (fun name => ((t.entry? (l ++ [name])).map Entry.isDirectory).getD false) + 2
  else 1

/-- The time of all files, in the ways it can be written. -/
def dateText : Bytes := text "Jan  1 00:00"

def fullDateText : Bytes := text "2024-01-01 00:00:00.000000000 +0000"

def dateStyles : Choices Bytes :=
  [(["full-iso"], fullDateText), (["long-iso"], text "2024-01-01 00:00"), (["iso"], text "01-01 00:00"),
    (["locale"], dateText)]

def timeStamp : Nat := 1704067200

/-- How wide the columns of long lines are. -/
structure Widths where
  number : Nat
  blocks : Nat
  links : Nat
  size : Nat

def sizeText (k : ListStyle) (n : Nat) : Bytes := if k.human then humanSize n else decimal n

def blocksText (k : ListStyle) (n : Nat) : Bytes := if k.human then humanSize (n * 1024) else decimal n

def widthsOf (t : FileTree) (k : ListStyle) (es : List Listed) : Widths :=
  let widest (f : Listed → Bytes) : Nat := es.foldl (fun n e => max n (f e).length) 0
  { number := widest fun e => decimal (entryNumber t e.loc)
    blocks := widest fun e => blocksText k (blocksOf e.entry)
    links := widest fun e => decimal (linkCount t e.loc e.entry)
    size := widest fun e => sizeText k e.entry.size }

/-- What stands in front of a name. -/
def frontOf (t : FileTree) (k : ListStyle) (w : Widths) (e : Listed) : Bytes :=
  let gap := [Bytes.ascii ' ']
  (if k.numbers then padLeft w.number (decimal (entryNumber t e.loc)) ++ gap else []) ++
  (if k.blocks then padLeft w.blocks (blocksText k (blocksOf e.entry)) ++ gap else []) ++
  (if k.hasContext && k.format != .long then text "? " else [])

/-- A name as it is listed, with its mark; in a listing where quotation marks are used it can be set in. -/
def nameOf (k : ListStyle) (isQuoting : Bool) (e : Listed) : Bytes :=
  let styled := styledName k.style e.name
  (if isQuoting && styled == e.name then [Bytes.ascii ' '] else []) ++ styled ++ markOf k e.entry

def longLine (t : FileTree) (k : ListStyle) (w : Widths) (isQuoting : Bool) (e : Listed) : Bytes :=
  let gap := [Bytes.ascii ' ']
  let user := text (if k.byNumber then "0" else "root") ++ gap
  kindLetter e.entry :: modeText e.entry.mode ++ gap ++
  padLeft w.links (decimal (linkCount t e.loc e.entry)) ++ gap ++
  (if k.hasOwner then user else []) ++ (if k.hasGroup then user else []) ++
  (if k.hasAuthor then user else []) ++ (if k.hasContext then text "? " else []) ++
  padLeft w.size (sizeText k e.entry.size) ++ gap ++ k.date ++ gap ++ nameOf k isQuoting e ++
  match e.target with
  | some (target, final) => text " -> " ++ styledName k.style target ++ ((final.map (markOf k)).getD [])
  | none => []

/-! ## Columns -/

/-- Blanks and tabs from one column to another. -/
def indent (tabs : Nat) : (fuel : Nat) → (column target : Nat) → Bytes
  | 0, _, _ => []
  | fuel + 1, column, target =>
    if target ≤ column then []
    else if tabs != 0 && (column + 1) / tabs < target / tabs then
      0x09 :: indent tabs fuel (column + tabs - column % tabs) target
    else Bytes.ascii ' ' :: indent tabs fuel (column + 1) target

def leastColumn : Nat := 3

/-- The widths of so many columns; all but the last have two blanks behind them. -/
def columnWidths (down : Bool) (columns : Nat) (lengths : List Nat) : List Nat :=
  let rows := (lengths.length + columns - 1) / columns
  (List.range columns).map fun c =>
    let own := lengths.zipIdx.filter fun (_, i) => (if down then i / rows else i % columns) == c
    max leastColumn (own.foldl (fun n (l, _) => max n l) 0 + (if c + 1 = columns then 0 else 2))

def inColumns (down : Bool) (tabs width : Nat) (stop : UInt8) (names : List Bytes) : Bytes :=
  let lengths := names.map List.length
  let fits (columns : Nat) : Bool :=
    let widths := columnWidths down columns lengths
    widths.all (· == leastColumn) || widths.sum < width
  let most := min names.length ((width + leastColumn - 1) / leastColumn)
  let columns := (((List.range most).map (most - ·)).find? fits).getD 1
  let rows := (names.length + columns - 1) / columns
  let widths := columnWidths down columns lengths
  let at' (row column : Nat) : Option Bytes := names[if down then column * rows + row else row * columns + column]?
  let line (row : Nat) : Bytes :=
    let step (state : Bytes × Nat × Nat) (c : Nat × Nat) : Bytes × Nat × Nat :=
      let (done, column, target) := state
      match at' row c.1 with
      | some name => (done ++ indent tabs (target + 1) column target ++ name, target + name.length, target + c.2)
      | none => state
    ((widths.zipIdx.map fun (w, i) => (i, w)).foldl step ([], 0, 0)).1 ++ [stop]
  (List.range rows).flatMap line

/-- Names one after another with something between them, on lines of limited length. -/
def inSequence (mark : Bytes) (width : Option Nat) (stop : UInt8) (names : List Bytes) : Bytes :=
  let step (state : Bytes × Nat) (name : Bytes) : Bytes × Nat :=
    let (done, column) := state
    if done.isEmpty then (name, name.length)
    else if width.all fun w => column + name.length + 2 < w then
      (done ++ mark ++ Bytes.ascii ' ' :: name, column + name.length + 2)
    else (done ++ mark ++ Bytes.newline :: name, name.length)
  (names.foldl step ([], 0)).1 ++ [stop]

def render (t : FileTree) (k : ListStyle) (es : List Listed) : Bytes :=
  if es.isEmpty then []
  else
    let w := widthsOf t k es
    let isQuoting := isAligned k && es.any fun e => styledName k.style e.name != e.name
    let names := es.map fun e => frontOf t k w e ++ nameOf k isQuoting e
    match k.format, k.width with
    | .lines, _ => names.flatMap (· ++ [k.stop])
    | .long, _ => es.flatMap fun e => frontOf t k w e ++ longLine t k w isQuoting e ++ [k.stop]
    | .columns, some width => inColumns true k.tabs width k.stop names
    | .across, some width => inColumns false k.tabs width k.stop names
    | .commas, width => inSequence (text ",") width k.stop names
    | _, none => inSequence [Bytes.ascii ' '] none k.stop names

/-! ## Order -/

/-- What stands behind the last point of a name. -/
def suffixOf (name : Bytes) : Bytes :=
  if name.contains (Bytes.ascii '.') then
    Bytes.ascii '.' :: (name.reverse.takeWhile (· != Bytes.ascii '.')).reverse
  else []

def inOrder (t : FileTree) (k : ListStyle) (es : List Listed) : List Listed :=
  let age (e : Listed) : Nat := (t.entries.findIdx? (·.1 == e.loc)).getD 0
  let byName := es.mergeSort fun a b => decide (a.name ≤ b.name)
  let sorted := match k.order with
    | .name => byName
    | .none => es
    | .age => byName.mergeSort fun a b => age b ≤ age a
    | .size => byName.mergeSort fun a b => b.entry.size ≤ a.entry.size
    | .suffix => byName.mergeSort fun a b => decide (suffixOf a.name ≤ suffixOf b.name)
    | .width => byName.mergeSort fun a b => a.name.length ≤ b.name.length
    | .version => byName.mergeSort fun a b => compareVersions (a.name.length + b.name.length + 1) a.name b.name != .gt
  let sorted := if k.reversed then sorted.reverse else sorted
  if k.directoriesFirst then sorted.filter (·.entry.isDirectory) ++ sorted.filter (!·.entry.isDirectory) else sorted

/-! ## Directories -/

/-- An entry with what its link leads to. -/
def listed (k : ListStyle) (v : View) (name : Bytes) (l : Location) (e : Entry) : Listed :=
  match e with
  | .link target =>
    let final := v.tree.locate true l.dropLast target
    if k.followsAll then
      match final with
      | .ok (l, e) => ⟨name, l, e, none⟩
      | .error _ => ⟨name, l, e, some (target, none)⟩
    else ⟨name, l, e, some (target, (final.map (·.2)).toOption)⟩
  | e => ⟨name, l, e, none⟩

def listedIn (k : ListStyle) (v : View) (dir : Location) : List Listed :=
  let names := (v.tree.namesIn dir).filter fun name =>
    (k.hidden || name.head? != some (Bytes.ascii '.')) && !k.ignored.any (fitsName · name)
  let inside := names.filterMap fun name => (v.tree.entry? (dir ++ [name])).map (listed k v name (dir ++ [name]))
  let around (name : Bytes) (l : Location) : List Listed :=
    ((v.tree.entry? l).map fun e => (⟨name, l, e, none⟩ : Listed)).toList
  inOrder v.tree k ((if k.selfAndParent then around Path.here dir ++ around Path.up dir.dropLast else []) ++ inside)

/-- The text of a directory, and the directories in it that come next. -/
def listDirectory (k : ListStyle) (titled first : Bool) (path : Bytes) (dir : Location) (v : View) :
    Bytes × List (Bytes × Location) :=
  let es := listedIn k v dir
  let title := if titled then
      (if first then [] else [Bytes.newline]) ++ styledName (if k.style = .literal then .literal else k.style) path ++
        text ":\n"
    else []
  let total := if k.format = .long || k.blocks then
      text "total " ++ blocksText k (es.foldl (fun n e => n + blocksOf e.entry) 0) ++ [Bytes.newline]
    else []
  let inside := if k.recursive then
      es.filterMap fun e => if e.entry.isDirectory && e.name != Path.here && e.name != Path.up then
          some (Path.join path e.name, e.loc) else none
    else []
  (title ++ total ++ render v.tree k es, inside)

/-- Lists directories and, if asked for, those in them. -/
def listDirectories (k : ListStyle) (titled : Bool) (v : View) : (fuel : Nat) → (first : Bool) →
    List (Bytes × Location) → Bytes
  | 0, _, _ | _, _, [] => []
  | fuel + 1, first, (path, dir) :: rest =>
    let (own, inside) := listDirectory k titled first path dir v
    own ++ listDirectories k titled v fuel false (inside ++ rest)

/-! ## ls -/

/-- The options in the order in which those that begin alike are named. -/
def listOptions : List OptionSpec :=
  [⟨'a', .nothing, ["all"]⟩, ⟨'b', .nothing, ["escape"]⟩, ⟨'d', .nothing, ["directory"]⟩, ⟨'D', .nothing, ["dired"]⟩,
    ⟨'Ζ', .nothing, ["full-time"]⟩, ⟨'Δ', .nothing, ["group-directories-first"]⟩,
    ⟨'h', .nothing, ["human-readable"]⟩, ⟨'i', .nothing, ["inode"]⟩, ⟨'k', .nothing, ["kibibytes"]⟩,
    ⟨'n', .nothing, ["numeric-uid-gid"]⟩, ⟨'G', .nothing, ["no-group"]⟩, ⟨'q', .nothing, ["hide-control-chars"]⟩,
    ⟨'r', .nothing, ["reverse"]⟩, ⟨'s', .nothing, ["size"]⟩, ⟨'w', .argument, ["width"]⟩,
    ⟨'A', .nothing, ["almost-all"]⟩, ⟨'B', .nothing, ["ignore-backups"]⟩, ⟨'Φ', .maybe, ["classify"]⟩,
    ⟨'Υ', .nothing, ["file-type"]⟩, ⟨'Μ', .nothing, ["si"]⟩, ⟨'H', .nothing, ["dereference-command-line"]⟩,
    ⟨'Α', .nothing, ["dereference-command-line-symlink-to-dir"]⟩, ⟨'Η', .argument, ["hide"]⟩,
    ⟨'I', .argument, ["ignore"]⟩, ⟨'Π', .argument, ["indicator-style"]⟩, ⟨'L', .nothing, ["dereference"]⟩,
    ⟨'N', .nothing, ["literal"]⟩, ⟨'Q', .nothing, ["quote-name"]⟩, ⟨'Κ', .argument, ["quoting-style"]⟩,
    ⟨'R', .nothing, ["recursive"]⟩, ⟨'Ξ', .argument, ["format"]⟩, ⟨'Λ', .nothing, ["show-control-chars"]⟩,
    ⟨'Σ', .argument, ["sort"]⟩, ⟨'T', .argument, ["tabsize"]⟩, ⟨'Θ', .argument, ["time"]⟩,
    ⟨'Τ', .argument, ["time-style"]⟩, ⟨'Ο', .nothing, ["zero"]⟩, ⟨'Γ', .maybe, ["color"]⟩,
    ⟨'Χ', .maybe, ["hyperlink"]⟩, ⟨'Β', .argument, ["block-size"]⟩, ⟨'Z', .nothing, ["context"]⟩,
    ⟨'Ν', .nothing, ["author"]⟩] ++ "1cCfFglmopStuUvxX".toList.map (⟨·, .nothing, []⟩)

def formatWords : Choices ListFormat :=
  [(["verbose", "long"], .long), (["commas"], .commas), (["horizontal", "across"], .across),
    (["vertical"], .columns), (["single-column"], .lines)]

def orderWords : Choices ListOrder :=
  [(["none"], .none), (["time"], .age), (["size"], .size), (["extension"], .suffix), (["version"], .version),
    (["width"], .width)]

def timeWords : Choices Unit :=
  [(["atime", "access", "use"], ()), (["ctime", "status"], ()), (["mtime", "modification"], ()),
    (["birth", "creation"], ())]

def markWords : Choices Marks := [(["none"], .none), (["slash"], .slashes), (["file-type"], .kinds), (["classify"], .all)]

def styleWords : Choices NameStyle :=
  [(["literal"], .literal), (["shell"], .forShell false), (["shell-always"], .forShell true),
    (["shell-escape"], .forShell false), (["shell-escape-always"], .forShell true), (["c"], .double true),
    (["c-maybe"], .double false), (["escape"], .escaped), (["locale"], .single), (["clocale"], .double true)]

/-- Whether something is done that a terminal would be needed for. -/
def whenWords : Choices Bool :=
  [(["always", "yes", "force"], true), (["never", "no", "none"], false), (["auto", "tty", "if-tty"], false)]

/-- What the words behind options stand for. -/
structure ListWords where
  format : ListFormat
  order : ListOrder
  marks : Marks
  style : NameStyle
  date : Bytes

def listFormat (o : Options) (words standard : ListFormat) : ListFormat :=
  let long := ['l', 'g', 'o', 'n', 'Ζ']
  match o.lastOf? (['1', 'C', 'x', 'm', 'Ξ', 'Ο'] ++ long) with
  | none => standard
  | some 'C' => .columns
  | some 'x' => .across
  | some 'm' => .commas
  | some '1' | some 'Ο' => if (o.lastOf? long).isSome then .long else .lines
  | some 'Ξ' => words
  | some _ => .long

def listOrder (o : Options) (words : ListOrder) : ListOrder :=
  match o.lastOf? ['t', 'S', 'X', 'U', 'f', 'v', 'Σ'] with
  | some 't' => .age
  | some 'S' => .size
  | some 'X' => .suffix
  | some 'v' => .version
  | some 'U' | some 'f' => .none
  | some 'Σ' => words
  | _ => .name

def listMarks (o : Options) (words : Marks) : Marks :=
  match o.lastOf? ['F', 'Φ', 'p', 'Υ', 'Π'] with
  | some 'p' => .slashes
  | some 'Υ' => .kinds
  | some 'Π' => words
  | some _ => .all
  | none => .none

def listStyle (o : Options) (words : ListWords) (standard : ListFormat) (style : NameStyle) : ListStyle :=
  let format := listFormat o words.format standard
  let follows := o.lastOf? ['H', 'L']
  { format := format
    order := listOrder o words.order
    reversed := o.has 'r'
    hidden := o.has 'a' || o.has 'A' || o.has 'f'
    selfAndParent := match o.lastOf? ['a', 'A', 'f'] with
      | some 'A' | none => false
      | some _ => true
    asEntries := o.has 'd'
    recursive := o.has 'R' && !o.has 'd'
    followsAll := follows = some 'L'
    followsArguments := follows = some 'H' || !(format = .long || o.has 'd' || listMarks o words.marks = .all)
    needsTargets := follows.isSome
    marks := listMarks o words.marks
    numbers := o.has 'i'
    blocks := o.has 's'
    human := o.has 'h' || o.has 'Μ'
    hasOwner := !o.has 'g'
    hasGroup := !(o.has 'G' || o.has 'o')
    hasAuthor := o.has 'Ν'
    hasContext := o.has 'Z'
    date := if o.has 'Ζ' then fullDateText else words.date
    byNumber := o.has 'n'
    style := match o.lastOf? ['N', 'q', 'b', 'Q', 'Κ', 'Ο'] with
      | some 'N' | some 'Ο' => .literal
      | some 'q' => .questioned
      | some 'b' => .escaped
      | some 'Q' => .double true
      | some _ => words.style
      | none => style
    directoriesFirst := o.has 'Δ'
    ignored := ((o.given.filter fun g => g.1 = 'I' || (g.1 = 'Η' && !(o.has 'a' || o.has 'A'))).map (·.2)) ++
      (if o.has 'B' then [text "*~"] else [])
    width := match (o.last? 'w').bind natural? with
      | some 0 => none
      | given => some (given.getD 80)
    tabs := ((o.last? 'T').bind natural?).getD 8
    stop := endOf (o.has 'Ο') }

/-- What an argument names, with a link at its end followed if it leads to a directory or all are. -/
def argumentEntry (k : ListStyle) (v : View) (path : Bytes) : Except Errno Listed :=
  match v.linkStat path with
  | .error e => .error e
  | .ok (l, .link target) =>
    match v.stat path with
    | .ok (final, e) =>
      if k.followsAll || (k.followsArguments && e.isDirectory) then .ok ⟨path, final, e, none⟩
      else .ok (listed k v path l (.link target))
    | .error e => if k.needsTargets then .error e else .ok (listed k v path l (.link target))
  | .ok (l, e) => .ok ⟨path, l, e, none⟩

/-- More directories than there can be. -/
def mostDirectories : Nat := 100000

/-- Lists what the arguments name. -/
def listArguments (s : Start) (k : ListStyle) (arguments : List Bytes) : Activity Nat := do
  let found ← Activity.look fun v => arguments.map fun a => (a, argumentEntry k v a)
  for (a, e) in found do
    match e with
    | .error e => complain s (text "cannot access " ++ always a ++ text (": " ++ e.text))
    | .ok _ => pure ()
  let entries := found.filterMap fun (_, e) => e.toOption
  let failed := entries.length < found.length
  let output ← Activity.look fun v =>
    let isShown (e : Listed) : Bool := k.asEntries || !e.entry.isDirectory
    let files := inOrder v.tree k (entries.filter isShown)
    let directories := (inOrder v.tree k (entries.filter fun e => !isShown e)).map fun e => (e.name, e.loc)
    let own := render v.tree k files
    let titled := 1 < arguments.length || k.recursive
    let gap := if files.isEmpty || directories.isEmpty then [] else [Bytes.newline]
    own ++ gap ++ listDirectories k titled v mostDirectories true directories
  deliver s output (if failed then 2 else 0)

/-- A limit that is no number. -/
def wrongLimit? (o : Options) : Option Bytes :=
  let wrong (letter : Char) (what : String) : Option Bytes :=
    ((o.last? letter).filter fun a => (natural? a).isNone).map fun a => text what ++ quoted a
  wrong 'w' "invalid line width: " <|> wrong 'T' "invalid tab size: "

def listAs (standard : ListFormat) (style : NameStyle) : Utility := fun s =>
  withOptions listOptions 2 true s fun o =>
    let choice {α : Type} (table : Choices α) (letter : Char) (option : String) (standard : α)
        (use : α → Activity Nat) : Activity Nat := withChoiceOf s 1 table option (o.last? letter) standard use
    let when' (letter : Char) (option : String) (use : Activity Nat) : Activity Nat :=
      withChoiceOf s 1 whenWords option ((o.last? letter).filter (!·.isEmpty)) false fun _ => use
    choice formatWords 'Ξ' "--format" .lines fun format =>
    choice orderWords 'Σ' "--sort" .name fun order =>
    choice timeWords 'Θ' "--time" () fun _ =>
    choice markWords 'Π' "--indicator-style" .none fun marks =>
    choice styleWords 'Κ' "--quoting-style" .literal fun nameStyle =>
    when' 'Γ' "--color" <| when' 'Φ' "--classify" <|
      let date := match choose dateStyles ((o.last? 'Τ').getD []) with
        | .one date => date
        | _ => dateText
      match wrongLimit? o with
      | some message => do
        complain s message
        return 2
      | none =>
        let k := listStyle o ⟨format, order, marks, nameStyle, date⟩ standard style
        listArguments s k (if o.operands.isEmpty then [Path.here] else o.operands)

def ls : Utility := listAs .lines .literal

/-! ## stat -/

def kindText : Entry → String
  | .directory _ => "directory"
  | .link _ => "symbolic link"
  | .device _ => "character special file"
  | .file _ [] => "regular empty file"
  | _ => "regular file"

/-- What a letter of a format stands for. -/
def statField (v : View) (name : Bytes) (l : Location) (e : Entry) (c : Char) : Option Bytes :=
  match c with
  | 'n' => some name
  | 'N' => some (match e with
    | .link target => always name ++ text " -> " ++ always target
    | _ => always name)
  | 's' => some (decimal e.size)
  | 'b' => some (decimal (blocksOf e * 2))
  | 'B' => some (text "512")
  | 'a' => some (octalText e.mode)
  | 'A' => some (kindLetter e :: modeText e.mode)
  | 'f' =>
    let kind := match e with
      | .directory _ => 0x4000
      | .link _ => 0xA000
      | .device _ => 0x2000
      | _ => 0x8000
    some ((Nat.toDigits 16 (kind + e.mode)).map Bytes.ascii)
  | 'F' => some (text (kindText e))
  | 'u' | 'g' => some (text "0")
  | 'U' | 'G' => some (text "root")
  | 'h' => some (decimal (linkCount v.tree l e))
  | 'i' => some (decimal (entryNumber v.tree l))
  | 'o' => some (text "4096")
  | 't' => some (text (if e.isDevice then "1" else "0"))
  | 'T' => some (match e with
    | .device d => (Nat.toDigits 16 d.minor).map Bytes.ascii
    | _ => text "0")
  | 'x' | 'y' | 'z' | 'w' => some fullDateText
  | 'X' | 'Y' | 'Z' | 'W' => some (decimal timeStamp)
  | 'd' | 'D' | 'r' | 'R' => some (text "0")
  | 'm' => some [Bytes.slash]
  | 'C' => some (text "?")
  | '%' => some (text "%")
  | _ => none

/-- A format with the values in it; escapes count only if asked for. -/
def statText (field : Char → Option Bytes) (escapes : Bool) : (fuel : Nat) → Bytes → Bytes
  | 0, _ | _, [] => []
  | fuel + 1, b :: rest =>
    if b = Bytes.ascii '%' then
      let flags := rest.takeWhile fun c => (text "-0123456789.#+").contains c
      match rest.drop flags.length with
      | c :: after =>
        let value := (field (Char.ofNat c.toNat)).getD (if c = Bytes.newline then [b, c] else [Bytes.ascii '?'])
        let width := Bytes.number (flags.filter Bytes.isDigit)
        let zeros := if flags.head? == some (Bytes.ascii '0') then List.replicate (width - value.length) (Bytes.ascii '0')
          else []
        (if flags.contains (Bytes.ascii '-') then padRight width value else padLeft width (zeros ++ value)) ++
          statText field escapes fuel after
      | [] => b :: statText field escapes fuel rest
    else if escapes && b = Bytes.ascii '\\' then
      match rest with
      | c :: after =>
        let digits := (rest.takeWhile fun d => 0x30 ≤ d && d ≤ 0x37).take 3
        if !digits.isEmpty then
          (digits.foldl (fun n d => n * 8 + (d - 0x30)) (0 : UInt8)) :: statText field escapes fuel (rest.drop digits.length)
        else
        let value : Bytes := match controlLetters.find? fun e => Bytes.ascii e.2 == c with
          | some (v, _) => [v]
          | none => if c = Bytes.ascii '\\' || c = Bytes.ascii '"' then [c] else [b, c]
        value ++ statText field escapes fuel after
      | [] => [b]
    else b :: statText field escapes fuel rest

/-- What is said of a file if no format is given. -/
def statLayout (terse : Bool) : Bytes :=
  if terse then text "%n %s %b %f %u %g %D %i %h %t %T %X %Y %Z %W %o\n"
  else text ("  File: %N\n  Size: %-10s\tBlocks: %-10b IO Block: %-6o %F\nDevice: 0,0\tInode: %-11i Links: %h\n" ++
    "Access: (%04a/%10A)  Uid: (%5u/%8U)   Gid: (%5g/%8G)\nAccess: %x\nModify: %y\nChange: %z\n Birth: %w\n")

def stat : Utility := fun s =>
  withOptions [⟨'L', .nothing, ["dereference"]⟩, ⟨'f', .nothing, ["file-system"]⟩, ⟨'c', .argument, ["format"]⟩,
      ⟨'Π', .argument, ["printf"]⟩, ⟨'t', .nothing, ["terse"]⟩, ⟨'Γ', .argument, ["cached"]⟩] 1 true s fun o => do
    if o.operands.isEmpty then misuse s 1 (text "missing operand")
    else
      let (format, escapes) := match o.lastOf? ['c', 'Π'] with
        | some 'Π' => ((o.last? 'Π').getD [], true)
        | some _ => ((o.last? 'c').getD [] ++ [Bytes.newline], false)
        | none => (statLayout (o.has 't'), false)
      let one (path : Bytes) : Activity Nat := do
        let (v, found) ← Activity.look fun v => (v, if o.has 'L' then v.stat path else v.linkStat path)
        match found with
        | .ok (l, e) =>
          write 1 (statText (statField v path l e) escapes (format.length + 1) format)
          return 0
        | .error e =>
          complain s (text "cannot statx " ++ always path ++ text (": " ++ e.text))
          return 1
      forEach one o.operands 0

end DesktopRefresh.Utility
