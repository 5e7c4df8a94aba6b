import DesktopRefresh.Path
import DesktopRefresh.SystemError

/-!
# File trees

A tree is a list of entries with their locations, the names on the way down from the root; an entry that
was changed later stands behind those that were changed before. A path is followed entry by entry; a
symbolic link is replaced by its target, and after too many of them the path counts as a loop.
-/

namespace DesktopRefresh

/-- Files that are no place to keep anything. -/
inductive Device where
  /-- Takes everything and is always empty. -/
  | null
  /-- Takes everything and gives zeros without end. -/
  | zero
  /-- Gives zeros and has no space for anything. -/
  | full
  /-- Whatever the process that opens it has open under a number. -/
  | descriptor (number : Nat)
  deriving DecidableEq, Repr

/-- The number of a device among those that keep no data. -/
def Device.minor : Device → Nat
  | .null => 3
  | .zero => 5
  | .full => 7
  | .descriptor number => number

inductive Entry where
  | file (mode : Nat) (content : Bytes)
  | directory (mode : Nat)
  | link (target : Bytes)
  /-- A program of the host itself. -/
  | program (name : String)
  | device (d : Device)
  deriving DecidableEq, Repr

namespace Entry

def isRegular : Entry → Bool
  | file _ _ | program _ => true
  | _ => false

def isDirectory : Entry → Bool
  | directory _ => true
  | _ => false

def isDevice : Entry → Bool
  | device _ => true
  | _ => false

def isLink : Entry → Bool
  | link _ => true
  | _ => false

def mode : Entry → Nat
  | file mode _ | directory mode => mode
  | link _ => 0o777
  | program _ => 0o755
  | device _ => 0o666

def withMode (mode : Nat) : Entry → Entry
  | file _ content => file mode content
  | directory _ => directory mode
  | e => e

/-- Some class of users may execute it. -/
def isExecutable (e : Entry) : Bool := e.isRegular && e.mode &&& 0o111 != 0

def size : Entry → Nat
  | file _ content => content.length
  | directory _ => 4096
  | link target => target.length
  | program _ => 65536
  | device _ => 0

end Entry

abbrev Location := List Bytes

structure FileTree where
  entries : List (Location × Entry)
  deriving DecidableEq, Repr

namespace FileTree

def rootMode : Nat := 0o755

def entry? (t : FileTree) (l : Location) : Option Entry :=
  if l.isEmpty then some (.directory rootMode) else (t.entries.find? (·.1 == l)).map (·.2)

/-- Takes away an entry and everything below it. -/
def erase (t : FileTree) (l : Location) : FileTree := ⟨t.entries.filter fun e => !l.isPrefixOf e.1⟩

/-- Puts an entry at a location, as the one that was changed last. -/
def insert (t : FileTree) (l : Location) (e : Entry) : FileTree := ⟨t.entries.filter (·.1 != l) ++ [(l, e)]⟩

/-- Changes an entry that keeps its age. -/
def adjust (t : FileTree) (l : Location) (f : Entry → Entry) : FileTree :=
  ⟨t.entries.map fun e => if e.1 == l then (e.1, f e.2) else e⟩

/-- The names in a directory, in the order of their bytes. -/
def namesIn (t : FileTree) (dir : Location) : List Bytes :=
  let names := t.entries.filterMap fun e =>
    if e.1.length = dir.length + 1 ∧ dir.isPrefixOf e.1 then e.1.getLast? else none
  names.mergeSort fun a b => decide (a ≤ b)

/-- One entry was changed after another one. -/
def isLater (t : FileTree) (a b : Location) : Bool :=
  match t.entries.findIdx? (·.1 == a), t.entries.findIdx? (·.1 == b) with
  | some i, some j => j < i
  | _, _ => false

/-! ## Following paths -/

/-- Where a path leads: to an entry, or to a free name in a directory. -/
inductive Found where
  | existing (loc : Location) (entry : Entry)
  | absent (loc : Location)
  deriving DecidableEq, Repr

/-- What a path is followed for. -/
inductive Purpose where
  /-- An entry that is there; its last part may be a link to follow or the link itself. -/
  | visit (followLast : Bool)
  /-- A file that can be new. A path that ends in a slash names none. -/
  | create
  /-- A new directory, which can be named with a slash at the end. -/
  | nest
  deriving DecidableEq, Repr

/-- The rest of a path: the names, and whether there is a slash after the last one. -/
structure Route where
  names : List Bytes
  slashed : Bool
  deriving DecidableEq, Repr

namespace Route

def ofPath (p : Bytes) : Route :=
  ⟨(Bytes.splitAt Bytes.slash p).filter (!·.isEmpty), p.getLast? == some Bytes.slash⟩

/-- The route to the target of a link and on along the rest of the way. -/
def through (target : Bytes) (rest : List Bytes) (slashed : Bool) : Route :=
  let r := ofPath target
  ⟨r.names ++ rest, if rest.isEmpty then slashed || r.slashed else slashed⟩

end Route

inductive Walk where
  | stop (result : Except Errno Found)
  | jump (loc : Location) (todo : Route)

def longestName : Nat := 255

def longestPath : Nat := 4095

/-- What is found under the last name of a path. -/
def arrive (purpose : Purpose) (dir l : Location) (slashed : Bool) : Option Entry → Walk
  | none =>
    match purpose with
    | .create => .stop (if slashed then .error .isDirectory else .ok (.absent l))
    | .nest => .stop (.ok (.absent l))
    | .visit _ => .stop (if slashed then .error .noEntry else .ok (.absent l))
  | some e =>
    let jump (target : Bytes) : Walk :=
      .jump (if Path.isAbsolute target then [] else dir) (Route.through target [] slashed)
    match purpose with
    | .create =>
      if slashed then .stop (.error .isDirectory)
      else match e with
        | .link target => jump target
        | e => .stop (.ok (.existing l e))
    | .nest => .stop (.ok (.existing l e))
    | .visit followLast =>
      match e with
      | .link target => if followLast || slashed then jump target else .stop (.ok (.existing l e))
      | .directory mode => .stop (.ok (.existing l (.directory mode)))
      | e => .stop (if slashed then .error .notDirectory else .ok (.existing l e))

/-- Goes down from a directory until the names are used up or a link has to be followed. -/
def descend (t : FileTree) (purpose : Purpose) (slashed : Bool) : Location → List Bytes → Walk
  | loc, [] => .stop (.ok (.existing loc ((t.entry? loc).getD (.directory rootMode))))
  | loc, name :: rest =>
    if name = Path.here then descend t purpose slashed loc rest
    else if name = Path.up then descend t purpose slashed loc.dropLast rest
    else if name.length > longestName then .stop (.error .nameTooLong)
    else
      let l := loc ++ [name]
      if rest.isEmpty then arrive purpose loc l slashed (t.entry? l)
      else match t.entry? l with
        | none => .stop (.error .noEntry)
        | some (.directory _) => descend t purpose slashed l rest
        | some (.link target) =>
          .jump (if Path.isAbsolute target then [] else loc) (Route.through target rest slashed)
        | some _ => .stop (.error .notDirectory)

/-- Follows at most `links` links. -/
def walk (t : FileTree) (purpose : Purpose) : (links : Nat) → Location → Route → Except Errno Found
  | links, loc, todo =>
    match descend t purpose todo.slashed loc todo.names with
    | .stop result => result
    | .jump loc todo =>
      match links with
      | 0 => .error .linkLoop
      | links + 1 => walk t purpose links loc todo

def mostLinks : Nat := 40

def find (t : FileTree) (purpose : Purpose) (cwd : Location) (path : Bytes) : Except Errno Found :=
  if path.isEmpty then .error .noEntry
  else if path.length > longestPath then .error .nameTooLong
  else walk t purpose mostLinks (if Path.isAbsolute path then [] else cwd) (Route.ofPath path)

/-- An entry that is there, with its location. -/
def locate (t : FileTree) (followLast : Bool) (cwd : Location) (path : Bytes) : Except Errno (Location × Entry) :=
  match t.find (.visit followLast) cwd path with
  | .ok (.existing l e) => .ok (l, e)
  | .ok (.absent _) => .error .noEntry
  | .error e => .error e

/-- The entry that a path leads to, links followed. -/
def stat (t : FileTree) (cwd : Location) (path : Bytes) : Except Errno Entry := (t.locate true cwd path).map (·.2)

def isDirectory (t : FileTree) (cwd : Location) (path : Bytes) : Bool :=
  match t.stat cwd path with
  | .ok e => e.isDirectory
  | .error _ => false

/-- The content of the regular file that a path leads to. -/
def read (t : FileTree) (cwd : Location) (path : Bytes) : Except Errno Bytes :=
  match t.stat cwd path with
  | .ok (.file _ content) => .ok content
  | .ok (.device _) => .ok []
  | .ok (.directory _) => .error .isDirectory
  | .ok _ => .error .inputOutput
  | .error e => .error e

/-! ## Writing files -/

/-- Opens a file for writing: the location of its content and the tree with the file in it. A new
file gets a mode, an old one keeps its own and is emptied if `truncate` is set. -/
def openForWriting (t : FileTree) (truncate : Bool) (mode : Nat) (cwd : Location) (path : Bytes) :
    Except Errno (Location × FileTree) :=
  match t.find .create cwd path with
  | .error e => .error e
  | .ok (.absent l) => .ok (l, t.insert l (.file mode []))
  | .ok (.existing l (.file mode content)) => .ok (l, if truncate then t.insert l (.file mode []) else
      t.adjust l fun _ => .file mode content)
  | .ok (.existing l (.device _)) => .ok (l, t)
  | .ok (.existing _ (.directory _)) => .error .isDirectory
  | .ok (.existing _ _) => .error .textBusy

/-- Content with some bytes in it from a position on; a gap before them is filled with zeros. -/
def overwrite (content : Bytes) (position : Nat) (bs : Bytes) : Bytes :=
  content.take position ++ List.replicate (position - content.length) 0 ++ bs ++ content.drop (position + bs.length)

def writeAt (t : FileTree) (l : Location) (position : Nat) (bs : Bytes) : FileTree :=
  match t.entry? l with
  | some (.file mode content) => t.insert l (.file mode (overwrite content position bs))
  | _ => t

def append (t : FileTree) (l : Location) (bs : Bytes) : FileTree :=
  match t.entry? l with
  | some (.file mode content) => t.insert l (.file mode (content ++ bs))
  | _ => t

def write (t : FileTree) (cwd : Location) (path content : Bytes) : Except Errno FileTree :=
  (t.openForWriting true 0o644 cwd path).map fun (l, t) => t.append l content

/-! ## Making directories -/

def makeDirectory (t : FileTree) (mode : Nat) (cwd : Location) (path : Bytes) : Except Errno FileTree :=
  match t.find .nest cwd path with
  | .ok (.absent l) => .ok (t.insert l (.directory mode))
  | .ok (.existing _ _) => .error .entryExists
  | .error e => .error e

/-- Makes a directory that may be there already. -/
def ensureDirectory (t : FileTree) (cwd : Location) (path : Bytes) : Except Errno FileTree :=
  match t.makeDirectory 0o755 cwd path with
  | .ok t => .ok t
  | .error e => if t.isDirectory cwd path then .ok t else .error e

/-- Makes the first directory of a list, of which each lies in the one after it. The others are made
only if that fails because they are missing, and those that were made stay if it fails in the end. -/
def makeNested (t : FileTree) (cwd : Location) : List Bytes → Option Errno × FileTree
  | [] => (none, t)
  | path :: above =>
    match t.ensureDirectory cwd path with
    | .ok t => (none, t)
    | .error .noEntry =>
      match makeNested t cwd above with
      | (none, t) =>
        match t.ensureDirectory cwd path with
        | .ok t => (none, t)
        | .error e => (some e, t)
      | failed => failed
    | .error e => (some e, t)

/-- Makes a directory and those above it. -/
def makeDirectories (t : FileTree) (cwd : Location) (path : Bytes) : Option Errno × FileTree :=
  makeNested t cwd (Path.ancestors path)

/-! ## Other changes -/

def makeLink (t : FileTree) (target : Bytes) (cwd : Location) (path : Bytes) : Except Errno FileTree :=
  match t.find .nest cwd path with
  | .ok (.absent l) => if path.getLast? = some Bytes.slash then .error .noEntry else .ok (t.insert l (.link target))
  | .ok (.existing _ _) => .error .entryExists
  | .error e => .error e

/-- Gives an entry one more name. -/
def shareFile (t : FileTree) (source : Location × Entry) (cwd : Location) (path : Bytes) : Except Errno FileTree :=
  match t.find .nest cwd path with
  | .ok (.absent l) => if source.2.isDirectory then .error .notPermitted else .ok (t.insert l source.2)
  | .ok (.existing _ _) => .error .entryExists
  | .error e => .error e

/-- Removes an entry that is no directory. -/
def unlink (t : FileTree) (cwd : Location) (path : Bytes) : Except Errno FileTree :=
  match t.locate false cwd path with
  | .ok (l, e) => if e.isDirectory then .error .isDirectory else .ok (t.erase l)
  | .error e => .error e

/-- Removes an empty directory. -/
def removeDirectory (t : FileTree) (cwd : Location) (path : Bytes) : Except Errno FileTree :=
  match t.find .nest cwd path with
  | .ok (.existing l e) =>
    if !e.isDirectory then .error .notDirectory
    else if (Route.ofPath path).names.getLast? = some Path.here then .error .invalid
    else if (Route.ofPath path).names.getLast? = some Path.up then .error .notEmpty
    else if l.isEmpty then .error .busy
    else if (t.namesIn l).isEmpty then .ok (t.erase l) else .error .notEmpty
  | .ok (.absent _) => .error .noEntry
  | .error e => .error e

/-- Moves an entry and everything below it to a new name. What has that name already is replaced if the
two are alike and it is no directory with something in it. -/
def rename (t : FileTree) (cwd : Location) (source target : Bytes) : Except Errno FileTree :=
  let isUnnamed (path : Bytes) : Bool :=
    (Route.ofPath path).names.getLast?.any fun n => n == Path.here || n == Path.up
  match t.find .nest cwd source, t.find .nest cwd target with
  | .error e, _ | _, .error e => .error e
  | .ok (.absent _), _ => .error .noEntry
  | .ok (.existing s e), .ok found =>
    let moved (t : FileTree) (l : Location) : FileTree :=
      ⟨t.entries.map fun (place, e) => if s.isPrefixOf place then (l ++ place.drop s.length, e) else (place, e)⟩
    if isUnnamed source || isUnnamed target || s.isEmpty then .error .busy
    else if !e.isDirectory && (source.getLast? = some Bytes.slash || target.getLast? = some Bytes.slash) then
      .error .notDirectory
    else match found with
    | .absent l =>
      if e.isDirectory && s.isPrefixOf l then .error .invalid
      else .ok (moved t l)
    | .existing l old =>
      if l = s then .ok t
      else if e.isDirectory && s.isPrefixOf l then .error .invalid
      else if e.isDirectory && !old.isDirectory then .error .notDirectory
      else if !e.isDirectory && old.isDirectory then .error .isDirectory
      else if old.isDirectory && !(t.namesIn l).isEmpty then .error .notEmpty
      else .ok (moved (t.erase l) l)

def setMode (t : FileTree) (l : Location) (mode : Nat) : FileTree := t.adjust l (Entry.withMode mode)

/-- Makes an entry the one that was changed last. -/
def touch (t : FileTree) (l : Location) : FileTree :=
  match t.entry? l with
  | some e => if l.isEmpty then t else t.insert l e
  | none => t

/-- Makes an entry the one that was changed before all others. -/
def antedate (t : FileTree) (l : Location) : FileTree :=
  match t.entry? l with
  | some e => if l.isEmpty then t else ⟨(l, e) :: t.entries.filter (·.1 != l)⟩
  | none => t

end FileTree

end DesktopRefresh
