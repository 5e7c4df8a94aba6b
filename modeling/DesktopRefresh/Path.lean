import DesktopRefresh.Bytes

/-!
# Paths

A path is a byte string with `/` between its parts. Joining is textual: nothing is normalised, so
the path of a directory keeps every byte it was given with.
-/

namespace DesktopRefresh.Path

open Bytes (slash)

def isAbsolute (p : Bytes) : Bool := p.head? == some slash

/-- A part can follow directly: the path is empty or ends in `/`. -/
def isOpen (p : Bytes) : Bool := p.isEmpty || p.getLast? == some slash

/-- An absolute `sub` replaces `base`, and otherwise follows it with one `/` between the two if
`base` does not bring it. -/
def join (base sub : Bytes) : Bytes :=
  if isAbsolute sub then sub
  else if isOpen base then base ++ sub
  else base ++ slash :: sub

def here : Bytes := [Bytes.ascii '.']

def up : Bytes := [Bytes.ascii '.', Bytes.ascii '.']

/-- The parts that name something; empty parts and `.` do not. -/
def parts (p : Bytes) : List Bytes := (Bytes.splitAt slash p).filter fun part => !part.isEmpty && part != here

/-- The name of the entry that a path leads to, if the path ends in a name. -/
def fileName? (p : Bytes) : Option Bytes := (parts p).getLast?.filter (· != up)

/-- The path from a list of parts, from the root or from the current directory. -/
def ofParts (absolute : Bool) (ps : List Bytes) : Bytes :=
  (if absolute then [slash] else []) ++ List.intercalate [slash] ps

/-- The paths up to and including each part that names something, the shortest first; `seen` is what
was passed over so far, in reverse order. -/
def stages (seen : Bytes) : List Bytes → List Bytes
  | [] => []
  | part :: rest =>
    let seen := part.reverse ++ seen
    let later := stages (slash :: seen) rest
    if part.isEmpty || part = here then later else seen.reverse :: later

/-- The path itself as it is written, and those of the directories it goes through, the longest first. -/
def ancestors (p : Bytes) : List Bytes :=
  match (stages [] (Bytes.splitAt slash p)).reverse with
  | [] => []
  | _ :: above => p :: above

/-- The directory of the entry that a path leads to, if the path goes through one. -/
def parent? (p : Bytes) : Option Bytes := (ancestors p)[1]?

end DesktopRefresh.Path
