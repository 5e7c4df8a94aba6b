import DesktopRefresh.Host
import DesktopRefresh.Host.Catalogue

/-!
# The files of a host

Setting up a host and looking at it: a bare host has the files of its system and a current directory, and
files can be put there, taken away and read. What cannot be done leaves the host as it is.
-/

namespace DesktopRefresh.Host

/-- A host with an empty current directory that lies in the root. -/
def bare (directory : Bytes) (environment : List (Bytes × Bytes)) : Host where
  tree := ⟨Catalogue.entries ++ [([directory], .directory 0o755)]⟩
  cwd := [directory]
  environment := (homeVariable, Catalogue.home) :: environment

/-- The absolute path of the current directory. -/
def directoryPath (h : Host) : Bytes := Path.ofParts true h.cwd

def setVariable (h : Host) (name value : Bytes) : Host :=
  { h with environment := h.environment.filter (·.1 != name) ++ [(name, value)] }

def makeDirectories (h : Host) (path : Bytes) : Host :=
  { h with tree := (h.tree.makeDirectories h.cwd path).2 }

def makeParents (h : Host) (path : Bytes) : Host :=
  match Path.parent? path with
  | some dir => h.makeDirectories dir
  | none => h

/-- Writes a file and sets its mode, whether or not it was there. -/
def putFile (h : Host) (path content : Bytes) (mode : Nat) : Host :=
  let h := h.makeParents path
  match h.tree.openForWriting true mode h.cwd path with
  | .ok (loc, tree) => { h with tree := tree.insert loc (.file mode content) }
  | .error _ => h

def makeLink (h : Host) (path target : Bytes) : Host :=
  let h := h.makeParents path
  match h.tree.makeLink target h.cwd path with
  | .ok tree => { h with tree := tree }
  | .error _ => h

/-- Removes a file, a link, or a directory with everything in it. -/
def remove (h : Host) (path : Bytes) : Host :=
  match h.tree.locate false h.cwd path with
  | .ok (loc, _) => { h with tree := h.tree.erase loc }
  | .error _ => h

def contentOf (h : Host) (path : Bytes) : Option Bytes := (h.tree.read h.cwd path).toOption

end DesktopRefresh.Host
