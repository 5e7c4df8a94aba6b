import DesktopRefresh.Host.FileTree
import DesktopRefresh.Manual.Page
import DesktopRefresh.Text.Quoted

/-!
# Building the manual page

The page is built along with a package: it is written into the directory `man` of the package, which
is made if need be. What goes wrong is a warning to the build, and never stops it.
-/

namespace DesktopRefresh.Manual

inductive BuildError where
  | noPackage
  | undecodablePackage (dir : Bytes)
  | directory (cause : SystemError)
  | page (cause : SystemError)
  deriving DecidableEq, Repr

namespace BuildError

def message : BuildError → String
  | noPackage => "CARGO_MANIFEST_DIR not set: environment variable not found"
  | undecodablePackage dir =>
    "CARGO_MANIFEST_DIR not set: environment variable was not valid unicode: " ++ Text.quote dir
  | directory cause => "Failed to create man directory: " ++ cause.message
  | page cause => "Failed to write man page: " ++ cause.message

end BuildError

def fileName : Bytes := Bytes.ofString (CommandLine.programName ++ ".1")

/-- Writes the page into a package. What was done before something went wrong stays. -/
def write (t : FileTree) (cwd : Location) (package : Option Bytes) : Option BuildError × FileTree :=
  match package with
  | none => (some .noPackage, t)
  | some package =>
    if Utf8.isText package then
      let dir := Path.join package (Bytes.ofString "man")
      match t.makeDirectories cwd dir with
      | (some e, t) => (some (.directory (.numbered e)), t)
      | (none, t) =>
        match t.write cwd (Path.join dir fileName) (Bytes.ofString page) with
        | .ok t => (none, t)
        | .error e => (some (.page (.numbered e)), t)
    else (some (.undecodablePackage package), t)

/-- What the build is told: when to build the page again, and a warning if something went wrong. -/
def report (e : Option BuildError) : String :=
  "cargo:rerun-if-changed=build.rs\n" ++
    match e with
    | some e => "cargo:warning=" ++ e.message ++ "\n"
    | none => ""

end DesktopRefresh.Manual
