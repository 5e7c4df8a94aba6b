import DesktopRefresh.Bytes

/-!
# The decision to refresh

A packaging tool that builds an archive installs into a staging root and announces it through the
variable `DESTDIR`. Refreshing makes sense on the live system only, and needs a data directory. The
staging root is not checked: any value but the empty one means a staged install.
-/

namespace DesktopRefresh

/-- The variable that names the staging root. -/
def stagingVariable : String := "DESTDIR"

inductive SkipReason where
  | stagedInstall (root : String)
  | noDataDir
  deriving DecidableEq, Repr

def SkipReason.message : SkipReason → String
  | stagedInstall root => "staged install (" ++ stagingVariable ++ "=" ++ root ++ ")"
  | noDataDir => "no data directory given"

inductive Decision where
  | skip (reason : SkipReason)
  | refresh (datadir : Bytes)
  deriving DecidableEq, Repr

namespace Decision

def isRefresh : Decision → Bool
  | skip _ => false
  | refresh _ => true

def ofDataDir : Option Bytes → Decision
  | some dir => refresh dir
  | none => skip .noDataDir

/-- A staged install is skipped whether or not there is a data directory. -/
def decide (stagingRoot : Option String) (datadir : Option Bytes) : Decision :=
  match stagingRoot with
  | some root => if root.isEmpty then ofDataDir datadir else skip (.stagedInstall root)
  | none => ofDataDir datadir

end Decision

end DesktopRefresh
