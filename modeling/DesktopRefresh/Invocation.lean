import DesktopRefresh.Text.Utf8

/-!
# Invocations

An invocation is a program and its arguments. The program is text, the arguments are bytes. Its
display separates them by single spaces and is for reading only.
-/

namespace DesktopRefresh

structure Invocation where
  program : String
  args : List Bytes
  deriving DecidableEq, Repr

namespace Invocation

/-- The program and the arguments as text, undecodable bytes replaced. -/
def words (inv : Invocation) : List String := inv.program :: inv.args.map Utf8.lossy

def display (inv : Invocation) : String := String.intercalate " " inv.words

end Invocation

end DesktopRefresh
