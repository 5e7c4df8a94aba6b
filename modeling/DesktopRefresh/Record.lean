/-!
# Log records

A record has a level, the part of the program it comes from, and a message.
-/

namespace DesktopRefresh

inductive Level where
  | error | warn | info | debug | trace
  deriving DecidableEq, Repr

namespace Level

def name : Level → String
  | error => "ERROR"
  | warn => "WARN"
  | info => "INFO"
  | debug => "DEBUG"
  | trace => "TRACE"

/-- Grows with the detail; the least is for errors. -/
def detail : Level → Nat
  | error => 1
  | warn => 2
  | info => 3
  | debug => 4
  | trace => 5

end Level

/-- The part of the program that writes a record. -/
inductive Origin where
  | program | hook | executor | runner
  deriving DecidableEq, Repr

def Origin.path : Origin → String
  | program => "desktop_postinstall"
  | hook => "desktop_postinstall::notifier"
  | executor => "desktop_postinstall::trigger"
  | runner => "desktop_postinstall::trigger::runner"

structure Record where
  level : Level
  origin : Origin
  message : String
  deriving DecidableEq, Repr

end DesktopRefresh
