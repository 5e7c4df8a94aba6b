import DesktopRefresh.Number

/-!
# Durations

Whole seconds and the nanoseconds beyond them.
-/

namespace DesktopRefresh

structure Duration where
  seconds : Nat
  nanos : Nat
  deriving DecidableEq, Repr

namespace Duration

def ofSeconds (n : Nat) : Duration := ⟨n, 0⟩

def nanosInSecond : Nat := 10 ^ 9

/-- Seconds and nanoseconds, of which there can be more than a second has. -/
def ofParts (seconds nanos : Nat) : Duration := ⟨seconds + nanos / nanosInSecond, nanos % nanosInSecond⟩

def toNanos (d : Duration) : Nat := d.seconds * nanosInSecond + d.nanos

end Duration

end DesktopRefresh
