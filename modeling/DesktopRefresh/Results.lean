/-!
# Results

How many triggers succeeded, failed and were skipped, and the errors of those that failed.
-/

namespace DesktopRefresh

structure Results where
  succeeded : Nat
  failed : Nat
  skipped : Nat
  errors : List String
  deriving DecidableEq, Repr

namespace Results

def empty : Results := ⟨0, 0, 0, []⟩

def oneSucceeded : Results := ⟨1, 0, 0, []⟩

def oneFailed (error : String) : Results := ⟨0, 1, 0, [error]⟩

def oneSkipped : Results := ⟨0, 0, 1, []⟩

def allSucceeded (r : Results) : Bool := r.failed == 0

def total (r : Results) : Nat := r.succeeded + r.failed + r.skipped

instance : Append Results where
  append a b := ⟨a.succeeded + b.succeeded, a.failed + b.failed, a.skipped + b.skipped, a.errors ++ b.errors⟩

end Results

end DesktopRefresh
