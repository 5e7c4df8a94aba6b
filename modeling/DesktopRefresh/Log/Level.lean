import DesktopRefresh.Bytes
import DesktopRefresh.Record

/-!
# Limits of detail

A limit is the most detailed level that is still shown; without a level nothing is. It is written as
the name of a level in letters of either case, as `off`, or as the number of a level.
-/

namespace DesktopRefresh.Log

abbrev Limit := Option Level

namespace Limit

def admits (limit : Limit) (level : Level) : Bool := limit.any fun most => level.detail ≤ most.detail

def names : List (String × Limit) :=
  [("error", some .error), ("warn", some .warn), ("info", some .info), ("debug", some .debug),
    ("trace", some .trace), ("off", none)]

def numbered : List Limit := [none, some .error, some .warn, some .info, some .debug, some .trace]

def ofName? (bs : Bytes) : Option Limit :=
  (names.find? fun n => Bytes.ofString n.1 == bs.map Bytes.toLower).map (·.2)

/-- A number may have a plus sign and zeros in front. -/
def ofNumber? (bs : Bytes) : Option Limit :=
  let digits := if bs.head? == some (Bytes.ascii '+') then bs.drop 1 else bs
  if digits.isEmpty || !digits.all Bytes.isDigit then none
  else numbered[Bytes.number digits]?

def ofBytes? (bs : Bytes) : Option Limit := (ofNumber? bs).or (ofName? bs)

end Limit

end DesktopRefresh.Log
