/-!
# Ranges of code points

A property of characters is given by the ranges of its code points, both ends included.
-/

namespace DesktopRefresh.Text

abbrev Ranges := List (Nat × Nat)

def Ranges.contains (rs : Ranges) (c : Char) : Bool := rs.any fun r => r.1 ≤ c.toNat && c.toNat ≤ r.2

end DesktopRefresh.Text
