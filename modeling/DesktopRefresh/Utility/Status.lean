import DesktopRefresh.Text.Floating
import DesktopRefresh.Utility.Condition

/-!
# Utilities for their status, and for waiting
-/

namespace DesktopRefresh.Utility

open Kernel (Activity)

def succeed : Utility := fun _ => return 0

def refuse : Utility := fun _ => return 1

/-! ## Waiting -/

/-- The seconds that a letter stands for. -/
def unit? (suffix : Bytes) : Option Nat :=
  if suffix.isEmpty || suffix == text "s" then some 1
  else if suffix == text "m" then some 60
  else if suffix == text "h" then some 3600
  else if suffix == text "d" then some 86400
  else none

/-- Longer than anybody waits, in nanoseconds. -/
def forEver : Nat := 10 ^ 20

def nanosOf (x : Floating) : Option Nat :=
  match x with
  | .finite negative m e =>
    let (n, d) := Floating.scaled m 1 e
    if negative && n != 0 then none else some (min forEver ((n * 10 ^ 9 + d - 1) / d))
  | .infinite negative => if negative then none else some forEver
  | .undefined _ => none

/-- A time in nanoseconds, given as a number with a letter for its unit. -/
def interval? (bs : Bytes) : Option Nat := do
  let (x, _, rest) ← Floating.read? bs
  let factor ← unit? rest
  return min forEver ((← nanosOf x) * factor)

def sleep : Utility := fun s =>
  withOptions [] 1 true s fun o => do
    if o.operands.isEmpty then misuse s 1 (text "missing operand")
    else
      let wrong := o.operands.filter fun a => (interval? a).isNone
      if wrong.isEmpty then
        Activity.call (.sleep ((o.operands.filterMap interval?).sum))
        return 0
      else
        for a in wrong do complain s (text "invalid time interval " ++ quoted a)
        hint s
        return 1

/-! ## Conditions -/

def decideCondition (s : Start) (args : List Bytes) : Activity Nat := do
  match Condition.evaluate (← Activity.look id) args with
  | .ok b => return if b then 0 else 1
  | .error fault =>
    complain s fault.message
    return 2

def test : Utility := fun s => decideCondition s s.args

def bracket : Utility := fun s => do
  if s.args.getLast? == some (text "]") then decideCondition s s.args.dropLast
  else
    complain s (text "missing ']'")
    return 2

end DesktopRefresh.Utility
