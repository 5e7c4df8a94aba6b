import DesktopRefresh.Shell.Builtin.Arguments
import DesktopRefresh.Shell.Condition
import DesktopRefresh.Shell.Format

/-!
# Own commands that print and decide
-/

namespace DesktopRefresh.Shell.Builtin

open Shell (text shown)

def echo : Own := fun args => do
  Action.print (Format.echo args)
  return 0

def printf : Own := fun args => do
  match ← operands args with
  | [] => Action.fail "usage: printf format [arg ...]"
  | format :: args =>
    let p := Format.printf format args
    for (argument, fault) in p.faults do Action.complainBytes (argument ++ text (": " ++ fault))
    Action.print p.output
    match p.broken with
    | some directive => Action.fail directive
    | none => return if p.faults.isEmpty then 0 else 1

def decideCondition (args : List Bytes) : Action Nat := do
  match Condition.evaluate (← Action.lift (Kernel.Activity.look id)) args with
  | .ok b => return if b then 0 else 1
  | .error fault => Action.fail fault.message

/-- The last argument closes the condition if it begins with a bracket. -/
def bracket : Own := fun args =>
  if args.getLast?.any (·.head? == some (Bytes.ascii ']')) then decideCondition args.dropLast
  else Action.fail "missing ]"

end DesktopRefresh.Shell.Builtin
