import DesktopRefresh.Host.Search
import DesktopRefresh.System

/-!
# Hosts

A host is a system with files, a current directory and an environment. It can find a program and tell what a
start of it launches. How a launched program behaves, and what it does to the files, is left open.
-/

namespace DesktopRefresh

structure Host where
  tree : FileTree
  cwd : Location
  environment : List (Bytes × Bytes)
  deriving Repr

namespace Host

def searchPathVariable : Bytes := Bytes.ofString "PATH"

def homeVariable : Bytes := Bytes.ofString "HOME"

def surroundings (h : Host) : Surroundings :=
  ⟨h.tree, h.cwd, h.environment.lookup searchPathVariable, h.environment.lookup homeVariable⟩

def finds (h : Host) (program : String) : Bool := h.surroundings.finds (Bytes.ofString program)

/-- What the system refuses to take as a program or an argument. -/
def isRefused (bs : Bytes) : Bool := bs.contains 0

section
-- the child that a launch makes, and the files as it leaves them
variable (follow : Host → Duration → Surroundings.Launch → Started × FileTree)

def start (h : Host) (command : Invocation) (timeout : Duration) : Except SystemError Started × Host :=
  let name := Bytes.ofString command.program
  if isRefused name || command.args.any isRefused then (.error .zeroByte, h)
  else match h.surroundings.launch name command.args with
    | .error e => (.error (.numbered e), h)
    | .ok launch =>
      match follow h timeout launch with
      | (started, tree) => (.ok started, { h with tree := tree })

def system : System Host := ⟨finds, start follow⟩

end

end Host

end DesktopRefresh
