import DesktopRefresh.Invocation
import DesktopRefresh.Path

/-!
# Triggers

A trigger is one refresh action: a tool that is run against a directory below the data directory.
Two are built in, for the icon cache and for the desktop database, and they run in this order.
-/

namespace DesktopRefresh

structure Trigger where
  name : String
  description : String
  /-- The progress line printed before the tool runs. -/
  notice : String
  program : String
  /-- Arguments in front of the target directory. -/
  args : List String
  /-- The target directory, relative to the data directory. -/
  subdir : String
  deriving DecidableEq, Repr

namespace Trigger

def iconCacheTool : String := "gtk-update-icon-cache"

def desktopDatabaseTool : String := "update-desktop-database"

def iconCache (program : String) : Trigger where
  name := "icon-cache"
  description := "Update GTK icon cache"
  notice := "Updating icon cache..."
  program := program
  args := ["-qtf"]
  subdir := "icons/hicolor"

def desktopDatabase (program : String) : Trigger where
  name := "desktop-database"
  description := "Update desktop entry database"
  notice := "Updating desktop database..."
  program := program
  args := ["-q"]
  subdir := "applications"

def builtin (iconCacheTool desktopDatabaseTool : String) : List Trigger :=
  [iconCache iconCacheTool, desktopDatabase desktopDatabaseTool]

/-- The directory that the trigger refreshes. -/
def target (t : Trigger) (datadir : Bytes) : Bytes := Path.join datadir (Bytes.ofString t.subdir)

def command (t : Trigger) (datadir : Bytes) : Invocation where
  program := t.program
  args := t.args.map Bytes.ofString ++ [t.target datadir]

end Trigger

end DesktopRefresh
