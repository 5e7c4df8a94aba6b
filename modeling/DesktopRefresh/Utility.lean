import DesktopRefresh.Shell.Evaluation
import DesktopRefresh.Utility.Awk
import DesktopRefresh.Utility.Blocks
import DesktopRefresh.Utility.Characters
import DesktopRefresh.Utility.Checksum
import DesktopRefresh.Utility.Comparison
import DesktopRefresh.Utility.Edit
import DesktopRefresh.Utility.Encoding
import DesktopRefresh.Utility.Excerpt
import DesktopRefresh.Utility.Expression
import DesktopRefresh.Utility.Finding
import DesktopRefresh.Utility.Identity
import DesktopRefresh.Utility.Launching
import DesktopRefresh.Utility.Listing
import DesktopRefresh.Utility.Naming
import DesktopRefresh.Utility.Order
import DesktopRefresh.Utility.Output
import DesktopRefresh.Utility.Search
import DesktopRefresh.Utility.Status
import DesktopRefresh.Utility.Tabs
import DesktopRefresh.Utility.Transfer
import DesktopRefresh.Utility.Usage

/-!
# The programs of the system

What each program of the system does, by its name. A program that is in the system but is not known here
does nothing and succeeds.
-/

namespace DesktopRefresh.Utility

open Kernel (Activity Code Variables)

def table : List (String × Utility) :=
  [("[", bracket), ("arch", arch), ("awk", awk), ("base32", encodeWith base32Digits),
    ("base64", encodeWith base64Digits), ("basename", basename), ("cat", cat), ("chgrp", changeOwner true),
    ("chmod", chmod), ("chown", changeOwner false), ("cksum", cksum), ("cmp", cmp), ("comm", comm), ("cp", cp),
    ("cut", cut), ("dd", dd), ("diff", diff), ("dir", listAs .columns .escaped), ("dirname", dirname),
    ("echo", echo), ("egrep", searchAs .extended), ("env", env), ("expand", expand), ("expr", expr),
    ("false", refuse), ("fgrep", searchAs .fixed), ("find", find), ("fold", fold), ("grep", grep),
    ("groups", groups), ("head", head), ("hostname", hostname), ("id", identify), ("install", install),
    ("link", link), ("ln", ln), ("logname", logname), ("ls", ls), ("mawk", awk), ("md5sum", checksum md5),
    ("mkdir", mkdir), ("mktemp", mktemp), ("mv", mv), ("nawk", awk), ("nice", nice), ("nl", nl), ("nohup", nohup),
    ("nproc", nproc), ("od", od), ("paste", paste), ("printenv", printenv), ("printf", printf), ("pwd", pwd),
    ("readlink", readlink), ("realpath", realpath), ("rev", rev), ("rm", rm), ("rmdir", rmdir), ("sed", sed),
    ("seq", seq), ("setsid", setsid), ("sha1sum", checksum sha1), ("sha224sum", checksum sha224),
    ("sha256sum", checksum sha256), ("sha384sum", checksum sha384), ("sha512sum", checksum sha512),
    ("sleep", sleep), ("sort", sort), ("stat", stat), ("sum", sum), ("tac", tac), ("tail", tail), ("tee", tee),
    ("test", test), ("timeout", timeout), ("touch", touch), ("tr", tr), ("true", succeed), ("truncate", truncate),
    ("tty", tty), ("uname", uname), ("unexpand", unexpand), ("uniq", uniq), ("unlink", unlink),
    ("users", nobodyThere), ("vdir", listAs .long .escaped), ("wc", wc), ("which", which), ("who", nobodyThere),
    ("whoami", whoami), ("xargs", xargs), ("yes", yes)]

def shells : List String := ["sh", "dash"]

/-- The code of a program that is started. -/
def start (launch : Surroundings.Launch) (settings : Variables) : Code :=
  if shells.contains launch.program then Shell.Evaluation.program launch settings
  else match table.lookup launch.program with
    | some utility => Activity.code (utility ⟨launch.name, launch.args, settings⟩)
    | none =>
      match usages.lookup launch.program with
      | some usage => Activity.code (usage.check ⟨launch.name, launch.args, settings⟩)
      | none => .done 0

end DesktopRefresh.Utility
