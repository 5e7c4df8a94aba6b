import DesktopRefresh.CommandLine.Help
import DesktopRefresh.Text.Similarity
import DesktopRefresh.Text.Terminal

/-!
# What a rejected command line is told

Every cause of a rejection has one text. What was given on the command line is shown without
terminal sequences, and a name that is close to a known one leads to a hint.
-/

namespace DesktopRefresh.CommandLine

/-- The name in usage lines: that of the file the program was started from, if it has one that is text. -/
def usageName (invokedAs : Bytes) : String :=
  Terminal.plain (((Path.fileName? invokedAs).bind Utf8.decode?).getD programName)

namespace Rejection

/-- Nothing is wrong: help or the version was asked for. -/
def isInfo : Rejection → Bool
  | help _ | version => true
  | _ => false

def moreHelp : String := "\n\nFor more information, try '--help'.\n"

def suggestion? (name : String) : Option LongName :=
  (Similarity.closest? name (LongName.all.map (·.spelling))).bind fun s => LongName.all.find? (·.spelling == s)

/-- The message, to a program that goes by some name. -/
def message (program : String) : Rejection → String
  | help full => if full then fullHelp program else shortHelp program
  | version => versionText
  | missingValue o =>
    "error: a value is required for '" ++ (LongName.value o).label ++ "' but none was supplied" ++ moreHelp
  | undecodableValue =>
    "error: invalid UTF-8 was detected in one or more arguments\n\n" ++ usageLine program generalUsage ++ moreHelp
  | invalidTimeout value fault =>
    "error: invalid value '" ++ Terminal.plain value ++ "' for '" ++ (LongName.value .timeout).label ++ "': " ++
      fault.message ++ moreHelp
  | repeated name =>
    "error: the argument '" ++ name.label ++ "' cannot be used multiple times\n\n" ++
      usageLine program generalUsage ++ moreHelp
  | unexpectedValue name value present =>
    "error: unexpected value '" ++ Terminal.plain (Utf8.lossy value) ++ "' for '" ++ name.flag ++
      "' found; no more were expected\n\n" ++ usageLine program (usageWithout name present) ++ moreHelp
  | unknownArgument name present =>
    let shown := Terminal.plain ("--" ++ Utf8.lossy name)
    let head := "error: unexpected argument '" ++ shown ++ "' found\n\n"
    match suggestion? (Utf8.lossy name) with
    | some near =>
      let fields := if present.contains (.named near) then present else present ++ [.named near]
      head ++ "  tip: a similar argument exists: '" ++ near.flag ++ "'\n\n" ++
        usageLine program (usageOf fields) ++ moreHelp
    | none =>
      head ++ "  tip: to pass '" ++ shown ++ "' as a value, use '-- " ++ shown ++ "'\n\n" ++
        usageLine program (usageOf present) ++ moreHelp

end Rejection

end DesktopRefresh.CommandLine
