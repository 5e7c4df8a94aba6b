import DesktopRefresh.CommandLine.Help
import DesktopRefresh.Manual.Roff

/-!
# The manual page

The page shows the options of the command line with their standard values. Option values have short
names here.
-/

namespace DesktopRefresh.Manual

open CommandLine

/-- An option as the page shows it. -/
structure Item where
  letter : Option Char
  name : LongName
  value : Option String
  standard : Option String
  summary : String

def items : List Item :=
  [⟨none, .dryRun, none, none, "Show what would run without invoking any tool"⟩,
    ⟨none, .value .timeout, some "SECS", some (toString Config.standard.timeout.seconds),
      "Timeout for each tool in seconds"⟩,
    ⟨none, .value .iconCacheTool, some "PROGRAM", some Config.standard.iconCacheTool, "Icon theme cache tool"⟩,
    ⟨none, .value .desktopDatabaseTool, some "PROGRAM", some Config.standard.desktopDatabaseTool,
      "Desktop entry database tool"⟩,
    ⟨some 'h', .info .help, none, none, "Print help (see a summary with '-h')"⟩,
    ⟨some 'V', .info .version, none, none, "Print version"⟩]

namespace Item

/-- The spellings of the option, the short one first. -/
def spellings (i : Item) : List String :=
  i.letter.toList.map (fun c => bold (String.ofList ['-', c])) ++ [bold i.name.flag]

def usage (i : Item) : String := "[" ++ String.intercalate "|" i.spellings ++ "]"

def term (i : Item) : String :=
  String.intercalate ", " i.spellings ++
    (match i.value with
    | some v => " " ++ italic ("<" ++ v ++ ">")
    | none => "") ++
    match i.standard with
    | some v => " [default: " ++ escape v ++ "]"
    | none => ""

end Item

def operand : String := "[" ++ italic "DATADIR" ++ "]"

def description : String :=
  "Runs gtk-update-icon-cache and update-desktop-database against DATADIR. Does nothing when DESTDIR is set to " ++
    "a non-empty value or when DATADIR is omitted. Always exits successfully."

def synopsis : String :=
  bold programName ++ " " ++ String.join (items.map fun i => i.usage ++ " ") ++ operand ++ " "

def options : List String :=
  items.flatMap (fun i => tagged i.term (escape i.summary)) ++ tagged operand (escape datadirSummary)

def page : String :=
  lines <|
    preamble ++
    [".TH " ++ programName ++ " 1  \"" ++ programName ++ " " ++ programVersion ++ "\" "] ++
    headed "NAME" [escape programName ++ " \\- " ++ escape about] ++
    headed "SYNOPSIS" [synopsis] ++
    headed "DESCRIPTION" [escape description] ++
    headed "OPTIONS" options ++
    headed "VERSION" ["v" ++ programVersion]

end DesktopRefresh.Manual
