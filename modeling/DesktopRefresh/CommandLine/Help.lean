import DesktopRefresh.CommandLine.Parser

/-!
# Help

The options with their labels and descriptions, usage lines, and the two help texts: a summary with
one line of description for each entry, and the full text with a paragraph for each.
-/

namespace DesktopRefresh.CommandLine

def programName : String := "desktop-postinstall"

def programVersion : String := "0.1.0"

def versionText : String := programName ++ " " ++ programVersion ++ "\n"

/-! ## Labels -/

def LongName.flag (n : LongName) : String := "--" ++ n.spelling

def ValueOption.placeholder : ValueOption → String
  | .timeout => "<TIMEOUT>"
  | .iconCacheTool => "<ICON_CACHE_TOOL>"
  | .desktopDatabaseTool => "<DESKTOP_DATABASE_TOOL>"

/-- A name as messages show it, with a placeholder for the value if it takes one. -/
def LongName.label (n : LongName) : String :=
  match n with
  | .value o => n.flag ++ " " ++ o.placeholder
  | _ => n.flag

/-! ## Usage lines -/

/-- All fields that are no request for information, as alternatives. -/
def alternatives : String :=
  "<DATADIR|EXTRA|" ++ String.intercalate "|"
    ([.dryRun, .value .timeout, .value .iconCacheTool, .value .desktopDatabaseTool].map LongName.label) ++ ">"

def Field.isInfo : Field → Bool
  | .named (.info _) => true
  | _ => false

def generalUsage : List String := ["[OPTIONS]", "[DATADIR]"]

/-- The fields that are present, and a place for the data directory. -/
def usageOf (present : List Field) : List String :=
  if present.isEmpty then generalUsage
  else
    (present.filterMap fun
      | .named n => some n.label
      | .datadir => none) ++ [if present.contains .datadir then "<DATADIR>" else "[DATADIR]"]

/-- The usage of a name that stands with a value it cannot take. -/
def usageWithout (name : LongName) (present : List Field) : List String :=
  if present.isEmpty then [name.label, "[DATADIR]"]
  else if (Field.named name).isInfo then [name.label, alternatives] else [alternatives]

def usageLine (program : String) (words : List String) : String :=
  "Usage: " ++ String.intercalate " " (program :: words)

/-! ## Help texts -/

def about : String := "Refresh the icon cache and desktop database after install"

/-- An option in the help text. -/
structure Entry where
  label : String
  summary : String
  standard : Option String

def entries (full : Bool) : List Entry :=
  [⟨"      " ++ LongName.dryRun.label, "Show what would run without invoking any tool", none⟩,
    ⟨"      " ++ (LongName.value .timeout).label, "Timeout for each tool in seconds",
      some (toString Config.standard.timeout.seconds)⟩,
    ⟨"      " ++ (LongName.value .iconCacheTool).label, "Icon theme cache tool",
      some Config.standard.iconCacheTool⟩,
    ⟨"      " ++ (LongName.value .desktopDatabaseTool).label, "Desktop entry database tool",
      some Config.standard.desktopDatabaseTool⟩,
    ⟨"  -h, " ++ (LongName.info .help).label,
      if full then "Print help (see a summary with '-h')" else "Print help (see more with '--help')", none⟩,
    ⟨"  -V, " ++ (LongName.info .version).label, "Print version", none⟩]

def indent : String := "          "

def datadirSummary : String := "Install data directory (e.g. /usr/share); nothing runs without it"

def datadirRemark : String := "Taken verbatim: an empty value or one starting with '-' still counts."

def standardNote (value : String) : String := "[default: " ++ value ++ "]"

def Entry.short (e : Entry) : String :=
  e.label ++ "\n" ++ indent ++ e.summary ++
    (match e.standard with
    | some v => " " ++ standardNote v
    | none => "") ++ "\n"

/-- An entry with room around it. The line between two paragraphs keeps its indentation. -/
def Entry.long (e : Entry) : String :=
  e.label ++ "\n" ++ indent ++ e.summary ++ "\n" ++
    match e.standard with
    | some v => indent ++ "\n" ++ indent ++ standardNote v ++ "\n"
    | none => ""

def helpHead (program : String) : String :=
  about ++ "\n\n" ++ usageLine program generalUsage ++ "\n\nArguments:\n"

def shortHelp (program : String) : String :=
  helpHead program ++ "  [DATADIR]  " ++ datadirSummary ++ "\n\nOptions:\n" ++
    String.join ((entries false).map Entry.short)

def fullHelp (program : String) : String :=
  helpHead program ++ "  [DATADIR]\n" ++ indent ++ datadirSummary ++ "\n" ++ indent ++ "\n" ++ indent ++
    datadirRemark ++ "\n\nOptions:\n" ++ String.intercalate "\n" ((entries true).map Entry.long)

end DesktopRefresh.CommandLine
