/-!
# The language of manual pages

Requests stand on lines of their own and begin with a point. In running text a hyphen and an
apostrophe are escaped, and fonts are changed by escapes too.
-/

namespace DesktopRefresh.Manual

/-- The string register for an apostrophe, which devices spell differently. -/
def apostrophe : String := "\\*(Aq"

def escapeChar : Char → List Char
  | '-' => ['\\', '-']
  | '\'' => apostrophe.toList
  | '\\' => ['\\', '\\']
  | c => [c]

def escape (s : String) : String := String.ofList (s.toList.flatMap escapeChar)

def bold (s : String) : String := "\\fB" ++ escape s ++ "\\fR"

def italic (s : String) : String := "\\fI" ++ escape s ++ "\\fR"

/-- Defines the register for the apostrophe. -/
def preamble : List String := [".ie \\n(.g .ds Aq \\(aq", ".el .ds Aq '"]

/-- A part of the page under a title. -/
def headed (title : String) (body : List String) : List String := (".SH " ++ title) :: body

/-- A term and what it means. -/
def tagged (term meaning : String) : List String := [".TP", term, meaning]

def lines (ls : List String) : String := String.join (ls.map (· ++ "\n"))

end DesktopRefresh.Manual
