import DesktopRefresh.Utility.Basic

/-!
# Programs of which only the usage is known

They refuse options that they do not have and ask for arguments that are missing. Otherwise they do
nothing and succeed.
-/

namespace DesktopRefresh.Utility

open Kernel (Activity)

/-- How a program is to be called. -/
structure Usage where
  /-- The status when it is called in another way. -/
  status : Nat
  /-- The letters of options; a colon follows one that takes an argument, and two colons one that can take one. -/
  letters : String
  /-- Long names with the same meaning of an equals sign and a question mark behind them. -/
  names : List String
  /-- How many arguments there are at least. -/
  least : Nat

namespace Usage

def letterSpecs : List Char → List OptionSpec
  | [] => []
  | c :: ':' :: ':' :: rest => ⟨c, .maybe, []⟩ :: letterSpecs rest
  | c :: ':' :: rest => ⟨c, .argument, []⟩ :: letterSpecs rest
  | c :: rest => ⟨c, .nothing, []⟩ :: letterSpecs rest

/-- A long name without a letter that could be typed. -/
def nameSpec (name : String) (i : Nat) : OptionSpec :=
  let plain := String.ofList name.toList.dropLast
  let letter := Char.ofNat (0x3000 + i)
  match name.toList.getLast? with
  | some '=' => ⟨letter, .argument, [plain]⟩
  | some '?' => ⟨letter, .maybe, [plain]⟩
  | _ => ⟨letter, .nothing, [name]⟩

def specs (u : Usage) : List OptionSpec :=
  letterSpecs u.letters.toList ++ (u.names.zipIdx).map fun (name, i) => nameSpec name i

/-- Checks how a program is called. -/
def check (u : Usage) : Utility := fun s =>
  withOptions u.specs u.status true s fun o =>
    if o.operands.length < u.least then
      misuse s u.status (text "missing operand" ++ match o.operands.getLast? with
        | some a => text " after " ++ quoted a
        | none => [])
    else return 0

end Usage

def usages : List (String × Usage) :=
  [("b2sum", ⟨1, "bcl:tzw", ["binary", "check", "length=", "tag", "text", "zero", "ignore-missing", "quiet",
      "status", "strict", "warn"], 0⟩),
    ("basenc", ⟨1, "diw:", ["base64", "base64url", "base32", "base32hex", "base16", "base2msbf", "base2lsbf",
      "decode", "ignore-garbage", "wrap=", "z85"], 0⟩),
    ("chroot", ⟨125, "", ["groups=", "userspec=", "skip-chdir"], 1⟩),
    ("csplit", ⟨1, "b:f:kn:sqz", ["suffix-format=", "prefix=", "keep-files", "suppress-matched", "digits=",
      "quiet", "silent", "elide-empty-files"], 2⟩),
    ("date", ⟨1, "d:f:I::Rr:s:u", ["date=", "debug", "file=", "iso-8601?", "resolution", "rfc-email",
      "rfc-3339=", "reference=", "set=", "utc", "universal"], 0⟩),
    ("df", ⟨1, "aB:hHiklPt:Tx:v", ["all", "block-size=", "human-readable", "si", "inodes", "local", "no-sync",
      "output?", "portability", "sync", "total", "type=", "print-type", "exclude-type="], 0⟩),
    ("dircolors", ⟨1, "bcp", ["sh", "bourne-shell", "csh", "c-shell", "print-database", "print-ls-colors"], 0⟩),
    ("du", ⟨1, "0aB:bcDd:HhkLlmPSst:X:x", ["null", "all", "apparent-size", "block-size=", "bytes", "total",
      "dereference-args", "max-depth=", "files0-from=", "human-readable", "inodes", "dereference",
      "count-links", "no-dereference", "separate-dirs", "si", "summarize", "threshold=", "time",
      "time-style=", "exclude-from=", "exclude=", "one-file-system"], 0⟩),
    ("factor", ⟨1, "h", ["exponents"], 0⟩),
    ("fmt", ⟨1, "cp:stuw:g:", ["crown-margin", "prefix=", "split-only", "tagged-paragraph", "uniform-spacing",
      "width=", "goal="], 0⟩),
    ("hostid", ⟨1, "", [], 0⟩),
    ("join", ⟨1, "a:e:ij:o:t:v:1:2:z", ["ignore-case", "check-order", "nocheck-order", "header",
      "zero-terminated"], 2⟩),
    ("mkfifo", ⟨1, "m:Z", ["mode=", "context?"], 1⟩),
    ("mknod", ⟨1, "m:Z", ["mode=", "context?"], 2⟩),
    ("numfmt", ⟨1, "d:zM", ["debug", "delimiter=", "field=", "format=", "from=", "from-unit=", "grouping",
      "header?", "invalid=", "padding=", "round=", "suffix=", "to=", "to-unit=", "zero-terminated"], 0⟩),
    ("pathchk", ⟨1, "pP", ["portability"], 1⟩),
    ("pinky", ⟨1, "lbhpsfwiq", [], 0⟩),
    ("pr", ⟨1, "C:acdD:e::Ffh:i::Jl:mn::N:o:rs::S::tTvw:W:", ["columns=", "across", "show-control-chars",
      "double-space", "date-format=", "expand-tabs?", "form-feed", "header=", "output-tabs?", "join-lines",
      "length=", "merge", "number-lines?", "first-line-number=", "indent=", "no-file-warnings",
      "separator?", "sep-string?", "omit-header", "omit-pagination", "show-nonprinting", "width=",
      "page-width="], 0⟩),
    ("ptx", ⟨1, "AGF:M:O:RS:T:W:b:fg:i:o:rtw:", ["auto-reference", "traditional", "flag-truncation=",
      "macro-name=", "format=", "right-side-refs", "sentence-regexp=", "word-regexp=", "break-file=",
      "ignore-case", "gap-size=", "ignore-file=", "only-file=", "references", "typeset-mode", "width="], 0⟩),
    ("shred", ⟨1, "fn:s:uvxz", ["force", "iterations=", "random-source=", "size=", "remove?", "verbose",
      "exact", "zero"], 0⟩),
    ("shuf", ⟨1, "ei:n:o:rz", ["echo", "input-range=", "head-count=", "output=", "random-source=", "repeat",
      "zero-terminated"], 0⟩),
    ("split", ⟨1, "a:b:C:dxel:n:t:u", ["suffix-length=", "additional-suffix=", "bytes=", "line-bytes=",
      "numeric-suffixes?", "hex-suffixes?", "elide-empty-files", "filter=", "lines=", "number=",
      "separator=", "unbuffered", "verbose"], 0⟩),
    ("stdbuf", ⟨125, "i:o:e:", ["input=", "output=", "error="], 0⟩),
    ("sync", ⟨1, "df", ["data", "file-system"], 0⟩),
    ("tsort", ⟨1, "", [], 0⟩)]

end DesktopRefresh.Utility
