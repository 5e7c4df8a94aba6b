/-!
# Control characters in log messages

A terminal obeys some control characters. In a log message those are written out, so that what a
tool prints cannot move the cursor or change the colours; a line feed stays what it is.
-/

namespace DesktopRefresh.Text

def escapeControl (c : Char) : List Char :=
  match c with
  | '\x1b' => ['\\', 'x', '1', 'b']
  | '\x07' => ['\\', 'x', '0', '7']
  | '\x08' => ['\\', 'x', '0', '8']
  | '\x0c' => ['\\', 'x', '0', 'c']
  | '\x7f' => ['\\', 'x', '7', 'f']
  | c =>
    if 0x80 ≤ c.toNat ∧ c.toNat ≤ 0x9F then ['\\', 'u', '\x7b'] ++ Nat.toDigits 16 c.toNat ++ ['\x7d']
    else [c]

def escapeControls (s : String) : String := String.ofList (s.toList.flatMap escapeControl)

end DesktopRefresh.Text
