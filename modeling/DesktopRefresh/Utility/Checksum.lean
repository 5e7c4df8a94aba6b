import DesktopRefresh.Text.Digest
import DesktopRefresh.Utility.Concatenation

/-!
# Utilities that compute checksums

They print a digest for each input, or check digests that were printed before.
-/

namespace DesktopRefresh.Utility

open Kernel (Activity)

/-! ## Digests of inputs -/

/-- A digest with the name that it has in tagged lines. -/
structure Method where
  tag : String
  size : Nat
  compute : Bytes → Bytes

def md5 : Method := ⟨"MD5", 16, Digest.md5⟩

def sha1 : Method := ⟨"SHA1", 20, Digest.sha1⟩

def sha224 : Method := ⟨"SHA224", 28, Digest.sha224⟩

def sha256 : Method := ⟨"SHA256", 32, Digest.sha256⟩

def sha384 : Method := ⟨"SHA384", 48, Digest.sha384⟩

def sha512 : Method := ⟨"SHA512", 64, Digest.sha512⟩

def hexDigit (n : Nat) : UInt8 := (if n < 10 then 48 + n else 87 + n).toUInt8

def hexadecimal (bs : Bytes) : Bytes := bs.flatMap fun b => [hexDigit (b.toNat / 16), hexDigit (b.toNat % 16)]

/-- Characters of names that are written with a backslash, and the letters behind it. -/
def nameEscapes : List (UInt8 × Char) := [(Bytes.ascii '\\', '\\'), (Bytes.newline, 'n'), (0x0D, 'r')]

def needsEscapes (name : Bytes) : Bool := name.any fun b => (nameEscapes.lookup b).isSome

def withEscapes (name : Bytes) : Bytes := name.flatMap fun b =>
  match nameEscapes.lookup b with
  | some letter => [Bytes.ascii '\\', Bytes.ascii letter]
  | none => [b]

/-- A name without the backslashes of its characters, if they stand for some. -/
def withoutEscapes? : Bytes → Option Bytes
  | [] => some []
  | [b] => if b = Bytes.ascii '\\' then none else some [b]
  | b :: c :: rest =>
    if b = Bytes.ascii '\\' then
      match nameEscapes.find? fun e => Bytes.ascii e.2 == c with
      | some e => (withoutEscapes? rest).map (e.1 :: ·)
      | none => none
    else (withoutEscapes? (c :: rest)).map (b :: ·)

structure ChecksumStyle where
  tagged : Bool
  binary : Bool
  hasZero : Bool

def checksumLine (m : Method) (c : ChecksumStyle) (name bs : Bytes) : Bytes :=
  let escaped := needsEscapes name && !c.hasZero
  let name := if escaped then withEscapes name else name
  let sum := hexadecimal (m.compute bs)
  (if escaped then text "\\" else []) ++
    (if c.tagged then text (m.tag ++ " (") ++ name ++ text ") = " ++ sum
    else sum ++ text (if c.binary then " *" else "  ") ++ name) ++ [endOf c.hasZero]

/-- Hands over the whole text of each input; the answer is what was made of them, and the status. -/
def eachText (s : Start) (use : Bytes → Bytes → Bytes) : List Bytes → Activity (Bytes × Nat)
  | [] => return ([], 0)
  | name :: rest => do
    let (own, status) ← match ← readInput name with
      | (.error e, _) | (.ok _, some e) => do
        complain s (refusal (ifNeeded name) e)
        pure ([], 1)
      | (.ok bs, none) => pure (use name bs, 0)
    let (more, worst) ← eachText s use rest
    return (own ++ more, max status worst)

/-! ## Checking -/

/-- What a line says: a digest in hexadecimal digits and a name. -/
structure Statement where
  sum : Bytes
  name : Bytes
  escaped : Bool

def isHexDigit (b : UInt8) : Bool :=
  Bytes.isDigit b || (Bytes.ascii 'a' ≤ Bytes.toLower b ∧ Bytes.toLower b ≤ Bytes.ascii 'f')

/-- Reads a line with a tag or without one. -/
def statement? (m : Method) (line : Bytes) : Option Statement :=
  let line := line.dropWhile fun b => b = Bytes.ascii ' ' || b = 0x09
  let escaped := line.head? == some (Bytes.ascii '\\')
  let line := if escaped then line.drop 1 else line
  let name? (name : Bytes) : Option Bytes := if escaped then withoutEscapes? name else some name
  let isSum (bs : Bytes) : Bool := bs.length == 2 * m.size && bs.all isHexDigit
  let tag := text (m.tag ++ " (")
  if tag.isPrefixOf line then
    let body := line.drop tag.length
    let sum := body.drop (body.length - 2 * m.size)
    let front := body.take (body.length - 2 * m.size)
    let middle := text ") = "
    if isSum sum && middle.isSuffixOf front then
      (name? (front.take (front.length - middle.length))).map (⟨sum, ·, escaped⟩)
    else none
  else
    let sum := line.take (2 * m.size)
    match line.drop (2 * m.size) with
    | gap :: kind :: name =>
      if isSum sum && gap = Bytes.ascii ' ' && (kind = Bytes.ascii ' ' || kind = Bytes.ascii '*') && !name.isEmpty then
        (name? name).map (⟨sum, ·, escaped⟩)
      else none
    | _ => none

structure CheckStyle where
  quiet : Bool
  silent : Bool
  strict : Bool
  warns : Bool
  skipsMissing : Bool

structure Verdicts where
  formed : Nat
  malformed : Nat
  unread : Nat
  wrong : Nat
  right : Nat
  output : Bytes

def checkLines (s : Start) (m : Method) (c : CheckStyle) (source : Bytes) (isStandard : Bool) : List Bytes → Nat →
    Verdicts → Activity Verdicts
  | [], _, t => return t
  | line :: rest, n, t => do
    let line := withoutEnd 0x0D (withoutNewline line)
    if line.isEmpty || line.head? == some (Bytes.ascii '#') then checkLines s m c source isStandard rest (n + 1) t
    else
      match (statement? m line).filter fun st => !(isStandard && st.name == hyphen) with
      | none =>
        if c.warns then
          complain s (source ++ text ": " ++ decimal n ++ text (": improperly formatted " ++ m.tag ++ " checksum line"))
        checkLines s m c source isStandard rest (n + 1) { t with malformed := t.malformed + 1 }
      | some st =>
        let t := { t with formed := t.formed + 1 }
        let report (verdict : String) : Bytes :=
          if c.silent then []
          else (if needsEscapes st.name then text "\\" ++ withEscapes st.name else st.name) ++
            text (": " ++ verdict ++ "\n")
        let t ← match ← readInput st.name with
          | (.error e, _) | (.ok _, some e) =>
            if c.skipsMissing && e == .noEntry then pure t
            else do
              complain s (refusal (ifNeeded st.name) e)
              pure { t with unread := t.unread + 1, output := t.output ++ report "FAILED open or read" }
          | (.ok bs, none) =>
            if hexadecimal (m.compute bs) == st.sum.map Bytes.toLower then
              pure { t with right := t.right + 1, output := t.output ++ if c.quiet then [] else report "OK" }
            else pure { t with wrong := t.wrong + 1, output := t.output ++ report "FAILED" }
        checkLines s m c source isStandard rest (n + 1) t

/-- A warning with a number in it. -/
def countWarning (s : Start) (n : Nat) (one several : String) : Activity Unit := do
  if n != 0 then
    complain s (text "WARNING: " ++ decimal n ++ text (if n = 1 then one else several))

/-- Checks what the lines of a file say; the answer is what is printed, and whether all was right. -/
def checkFile (s : Start) (m : Method) (c : CheckStyle) (name : Bytes) : Activity (Bytes × Bool) := do
  let isStandard := name == hyphen
  let source := if isStandard then quoted (text "standard input") else ifNeeded name
  match ← readInput name with
  | (.error e, _) =>
    complain s (refusal source e)
    return ([], false)
  | (.ok _, some _) =>
    complain s (source ++ text ": read error")
    return ([], false)
  | (.ok bs, none) =>
    let t ← checkLines s m c source isStandard (linesOf bs) 1 ⟨0, 0, 0, 0, 0, []⟩
    if t.formed = 0 then
      complain s (source ++ text ": no properly formatted checksum lines found")
    else if !c.silent then
      countWarning s t.malformed " line is improperly formatted" " lines are improperly formatted"
      countWarning s t.unread " listed file could not be read" " listed files could not be read"
      countWarning s t.wrong " computed checksum did NOT match" " computed checksums did NOT match"
      if c.skipsMissing && t.right = 0 then complain s (source ++ text ": no file was verified")
    return (t.output, t.formed != 0 && t.right != 0 && t.wrong = 0 && t.unread = 0 && (!c.strict || t.malformed = 0))

def checkEach (s : Start) (m : Method) (c : CheckStyle) : List Bytes → Activity (Bytes × Nat)
  | [] => return ([], 0)
  | name :: rest => do
    let (output, fine) ← checkFile s m c name
    let (more, worst) ← checkEach s m c rest
    return (output ++ more, max worst (if fine then 0 else 1))

/-- The options that are only of use in checking, with their names. -/
def checkingOptions : List (Char × String) :=
  [('ι', "ignore-missing"), ('σ', "status"), ('w', "warn"), ('κ', "quiet"), ('ς', "strict")]

def checksumOptions : List OptionSpec :=
  [⟨'b', .nothing, ["binary"]⟩, ⟨'c', .nothing, ["check"]⟩, ⟨'t', .nothing, ["text"]⟩, ⟨'w', .nothing, ["warn"]⟩,
    ⟨'z', .nothing, ["zero"]⟩, ⟨'τ', .nothing, ["tag"]⟩, ⟨'ι', .nothing, ["ignore-missing"]⟩,
    ⟨'σ', .nothing, ["status"]⟩, ⟨'κ', .nothing, ["quiet"]⟩, ⟨'ς', .nothing, ["strict"]⟩]

def checksum (m : Method) : Utility := fun s =>
  withOptions checksumOptions 1 true s fun o => do
    let inputs := inputsOr o.operands
    let mode := o.lastOf? ['b', 't']
    if o.has 'τ' && mode == some 't' then misuse s 1 (text "--tag does not support --text mode")
    else if o.has 'z' && o.has 'c' then
      misuse s 1 (text "the --zero option is not supported when verifying checksums")
    else if o.has 'τ' && o.has 'c' then
      misuse s 1 (text "the --tag option is meaningless when verifying checksums")
    else if mode.isSome && o.has 'c' then
      misuse s 1 (text "the --binary and --text options are meaningless when verifying checksums")
    else match checkingOptions.find? fun e => !o.has 'c' && o.has e.1 with
      | some e => misuse s 1 (text ("the --" ++ e.2 ++ " option is meaningful only when verifying checksums"))
      | none =>
        let (output, status) ←
          if o.has 'c' then
            let last := o.lastOf? ['σ', 'w', 'κ']
            checkEach s m ⟨last == some 'κ' || last == some 'σ', last == some 'σ', o.has 'ς', last == some 'w', o.has 'ι'⟩
              inputs
          else eachText s (checksumLine m ⟨o.has 'τ', mode == some 'b', o.has 'z'⟩) inputs
        deliver s output status

/-! ## Short sums -/

/-- A size in blocks that begin. -/
def blockCount (block n : Nat) : Nat := (n + block - 1) / block

/-- A short sum and the size of what it was made of. -/
inductive ShortSum where
  | cyclic | turned | folded
  deriving DecidableEq

def ShortSum.line (kind : ShortSum) (bs : Bytes) : Bytes :=
  match kind with
  | .cyclic => decimal (Digest.cyclic bs).toNat ++ text " " ++ decimal bs.length
  | .turned =>
    let digits := decimal (Digest.turnedSum bs)
    List.replicate (5 - digits.length) (Bytes.ascii '0') ++ digits ++ text " " ++ padLeft 5 (decimal (blockCount 1024 bs.length))
  | .folded => decimal (Digest.foldedSum bs) ++ text " " ++ decimal (blockCount 512 bs.length)

def shortSums (s : Start) (kind : ShortSum) (operands : List Bytes) : Activity Nat := do
  let (output, status) ← eachText s
    (fun name bs => kind.line bs ++ (if operands.isEmpty then [] else text " " ++ name) ++ [Bytes.newline])
    (inputsOr operands)
  deliver s output status

def sum : Utility := fun s =>
  withOptions [⟨'r', .nothing, []⟩, ⟨'s', .nothing, ["sysv"]⟩] 1 true s fun o =>
    shortSums s (if o.lastOf? ['r', 's'] == some 's' then .folded else .turned) o.operands

/-- The ways of one program to compute checksums. -/
def cksumMethods : Choices (ShortSum ⊕ Method) :=
  [(["bsd"], .inl .turned), (["sysv"], .inl .folded), (["crc"], .inl .cyclic), (["md5"], .inr md5),
    (["sha1"], .inr sha1), (["sha224"], .inr sha224), (["sha256"], .inr sha256), (["sha384"], .inr sha384),
    (["sha512"], .inr sha512)]

def cksum : Utility := fun s =>
  withOptions (⟨'a', .argument, ["algorithm"]⟩ :: ⟨'u', .nothing, ["untagged"]⟩ :: ⟨'l', .argument, ["length"]⟩ ::
      checksumOptions) 1 true s fun o =>
    withChoiceOf s 1 cksumMethods "--algorithm" (o.last? 'a') (.inl .cyclic) fun
      | .inl kind => shortSums s kind o.operands
      | .inr m => do
        let (output, status) ←
          if o.has 'c' then checkEach s m ⟨o.has 'κ', o.has 'σ', o.has 'ς', o.has 'w', o.has 'ι'⟩ (inputsOr o.operands)
          else eachText s (checksumLine m ⟨!o.has 'u', false, o.has 'z'⟩) (inputsOr o.operands)
        deliver s output status

end DesktopRefresh.Utility
