import DesktopRefresh.Utility.Basic

/-!
# Modes of files

A mode is given by an octal number, or by clauses that change the old one: for whom, how, and which
permissions. Without a class of users, the mask protects its permissions.
-/

namespace DesktopRefresh.Utility

/-- What is done with permissions. -/
inductive ModeAction where
  | add | remove | assign
  deriving DecidableEq

/-- The permissions that are meant: by letters, or those that a class of users has. -/
inductive Grant where
  | bits (mask : Nat) (executeIfAny : Bool)
  | copyOf (shift : Nat)
  deriving DecidableEq

structure ModeChange where
  /-- The classes that it is for; none if they are all and the mask counts. -/
  who : Option Nat
  action : ModeAction
  grant : Grant
  /-- The permissions that it speaks of, if they are not those that it is for: on a directory, the bits that
  change the user or group stay as they are unless they are spoken of. -/
  mentioned : Option Nat

abbrev ModeSpec := List ModeChange

namespace ModeSpec

def userBits : Nat := 0o4700

def groupBits : Nat := 0o2070

def otherBits : Nat := 0o1007

def allBits : Nat := 0o7777

def whoBits? (b : UInt8) : Option Nat :=
  if b = Bytes.ascii 'u' then some userBits
  else if b = Bytes.ascii 'g' then some groupBits
  else if b = Bytes.ascii 'o' then some otherBits
  else if b = Bytes.ascii 'a' then some allBits
  else none

def action? (b : UInt8) : Option ModeAction :=
  if b = Bytes.ascii '+' then some .add
  else if b = Bytes.ascii '-' then some .remove
  else if b = Bytes.ascii '=' then some .assign
  else none

/-- The permissions that letters stand for, as far as there are letters. -/
def grantLetters : Bytes → Nat → Bool → Grant × Bytes
  | [], mask, any => (.bits mask any, [])
  | b :: bs, mask, any =>
    if b = Bytes.ascii 'r' then grantLetters bs (mask ||| 0o444) any
    else if b = Bytes.ascii 'w' then grantLetters bs (mask ||| 0o222) any
    else if b = Bytes.ascii 'x' then grantLetters bs (mask ||| 0o111) any
    else if b = Bytes.ascii 'X' then grantLetters bs mask true
    else if b = Bytes.ascii 's' then grantLetters bs (mask ||| 0o6000) any
    else if b = Bytes.ascii 't' then grantLetters bs (mask ||| 0o1000) any
    else (.bits mask any, b :: bs)

def grant (bs : Bytes) : Grant × Bytes :=
  match bs with
  | b :: rest =>
    if b = Bytes.ascii 'u' then (.copyOf 6, rest)
    else if b = Bytes.ascii 'g' then (.copyOf 3, rest)
    else if b = Bytes.ascii 'o' then (.copyOf 0, rest)
    else grantLetters bs 0 false
  | [] => grantLetters [] 0 false

/-- The changes of one clause behind its classes of users. -/
def clauseChanges? (who : Option Nat) : (fuel : Nat) → Bytes → Option (List ModeChange)
  | 0, _ => none
  | fuel + 1, bs =>
    match bs with
    | [] => some []
    | b :: rest => do
      let action ← action? b
      let (g, rest) := grant rest
      return ⟨who, action, g, none⟩ :: (← clauseChanges? who fuel rest)

def clause? (bs : Bytes) : Option (List ModeChange) :=
  let letters := bs.takeWhile fun b => (whoBits? b).isSome
  let rest := bs.drop letters.length
  if rest.isEmpty then none
  else
    let who := if letters.isEmpty then none else
      some (letters.foldl (fun n b => n ||| (whoBits? b).getD 0) 0)
    clauseChanges? who (rest.length + 1) rest

def octal? (bs : Bytes) : Option Nat :=
  if !bs.isEmpty && bs.all fun b => 0x30 ≤ b && b ≤ 0x37 then
    some (bs.foldl (fun n b => n * 8 + (b.toNat - 48)) 0)
  else none

def idBits : Nat := 0o6000

/-- A mode by its number. With less than five digits, it speaks of the bits for user and group only to set them. -/
def ofNumber (action : ModeAction) (n digits : Nat) : ModeChange :=
  ⟨some allBits, action, .bits n false, some (if digits < 5 then n &&& idBits ||| 0o1777 else allBits)⟩

/-- The change to a mode, whatever the old one was. -/
def absolute (mode : Nat) : ModeSpec := [⟨some allBits, .assign, .bits mode false, none⟩]

def ofBytes? (bs : Bytes) : Option ModeSpec :=
  if bs.head?.any Bytes.isDigit then do
    let n ← octal? bs
    if n ≤ allBits then some [ofNumber .assign n bs.length] else none
  else
    match bs with
    | sign :: digits =>
      match action? sign, octal? digits with
      | some action, some n => if n ≤ allBits then some [ofNumber action n digits.length] else none
      | _, _ => ((Bytes.splitAt (Bytes.ascii ',') bs).mapM clause?).map List.flatten
    | [] => none

def without (a b : Nat) : Nat := a &&& (allBits ^^^ (b &&& allBits))

/-- The class of users that permissions are copied to. -/
def spread (bits : Nat) : Nat := bits * 0o111

def applyChange (isDirectory : Bool) (mask : Nat) (mode : Nat) (c : ModeChange) : Nat :=
  let bits := match c.grant with
    | .copyOf shift => spread (mode >>> shift &&& 7)
    | .bits n any => if any && (isDirectory || mode &&& 0o111 != 0) then n ||| 0o111 else n
  let own := match c.grant with
    | .bits n _ => n
    | .copyOf _ => 0
  let untouched := if isDirectory then without idBits (c.mentioned.getD (c.who.getD own)) else 0
  let reached := match c.who with
    | some who => who
    | none => without allBits mask
  let value := without (bits &&& reached) untouched
  match c.action with
  | .add => mode ||| value
  | .remove => without mode value
  | .assign => without mode (without (c.who.getD allBits) untouched) ||| value

/-- The new mode of a file with some mode. -/
def apply (isDirectory : Bool) (mask mode : Nat) (spec : ModeSpec) : Nat :=
  spec.foldl (applyChange isDirectory mask) mode

end ModeSpec

/-! ## Modes as texts -/

def octalText (n : Nat) : Bytes := (Nat.toDigits 8 n).map Bytes.ascii

def octalFour (n : Nat) : Bytes :=
  let digits := octalText n
  List.replicate (4 - digits.length) (Bytes.ascii '0') ++ digits

/-- The permissions of one class; a special bit changes how the permission to execute is written. -/
def classText (bits : Nat) (special : Bool) (mark : Char) : List Char :=
  [if bits &&& 4 != 0 then 'r' else '-', if bits &&& 2 != 0 then 'w' else '-',
    if special then (if bits &&& 1 != 0 then mark else mark.toUpper)
    else if bits &&& 1 != 0 then 'x' else '-']

/-- The nine letters of a mode. -/
def modeText (mode : Nat) : Bytes :=
  (classText (mode / 64 % 8) (mode &&& 0o4000 != 0) 's' ++ classText (mode / 8 % 8) (mode &&& 0o2000 != 0) 's' ++
    classText (mode % 8) (mode &&& 0o1000 != 0) 't').map Bytes.ascii

/-- The letter for the kind of an entry. -/
def kindLetter : Entry → UInt8
  | .directory _ => Bytes.ascii 'd'
  | .link _ => Bytes.ascii 'l'
  | .device _ => Bytes.ascii 'c'
  | _ => Bytes.ascii '-'

end DesktopRefresh.Utility
