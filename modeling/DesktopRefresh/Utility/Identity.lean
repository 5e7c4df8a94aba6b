import DesktopRefresh.Utility.Directory

/-!
# Utilities that say who runs them and where

Users and groups are known from the lists of the system. Everything runs as the user that may do anything, and
no terminal is there.
-/

namespace DesktopRefresh.Utility

open Kernel (Activity View)

/-! ## Users and groups -/

/-- Somebody, or a group, that the system knows. -/
structure Account where
  name : Bytes
  number : Nat
  /-- The number of the first group of a user. -/
  group : Nat
  members : List Bytes

/-- The lines of a list in fields. -/
def fieldsOf (path : String) (v : View) : List (List Bytes) :=
  match v.tree.read [] (text path) with
  | .ok bs => (Bytes.splitAt Bytes.newline bs).map (Bytes.splitAt (Bytes.ascii ':'))
  | .error _ => []

def usersOf (v : View) : List Account :=
  (fieldsOf "/etc/passwd" v).filterMap fun f =>
    match f with
    | name :: _ :: number :: group :: _ => some ⟨name, Bytes.number number, Bytes.number group, []⟩
    | _ => none

def groupsOf (v : View) : List Account :=
  (fieldsOf "/etc/group" v).filterMap fun f =>
    match f with
    | [name, _, number, members] =>
      some ⟨name, Bytes.number number, 0, Bytes.splitAt (Bytes.ascii ',') members⟩
    | _ => none

/-- An account by its name or, behind a plus sign or if no name is like it, by its number. -/
def account? (accounts : List Account) (a : Bytes) : Option Account :=
  let byNumber (digits : Bytes) : Option Account :=
    (natural? digits).bind fun n => accounts.find? (·.number == n)
  match a with
  | sign :: digits =>
    if sign = Bytes.ascii '+' then byNumber digits else accounts.find? (·.name == a) <|> byNumber a
  | [] => none

/-- The numbers of all groups that a user is in, the first one first. -/
def memberships (groups : List Account) (user : Account) : List Nat :=
  user.group :: ((groups.filter fun g => g.members.contains user.name && g.number != user.group).map (·.number))

def nameOr (accounts : List Account) (number : Nat) : Bytes :=
  ((accounts.find? (·.number == number)).map (·.name)).getD (decimal number)

/-! ## id -/

def idOptions : List OptionSpec :=
  [⟨'a', .nothing, []⟩, ⟨'Z', .nothing, ["context"]⟩, ⟨'g', .nothing, ["group"]⟩, ⟨'G', .nothing, ["groups"]⟩,
    ⟨'n', .nothing, ["name"]⟩, ⟨'r', .nothing, ["real"]⟩, ⟨'u', .nothing, ["user"]⟩, ⟨'z', .nothing, ["zero"]⟩]

/-- All that is known of a user. -/
def describeUser (users groups : List Account) (user : Account) : Bytes :=
  let entry (accounts : List Account) (n : Nat) : Bytes :=
    decimal n ++ match accounts.find? (·.number == n) with
      | some a => text "(" ++ a.name ++ text ")"
      | none => []
  text "uid=" ++ entry users user.number ++ text " gid=" ++ entry groups user.group ++ text " groups=" ++
    List.intercalate (text ",") ((memberships groups user).map (entry groups)) ++ [Bytes.newline]

/-- What options ask for of a user. -/
def identityLine (o : Options) (isLast : Bool) (v : View) (user : Account) : Bytes :=
  let users := usersOf v
  let groups := groupsOf v
  let shown (accounts : List Account) (n : Nat) : Bytes := if o.has 'n' then nameOr accounts n else decimal n
  let stop := endOf (o.has 'z')
  if o.has 'u' then shown users user.number ++ [stop]
  else if o.has 'g' then shown groups user.group ++ [stop]
  else if o.has 'G' then
    let gap := if o.has 'z' then 0 else Bytes.ascii ' '
    -- The lists of several users are kept apart by one more zero byte.
    List.intercalate [gap] ((memberships groups user).map (shown groups)) ++ [stop] ++
      (if o.has 'z' && !isLast then [0] else [])
  else describeUser users groups user

def idFault? (o : Options) : Option String :=
  let choices := (['u', 'g', 'G', 'Z'].filter o.has).length
  if o.has 'Z' then some "--context (-Z) works only on an SELinux-enabled kernel"
  else if 1 < choices then some "cannot print \"only\" of more than one choice"
  else if choices = 0 && (o.has 'r' || o.has 'n') then
    some "cannot print only names or real IDs in default format"
  else if choices = 0 && o.has 'z' then some "option --zero not permitted in default format"
  else none

/-- Says something of each user that is named, or of the one that everything runs as. -/
def forUsers (s : Start) (names : List Bytes) (line : (isLast : Bool) → View → Bytes → Account → Bytes) :
    Activity Nat := do
  let v ← Activity.look id
  let given := if names.isEmpty then [text "root"] else names
  let each (name : Bytes) : Activity Nat := do
    match account? (usersOf v) name with
    | some user =>
      write 1 (line (given.getLast? == some name) v name user)
      return 0
    | none =>
      complain s (quoted name ++ text ": no such user")
      return 1
  forEach each given 0

def identify : Utility := fun s =>
  withOptions idOptions 1 true s fun o =>
    match idFault? o with
    | some message => do
      complain s (text message)
      return 1
    | none => forUsers s o.operands fun isLast v _ user => identityLine o isLast v user

/-! ## Single facts -/

/-- A utility that prints one line and takes no arguments but options. -/
def fact (specs : List OptionSpec) (line : Options → View → Bytes) : Utility := fun s =>
  withOptions specs 1 true s fun o => do
    match o.operands with
    | a :: _ => misuse s 1 (text "extra operand " ++ quoted a)
    | [] => deliver s (← Activity.look (line o)) 0

def whoami : Utility := fact [] fun _ _ => text "root\n"

def groups : Utility := fun s =>
  withOptions [] 1 true s fun o =>
    forUsers s o.operands fun _ v name user =>
      let names := (memberships (groupsOf v) user).map (nameOr (groupsOf v))
      (if o.operands.isEmpty then [] else name ++ text " : ") ++ List.intercalate (text " ") names ++ [Bytes.newline]

def logname : Utility := fun s =>
  withOptions [] 1 true s fun o => do
    match o.operands with
    | a :: _ => misuse s 1 (text "extra operand " ++ quoted a)
    | [] =>
      complain s (text "no login name")
      return 1

def machine : Bytes := text "x86_64"

def hostName (v : View) : Bytes :=
  match v.tree.read [] (text "/etc/hostname") with
  | .ok bs => bs.takeWhile (· != Bytes.newline)
  | .error _ => text "localhost"

/-- What the system says of itself, in the order in which it is printed. -/
def systemFacts (v : View) : List (Char × Bytes) :=
  [('s', text "Linux"), ('n', hostName v), ('r', text "6.1.0"), ('v', text "#1 SMP"), ('m', machine),
    ('p', text "unknown"), ('i', text "unknown"), ('o', text "GNU/Linux")]

def uname : Utility :=
  fact [⟨'a', .nothing, ["all"]⟩, ⟨'s', .nothing, ["kernel-name", "sysname"]⟩, ⟨'n', .nothing, ["nodename"]⟩,
      ⟨'r', .nothing, ["kernel-release", "release"]⟩, ⟨'v', .nothing, ["kernel-version"]⟩,
      ⟨'m', .nothing, ["machine"]⟩, ⟨'p', .nothing, ["processor"]⟩, ⟨'i', .nothing, ["hardware-platform"]⟩,
      ⟨'o', .nothing, ["operating-system"]⟩] fun o v =>
    let isShown (f : Char × Bytes) : Bool :=
      o.has f.1 || (o.has 'a' && f.2 != text "unknown") || (o.given.isEmpty && f.1 == 's')
    List.intercalate (text " ") (((systemFacts v).filter isShown).map (·.2)) ++ [Bytes.newline]

def arch : Utility := fact [] fun _ _ => machine ++ [Bytes.newline]

def hostname : Utility := fact [⟨'s', .nothing, ["short"]⟩, ⟨'f', .nothing, ["fqdn", "long"]⟩] fun _ v =>
  hostName v ++ [Bytes.newline]

def nproc : Utility := fact [⟨'Α', .nothing, ["all"]⟩, ⟨'Ι', .argument, ["ignore"]⟩] fun _ _ => text "1\n"

/-- Nobody is logged in. -/
def nobodyThere : Utility := fun s => withOptions [⟨'q', .nothing, ["count"]⟩] 1 true s fun o =>
  deliver s (if o.has 'q' then text "\n# users=0\n" else []) 0

def tty : Utility := fun s =>
  withOptions [⟨'s', .nothing, ["silent", "quiet"]⟩] 2 true s fun o =>
    match o.operands with
    | a :: _ => misuse s 2 (text "extra operand " ++ quoted a)
    | [] => deliver s (if o.has 's' then [] else text "not a tty\n") 1

/-! ## Owners -/

/-- Changes the owners of files. All users that are known can own a file, and nothing shows who does. -/
def changeOwner (isGroup : Bool) : Utility := fun s =>
  withOptions [⟨'c', .nothing, ["changes"]⟩, ⟨'f', .nothing, ["silent", "quiet"]⟩, ⟨'h', .nothing, ["no-dereference"]⟩,
      ⟨'Δ', .nothing, ["dereference"]⟩, ⟨'R', .nothing, ["recursive"]⟩, ⟨'v', .nothing, ["verbose"]⟩,
      ⟨'H', .nothing, []⟩, ⟨'L', .nothing, []⟩, ⟨'P', .nothing, []⟩, ⟨'Φ', .argument, ["from"]⟩,
      ⟨'Ρ', .argument, ["reference"]⟩, ⟨'Σ', .nothing, ["preserve-root"]⟩, ⟨'Λ', .nothing, ["no-preserve-root"]⟩]
      1 true s fun o => do
    let v ← Activity.look id
    let owner := if o.has 'Ρ' then [] else o.operands.headD []
    let paths := if o.has 'Ρ' then o.operands else o.operands.drop 1
    let (user, group) := if isGroup then ([], owner) else
      (owner.takeWhile (· != Bytes.ascii ':'), (owner.dropWhile (· != Bytes.ascii ':')).drop 1)
    let isKnown (accounts : List Account) (a : Bytes) : Bool :=
      a.isEmpty || (account? accounts a).isSome || (natural? a).isSome
    if o.operands.isEmpty then misuse s 1 (text "missing operand")
    else if paths.isEmpty then misuse s 1 (text "missing operand after " ++ quoted owner)
    else if owner.getLast? == some (Bytes.ascii ':') && (natural? user).isSome then
      complain s (text "invalid spec: " ++ quoted owner)
      return 1
    else if !isKnown (usersOf v) user then
      complain s (text "invalid user: " ++ quoted owner)
      return 1
    else if !isKnown (groupsOf v) group then
      complain s (text "invalid group: " ++ quoted owner)
      return 1
    else forEach (fun path => do
      match if o.has 'h' then v.linkStat path else v.stat path with
      | .ok _ => return 0
      | .error e =>
        if (v.linkStat path).isOk then
          if !o.has 'f' then complain s (text "cannot dereference " ++ always path ++ text (": " ++ e.text))
        else if !o.has 'f' then complain s (text "cannot access " ++ always path ++ text (": " ++ e.text))
        return 1) paths 0

end DesktopRefresh.Utility
