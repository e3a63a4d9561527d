import DeltaDebugging.Utility.Options

/-!
# Users and groups

The users and groups of the system as its files tell them, and what is to be said of the one who
runs the programs, the superuser.
-/
namespace DeltaDebugging.Utility

open Program

namespace Accounts

structure Account where
  name : String
  number : Nat
  /-- The group of a user. -/
  group : Nat := 0
  deriving DecidableEq, Repr

def read (f : Files) (path : String) : List Account :=
  let text := ((f.read path).toOption).getD ""
  (text.splitOn "\n").filterMap fun (line : String) => match line.splitOn ":" with
    | name :: _ :: number :: rest =>
      (natural? number).map fun number => { name, number, group := ((rest.head?).bind natural?).getD 0 }
    | _ => none

def users (f : Files) : List Account := read f "/etc/passwd"

def groups (f : Files) : List Account := read f "/etc/group"

def named? (accounts : List Account) (name : String) : Option Account := accounts.find? fun a => a.name = name

def nameOf (accounts : List Account) (number : Nat) : String :=
  ((accounts.find? fun a => a.number = number).map Account.name).getD (toString number)

def maximalNumber : Nat := Nat.pow 2 32 - 2

/-- The number that a text writes, which may follow blanks and a plus sign. -/
def written? (text : String) : Option Nat :=
  let digits := match text.toList.dropWhile (· = ' ') with
    | '+' :: cs => cs
    | cs => cs
  (natural? (String.ofList digits)).filter fun n => n ≤ maximalNumber

def number? (accounts : List Account) (text : String) : Option Nat :=
  match named? accounts text with
  | some a => some a.number
  | none => written? text

/-- An owner to be: a user, a group, or both, with the names they were given by. -/
structure Owner where
  user : Option Nat := none
  group : Option Nat := none
  userName : Option String := none
  groupName : Option String := none
  deriving DecidableEq, Repr

def ownerBetween (f : Files) (user : String) (group : Option String) : Except String Owner := do
  let mut owner : Owner := {}
  if !user.isEmpty then
    match named? (users f) user with
    | some a =>
      owner := { owner with user := some a.number, userName := some user }
      if group = some "" then
        owner := { owner with group := some a.group, groupName := some (nameOf (groups f) a.group) }
    | none =>
      if group = some "" then throw "invalid spec"
      match written? user with
      | some n => owner := { owner with user := some n, userName := some user }
      | none => throw "invalid user"
  match group with
  | none => return owner
  | some "" => return owner
  | some g => match number? (groups f) g with
    | some n => return { owner with group := some n, groupName := some g }
    | none => throw "invalid group"

/-- Reads an owner, and whether a dot stands where a colon should. -/
def owner? (f : Files) (text : String) : Except String (Owner × Bool) :=
  let cut (separator : Char) : Option (String × String) :=
    let user := text.toList.takeWhile (· ≠ separator)
    if user.length = text.length then none
    else some (String.ofList user, String.ofList (text.toList.drop (user.length + 1)))
  match cut ':' with
  | some (user, group) => (ownerBetween f user (some group)).map fun o => (o, false)
  | none => match ownerBetween f text none, cut '.' with
    | .ok o, _ => .ok (o, false)
    | .error e, some (user, group) => match ownerBetween f user (some group) with
      | .ok o => .ok (o, true)
      | .error _ => .error e
    | .error e, none => .error e

end Accounts

open Accounts

def whoami : Program Nat := do
  let p ← parsed { choices := [] }
  match p.operands with
  | extra :: _ => misuse ("extra operand " ++ Text.literalQuote extra) 1
  | [] =>
    putLine "root"
    return 0

def identity : Program Nat := do
  let p ← parsed { choices := ["a", "Z,context", "g,group", "G,groups", "n,name", "r,real", "u,user", "z,zero"] }
  let single := p.has "u" || p.has "g" || p.has "G" || p.has "Z"
  if p.has "Z" then die "--context (-Z) works only on an SELinux-enabled kernel" 1
  if 1 < (["u", "g", "G"].filter p.has).length then die "cannot print \"only\" of more than one choice" 1
  if (p.has "n" || p.has "r") && !single then
    die "cannot print only names or real IDs in default format" 1
  if p.has "z" && !single then die "option --zero not permitted in default format" 1
  let f ← files
  let show1 (accounts : List Account) (n : Nat) : String :=
    if p.has "n" then nameOf accounts n else toString n
  let text (user group : Nat) : String :=
    let full (accounts : List Account) (n : Nat) : String :=
      toString n ++ match accounts.find? fun a => a.number = n with
        | some a => "(" ++ a.name ++ ")"
        | none => ""
    if p.has "u" then show1 (users f) user
    else if p.has "g" || p.has "G" then show1 (groups f) group
    else "uid=" ++ full (users f) user ++ " gid=" ++ full (groups f) group ++ " groups=" ++ full (groups f) group
  let ends := if p.has "z" then "\x00" else "\n"
  if p.operands.isEmpty then put (text 0 0 ++ ends)
  for name in p.operands do
    let found := match named? (users f) name with
      | some a => some a
      | none => (written? name).bind fun n => (users f).find? fun a => a.number = n
    match found with
    | some a => put (text a.number a.group ++ (if p.has "G" && p.has "z" && 1 < p.operands.length then "\x00" else "") ++ ends)
    | none =>
      complain (Text.literalQuote name ++ ": no such user")
      raise 1
  return 0

def groups : Program Nat := do
  let p ← parsed { choices := [] }
  if p.operands.isEmpty then putLine "root"
  let f ← files
  for name in p.operands do
    match named? (users f) name with
    | some a => putLine (name ++ " : " ++ nameOf (Accounts.groups f) a.group)
    | none =>
      complain (Text.literalQuote name ++ ": no such user")
      raise 1
  return 0

end DeltaDebugging.Utility
