/-!
# Modes of files

A mode is written as an octal number, or in clauses that say for whom which bits are set, added
or taken away. A process has a mask, the bits that its new files do not get.
-/
namespace DeltaDebugging

namespace FileMode

/-- A mode without the bits of a mask. -/
def without (mode mask : Nat) : Nat := mode - (mode &&& mask)

inductive Meant where
  | plainly
  /-- The bits of one class stand for those of all. -/
  | copied
  /-- With search of directories, and of what can be run by someone already. -/
  | searching
  deriving DecidableEq, Repr

structure Clause where
  sign : Char
  /-- The bits it is about. There are none if nobody was named; then the mask decides. -/
  affected : Nat
  bits : Nat
  meant : Meant := .plainly
  /-- Bits that are written out, and so hold for directories too. -/
  mentioned : Nat
  deriving DecidableEq, Repr

abbrev Change := List Clause

def allBits : Nat := 0o7777

def who? (c : Char) : Option Nat :=
  [('u', 0o4700), ('g', 0o2070), ('o', 0o1007), ('a', allBits)].lookup c

def bits? (c : Char) : Option Nat :=
  [('r', 0o444), ('w', 0o222), ('x', 0o111), ('s', 0o6000), ('t', 0o1000), ('X', 0)].lookup c

def isSign (c : Char) : Bool := c = '+' || c = '-' || c = '='

def isOctal (c : Char) : Bool := '0' ≤ c && c ≤ '7'

/-- The number that octal digits write, if it is a mode. -/
def octal? (digits : List Char) : Option Nat :=
  let n := digits.foldl (fun n c => min (n * 8 + (c.toNat - '0'.toNat)) (allBits + 1)) 0
  if digits.isEmpty || !digits.all isOctal || allBits < n then none else some n

def clause? (sign : Char) (affected : Nat) (letters : List Char) : Option Clause :=
  let make (bits : Nat) (meant : Meant) : Clause :=
    { sign, affected, bits, meant, mentioned := if affected = 0 then bits else affected &&& bits }
  match letters with
  | ['u'] => some (make 0o700 .copied)
  | ['g'] => some (make 0o070 .copied)
  | ['o'] => some (make 0o007 .copied)
  | _ =>
    if letters.head?.any isOctal then
      if affected ≠ 0 then none else
      (octal? letters).map fun n => { sign, affected := allBits, bits := n, mentioned := allBits }
    else (letters.mapM bits?).map fun bits =>
      make (bits.foldl (· ||| ·) 0) (if letters.contains 'X' then .searching else .plainly)

/-- The clauses of one part between commas, after those it is about. -/
def clauses? (affected : Nat) : (steps : Nat) → List Char → Option Change
  | 0, _ => none
  | _, [] => some []
  | steps + 1, sign :: cs =>
    if !isSign sign then none else
    let letters := cs.takeWhile fun c => !isSign c
    match clause? sign affected letters, clauses? affected steps (cs.drop letters.length) with
    | some c, some more =>
      if letters.head?.any isOctal && !more.isEmpty then none else some (c :: more)
    | _, _ => none

def part? (s : String) : Option Change :=
  let named := s.toList.takeWhile fun c => (who? c).isSome
  let rest := s.toList.drop named.length
  if rest.isEmpty then none
  else clauses? ((named.filterMap who?).foldl (· ||| ·) 0) (rest.length + 1) rest

/-- The change that gives a mode, written with some number of digits. With fewer than five, bits
of directories that are not mentioned stay. -/
def setting (mode digits : Nat) : Change :=
  [{ sign := '=', affected := allBits, bits := mode
     mentioned := if digits < 5 then mode &&& 0o6000 ||| 0o1777 else allBits }]

def read? (s : String) : Option Change :=
  if s.toList.head?.any isOctal then (octal? s.toList).map fun n => setting n s.length
  else ((s.splitOn ",").mapM part?).map List.flatten

/-- Bits that a clause leaves alone since they are not mentioned. -/
def Clause.omitted (c : Clause) (isDirectory : Bool) : Nat :=
  without (if isDirectory then 0o6000 else 0) c.mentioned

def Clause.value (c : Clause) (mask : Nat) (isDirectory : Bool) (mode : Nat) : Nat :=
  let bits := match c.meant with
    | .plainly => c.bits
    | .copied =>
      let own := c.bits &&& mode
      (if own &&& 0o444 = 0 then 0 else 0o444) ||| (if own &&& 0o222 = 0 then 0 else 0o222) |||
        (if own &&& 0o111 = 0 then 0 else 0o111)
    | .searching => if isDirectory || mode &&& 0o111 ≠ 0 then c.bits ||| 0o111 else c.bits
  without (if c.affected = 0 then without bits mask else bits &&& c.affected) (c.omitted isDirectory)

def Clause.kept (c : Clause) (isDirectory : Bool) : Nat :=
  (if c.affected = 0 then 0 else without allBits c.affected) ||| c.omitted isDirectory

def Clause.apply (c : Clause) (mask : Nat) (isDirectory : Bool) (mode : Nat) : Nat :=
  let value := c.value mask isDirectory mode
  match c.sign with
  | '+' => mode ||| value
  | '-' => without mode value
  | _ => (mode &&& c.kept isDirectory) ||| value

def Change.apply (change : Change) (mask : Nat) (isDirectory : Bool) (mode : Nat) : Nat :=
  change.foldl (fun m c => c.apply mask isDirectory m) mode

def Change.decided (mask : Nat) (isDirectory : Bool) : Change → (mode : Nat) → Nat
  | [], _ => 0
  | c :: rest, mode =>
    (if isSign c.sign && c.sign ≠ '=' then c.value mask isDirectory mode
      else without allBits (c.kept isDirectory)) |||
      decided mask isDirectory rest (c.apply mask isDirectory mode)

def letters (mode : Nat) : String :=
  let triple (n : Nat) (special : Bool) (mark : Char) : List Char :=
    let x := n % 2 = 1
    [if n / 4 % 2 = 1 then 'r' else '-', if n / 2 % 2 = 1 then 'w' else '-',
      if special then (if x then mark else mark.toUpper) else if x then 'x' else '-']
  String.ofList (triple (mode / 64 % 8) (mode / 0o4000 % 2 = 1) 's' ++
    triple (mode / 8 % 8) (mode / 0o2000 % 2 = 1) 's' ++ triple (mode % 8) (mode / 0o1000 % 2 = 1) 't')

def octal (n : Nat) : String := String.ofList (Nat.toDigits 8 n)

end FileMode

end DeltaDebugging
