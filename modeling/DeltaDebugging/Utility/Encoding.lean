import DeltaDebugging.Utility.Lines
import DeltaDebugging.Utility.Numeral

/-!
# Bytes written in plain characters

Codings write bytes by the letters of an alphabet: groups of five bytes as eight letters, of
three as four, single bytes as two or eight, four bytes as five figures of base 85. Line ends
between the letters do not count when they are read.
-/
namespace DeltaDebugging.Utility

open Program

structure Coding where
  encode : List Char → List Char
  /-- The bytes that letters stand for, and whether all of them were right. -/
  decode : List Char → List Char × Bool
  /-- The letters, with those that fill up the last group. -/
  letters : List Char
  /-- Of how many bytes texts have to be made. -/
  bytesWhole : Nat := 1

namespace Coding

/-- The low bits of a number as letters, the highest first. -/
def lettersOf (alphabet : List Char) (bits count n : Nat) : List Char :=
  (List.range count).map fun k => (alphabet[n / Nat.pow 2 (bits * (count - 1 - k)) % Nat.pow 2 bits]?).getD '='

/-- The first bytes of a group of `size`. -/
def bytesOf (size count n : Nat) : List Char :=
  (List.range count).map fun k => Char.ofNat (n / Nat.pow 256 (size - 1 - k) % 256)

def numberOf (bits : Nat) (values : List Nat) : Nat := values.foldl (fun n v => n * Nat.pow 2 bits + v) 0

/-- Writes groups of `size` bytes as `wide` letters of so many bits; the last group is filled up. -/
def encodeGroups (alphabet : List Char) (bits size wide : Nat) : (steps : Nat) → List Char → List Char
  | 0, _ => []
  | _, [] => []
  | steps + 1, cs =>
    let group := cs.take size
    let n := (group ++ List.replicate (size - group.length) '\x00').foldl (fun n c => n * 256 + c.toNat) 0
    let used := (group.length * 8 + bits - 1) / bits
    (lettersOf alphabet bits wide n).take used ++ List.replicate (wide - used) '=' ++
      encodeGroups alphabet bits size wide steps (cs.drop size)

/-- A group of four letters: its bytes, and whether it is whole and right. -/
def quad (alphabet : List Char) (group : List Char) : List Char × Bool :=
  let values := (group.takeWhile alphabet.contains).map fun c => (alphabet.idxOf? c).getD 0
  let bytes (count : Nat) : List Char :=
    bytesOf 3 count (numberOf 6 (values ++ List.replicate (4 - values.length) 0))
  match values.length, group.drop values.length with
  | 4, _ => (bytes 3, true)
  | 3, ['='] => (bytes 2, true)
  | 3, _ => (bytes 2, false)
  | 2, ['=', '='] => (bytes 1, true)
  | 2, _ => (bytes 1, false)
  | _, _ => ([], false)

/-- A group of eight letters: its bytes, and whether it is whole and right. -/
def octet (alphabet : List Char) (group : List Char) : List Char × Bool :=
  let values := (group.takeWhile alphabet.contains).map fun c => (alphabet.idxOf? c).getD 0
  let filled := (group.drop values.length).all (· = '=')
  let count := values.length * 5 / 8
  if group.length < 8 then ([], false) else
  (bytesOf 5 count (numberOf 5 (values ++ List.replicate (8 - values.length) 0)),
    filled && [2, 4, 5, 7, 8].contains values.length)

/-- A group of letters without any to fill up. -/
def whole (alphabet : List Char) (bits wide : Nat) (group : List Char) : List Char × Bool :=
  if group.length = wide && group.all alphabet.contains then
    (bytesOf 1 1 (numberOf bits (group.map fun c => (alphabet.idxOf? c).getD 0)), true)
  else ([], false)

/-- Reads group by group until one is wrong. -/
def decodeGroups (read : List Char → List Char × Bool) (wide : Nat) : (steps : Nat) → List Char →
    List Char × Bool
  | 0, _ => ([], true)
  | _, [] => ([], true)
  | steps + 1, cs =>
    let (bytes, right) := read (cs.take wide)
    if !right then (bytes, false) else
    let (more, right) := decodeGroups read wide steps (cs.drop wide)
    (bytes ++ more, right)

def upper : String := "ABCDEFGHIJKLMNOPQRSTUVWXYZ"

def lower : String := "abcdefghijklmnopqrstuvwxyz"

def figures : String := "0123456789"

/-- Three bytes as four letters; the last two letters differ between the forms. -/
def of64 (last : String) : Coding :=
  let alphabet := (upper ++ lower ++ figures ++ last).toList
  { encode := fun cs => encodeGroups alphabet 6 3 4 cs.length cs
    decode := fun cs => decodeGroups (quad alphabet) 4 cs.length cs
    letters := '=' :: alphabet }

def of32 (letters : String) : Coding :=
  let alphabet := letters.toList
  { encode := fun cs => encodeGroups alphabet 5 5 8 cs.length cs
    decode := fun cs => decodeGroups (octet alphabet) 8 cs.length cs
    letters := '=' :: alphabet }

def of16 : Coding :=
  let alphabet := (figures ++ "ABCDEF").toList
  { encode := fun cs => encodeGroups alphabet 4 1 2 cs.length cs
    decode := fun cs => decodeGroups (whole alphabet 4 2) 2 cs.length cs
    letters := alphabet }

/-- Single bits, the lowest first if `turned` holds. -/
def of2 (turned : Bool) : Coding :=
  let alphabet := ['0', '1']
  let turn (cs : List Char) : List Char := if turned then cs.reverse else cs
  { encode := fun cs => cs.flatMap fun c => turn (encodeGroups alphabet 1 1 8 1 [c])
    decode := fun cs => decodeGroups (fun g => whole alphabet 1 8 (turn g)) 8 cs.length cs
    letters := alphabet }

def of85 : Coding :=
  let alphabet := (figures ++ lower ++ upper ++ ".-:+=^!/*?&<>()[]\x7b\x7d@%$#").toList
  let write (group : List Char) : List Char :=
    let n := group.foldl (fun n c => n * 256 + c.toNat) 0
    (List.range 5).map fun k => (alphabet[n / Nat.pow 85 (4 - k) % 85]?).getD '0'
  let read (group : List Char) : List Char × Bool :=
    let n := group.foldl (fun n c => n * 85 + (alphabet.idxOf? c).getD 0) 0
    if group.length = 5 && group.all alphabet.contains && n < Nat.pow 2 32 then (bytesOf 4 4 n, true) else ([], false)
  let rec groups : (steps : Nat) → List Char → List Char
    | 0, _ => []
    | _, [] => []
    | steps + 1, cs => write (cs.take 4) ++ groups steps (cs.drop 4)
  { encode := fun cs => groups cs.length cs
    decode := fun cs => decodeGroups read 5 cs.length cs
    letters := alphabet
    bytesWhole := 4 }

def rows (width : Nat) : (steps : Nat) → List Char → List (List Char)
  | 0, _ => []
  | _, [] => []
  | steps + 1, cs => cs.take width :: rows width steps (cs.drop width)

def work (c : Coding) (p : Parsed) : Program Nat := do
  let width ← match p.value? "w" with
    | none => pure 76
    | some t => match numeral 10 true "" t with
      | (n, none) => if n < 0 then die ("invalid wrap size: " ++ Text.literalQuote t) 1 else pure n.toNat
      | (n, some .tooLarge) =>
        if n < 0 then die ("invalid wrap size: " ++ Text.literalQuote t) 1 else pure 0
      | _ => die ("invalid wrap size: " ++ Text.literalQuote t) 1
  match p.operands with
  | _ :: extra :: _ => misuse ("extra operand " ++ Text.literalQuote extra) 1
  | operands =>
    match ← operand (operands.headD "-") with
    | .error (.unopened e) => die (nameAndReason (operands.headD "-") (.unopened e)) 1
    | .error e => die ("read error: " ++ e.fault.reason) 1
    | .ok cs =>
      if p.has "d" then
        let cs := if p.has "i" then cs.filter c.letters.contains else cs.filter fun c => c ≠ '\n'
        let (bytes, right) := c.decode cs
        put (String.ofList bytes)
        if !right then die "invalid input" 1
      else
        if cs.length % c.bytesWhole ≠ 0 then
          die "invalid input (length must be multiple of 4 characters)" 1
        let text := c.encode cs
        if width = 0 then put (String.ofList text)
        else put (String.join ((rows width (text.length + 1) text).map fun r => String.ofList r ++ "\n"))
      return 0

end Coding

def codingChoices : List String := ["d,D,decode", "i,ignore-garbage", "w,wrap:"]

def base64 : Program Nat := do (Coding.of64 "+/").work (← parsed { choices := codingChoices })

def base32 : Program Nat := do
  (Coding.of32 (Coding.upper ++ "234567")).work (← parsed { choices := codingChoices })

def basenc : Program Nat := do
  let codings : List (String × Coding) :=
    [("base64", .of64 "+/"), ("base64url", .of64 "-_"), ("base32", .of32 (Coding.upper ++ "234567")),
      ("base32hex", .of32 (Coding.figures ++ String.ofList (Coding.upper.toList.take 22))), ("base16", .of16),
      ("base2msbf", .of2 false), ("base2lsbf", .of2 true), ("z85", .of85)]
  let p ← parsed { choices := codingChoices ++ codings.map Prod.fst }
  match (p.last? (codings.map Prod.fst)).bind fun name => codings.lookup name with
  | none => misuse "missing encoding type" 1
  | some c => c.work p

end DeltaDebugging.Utility
