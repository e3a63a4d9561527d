import DeltaDebugging.Number.Scaled
import DeltaDebugging.Utility.Lines
import DeltaDebugging.Utility.Numeral

/-!
# Copying block by block

A part of an input is read in blocks, changed, and written in blocks of another size. At the end
the blocks are counted, whole ones and cut ones apart.
-/
namespace DeltaDebugging.Text.PunchedCode

/-!
## The code of punched cards

The bytes that stand for those of ASCII in the code that grew out of punched cards, and the form
of it that printers use.
-/

def codes : Array Nat :=
  #[0x00, 0x01, 0x02, 0x03, 0x37, 0x2d, 0x2e, 0x2f, 0x16, 0x05, 0x25, 0x0b, 0x0c, 0x0d, 0x0e, 0x0f,
    0x10, 0x11, 0x12, 0x13, 0x3c, 0x3d, 0x32, 0x26, 0x18, 0x19, 0x3f, 0x27, 0x1c, 0x1d, 0x1e, 0x1f,
    0x40, 0x5a, 0x7f, 0x7b, 0x5b, 0x6c, 0x50, 0x7d, 0x4d, 0x5d, 0x5c, 0x4e, 0x6b, 0x60, 0x4b, 0x61,
    0xf0, 0xf1, 0xf2, 0xf3, 0xf4, 0xf5, 0xf6, 0xf7, 0xf8, 0xf9, 0x7a, 0x5e, 0x4c, 0x7e, 0x6e, 0x6f,
    0x7c, 0xc1, 0xc2, 0xc3, 0xc4, 0xc5, 0xc6, 0xc7, 0xc8, 0xc9, 0xd1, 0xd2, 0xd3, 0xd4, 0xd5, 0xd6,
    0xd7, 0xd8, 0xd9, 0xe2, 0xe3, 0xe4, 0xe5, 0xe6, 0xe7, 0xe8, 0xe9, 0xad, 0xe0, 0xbd, 0x9a, 0x6d,
    0x79, 0x81, 0x82, 0x83, 0x84, 0x85, 0x86, 0x87, 0x88, 0x89, 0x91, 0x92, 0x93, 0x94, 0x95, 0x96,
    0x97, 0x98, 0x99, 0xa2, 0xa3, 0xa4, 0xa5, 0xa6, 0xa7, 0xa8, 0xa9, 0xc0, 0x4f, 0xd0, 0x5f, 0x07,
    0x20, 0x21, 0x22, 0x23, 0x24, 0x15, 0x06, 0x17, 0x28, 0x29, 0x2a, 0x2b, 0x2c, 0x09, 0x0a, 0x1b,
    0x30, 0x31, 0x1a, 0x33, 0x34, 0x35, 0x36, 0x08, 0x38, 0x39, 0x3a, 0x3b, 0x04, 0x14, 0x3e, 0xe1,
    0x41, 0x42, 0x43, 0x44, 0x45, 0x46, 0x47, 0x48, 0x49, 0x51, 0x52, 0x53, 0x54, 0x55, 0x56, 0x57,
    0x58, 0x59, 0x62, 0x63, 0x64, 0x65, 0x66, 0x67, 0x68, 0x69, 0x70, 0x71, 0x72, 0x73, 0x74, 0x75,
    0x76, 0x77, 0x78, 0x80, 0x8a, 0x8b, 0x8c, 0x8d, 0x8e, 0x8f, 0x90, 0x6a, 0x9b, 0x9c, 0x9d, 0x9e,
    0x9f, 0xa0, 0xaa, 0xab, 0xac, 0x4a, 0xae, 0xaf, 0xb0, 0xb1, 0xb2, 0xb3, 0xb4, 0xb5, 0xb6, 0xb7,
    0xb8, 0xb9, 0xba, 0xbb, 0xbc, 0xa1, 0xbe, 0xbf, 0xca, 0xcb, 0xcc, 0xcd, 0xce, 0xcf, 0xda, 0xdb,
    0xdc, 0xdd, 0xde, 0xdf, 0xea, 0xeb, 0xec, 0xed, 0xee, 0xef, 0xfa, 0xfb, 0xfc, 0xfd, 0xfe, 0xff]

def printed : List (Nat × Nat) := [(94, 95), (126, 161), (203, 154), (213, 173), (229, 189)]

def encode (forPrinters : Bool) (c : Char) : Char :=
  let n := if forPrinters then printed.lookup c.toNat else none
  Char.ofNat (n.getD ((codes[c.toNat]?).getD 0))

def decode (c : Char) : Char := Char.ofNat ((codes.idxOf? c.toNat).getD 0)

end DeltaDebugging.Text.PunchedCode

namespace DeltaDebugging.Utility

open Program

namespace Blocks

/-- What is asked for by the operands. Amounts count blocks, and bytes if the flag with them
holds. -/
structure Request where
  input : Option String := none
  output : Option String := none
  both : Option Nat := none
  inSize : Nat := 512
  outSize : Nat := 512
  /-- The size of a record, if records are made or undone. -/
  record : Nat := 0
  skip : Nat × Bool := (0, false)
  seek : Nat × Bool := (0, false)
  limit : Option (Nat × Bool) := none
  conversions : List String := []
  inFlags : List String := []
  outFlags : List String := []
  status : String := ""

def knownConversions : List String :=
  ["ascii", "ebcdic", "ibm", "block", "unblock", "lcase", "ucase", "sparse", "swab", "sync", "excl",
    "nocreat", "notrunc", "noerror", "fdatasync", "fsync"]

def knownFlags : List String :=
  ["append", "cio", "direct", "directory", "dsync", "noatime", "nocache", "noctty", "nofollow", "nonblock",
    "sync", "fullblock", "count_bytes", "skip_bytes", "seek_bytes"]

def number : (steps : Nat) → String → Except (Option Unit) Nat
  | 0, _ => .error none
  | steps + 1, s =>
    let cs := s.toList
    let before := cs.takeWhile (· ≠ 'x')
    let unit (text : List Char) : Nat × Option NumeralFault :=
      match numeral 10 false "bcEGkKMPTwYZ0" (String.ofList text) with
      | (n, some fault) =>
        -- a lone unit of bytes is no factor
        if text.getLast? = some 'B' && (text.dropLast.getLast?.any Char.isDigit) then
          match numeral 10 false "" (String.ofList text.dropLast) with
          | (n, fault) => (n.toNat, fault)
        else (n.toNat, some fault)
      | (n, none) => (n.toNat, none)
    match unit before with
    | (_, some .tooLarge) => .error (some ())
    | (_, some _) => .error none
    | (n, none) =>
      if before.length = cs.length then .ok n
      else match number steps (String.ofList (cs.drop (before.length + 1))) with
        | .ok m => .ok (n * m)
        | .error e => .error e

def size (least : Nat) (text : String) : Program Nat := do
  let bad (reason : String) : Program Nat := die ("invalid number: " ++ Text.shellQuote text ++ reason) 1
  match number (text.length + 1) text with
  | .error none => bad ""
  | .error (some ()) => bad ": Value too large for defined data type"
  | .ok n =>
    if n < least then bad "" else if Nat.pow 2 63 ≤ n then bad ": Value too large for defined data type"
    else return n

def words (what text : String) (known : List String) : Program (List String) := do
  let ws := text.splitOn ","
  for w in ws do
    if !known.contains w then misuse ("invalid " ++ what ++ ": " ++ Text.literalQuote w) 1
  return ws

def Request.take (r : Request) (operand : String) : Program Request := do
  let key := String.ofList (operand.toList.takeWhile (· ≠ '='))
  if key.length = operand.length then misuse ("unrecognized operand " ++ Text.shellQuote operand) 1
  let value := String.ofList (operand.toList.drop (key.length + 1))
  let amount : Program (Nat × Bool) := do return (← size 0 value, value.toList.contains 'B')
  match key with
  | "if" => return { r with input := some value }
  | "of" => return { r with output := some value }
  | "conv" => return { r with conversions := r.conversions ++ (← words "conversion" value knownConversions) }
  | "iflag" => return { r with inFlags := r.inFlags ++ (← words "input flag" value knownFlags) }
  | "oflag" => return { r with outFlags := r.outFlags ++ (← words "output flag" value knownFlags) }
  | "status" =>
    return { r with status := (← words "status level" value ["none", "noxfer", "progress"]).getLastD "" }
  | "bs" => return { r with both := some (← size 1 value) }
  | "ibs" => return { r with inSize := ← size 1 value }
  | "obs" => return { r with outSize := ← size 1 value }
  | "cbs" => return { r with record := ← size 1 value }
  | "skip" => return { r with skip := ← amount }
  | "iseek" => return { r with skip := ← amount }
  | "seek" => return { r with seek := ← amount }
  | "oseek" => return { r with seek := ← amount }
  | "count" => return { r with limit := some (← amount) }
  | _ => misuse ("unrecognized operand " ++ Text.shellQuote operand) 1

def Request.has (r : Request) (conversion : String) : Bool := r.conversions.contains conversion

def Request.check (r : Request) : Program Unit := do
  let several (names : List String) : Bool := 1 < (names.filter r.has).length
  if several ["ascii", "ebcdic", "ibm"] then die "cannot combine any two of \x7bascii,ebcdic,ibm\x7d" 1
  if r.record ≠ 0 && (r.has "block" || r.has "ebcdic" || r.has "ibm") && (r.has "unblock" || r.has "ascii") then
    die "cannot combine block and unblock" 1
  if several ["lcase", "ucase"] then die "cannot combine lcase and ucase" 1
  if several ["excl", "nocreat"] then die "cannot combine excl and nocreat" 1

def swapped : List Char → List Char
  | a :: b :: rest => b :: a :: swapped rest
  | cs => cs

/-- Lines as records of one size, filled up with blanks, and the number of those that were too
long. -/
def records (newline blank : Char) (size : Nat) (cs : List Char) : List Char × Nat :=
  let closed := cs.getLast? = some newline
  let lines := (String.ofList cs).splitOn (String.singleton newline)
  let lines := (if closed || cs.isEmpty then lines.dropLast else lines).map String.toList
  (lines.flatMap fun l => l.take size ++ List.replicate (size - l.length) blank,
    (lines.filter fun l => size < l.length).length)

/-- Records of one size as lines without blanks at their ends. -/
def unrecorded (newline blank : Char) (size : Nat) : (steps : Nat) → List Char → List Char
  | 0, _ => []
  | _, [] => []
  | steps + 1, cs =>
    let r := cs.take size
    ((r.reverse.dropWhile (· = blank)).reverse ++ [newline]) ++ unrecorded newline blank size steps (cs.drop size)

def Request.convert (r : Request) (cs : List Char) : List Char × Nat :=
  let cs := if r.has "ascii" then cs.map Text.PunchedCode.decode else cs
  let cs := if r.has "ucase" then cs.map Char.toUpper else if r.has "lcase" then cs.map Char.toLower else cs
  let punched := r.has "ebcdic" || r.has "ibm"
  let code (c : Char) : Char := if punched then Text.PunchedCode.encode (r.has "ibm") c else c
  let cs := if punched then cs.map code else cs
  let cs := if r.has "swab" then swapped cs else cs
  if r.record = 0 then (cs, 0)
  else if r.has "block" || punched then records (code '\n') (code ' ') r.record cs
  else if r.has "unblock" || r.has "ascii" then (unrecorded '\n' ' ' r.record (cs.length + 1) cs, 0)
  else (cs, 0)

def counts (unit n : Nat) : String := toString (n / unit) ++ "+" ++ if n % unit = 0 then "0" else "1"

def copied (n : Nat) : String :=
  let sizes := [Number.byteSize 1000 n, Number.byteSize 1024 n].filter fun (s : String) =>
    s.toList.reverse[1]? ≠ some ' '
  toString n ++ (if n = 1 then " byte" else " bytes") ++
    (if sizes.isEmpty then "" else " (" ++ String.intercalate ", " sizes ++ ")") ++
    " copied, 0.0001 s, 1.0 MB/s\n"

/-- The output, opened and made ready, if it is not the standard one. -/
def Request.openOutput (r : Request) (offset : Nat) : Program (Option (String × Nat)) := do
  match r.output with
  | none => return none
  | some path =>
    let cuts := !r.has "notrunc"
    let a : System.Access := { reads := false, writes := true, creates := !r.has "nocreat"
                               truncates := cuts && offset = 0, fresh := r.has "excl"
                               appends := r.outFlags.contains "append" }
    match ← openPath path a with
    | .error e => die ("failed to open " ++ Text.shellQuote path ++ ": " ++ e.reason) 1
    | .ok o =>
      if offset = 0 then return some (path, o)
      let s ← system
      match s.opening? o with
      | none => return some (path, o)
      | some opening =>
        let files := match opening.target with
          | .node n => match s.files.node? n with
            | some node => match node.kind with
              | .regular content =>
                let kept := if cuts then content.toList.take offset else content.toList
                let gap := List.replicate (if cuts then offset - kept.length else 0) '\x00'
                s.files.setNode n { node with kind := .regular (String.ofList (kept ++ gap)) }
              | _ => s.files
            | none => s.files
          | _ => s.files
        setSystem ({ s with files }.setOpening o { opening with position := offset })
        return some (path, o)

end Blocks

open Blocks in
def dd : Program Nat := do
  let mut r : Request := {}
  for a in ← arguments do
    if a = "--" then continue
    if a = "--help" || a = "--version" then exit 0
    r ← r.take a
  r.check
  let inSize := r.both.getD r.inSize
  let outSize := r.both.getD r.outSize
  let bytes (amount : Nat × Bool) (flag : Bool) (unit : Nat) : Nat :=
    if amount.2 || flag then amount.1 else amount.1 * unit
  let skip := bytes r.skip (r.inFlags.contains "skip_bytes") inSize
  let seek := bytes r.seek (r.outFlags.contains "seek_bytes") outSize
  let limit := r.limit.map fun l => bytes l (r.inFlags.contains "count_bytes") inSize
  let shownInput := (r.input.map Text.shellName).getD "'standard input'"
  let found : Except FileFault (List Char × Bool) ← match r.input with
    | some path => match ← beginningOf path with
      | .error (.unopened e) => die ("failed to open " ++ Text.shellQuote path ++ ": " ++ e.reason) 1
      | .error e => pure (.error e.fault)
      | .ok found => pure (.ok found)
    | none => match ← inputSoFar with
      | .error e => pure (.error e.fault)
      | .ok found => pure (.ok found)
  let output ← r.openOutput seek
  let (cs, endless) := (found.toOption).getD ([], false)
  if endless && limit.isNone then throw .endless
  let cs := if endless then extended cs (skip + limit.getD 0) else cs
  if cs.length < skip && r.status ≠ "none" then
    match found with
    | .ok _ => complain (shownInput ++ ": cannot skip to specified offset")
    | .error _ => pure ()
  let read := (cs.drop skip).take (limit.getD cs.length)
  match found with
  | .error e => complain ("error reading " ++ (r.input.map Text.shellQuote).getD shownInput ++ ": " ++ e.reason)
  | .ok _ => pure ()
  if r.input.isNone then
    takeInput cs.length
    giveBack (cs.drop (skip + read.length)) true
  let odd := read.length % inSize
  let filled := if r.has "sync" && odd ≠ 0 then
      read ++ List.replicate (inSize - odd) (if r.has "block" || r.has "unblock" then ' ' else '\x00')
    else read
  let (changed, cut) := r.convert filled
  let text := String.ofList changed
  let mut done := true
  match output with
  | none => match ← write 1 text with
    | none => pure ()
    | some e =>
      complain ("error writing 'standard output': " ++ e.reason)
      if e = .badDescriptor then
        die ("closing output file 'standard output': " ++ e.reason) 1
      done := false
  | some (path, o) => match (← system).write o text with
    | .ok s => setSystem s
    | .error e =>
      complain ("error writing " ++ Text.shellQuote path ++ ": " ++ e.reason)
      done := false
  if r.status ≠ "none" then
    let written := if done then changed.length else 0
    tell (counts inSize read.length ++ " records in\n" ++ counts outSize written ++ " records out\n" ++
      if cut = 0 then "" else toString cut ++ " truncated record" ++ (if cut = 1 then "\n" else "s\n"))
    if r.status ≠ "noxfer" then tell (copied written)
  return if done && found.toOption.isSome then 0 else 1

end DeltaDebugging.Utility
