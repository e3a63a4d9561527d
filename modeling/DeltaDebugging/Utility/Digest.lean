import DeltaDebugging.Digest.Wide
import DeltaDebugging.Utility.Lines
import DeltaDebugging.Utility.Numeral

/-!
# Digests of files

Programs that print checksums and digests of files, and check lists of them. A line of a list
has the digest before the name of the file, or the kind of digest and the name in brackets
before it.
-/
namespace DeltaDebugging.Utility

open Program Digest

structure Digester where
  title : String
  /-- How many hexadecimal figures it has; one that may be cut short has at most so many. -/
  digits : Nat
  flexible : Bool := false
  /-- The digest with so many figures. -/
  digest : Nat → Array UInt8 → String

namespace Digester

def fixed (title : String) (digits : Nat) (digest : Array UInt8 → String) : Digester :=
  { title, digits, digest := fun _ => digest }

def ofMd5 : Digester := fixed "MD5" 32 md5

def ofSha1 : Digester := fixed "SHA1" 40 sha1

def ofSha224 : Digester := fixed "SHA224" 56 sha224

def ofSha256 : Digester := fixed "SHA256" 64 sha256

def ofSha384 : Digester := fixed "SHA384" 96 sha384

def ofSha512 : Digester := fixed "SHA512" 128 sha512

def ofSm3 : Digester := fixed "SM3" 64 sm3

def ofBlake2b : Digester :=
  { title := "BLAKE2b", digits := 128, flexible := true, digest := fun n => blake2b (n / 2) }

end Digester

namespace DigestList

/-- The characters of a name that a line of a list cannot hold as they are. -/
def escapes : List (Char × Char) := [('\n', 'n'), ('\r', 'r'), ('\\', '\\')]

def isAwkward (name : String) : Bool := name.toList.any fun c => (escapes.lookup c).isSome

/-- A name as a line of a list holds it, and the mark that it is not as it was. -/
def shownName (name : String) : String × String :=
  if isAwkward name then
    ("\\", String.join (name.toList.map fun c => match escapes.lookup c with
      | some e => String.ofList ['\\', e]
      | none => String.singleton c))
  else ("", name)

/-- The name that a line of a list holds, if that is one. -/
def plainName? : List Char → Option (List Char)
  | [] => some []
  | ['\\'] => none
  | '\\' :: e :: cs => match escapes.find? fun p => p.2 = e with
    | some (c, _) => (plainName? cs).map (c :: ·)
    | none => none
  | c :: cs => (plainName? cs).map (c :: ·)

def isHex (c : Char) : Bool := c.isDigit || ('a' ≤ c && c ≤ 'f') || ('A' ≤ c && c ≤ 'F')

structure Listed where
  digest : List Char
  name : List Char
  /-- How many figures the digest is to have. -/
  digits : Nat
  /-- Whether a single blank stands before the name, if that is seen. -/
  single : Option Bool := none

/-- What stands behind the kind of digest: the name in brackets and the digest. -/
def taggedRest (digits : Nat) (escaped : Bool) (cs : List Char) : Option Listed := do
  let after := (cs.reverse.takeWhile (· ≠ ')')).reverse
  if after.length = cs.length then none
  let name := cs.take (cs.length - after.length - 1)
  let name ← if escaped then plainName? name else some name
  match after.dropWhile isBlankChar with
  | '=' :: rest =>
    let digest := rest.dropWhile isBlankChar
    if digest.length = digits && digest.all isHex then some { digest, name, digits } else none
  | _ => none
where
  isBlankChar (c : Char) : Bool := c = ' ' || c = '\t'

/-- Reads a line of a list. `single` tells how the lines before it were made. -/
def read (d : Digester) (least : Nat) (single : Option Bool) (line : List Char) : Option Listed := do
  let cs := line.dropWhile isBlank
  let escaped := cs.head? = some '\\'
  let cs := if escaped then cs.tail else cs
  if d.title.toList.isPrefixOf cs then
    let rest := cs.drop d.title.length
    let (digits, rest) ← if !d.flexible then some (d.digits, rest) else
      match rest with
      | '-' :: more =>
        let ds := more.takeWhile Char.isDigit
        let n ← natural? (String.ofList ds)
        if n = 0 || d.digits * 4 < n || n % 8 ≠ 0 then none else some (n / 4, more.drop ds.length)
      | '(' :: _ => some (d.digits, rest)
      | c :: more => if isBlank c then some (d.digits, more) else none
      | [] => none
    let rest := if rest.head? = some ' ' then rest.tail else rest
    match rest with
    | '(' :: more => taggedRest digits escaped more
    | _ => none
  else
    if cs.length < least then none
    let digits := if d.flexible then (cs.takeWhile isHex).length else d.digits
    if digits < 2 || digits % 2 = 1 || d.digits < digits then none
    let digest := cs.take digits
    match cs.drop digits with
    | c :: rest =>
      if !isBlank c || !digest.all isHex || digest.length < digits then none
      let mark := rest.head?.getD ' '
      if rest.length = 1 || (mark ≠ ' ' && mark ≠ '*') then
        if single = some false then none
        let name ← if escaped then plainName? rest else some rest
        some { digest, name, digits, single := some true }
      else
        let name := if single = some true then rest else rest.tail
        let name ← if escaped then plainName? name else some name
        some { digest, name, digits, single := single.or (some false) }
    | [] => none
where
  isBlank (c : Char) : Bool := c = ' ' || c = '\t'

/-- How many lines of a list were good, and what was wrong with the others. -/
structure Tally where
  found : Bool := false
  matched : Bool := false
  malformed : Nat := 0
  wrong : Nat := 0
  unread : Nat := 0

def amount (n : Nat) (one many : String) : String :=
  "WARNING: " ++ toString n ++ " " ++ if n = 1 then one else many

structure Manner where
  silent : Bool
  warns : Bool
  quiet : Bool
  strict : Bool
  skipsMissing : Bool

/-- The digest of what an operand names, or nothing if it is passed over. -/
def ofOperand (d : Digester) (digits : Nat) (skipsMissing : Bool) (name : String) :
    Program (Except Unread (Option String)) := do
  match ← operand name with
  | .ok cs => return .ok (some (d.digest digits (bytesOf cs)))
  | .error (.unopened e) =>
    if skipsMissing && e = .notFound then return .ok none
    complain (nameAndReason name (.unopened e))
    return .error (.unopened e)
  | .error e =>
    complain (nameAndReason name e)
    return .error e

/-- The kind of digest that a line names, if it names one. -/
def named? (kinds : List (String × Option Digester)) (line : List Char) : Option (Option Digester) :=
  let cs := line.dropWhile fun c => c = ' ' || c = '\t'
  let cs := if cs.head? = some '\\' then cs.tail else cs
  kinds.lookup (String.ofList (cs.takeWhile fun c => !(c = ' ' || c = '\t' || c = '-' || c = '(')))

/-- Checks the files of a list. The kind of digest is given, or found in each line. -/
def check (given : Option Digester) (kinds : List (String × Option Digester)) (m : Manner) (path : String) :
    Program Bool := do
  match ← operand path with
  | .error e =>
    match e with
    | .unopened _ => complain (nameAndReason path e)
    | .unreadable _ =>
      complain ((if path = "-" then "'standard input'" else Text.shellName path) ++ ": read error")
    return false
  | .ok cs =>
    let shown := if path = "-" then "'standard input'" else Text.shellName path
    let mut t : Tally := {}
    let mut kind := given
    let mut single : Option Bool := none
    for (l, k) in (linesOf '\n' cs).zipIdx 1 do
      if l.head? = some '#' then continue
      let l := if l.getLast? = some '\r' then l.dropLast else l
      if l.isEmpty then continue
      if given.isNone then
        match named? kinds l with
        | some d => kind := d
        | none => pure ()
      let least := match given with
        | some d => if d.flexible then 3 else d.digits + 2
        | none => 3
      let listed := (kind.bind fun d => (read d least single l).map fun x => (d, x)).filter fun x =>
        !(path = "-" && x.2.name = ['-'])
      match listed with
      | none =>
        t := { t with malformed := t.malformed + 1 }
        if m.warns then
          complain (shown ++ ": " ++ toString k ++ ": improperly formatted " ++
            ((kind.map Digester.title).getD "CRC") ++ " checksum line")
      | some (d, x) =>
        t := { t with found := true }
        single := x.single.or single
        let name := String.ofList x.name
        let (mark, shownName) := shownName name
        match ← ofOperand d x.digits m.skipsMissing name with
        | .error _ =>
          t := { t with unread := t.unread + 1 }
          if !m.silent then putLine (mark ++ shownName ++ ": FAILED open or read")
        | .ok none => pure ()
        | .ok (some digest) =>
          if digest.toList = x.digest.map Char.toLower then
            t := { t with matched := true }
            if !m.silent && !m.quiet then putLine (mark ++ shownName ++ ": OK")
          else
            t := { t with wrong := t.wrong + 1 }
            if !m.silent then putLine (mark ++ shownName ++ ": FAILED")
    if !t.found then complain (shown ++ ": no properly formatted checksum lines found")
    else if !m.silent then
      if t.malformed ≠ 0 then
        complain (amount t.malformed "line is improperly formatted" "lines are improperly formatted")
      if t.unread ≠ 0 then
        complain (amount t.unread "listed file could not be read" "listed files could not be read")
      if t.wrong ≠ 0 then
        complain (amount t.wrong "computed checksum did NOT match" "computed checksums did NOT match")
      if m.skipsMissing && !t.matched then complain (shown ++ ": no file was verified")
    return t.found && t.matched && t.wrong = 0 && t.unread = 0 && (!m.strict || t.malformed = 0)

/-- The options that only make sense for one who checks lists. -/
def manner (p : Parsed) (checks : Bool) : Program Manner := do
  let loud := p.last? ["status", "w", "quiet"]
  let m : Manner :=
    { silent := loud = some "status", warns := loud = some "w", quiet := loud = some "quiet"
      strict := p.has "strict", skipsMissing := p.has "ignore-missing" }
  if !checks then
    for (given, name) in [(m.skipsMissing, "ignore-missing"), (m.silent, "status"), (m.warns, "warn"),
        (m.quiet, "quiet"), (m.strict, "strict")] do
      if given then
        misuse ("the --" ++ name ++ " option is meaningful only when verifying checksums") 1
  return m

/-- The number of figures of a digest whose length in bits is asked for. -/
def figures (d : Digester) (p : Parsed) : Program Nat := do
  match p.value? "l" with
  | none => return d.digits
  | some text =>
    let n ← numeralWithin "invalid length" 0 (Nat.pow 2 64 - 1) "" text
    if (d.digits * 4 : Nat) < n then
      complain ("invalid length: " ++ Text.literalQuote text)
      die ("maximum digest length for " ++ Text.literalQuote d.title ++ " is " ++ toString (d.digits * 4) ++
        " bits") 1
    if n % 8 ≠ 0 then
      complain ("invalid length: " ++ Text.literalQuote text)
      die "length is not a multiple of 8" 1
    return if n = 0 then d.digits else n.toNat / 4

def line (d : Digester) (digits : Nat) (tagged binary : Bool) (ends path digest : String) : String :=
  let (mark, name) := if ends = "\n" then shownName path else ("", path)
  mark ++ (if tagged then
    d.title ++ (if digits < d.digits then "-" ++ toString (4 * digits) else "") ++ " (" ++ name ++ ") = " ++ digest
  else digest ++ (if binary then " *" else "  ") ++ name) ++ ends

/-- What goes wrong with a choice of options when lists are checked. -/
def refuseForChecks (p : Parsed) (tagged kind : Bool) : Program Unit := do
  if p.has "z" then misuse "the --zero option is not supported when verifying checksums" 1
  if tagged then misuse "the --tag option is meaningless when verifying checksums" 1
  if kind then
    misuse "the --binary and --text options are meaningless when verifying checksums" 1

end DigestList

open DigestList in
def digestSum (d : Digester) : Program Nat := do
  whenUnwrittenLate
  let p ← parsed
    { choices := ["b,binary", "c,check", "ignore-missing", "quiet", "status", "strict", "tag", "t,text",
        "w,warn", "z,zero"] ++ if d.flexible then ["l,length:"] else [] }
  let digits ← figures d p
  let kind := p.last? ["b", "t", "tag"]
  let checks := p.has "c"
  if p.has "tag" && kind = some "t" then misuse "--tag does not support --text mode" 1
  if checks then refuseForChecks p (p.has "tag") kind.isSome
  let m ← manner p checks
  for path in inputs p do
    if checks then
      if !(← check (some d) [] m path) then raise 1
    else match ← ofOperand d digits false path with
      | .ok (some digest) =>
        put (line d digits (p.has "tag") (decide (kind = some "b")) (if p.has "z" then "\x00" else "\n") path digest)
      | _ => raise 1
  return 0

def md5sum : Program Nat := digestSum .ofMd5

def sha1sum : Program Nat := digestSum .ofSha1

def sha224sum : Program Nat := digestSum .ofSha224

def sha256sum : Program Nat := digestSum .ofSha256

def sha384sum : Program Nat := digestSum .ofSha384

def sha512sum : Program Nat := digestSum .ofSha512

def b2sum : Program Nat := digestSum .ofBlake2b

/-- A line for the sum of the bytes of a file, or for the remainder of its content. -/
def sumLine (kind : String) (cs : List Char) : String :=
  match kind with
  | "bsd" =>
    let s := toString (turnedSum (bytesOf cs))
    String.ofList (List.replicate (5 - s.length) '0') ++ s ++ " " ++
      rightAligned 5 (toString ((cs.length + 1023) / 1024))
  | "sysv" => toString (plainSum (bytesOf cs)) ++ " " ++ toString ((cs.length + 511) / 512)
  | _ => toString (crc (bytesOf cs)) ++ " " ++ toString cs.length

def sums (kind : String) (p : Parsed) (ends : String) : Program Nat := do
  eachInput (inputs p) 1 nameAndReason fun path cs =>
    put (sumLine kind cs ++ (if p.operands.isEmpty then "" else " " ++ path) ++ ends)
  return 0

def sum : Program Nat := do
  whenUnwrittenLate
  let p ← parsed { choices := ["r", "s,sysv"] }
  sums (if p.last? ["r", "s"] = some "s" then "sysv" else "bsd") p "\n"

open DigestList in
def cksum : Program Nat := do
  whenUnwrittenLate
  let p ← parsed { choices := ["a,algorithm:", "b", "c,check", "debug", "ignore-missing", "l,length:", "quiet",
    "status", "strict", "tag", "t", "untagged", "w,warn", "z,zero"] }
  let kinds : List (String × Digester) :=
    [("md5", .ofMd5), ("sha1", .ofSha1), ("sha224", .ofSha224), ("sha256", .ofSha256), ("sha384", .ofSha384),
      ("sha512", .ofSha512), ("blake2b", .ofBlake2b), ("sm3", .ofSm3)]
  let names := ["bsd", "sysv", "crc"] ++ kinds.map Prod.fst
  let chosen ← (p.values "a").mapM fun w => wordChoice "algorithm" w (names.map fun n => [n]) true
  let name := chosen.getLast?.bind fun n => names[n]?
  let checks := p.has "c"
  let kind := name.bind fun n => kinds.lookup n
  if (p.value? "l").any (· ≠ "0") && name ≠ some "blake2b" then
    die "--length is only supported with --algorithm=blake2b" 1
  let ends := if p.has "z" then "\x00" else "\n"
  if checks && name.any fun n => ["bsd", "sysv", "crc"].contains n then
    die "--check is not supported with --algorithm=\x7bbsd,sysv,crc\x7d" 1
  let tagged := p.last? ["tag", "untagged"]
  if checks then refuseForChecks p (decide (tagged = some "tag")) (p.last? ["b", "t"]).isSome
  let m ← manner p checks
  if checks then
    let titles := (["BSD", "SYSV", "CRC"].map fun t => (t, (none : Option Digester))) ++
      kinds.map fun k => (k.2.title, some k.2)
    for path in inputs p do
      if !(← check kind titles m path) then raise 1
    return 0
  match kind with
  | none => sums (name.getD "crc") p ends
  | some d =>
    let digits ← figures d p
    for path in inputs p do
      match ← ofOperand d digits false path with
      | .ok (some digest) =>
        put (line d digits (decide (tagged ≠ some "untagged")) (decide (p.last? ["b", "t"] = some "b")) ends path
          digest)
      | _ => raise 1
    return 0

end DeltaDebugging.Utility
