import DeltaDebugging.Regex.Parser
import DeltaDebugging.Utility.Lines
import DeltaDebugging.Utility.Numeral

/-!
# Cutting texts into files

A text is cut into pieces of some lines or bytes, into a number of pieces, or before lines that
are named by their numbers or by patterns. The pieces go to files whose names count up.
-/
namespace DeltaDebugging.Utility

open Program

namespace Pieces

inductive Way where
  | lines (count : Nat)
  | bytes (count : Nat)
  /-- Whole lines as long as they fit. -/
  | lineBytes (count : Nat)
  /-- A number of pieces of the same size, of which one may be wanted alone. -/
  | parts (chosen : Option Nat) (count : Nat)
  /-- The same, with whole lines. -/
  | lineParts (chosen : Option Nat) (count : Nat)
  /-- Lines in turn. -/
  | turns (chosen : Option Nat) (count : Nat)
  deriving DecidableEq, Repr

/-- Lines with their ends, so many to a piece. -/
def byLines (ends : Char) (count : Nat) : (steps : Nat) → List Char → List (List Char)
  | 0, _ => []
  | _, [] => []
  | steps + 1, cs =>
    let piece := firstLines ends count cs
    piece :: byLines ends count steps (cs.drop piece.length)

def byBytes (count : Nat) : (steps : Nat) → List Char → List (List Char)
  | 0, _ => []
  | _, [] => []
  | steps + 1, cs => cs.take count :: byBytes count steps (cs.drop count)

/-- As many whole lines as fit into so many bytes; a line that does not is cut. -/
def byLineBytes (ends : Char) (count : Nat) : (steps : Nat) → List Char → List (List Char)
  | 0, _ => []
  | _, [] => []
  | steps + 1, cs =>
    if cs.length < count then [cs] else
    let window := cs.take count
    let whole := (window.reverse.dropWhile (· ≠ ends)).reverse
    let piece := if whole.isEmpty then window else whole
    piece :: byLineBytes ends count steps (cs.drop piece.length)

/-- Pieces of the same size; the last one takes what is left. -/
def inParts (count : Nat) (cs : List Char) : List (List Char) :=
  let each := max cs.length count / count
  (List.range count).map fun j =>
    if j + 1 = count then cs.drop (j * each) else (cs.drop (j * each)).take each

def linesOf (ends : Char) (cs : List Char) : List (List Char) := byLines ends 1 (cs.length + 1) cs

/-- Lines in as many pieces as there are parts of one size; a line belongs to the part it begins
in. -/
def inLineParts (ends : Char) (count : Nat) (cs : List Char) : List (List Char) :=
  let each := max cs.length count / count
  let starts := ((linesOf ends cs).foldl (fun (acc : Nat × List (Nat × List Char)) l =>
    (acc.1 + l.length, (acc.1, l) :: acc.2)) (0, [])).2.reverse
  (List.range count).map fun j =>
    (starts.filter fun l => min (l.1 / each) (count - 1) = j).flatMap Prod.snd

def inTurns (ends : Char) (count : Nat) (cs : List Char) : List (List Char) :=
  (List.range count).map fun j =>
    ((linesOf ends cs).zipIdx.filter fun l => l.2 % count = j).flatMap Prod.fst

structure Endings where
  alphabet : List Char
  length : Nat
  /-- Whether they grow longer instead of coming to an end. -/
  grows : Bool
  first : Nat := 0

def Endings.fixed (e : Endings) (length n : Nat) : String :=
  let base := e.alphabet.length
  String.ofList ((List.range length).map fun k =>
    (e.alphabet[n / Nat.pow base (length - 1 - k) % base]?).getD 'a')

/-- The `n`-th ending. Where they grow, those that start with the last letter are longer ones. -/
def Endings.get (e : Endings) (n : Nat) : Option String :=
  let base := e.alphabet.length
  if !e.grows then
    if e.first + n < Nat.pow base e.length then some (e.fixed e.length (e.first + n)) else none
  else some (go base 40 e.length n)
where
  go (base : Nat) : (steps : Nat) → (length n : Nat) → String
    | 0, length, n => e.fixed length n
    | steps + 1, length, n =>
      let here := (base - 1) * Nat.pow base (length - 1)
      if n < here then e.fixed length n
      else String.singleton (e.alphabet.getLastD 'z') ++ go base steps (length + 1) (n - here)

def readSeparator (text : String) : Program Char := do
  match text.toList with
  | [] => die "empty record separator" 1
  | [c] => return c
  | _ => if text = "\\0" then return '\x00' else
    die ("multi-character separator " ++ Text.literalQuote text) 1

def readParts (text : String) : Program Way := do
  let cs := text.toList.dropWhile fun c => c = ' ' || ('\t' ≤ c && c ≤ '\r')
  let (make, cs) : (Option Nat → Nat → Way) × List Char := match cs with
    | 'r' :: '/' :: rest => (.turns, rest)
    | 'l' :: '/' :: rest => (.lineParts, rest)
    | _ => (.parts, cs)
  let before := cs.takeWhile (· ≠ '/')
  let count (cs : List Char) : Program Nat := do
    return (← numeralWithin "invalid number of chunks" 1 (Nat.pow 2 64 - 1) "" (String.ofList cs)).toNat
  if before.length = cs.length then return make none (← count cs)
  let n ← count (cs.drop (before.length + 1))
  if before.isEmpty then return make none n
  return make (some (← numeralWithin "invalid chunk number" 1 n "" (String.ofList before)).toNat) n

/-- The way of cutting that options ask for. Digits that are options make a number of lines. -/
def readWay : List Given → (way : Option Way) → (digits : Option Nat) → Program (Option Way × Option Nat)
  | [], way, digits => return (way, digits)
  | o :: rest, way, digits => do
    let only (make : Program Way) : Program (Option Way × Option Nat) := do
      if way.isSome || digits.isSome then misuse "cannot split in more than one way" 1
      readWay rest (some (← make)) digits
    let units := "bEGKkMmPTYZ0"
    match o.key with
    | "b" => only do
      return .bytes (← numeralWithin "invalid number of bytes" 1 (Nat.pow 2 63 - 1) units o.value).toNat
    | "l" => only do
      return .lines (← numeralWithin "invalid number of lines" 1 (Nat.pow 2 64 - 1) "" o.value).toNat
    | "C" => only do
      return .lineBytes (← numeralWithin "invalid number of bytes" 1 (Nat.pow 2 63 - 1) units o.value).toNat
    | "n" => only (readParts o.value)
    | key => match key.toList with
      | [c] =>
        if c.isDigit then
          if way.isSome then misuse "cannot split in more than one way" 1
          readWay rest way (some (digits.getD 0 * 10 + (c.toNat - '0'.toNat)))
        else readWay rest way digits
      | _ => readWay rest way digits

def writeAll (base : String) (e : Endings) (addition : String) (verbose skipsEmpty : Bool)
    (pieces : List (List Char)) : Program Unit := do
  let mut k := 0
  for piece in pieces do
    if piece.isEmpty && skipsEmpty then continue
    match e.get k with
    | none => die "output file suffixes exhausted" 1
    | some ending =>
      let name := base ++ ending ++ addition
      k := k + 1
      if verbose then putLine ("creating file " ++ Text.shellQuote name)
      match ← replaceFile name (String.ofList piece) with
      | none => pure ()
      | some fault => die (Text.shellName name ++ ": " ++ fault.reason) 1

/-- The endings that options ask for, for so many pieces if their number is known. -/
def readEndings (p : Parsed) (pieces : Option Nat) : Program Endings := do
  let kinds := [("d", "0123456789"), ("numeric-suffixes", "0123456789"), ("x", "0123456789abcdef"),
    ("hex-suffixes", "0123456789abcdef")]
  let kind := p.last? (kinds.map Prod.fst)
  for o in p.options do
    match kinds.lookup o.key with
    | some alphabet =>
      if !o.value.toList.all alphabet.toList.contains then
        misuse (Text.literalQuote o.value ++ ": invalid start value for " ++
          (if o.key = "numeric-suffixes" then "numerical" else "hexadecimal") ++ " suffix") 1
    | none => pure ()
  let alphabet := ((kind.bind fun k => kinds.lookup k).getD "abcdefghijklmnopqrstuvwxyz").toList
  let start := (p.options.filterMap fun o =>
    if (kinds.lookup o.key).isSome && !o.value.isEmpty then some o.value else none).getLast?
  let digits := (start.map fun s =>
    let bare := s.toList.dropWhile (· = '0')
    if bare.isEmpty then ['0'] else bare).getD []
  let first := digits.foldl (fun n d => n * alphabet.length + (alphabet.idxOf? d).getD 0) 0
  let length ← match p.value? "a" with
    | none => pure 0
    | some t => do pure (← numeralWithin "invalid suffix length" 0 (Nat.pow 2 60) "" t).toNat
  let needed := match pieces with
    | none => 0
    | some n =>
      let last := n - 1 + (match natural? (String.ofList digits) with
        | some s => if s < n then s else 0
        | none => 0)
      (Nat.toDigits alphabet.length last).length
  if length ≠ 0 && length < needed then
    die ("the suffix length needs to be at least " ++ toString needed) 1
  let size := if length ≠ 0 then length else max 2 needed
  if size < digits.length then
    misuse "numerical suffix start value is too large for the suffix length" 1
  return { alphabet, length := size, grows := length = 0 && start.isNone && pieces.isNone, first }

end Pieces

open Pieces in
def split : Program Nat := do
  let p ← parsed
    { choices := ["a,suffix-length:", "additional-suffix:", "b,bytes:", "C,line-bytes:", "d", "numeric-suffixes::",
        "x", "hex-suffixes::", "e,elide-empty-files", "filter:", "l,lines:", "n,number:", "t,separator:",
        "u,unbuffered", "verbose"] ++ (List.range 10).map toString }
  match (p.values "additional-suffix").find? fun (s : String) => s.toList.contains '/' with
  | some s => misuse ("invalid suffix " ++ Text.literalQuote s ++ ", contains directory separator") 1
  | none => pure ()
  let (way, digits) ← readWay p.options none none
  let separators ← (p.values "t").mapM readSeparator
  if 1 < separators.eraseDups.length then die "multiple separator characters specified" 1
  let ends := separators.headD '\n'
  if digits = some 0 then misuse ("invalid number of lines: " ++ Text.literalQuote "0") 1
  let way := way.getD (.lines (digits.getD 1000))
  let pieces? : Option Nat := match way with
    | .parts _ n => some n
    | .lineParts _ n => some n
    | .turns _ n => some n
    | _ => none
  let endings ← readEndings p pieces?
  let path := p.operands.headD "-"
  match p.operands with
  | _ :: _ :: extra :: _ => misuse ("extra operand " ++ Text.literalQuote extra) 1
  | _ => pure ()
  let cs ← match ← operand path with
    | .ok cs => pure cs
    | .error (.unopened e) =>
      die ("cannot open " ++ Text.shellQuote path ++ " for reading: " ++ e.reason) 1
    | .error e => die (Text.shellName path ++ ": " ++ e.fault.reason) 1
  let steps := cs.length + 1
  let (chosen, pieces) : Option Nat × List (List Char) := match way with
    | .lines n => (none, byLines ends n steps cs)
    | .bytes n => (none, byBytes n steps cs)
    | .lineBytes n => (none, byLineBytes ends n steps cs)
    | .parts k n => (k, inParts n cs)
    | .lineParts k n => (k, inLineParts ends n cs)
    | .turns k n => (k, inTurns ends n cs)
  match chosen with
  | some k => put (String.ofList ((pieces[k - 1]?).getD []))
  | none =>
    writeAll ((p.operands[1]?).getD "x") endings ((p.value? "additional-suffix").getD "") (p.has "verbose")
      (p.has "e") pieces
  return 0

end DeltaDebugging.Utility
