import DeltaDebugging.Number.Layout
import DeltaDebugging.Utility.Lines
import DeltaDebugging.Utility.Numeral

/-!
# Contents in numbers

Bytes shown as numbers or characters, in lines with their addresses.
-/
namespace DeltaDebugging.Utility

open Program

namespace Dump

inductive Form where
  | octal
  | hexadecimal
  | signed
  | unsigned
  | float
  | character
  | named
  deriving DecidableEq, Repr

structure Shape where
  form : Form
  size : Nat
  /-- Whether the characters are shown behind the line. -/
  text : Bool := false

namespace Shape

def layout (s : Shape) : Number.Layout :=
  if s.size = 4 then .single else if s.size = 8 then .double else .extended

def width (s : Shape) : Nat := match s.form, s.size with
  | .octal, n => (8 * n + 2) / 3
  | .hexadecimal, n => 2 * n
  | .signed, n => if n = 1 then 4 else if n = 2 then 6 else if n = 4 then 11 else 20
  | .unsigned, n => if n = 1 then 3 else if n = 2 then 5 else if n = 4 then 10 else 20
  | .float, n => if n = 4 then 15 else if n = 8 then 24 else 29
  | _, _ => 3

def names : List String :=
  ["nul", "soh", "stx", "etx", "eot", "enq", "ack", "bel", "bs", "ht", "nl", "vt", "ff", "cr", "so",
    "si", "dle", "dc1", "dc2", "dc3", "dc4", "nak", "syn", "etb", "can", "em", "sub", "esc", "fs",
    "gs", "rs", "us", "sp"]

def zeros (width : Nat) (s : String) : String :=
  String.ofList (List.replicate (width - s.length) '0') ++ s

def character (c : Char) : String :=
  match ['\x00', '\x07', '\x08', '\x0c', '\n', '\r', '\t', '\x0b'].zip
      ["\\0", "\\a", "\\b", "\\f", "\\n", "\\r", "\\t", "\\v"] |>.lookup c with
  | some s => s
  | none => if Text.isPlain c then String.singleton c
    else zeros 3 (String.ofList (Nat.toDigits 8 c.toNat))

/-- A unit as it is shown, without blanks around it. -/
def render (s : Shape) (bigEndian : Bool) (bytes : List Char) : String :=
  let ordered := if bigEndian then bytes else bytes.reverse
  let n := ordered.foldl (fun n c => n * 256 + c.toNat) 0
  match s.form with
  | .octal => zeros s.width (String.ofList (Nat.toDigits 8 n))
  | .hexadecimal => zeros s.width (String.ofList (Nat.toDigits 16 n))
  | .unsigned => toString n
  | .signed =>
    let half := Nat.pow 2 (8 * s.size - 1)
    toString (if n < half then (n : Int) else (n : Int) - 2 * half)
  | .float => s.layout.text n
  | .character => character (bytes.headD '\x00')
  | .named =>
    let n := (bytes.headD '\x00').toNat % 128
    if n = 127 then "del" else (names[n]?).getD (String.singleton (Char.ofNat n))

end Shape

def sizeOf? (isFloat : Bool) (c : Char) : Option Nat :=
  (if isFloat then [('F', 4), ('D', 8), ('L', 16)] else [('C', 1), ('S', 2), ('I', 4), ('L', 8)]).lookup c

def sizes (isFloat : Bool) : List Nat := if isFloat then [4, 8, 16] else [1, 2, 4, 8]

/-- Reads types as long as they are valid; nothing comes of them if one is not. -/
def readShapes (whole : String) : (steps : Nat) → List Char → Program (Option (List Shape))
  | 0, _ => return some []
  | _, [] => return some []
  | steps + 1, c :: cs => do
    let form : Option Form := [('o', Form.octal), ('x', .hexadecimal), ('d', .signed), ('u', .unsigned),
      ('f', .float), ('c', .character), ('a', .named)].lookup c
    let quoted := Text.literalQuote whole
    match form with
    | none =>
      complain ("invalid character '" ++ String.singleton c ++ "' in type string " ++ quoted)
      return none
    | some form =>
      let isFloat := form = .float
      let sized := form ≠ .character && form ≠ .named
      let letter := if sized then cs.head?.bind (sizeOf? isFloat) else none
      let digits := if sized && letter.isNone then cs.takeWhile Char.isDigit else []
      let size := match letter, natural? (String.ofList digits) with
        | some n, _ => n
        | none, some n => n
        | none, none => if isFloat then 8 else if sized then 4 else 1
      if Nat.pow 2 64 ≤ size then
        complain ("invalid type string " ++ quoted)
        return none
      else if sized && !(sizes isFloat).contains size then
        complain ("invalid type string " ++ quoted ++ ";\nthis system doesn't provide a " ++ toString size ++
          "-byte " ++ (if isFloat then "floating point" else "integral") ++ " type")
        return none
      else
        let rest := cs.drop (if letter.isSome then 1 else digits.length)
        let text := rest.head? = some 'z'
        let more ← readShapes whole steps (if text then rest.tail else rest)
        return more.map fun shapes => { form, size, text } :: shapes

def pieces (size : Nat) : (steps : Nat) → List Char → List (List Char)
  | 0, _ => []
  | _, [] => []
  | steps + 1, cs => cs.take size :: pieces size steps (cs.drop size)

/-- How addresses are shown: in a base, or not at all, and perhaps with a second one in brackets,
which is greater by a difference. Without a base there is only one in brackets, the plain one. -/
structure Addresses where
  base : Option Nat := some 8
  difference : Option Int := none

namespace Addresses

def figures (base n : Nat) : String :=
  Shape.zeros (if base = 16 then 6 else 7) (String.ofList (Nat.toDigits base n))

def text (a : Addresses) (n : Nat) : String := match a.base, a.difference with
  | none, none => ""
  | some base, none => figures base n
  | none, some _ => "(" ++ figures 8 n ++ ")"
  | some base, some d => figures base n ++ " (" ++ figures base (n + d).toNat ++ ")"

/-- How far the lines without an address are moved. -/
def width (a : Addresses) : Nat := match a.base, a.difference with
  | none, none => 0
  | some 16, _ => 6
  | _, _ => 7

end Addresses

def row (s : Shape) (bigEndian : Bool) (perLine widest : Nat) (bytes : List Char) : String :=
  let fields := perLine / s.size
  let units := (pieces s.size (bytes.length + 1) bytes).map fun u =>
    u ++ List.replicate (s.size - u.length) '\x00'
  let spare := widest - fields * (s.width + 1)
  -- the spare room is spread over the fields of the line
  let before (k : Nat) : Nat := spare * (fields - k) / fields - spare * (fields - k - 1) / fields
  let body := String.join (units.zipIdx.map fun e =>
    " " ++ rightAligned (before e.2 + s.width) (s.render bigEndian e.1))
  let missing := List.range (fields - units.length) |>.map fun k => before (units.length + k) + s.width + 1
  if s.text then
    body ++ String.ofList (List.replicate (missing.foldl (· + ·) 0) ' ') ++ "  >" ++
      String.ofList (bytes.map fun c => if Text.isPlain c then c else '.') ++ "<"
  else body

structure Request where
  addresses : Addresses := {}
  skipped : Nat := 0
  limit : Option Nat := none
  /-- The least length of the texts that are shown in place of numbers. -/
  strings : Option Nat := none
  shapes : List Shape := []
  repeats : Bool := false
  width : Option Nat := none
  bigEndian : Bool := false
  /-- Whether an option rules out that an operand is an offset. -/
  modern : Bool := false
  traditional : Bool := false
  valid : Bool := true

def short : List (String × Shape) :=
  [("a", { form := .named, size := 1 }), ("b", { form := .octal, size := 1 }),
    ("c", { form := .character, size := 1 }), ("d", { form := .unsigned, size := 2 }),
    ("D", { form := .unsigned, size := 4 }), ("F", { form := .float, size := 8 }),
    ("f", { form := .float, size := 4 }), ("H", { form := .hexadecimal, size := 4 }),
    ("i", { form := .signed, size := 4 }), ("I", { form := .signed, size := 8 }),
    ("o", { form := .octal, size := 2 }), ("O", { form := .octal, size := 4 }),
    ("s", { form := .signed, size := 2 }), ("x", { form := .hexadecimal, size := 2 })]

def Request.with (r : Request) (o : Given) : Program Request := do
  let size : Program Nat := numeralOf o.spelled "bEGKkMmPTYZ0" o.value 1 0
  match o.key with
  | "A" =>
    let base ← match o.value.toList.head? with
      | some 'd' => pure (some 10)
      | some 'o' => pure (some 8)
      | some 'x' => pure (some 16)
      | some 'n' => pure none
      | c => die ("invalid output address radix '" ++ (c.map String.singleton).getD "\x00" ++
          "'; it must be one character from [doxn]") 1
    return { r with modern := true, addresses := { base } }
  | "j" =>
    let n ← size
    return { r with modern := true, skipped := n }
  | "N" =>
    let n ← size
    return { r with modern := true, limit := some n }
  | "S" =>
    let n ← size
    return { r with modern := true, strings := some n }
  | "strings" =>
    let n ← if o.value.isEmpty then pure 3 else size
    return { r with modern := true, strings := some n }
  | "t" =>
    match ← readShapes o.value (o.value.length + 1) o.value.toList with
    | some shapes => return { r with modern := true, shapes := r.shapes ++ shapes }
    | none => return { r with valid := false }
  | "v" => return { r with modern := true, repeats := true }
  | "traditional" => return { r with traditional := true }
  | "w" =>
    let n ← if o.value.isEmpty then pure 32 else numeralOf o.spelled "" o.value
    return { r with modern := true, width := some n }
  | "endian" =>
    let n ← Program.wordChoice "endian" o.value [["little"], ["big"]]
    return { r with modern := true, bigEndian := n = 1 }
  | key => return { r with shapes := r.shapes ++ ((short.lookup key).map fun s => [s]).getD [] }

def offset? (s : String) : Option Nat :=
  let bare := if s.toList.head? = some '+' then s.toList.tail else s.toList
  let (base, digits) := if bare.contains '.' then (10, bare) else match bare with
    | '0' :: x :: rest => if x = 'x' || x = 'X' then (16, rest) else (8, bare)
    | _ => (8, bare)
  match numeral base false "Bb" (String.ofList digits) with
  | (n, none) => some n.toNat
  | _ => none

def Request.operands (r : Request) (operands : List String) : Program (Request × List String) := do
  let signed (s : String) : Bool := r.traditional || s.toList.head? = some '+'
  let labelled (skipped label : Nat) : Request :=
    { r with skipped, addresses := { r.addresses with difference := some ((label : Int) - skipped) } }
  if r.modern && !r.traditional then return (r, operands)
  let (r, operands) := match operands with
    | [a] => match signed a, offset? a with
      | true, some n => ({ r with skipped := n }, [])
      | _, _ => (r, operands)
    | [a, b] => match signed b || b.toList.head?.any Char.isDigit, offset? b with
      | true, some label => match r.traditional, offset? a with
        | true, some n => (labelled n label, [])
        | _, _ => ({ r with skipped := label }, [a])
      | _, _ => (r, operands)
    | [a, b, c] => match r.traditional, offset? b, offset? c with
      | true, some n, some label => (labelled n label, [a])
      | _, _, _ => (r, operands)
    | _ => (r, operands)
  match r.traditional, operands with
  | true, _ :: extra :: _ =>
    complain ("extra operand " ++ Text.literalQuote extra)
    misuse "compatibility mode supports at most one file" 1
  | _, _ => return (r, operands)

/-- The texts of printable characters with a null character behind them, of a least length, each
with its address. One that the limit cuts off is shown as if it began one earlier. -/
def strings (least : Nat) (limit : Option Nat) : (steps : Nat) → (address : Nat) → List Char →
    List (Nat × List Char)
  | 0, _, _ => []
  | steps + 1, address, cs =>
    if limit.any fun n => decide (n ≤ least + address) then [] else
    let text := cs.takeWhile Text.isPlain
    match limit with
    | some n =>
      if n - address ≤ text.length then [((address + Nat.pow 2 64 - 1) % Nat.pow 2 64, text.take (n - address))]
      else onward steps address cs text
    | none => onward steps address cs text
where
  onward (steps address : Nat) (cs text : List Char) : List (Nat × List Char) :=
    match cs.drop text.length with
    | [] => []
    | c :: rest =>
      let more := strings least limit steps (address + text.length + 1) rest
      if c = '\x00' && least ≤ text.length then (address, text) :: more else more

end Dump

open Dump in
def od : Program Nat := do
  let p ← parsed
    { choices := ["A,address-radix:", "endian:", "j,skip-bytes:", "N,read-bytes:", "S:", "strings::", "t,format:",
        "v,output-duplicates", "w,width::", "traditional", "a", "b", "c", "D", "d", "F,e", "f", "H,X", "i",
        "I,L,l", "O", "o,B", "s", "x,h"] }
  let mut r : Request := {}
  for o in p.options do r ← r.with o
  if !r.valid then return 1
  if r.strings.isSome && !r.shapes.isEmpty then die "no type may be specified when dumping strings" 1
  let (request, operands) ← r.operands p.operands
  let skip := request.skipped
  let limit := request.limit
  let needed := limit.map (· + skip)
  if needed.any fun n => decide (Nat.pow 2 64 ≤ n) then die "skip-bytes + read-bytes is too large" 1
  let shapes := if request.shapes.isEmpty then [({ form := .octal, size := 2 } : Shape)] else request.shapes
  let least := (shapes.map Shape.size).foldl max 1
  let mut all : List Char := []
  let mut opened := false
  for path in (if operands.isEmpty then ["-"] else operands) do
    if !opened || needed.all fun n => decide (all.length < n) then
      match ← (if path = "-" then inputSoFar else beginningOf path) with
      | .error e =>
        complain (nameAndReason path e)
        raise 1
        match e with
        | .unopened _ => pure ()
        | .unreadable _ => opened := true
      | .ok (cs, endless) =>
        opened := true
        if path = "-" then
          takeInput cs.length
          if let some n := needed then giveBack (cs.drop (n - all.length)) true
        match endless, needed with
        | true, none => throw .endless
        | true, some n => all := all ++ extended cs (n - all.length)
        | false, _ => all := all ++ cs
  if !opened then return 1
  if all.length < skip then die "cannot skip past end of combined input" 1
  let bytes := all.drop skip
  let bytes := match limit with
    | some n => bytes.take n
    | none => bytes
  if let some n := request.strings then
    for (start, text) in strings n needed (bytes.length + 1) skip bytes do
      let place := request.addresses.text start
      putLine ((if place.isEmpty then "" else place ++ " ") ++ String.ofList text)
    return 0
  let perLine ← match request.width with
    | none => pure 16
    | some n =>
      if n ≠ 0 && n % least = 0 then pure n
      else
        complain ("warning: invalid width " ++ toString n ++ "; using " ++ toString least ++ " instead")
        pure least
  let widest := (shapes.map fun s => perLine / s.size * (s.width + 1)).foldl max 0
  let mut previous : Option (List Char) := none
  let mut starred := false
  for (line, k) in (pieces perLine (bytes.length + 1) bytes).zipIdx do
    if previous = some line && line.length = perLine && !request.repeats then
      if !starred then putLine "*"
      starred := true
    else
      starred := false
      for (s, j) in shapes.zipIdx do
        let start := if j = 0 then request.addresses.text (skip + k * perLine)
          else String.ofList (List.replicate request.addresses.width ' ')
        putLine (start ++ row s request.bigEndian perLine widest line)
    previous := some line
  let last := request.addresses.text (skip + bytes.length)
  if !last.isEmpty then putLine last
  return 0

end DeltaDebugging.Utility
