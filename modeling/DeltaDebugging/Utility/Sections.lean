import DeltaDebugging.Number.Figures
import DeltaDebugging.Regex.Parser
import DeltaDebugging.Utility.Pieces

/-!
# Cutting a text at lines

A text is cut before lines that are named by their numbers or by patterns, one after the other.
What stands before a cut goes to a file of its own or is skipped. If a line is not there, the
files are removed again, unless they are to be kept.
-/
namespace DeltaDebugging.Utility

open Program

namespace Sections

inductive Target where
  | line (number : Nat)
  /-- So many lines behind a line that fits; what stands before may be skipped. -/
  | fitting (r : Regex) (offset : Int) (skips : Bool)

structure Cut where
  text : String
  target : Target
  /-- How often it is repeated; nothing stands for as often as there are lines. -/
  repeats : Option Nat := some 0

structure Naming where
  stem : String
  /-- What surrounds the number. -/
  before : String := ""
  after : String := ""
  number : Nat → String

def Naming.get (n : Naming) (k : Nat) : String := n.stem ++ n.before ++ n.number k ++ n.after

structure Manner where
  naming : Naming
  keeps : Bool
  quiet : Bool
  skipsEmpty : Bool
  /-- Whether the lines that are cut at are left out. -/
  dropsMatched : Bool

structure Cutting where
  /-- The lines that are left, and the number of the first of them. -/
  rest : List (List Char)
  first : Nat := 1
  /-- The line that was looked at last. -/
  current : Nat := 0
  /-- How many files there are. -/
  made : Nat := 0
  /-- The file that is written, by its name and opening, and its lines from the last one on. -/
  piece : Option (String × Nat × List (List Char)) := none

abbrev Work := StateT Cutting Program

def start (m : Manner) : Work Unit := do
  let name := m.naming.get (← get).made
  match ← openPath name .toReplace with
  | .ok o => modify fun c => { c with made := c.made + 1, piece := some (name, o, []) }
  | .error e =>
    complain (Text.shellName name ++ ": " ++ e.reason)
    if !m.keeps then
      for k in List.range (← get).made do
        setFiles ((← files).remove (m.naming.get k))
    exit 1

def finish (m : Manner) : Work Unit := do
  match (← get).piece with
  | none => return
  | some (name, o, lines) =>
    let text := String.ofList lines.reverse.flatten
    modify fun c => { c with piece := none }
    if text.isEmpty && m.skipsEmpty then
      setFiles ((← files).remove name)
      modify fun c => { c with made := c.made - 1 }
    else
      match (← system).write o text with
      | .ok s => setSystem s
      | .error e => complain ("write error for " ++ Text.shellQuote name ++ ": " ++ e.reason)
      if !m.quiet then putLine (toString text.length)

def fail (m : Manner) : Work α := do
  finish m
  if !m.keeps then
    for k in List.range (← get).made do
      setFiles ((← files).remove (m.naming.get k))
  exit 1

def protest (text : String) (repetition : Nat) : Work Unit := do
  let times := if repetition = 0 then "" else " on repetition " ++ toString repetition
  let _ ← write 2 ((← name) ++ ": " ++ text ++ times ++ "\n")

def takeLine : Work (Option (List Char)) := do
  let c ← get
  match c.rest with
  | [] => return none
  | l :: ls =>
    set { c with rest := ls, first := c.first + 1, current := max c.current c.first }
    return some l

def lineAt? (n : Nat) : Work (Option (List Char)) := do
  let c ← get
  return if n < c.first then none else c.rest[n - c.first]?

def save (line : List Char) : Work Unit :=
  modify fun c => { c with piece := c.piece.map fun p => (p.1, p.2.1, line :: p.2.2) }

def saveRest : Work Unit :=
  modify fun c =>
    { c with
      rest := []
      piece := c.piece.map fun p => (p.1, p.2.1, c.rest.reverse ++ p.2.2) }

/-- The number of the first line that is left. -/
def firstLine : Work Nat := do
  let c ← get
  if c.rest.isEmpty then die "input disappeared" 1
  return c.first

/-- Takes lines before a number. Nothing comes back if there are not enough. -/
def takeBefore (keep : Bool) (last : Nat) : (steps : Nat) → (line : Nat) → Work (Option Unit)
  | 0, _ => return none
  | steps + 1, line => do
    if last ≤ line then return some ()
    match ← takeLine with
    | none => return none
    | some l =>
      if keep then save l
      takeBefore keep last steps (line + 1)

def steps : Work Nat := return (← get).rest.length + 2

def atLine (m : Manner) (number repetition : Nat) : Work Unit := do
  let missing : Work Unit := do
    protest (Text.literalQuote (toString number) ++ ": line number out of range") repetition
    fail m
  let overrun : Work Bool := return (← lineAt? ((← get).current + 1)).isNone
  start m
  if m.dropsMatched then
    if ← overrun then missing
  let first ← firstLine
  match ← takeBefore true (number * (repetition + 1)) (← steps) first with
  | none => missing
  | some () => pure ()
  finish m
  if m.dropsMatched then
    let _ ← takeLine
  else if ← overrun then missing

/-- Looks for a line that fits, and takes the lines on the way if there is no need to come back to
them. -/
def seek (r : Regex) (skips returns : Bool) : (steps : Nat) → Work Bool
  | 0 => return false
  | steps + 1 => do
    modify fun c => { c with current := c.current + 1 }
    match ← lineAt? (← get).current with
    | none => return false
    | some l =>
      let bare := if l.getLast? = some '\n' then l.dropLast else l
      let text := (Octets.characters bare).toArray
      if (Regex.search { text, lines := true, wide := true } r 0).isSome then return true
      if !returns then
        match ← takeLine with
        | some l => if !skips then save l
        | none => pure ()
      seek r skips returns steps

/-- Cuts at the next line that fits. Whether there is one. -/
def atFitting (m : Manner) (cut : Cut) (r : Regex) (offset : Int) (skips : Bool) (repetition : Nat) :
    Work Bool := do
  if !skips then start m
  if !(← seek r skips (decide (offset < 0)) (← steps)) then
    if cut.repeats.isSome then
      protest (Text.literalQuote cut.text ++ ": match not found") repetition
    if !skips then
      saveRest
      finish m
    if cut.repeats.isSome then fail m
    return false
  let target : Int := (← get).current + offset
  let last := (if target < 0 then target + Nat.pow 2 64 else target).toNat
  let first ← firstLine
  let taken ← if last < first then pure none else takeBefore (!skips) last (← steps) first
  if taken.isNone then
    complain (Text.literalQuote cut.text ++ ": line number out of range")
    fail m
  if !skips then finish m
  if 0 < offset then modify fun c => { c with current := last }
  if m.dropsMatched then
    let _ ← takeLine
  return true

/-- Makes a cut as often as it is asked for. Whether there may be more of the text. -/
def repeated (m : Manner) (cut : Cut) : (steps : Nat) → (repetition : Nat) → Work Bool
  | 0, _ => return true
  | steps + 1, repetition => do
    if (cut.repeats.map (decide <| · < repetition)).getD false then return true
    let more ← match cut.target with
      | .line n => do
        atLine m n repetition
        pure true
      | .fitting r offset skips => atFitting m cut r offset skips repetition
    if more then repeated m cut steps (repetition + 1) else return false

def allCuts (m : Manner) : List Cut → Work Unit
  | [] => do
    start m
    saveRest
    finish m
  | cut :: cuts => do
    if ← repeated m cut (2 * (← steps)) 0 then allCuts m cuts

/-- A pattern between its delimiters, with the offset behind it. -/
def readPattern (text : String) (delimiter : Char) : Program Target := do
  let inner := text.toList.drop 1
  if !inner.contains delimiter then
    die (text ++ ": closing delimiter '" ++ String.singleton delimiter ++ "' missing") 1
  let behind := (inner.reverse.takeWhile (· ≠ delimiter)).reverse
  let pattern := inner.take (inner.length - behind.length - 1)
  let r ← match Regex.parse .looseBasic (Octets.characters pattern) with
    | .ok r => pure r.regex
    | .error e => die (Text.literalQuote text ++ ": invalid regular expression: " ++ e) 1
  let offset ← if behind.isEmpty then pure 0 else match numeral 10 true "" (String.ofList behind) with
    | (n, none) => pure n
    | _ => die (Text.literalQuote text ++ ": integer expected after delimiter") 1
  return .fitting r offset (delimiter = '%')

def readRepeats (text : String) : Program (Option Nat) := do
  if text.toList.getLast? ≠ some '\x7d' then
    die (Text.literalQuote text ++ ": '\x7d' is required in repeat count") 1
  let inner := (text.toList.drop 1).dropLast
  if inner = ['*'] then return none
  match numeral 10 false "" (String.ofList inner) with
  | (n, none) => return some n.toNat
  | _ => die (Text.literalQuote (String.ofList text.toList.dropLast) ++
      "\x7d: integer required between '\x7b' and '\x7d'") 1

/-- The cut that an operand asks for; `last` is the number of the last line that was named. -/
def readTarget (last : Nat) (a : String) : Program (Target × Nat) := do
  match a.toList.head? with
  | some '/' => return (← readPattern a '/', last)
  | some '%' => return (← readPattern a '%', last)
  | _ =>
    let n ← match numeral 10 false "" a with
      | (n, none) => pure n.toNat
      | _ => die (Text.literalQuote a ++ ": invalid pattern") 1
    if n = 0 then die (a ++ ": line number must be greater than zero") 1
    if n < last then
      die ("line number " ++ Text.literalQuote a ++ " is smaller than preceding line number, " ++
        toString last) 1
    if n = last then
      complain ("warning: line number " ++ Text.literalQuote a ++ " is the same as preceding line number")
    return (.line n, n)

/-- The cuts that operands ask for; behind each, `some` cut, may stand how often it is repeated. -/
def readCuts (last : Nat) : (before : Option Cut) → List String → Program (List Cut)
  | before, [] => return before.toList
  | some cut, a :: as => do
    if a.toList.head? = some '\x7b' then
      let repeats ← readRepeats a
      return { cut with repeats } :: (← readCuts last none as)
    else
      let (target, last) ← readTarget last a
      return cut :: (← readCuts last (some { text := a, target }) as)
  | none, a :: as => do
    let (target, last) ← readTarget last a
    readCuts last (some { text := a, target }) as

/-- The text up to a conversion, two percent signs standing for one, and what follows its percent
sign if there is one. -/
def upToConversion : List Char → List Char × Option (List Char)
  | [] => ([], none)
  | '%' :: '%' :: cs => ('%' :: (upToConversion cs).1, (upToConversion cs).2)
  | '%' :: cs => ([], some cs)
  | c :: cs => (c :: (upToConversion cs).1, (upToConversion cs).2)

def readNaming (stem format : String) : Program Naming := do
  match upToConversion format.toList with
  | (_, none) => die "missing % conversion specification in suffix" 1
  | (before, some cs) =>
    let flags := cs.takeWhile fun c => c = '-' || c = '0' || c = '\'' || c = '#'
    let cs := cs.drop flags.length
    let width := cs.takeWhile Char.isDigit
    let cs := cs.drop width.length
    let (precision, cs) : Option (List Char) × List Char := match cs with
      | '.' :: cs => (some (cs.takeWhile Char.isDigit), cs.dropWhile Char.isDigit)
      | _ => (none, cs)
    let number (ds : List Char) : Nat := ds.foldl (fun n d => n * 10 + (d.toNat - '0'.toNat)) 0
    let shape : Number.Shape :=
      { left := flags.contains '-', zeros := flags.contains '0', alternate := flags.contains '#'
        width := number width, precision := precision.map number }
    let refused (c : Char) (flag : Char) : Program Unit := do
      if flags.contains flag then
        die ("invalid flags in conversion specification: %" ++ String.ofList [flag, c]) 1
    let write : Nat → String ← match cs with
      | [] => die "missing conversion specifier in suffix" 1
      | c :: _ =>
        if c = 'd' || c = 'i' || c = 'u' then do
          refused c '#'
          pure fun n => shape.natural 10 false n
        else if c = 'o' || c = 'x' || c = 'X' then do
          refused c '\''
          pure fun n => shape.natural (if c = 'o' then 8 else 16) (c = 'X') n
        else if ' ' ≤ c && c ≤ '~' then
          die ("invalid conversion specifier in suffix: " ++ String.singleton c) 1
        else
          let digits := String.ofList (Nat.toDigits 8 c.toNat)
          die ("invalid conversion specifier in suffix: \\" ++
            Number.Shape.fill '0' (3 - digits.length) ++ digits) 1
    match upToConversion (cs.drop 1) with
    | (_, some _) => die "too many % conversion specifications in suffix" 1
    | (after, none) =>
      return { stem, before := String.ofList before, after := String.ofList after, number := write }

end Sections

open Sections in
def csplit : Program Nat := do
  let p ← parsed { choices := ["b,suffix-format:", "f,prefix:", "k,keep-files", "n,digits:",
    "s,q,quiet,silent", "z,elide-empty-files", "suppress-matched"] }
  let mut digits : Int := 2
  for text in p.values "n" do
    digits ← numeralWithin "invalid number" 0 (Nat.pow 2 31 - 1) "" text
  let (path, rest) ← match p.operands with
    | [] => misuse "missing operand" 1
    | [a] => misuse ("missing operand after " ++ Text.literalQuote a) 1
    | a :: as => pure (a, as)
  let stem := (p.value? "f").getD "xx"
  let width := digits.toNat
  let plainNumber (n : Nat) : String := ({ zeros := true, width } : Number.Shape).natural 10 false n
  let naming ← match p.value? "b" with
    | some format => readNaming stem format
    | none => pure { stem, number := plainNumber }
  let content ← operand path
  match content with
  | .error (.unopened e) =>
    die ("cannot open " ++ Text.shellQuote path ++ " for reading: " ++ e.reason) 1
  | _ => pure ()
  let cuts ← readCuts 0 none rest
  let m : Manner :=
    { naming, keeps := p.has "k", quiet := p.has "s", skipsEmpty := p.has "z"
      dropsMatched := p.has "suppress-matched" }
  match content with
  | .error e =>
    let startsOutput := match cuts with
      | { target := .fitting _ _ true, .. } :: _ => false
      | _ => true
    let work : Sections.Work Unit := do
      if startsOutput then start m
      complain ("read error: " ++ e.fault.reason)
      fail m
    let _ ← work.run { rest := [] }
    return 1
  | .ok cs =>
    let _ ← (allCuts m cuts).run { rest := Pieces.linesOf '\n' cs }
    return 0

end DeltaDebugging.Utility
