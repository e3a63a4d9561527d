import DeltaDebugging.Utility.Lines
import DeltaDebugging.Utility.Numeral

/-!
# Filling lines

Breaks the words of paragraphs into lines that come near a goal. Of all ways to break a
paragraph the one with the least cost is taken: lines cost more the further they are from the
goal and from the length of the next line, and some places are better than others for a break.
-/
namespace DeltaDebugging.Utility

open Program

namespace Filling

structure Word where
  text : List Char
  /-- The blanks behind it. -/
  space : Nat := 0
  /-- Whether it begins with an opening mark. -/
  paren : Bool := false
  /-- Whether it ends like a sentence. -/
  period : Bool := false
  punct : Bool := false
  /-- Whether a sentence ends with it. -/
  final : Bool := false
  deriving Repr

def Word.length (w : Word) : Int := w.text.length

structure Layout where
  crown : Bool := false
  tagged : Bool := false
  split : Bool := false
  uniform : Bool := false
  width : Nat := 75
  goal : Nat := 70
  leading : Nat := 0
  /-- What lines have to begin with, without blanks behind it. -/
  mark : List Char := []
  markWidth : Nat := 0

structure Place where
  rest : List Char
  /-- The column of the next character. -/
  column : Nat := 0
  /-- The column at which the mark of the line stands. -/
  indent : Nat := 0
  tabs : Bool := false
  /-- The indent of later lines of a paragraph. -/
  other : Nat := 0
  /-- The length of the last line of the paragraph that is printed in parts. -/
  last : Int := 0

def Place.blanks (p : Place) : Place := go p.rest p
where
  go : List Char → Place → Place
    | ' ' :: cs, p => go cs { p with rest := cs, column := p.column + 1 }
    | '\t' :: cs, p => go cs { p with rest := cs, column := (p.column / 8 + 1) * 8, tabs := true }
    | _, p => p

/-- Begins a line: passes over blanks, the mark and blanks behind it. -/
def Place.begin (l : Layout) (p : Place) : Place :=
  let p := { p with column := 0 }.blanks
  if l.mark.isEmpty then { p with indent := min l.leading p.column }
  else go l.mark { p with indent := p.column }
where
  go : List Char → Place → Place
    | [], p => p.blanks
    | m :: ms, p => match p.rest with
      | c :: cs => if c = m then go ms { p with rest := cs, column := p.column + 1 } else p
      | [] => p

def Place.continues (l : Layout) (start : Nat) (p : Place) : Bool :=
  p.indent = start && p.indent + l.markWidth ≤ p.column &&
    match p.rest with
    | [] => false
    | c :: _ => c ≠ '\n'

def isOpen (c : Char) : Bool := "(['\x60\"".toList.contains c

def isClose (c : Char) : Bool := ")]'\"".toList.contains c

def isPeriod (c : Char) : Bool := ".?!".toList.contains c

def isPunctuation (c : Char) : Bool := '!' ≤ c && c ≤ '~' && !c.isAlphanum

def isSpace (c : Char) : Bool := c = ' ' || ('\t' ≤ c && c ≤ '\r')

def Word.ofText (text : List Char) : Word :=
  let closing := (text.drop 1).reverse.takeWhile isClose
  { text
    paren := text.head?.any isOpen
    punct := text.getLast?.any isPunctuation
    period := (text.take (text.length - closing.length)).getLast?.any isPeriod }

/-- The words of a line, in front of those that come later, and the place of the next line. -/
def line (l : Layout) : (steps : Nat) → Place → List Word × Place
  | 0, p => ([], p)
  | steps + 1, p =>
    let text := match p.rest with
      | [] => []
      | c :: cs => c :: cs.takeWhile fun c => !isSpace c
    let w := Word.ofText text
    let start := p.column + text.length
    let p := { p with rest := p.rest.drop text.length, column := start }.blanks
    let ended := match p.rest with
      | [] => true
      | c :: _ => decide (c = '\n')
    let space := p.column - start
    let final := p.rest.isEmpty || (w.period && (ended || 1 < space))
    let space := if ended || l.uniform then (if final then 2 else 1) else space
    let w := { w with space, final }
    if ended then ([w], { p with rest := p.rest.drop 1 }.begin l)
    else
      let (ws, p) := line l steps p
      (w :: ws, p)

/-- The words of lines as long as they continue a paragraph and have its other indent. -/
def lines (l : Layout) (start : Nat) : (steps : Nat) → Place → List (List Word) × Place
  | 0, p => ([], p)
  | steps + 1, p =>
    if p.continues l start && p.column = p.other then
      let (ws, p) := line l (p.rest.length + 1) p
      let (more, p) := lines l start steps p
      (ws :: more, p)
    else ([], p)

/-- The indent of the later lines of a paragraph after its first one. -/
def otherIndent (l : Layout) (first : Nat) (continues : Bool) (p : Place) : Nat :=
  if l.split then first
  else if l.crown then (if continues then p.column else first)
  else if l.tagged then
    if continues && p.column ≠ first then p.column
    else if p.other = first then (if first = 0 then 3 else 0) else p.other
  else first

def square (n : Int) : Int := n * n

def shortCost (n : Int) : Int := square (n * 10)

def raggedCost (n : Int) : Int := shortCost n / 2

/-- The best break behind a word: the index of the first word of the next line, the cost of all
lines from the word on, and the length of its line. -/
structure Break where
  next : Nat
  cost : Int
  length : Int
  deriving Inhabited

def baseCost (ws : Array Word) (k : Nat) : Int :=
  let w := ws.getD k { text := [] }
  let base := square 70
  let base := if k = 0 then base else
    let v := ws.getD (k - 1) { text := [] }
    if v.period then (if v.final then base - square 50 else base + square 600)
    else if v.punct then base - square 40
    else if 1 < k && (ws.getD (k - 2) { text := [] }).final then base + square 200 / (v.length + 2)
    else base
  if w.paren then base - square 40
  else if w.final then base + square 150 / (w.length + 2)
  else base

/-- The best break for a line from a word on, given those for all later words. -/
def bestBreak (l : Layout) (ws : Array Word) (breaks : Array Break) (last : Int) (k : Nat) (indent : Nat) : Break :=
  let rec go : (steps : Nat) → (j : Nat) → (length : Int) → (best : Option Break) → Option Break
    | 0, _, _, best => best
    | steps + 1, j, length, best =>
      let after := breaks.getD j default
      let cost := if j = ws.size then 0 else
        shortCost (l.goal - length) + after.cost +
          (if after.next ≠ ws.size then raggedCost (length - after.length) else 0)
      let cost := if k = 0 && 0 < last then cost + raggedCost (length - last) else cost
      let best := match best with
        | some b => if cost < b.cost then some ⟨j, cost, length⟩ else some b
        | none => some ⟨j, cost, length⟩
      if j = ws.size then best else
      let length := length + (ws.getD (j - 1) { text := [] }).space + (ws.getD j { text := [] }).length
      if length < l.width then go steps (j + 1) length best else best
  let first : Int := indent + (ws.getD k { text := [] }).length
  match go (ws.size + 1) (k + 1) first none with
  | some b => { b with cost := b.cost + baseCost ws k }
  | none => ⟨ws.size, 0, first⟩

def breaks (l : Layout) (ws : Array Word) (first other : Nat) (last : Int) : Array Break :=
  let start := Array.replicate (ws.size + 1) (⟨ws.size, 0, 0⟩ : Break)
  (List.range ws.size).foldl (fun bs n =>
    let k := ws.size - 1 - n
    bs.set! k (bestBreak l ws bs last k (if k = 0 then first else other))) start

/-- Blanks up to a column, with tabs if there are some in the text. -/
def spaces (tabs : Bool) (column count : Nat) : String :=
  let target := column + count
  let stop := target / 8 * 8
  if tabs && column + 1 < stop then
    String.ofList (List.replicate ((stop - column + 7) / 8) '\t' ++ List.replicate (target - stop) ' ')
  else String.ofList (List.replicate count ' ')

def wordsText (tabs : Bool) : List Word → (column : Nat) → String × Nat
  | [], column => ("", column)
  | [w], column => (String.ofList w.text, column + w.text.length)
  | w :: ws, column =>
    let column := column + w.text.length
    let (more, ended) := wordsText tabs ws (column + w.space)
    (String.ofList w.text ++ spaces tabs column w.space ++ more, ended)

def printLines (l : Layout) (ws : Array Word) (bs : Array Break) (start first other : Nat) (finish : Nat) :
    (steps : Nat) → (k : Nat) → Place → Program Place
  | 0, _, p => return p
  | steps + 1, k, p => do
    if finish ≤ k then return p
    let next := (bs.getD k default).next
    let indent := if k = 0 then first else other
    let lead := spaces p.tabs 0 start ++ String.ofList l.mark
    let column := start + l.mark.length
    let row := (ws.extract k next).toList
    let (text, ended) := wordsText p.tabs row (max column indent)
    putLine (lead ++ spaces p.tabs column (indent - column) ++ text)
    printLines l ws bs start first other finish steps next { p with last := ended }

/-- The greatest number of words of a paragraph, and of characters in them. -/
def mostWords : Nat := 1000

def mostCharacters : Nat := 5000

/-- A good place to cut a long paragraph: the start of a line near its end that costs little. -/
def cutPoint (bs : Array Break) (size : Nat) : (steps : Nat) → (k : Nat) → (best : Option Int) → (found : Nat) → Nat
  | 0, _, _, found => found
  | steps + 1, k, best, found =>
    if size ≤ k then found else
    let b := bs.getD k default
    let gain := b.cost - (bs.getD b.next default).cost
    let (best, found) := match best with
      | some c => if gain < c then (gain, k) else (c, found)
      | none => (gain, k)
    cutPoint bs size steps b.next (some (best + 9)) found

/-- Prints the words of a paragraph, in parts if there are too many. -/
def paragraph (l : Layout) (start first other : Nat) : (steps : Nat) → List Word → Place → Program Place
  | 0, _, p => return p
  | steps + 1, ws, p => do
    let rec fits : List Word → (count characters : Nat) → Nat
      | [], count, _ => count
      | w :: ws, count, characters =>
        if mostCharacters < characters + w.text.length || mostWords - 2 ≤ count then count
        else fits ws (count + 1) (characters + w.text.length)
    let n := fits ws 0 0
    let all := ws.toArray
    if ws.length ≤ n || n = 0 then
      let bs := breaks l all first other p.last
      printLines l all bs start first other all.size (all.size + 1) 0 p
    else
      let part := all.extract 0 n
      let bs := breaks l part first other p.last
      let cut := cutPoint bs n (n + 1) (bs.getD 0 default).next none n
      let p ← printLines l part bs start first other cut (n + 1) 0 p
      paragraph l start first other steps (ws.drop cut) p

/-- A line that belongs to no paragraph, as it is. -/
def copied (l : Layout) (p : Place) : Program Place := do
  let ended := match p.rest with
    | [] => true
    | c :: _ => decide (c = '\n')
  if p.indent < p.column || !ended then
    let shown := l.mark.take (p.column - p.indent)
    put (spaces p.tabs 0 p.indent ++ String.ofList shown)
    let column := p.indent + shown.length
    if !ended then put (spaces p.tabs column (p.column - column))
    if p.rest.isEmpty && p.indent + l.mark.length ≤ p.column then put "\n"
  let body := p.rest.takeWhile (· ≠ '\n')
  put (String.ofList body)
  return { p with rest := p.rest.drop body.length }

def fill (l : Layout) : (steps : Nat) → Place → Program Unit
  | 0, _ => return
  | steps + 1, p => do
    let blank := match p.rest with
      | [] => true
      | c :: _ => decide (c = '\n')
    if blank || p.indent < l.leading || p.column < p.indent + l.markWidth then
      let p ← copied l p
      match p.rest with
      | [] => return
      | _ :: rest =>
        put "\n"
        fill l steps ({ p with rest }.begin l)
    else
      let (start, first) := (p.indent, p.column)
      let (head, p) := line l (p.rest.length + 1) p
      let continues := p.continues l start
      let p := { p with other := otherIndent l first continues p }
      let more := if l.split then false
        else if l.tagged && !l.crown then continues && p.column ≠ first
        else continues
      let (tail, p) := if !more then ([], p)
        else if l.crown || l.tagged then
          let (ws, p) := line l (p.rest.length + 1) p
          let (more, p) := lines l start (p.rest.length + 1) p
          (ws :: more, p)
        else lines l start (p.rest.length + 1) p
      let ws := (head :: tail).flatten
      let ws := ws.dropLast ++ (ws.getLast?.toList.map fun w => { w with period := true, final := true })
      let p ← paragraph l start first p.other (ws.length + 1) ws { p with last := 0 }
      fill l steps p

end Filling

open Filling in
def fmt : Program Nat := do
  withArguments fun as => match as with
    | a :: rest => match a.toList with
      | '-' :: c :: cs => if c.isDigit then ("-w" ++ String.ofList (c :: cs)) :: rest else as
      | _ => as
    | [] => as
  let p ← parsed
    { choices := ["c,crown-margin", "p,prefix:", "s,split-only", "t,tagged-paragraph", "u,uniform-spacing",
        "w,width:", "g,goal:", "0", "1", "2", "3", "4", "5", "6", "7", "8", "9"] }
  match p.options.find? fun o => o.key.toList.all Char.isDigit with
  | some o => misuse ("invalid option -- " ++ o.key ++
      "; -WIDTH is recognized only when it is the first\noption; use -w N instead") 1
  | none => pure ()
  let width ← match p.value? "w" with
    | some w => some <$> numeralWithin "invalid width" 0 2500 "" w
    | none => pure none
  let goal ← match p.value? "g" with
    | some g => some <$> numeralWithin "invalid width" 0 (width.getD 75) "" g
    | none => pure none
  let most := match width, goal with
    | some w, _ => w.toNat
    | none, some g => g.toNat + 10
    | none, none => 75
  let mark := ((p.value? "p").getD "").toList
  let bare := mark.dropWhile (· = ' ')
  let l : Layout :=
    { crown := p.has "c"
      tagged := p.has "t"
      split := p.has "s"
      uniform := p.has "u"
      width := most
      goal := match goal with
        | some g => g.toNat
        | none => most * 187 / 200
      leading := mark.length - bare.length
      mark := (bare.reverse.dropWhile (· = ' ')).reverse
      markWidth := bare.length }
  for path in inputs p do
    match ← operand path with
    | .ok cs => fill l (cs.length + 2) (Place.begin l { rest := cs })
    | .error (.unopened e) =>
      complain ("cannot open " ++ Text.shellQuote path ++ " for reading: " ++ e.reason)
      raise 1
    | .error (.unreadable _) =>
      complain "read error"
      raise 1
  return 0

end DeltaDebugging.Utility
