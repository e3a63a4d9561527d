import DeltaDebugging.Number.Natural

/-!
# Shell arithmetic

Integers of 64 bits with the operators of C. An expression is read by climbing through the
levels of its operators, the loosest first, and evaluated on the way; what a condition
rules out is read but not evaluated, so it neither assigns nor divides by zero.
-/
namespace DeltaDebugging.Shell.Arithmetic

inductive Defect where
  | divisionByZero
  | expecting (what : String)
  /-- A number is malformed; the complaint names it and nothing else. -/
  | illegalNumber (text : String)
  | readOnly (name : String)
  deriving DecidableEq, Repr

structure Bindings where
  values : List (String × String)
  readOnly : String → Bool
  assigned : List (String × Int) := []

inductive Token where
  | number (n : Int)
  | name (s : String)
  | sign (s : String)
  | exhausted
  | bad
  deriving DecidableEq, Repr

def truth (b : Bool) : Int := if b then 1 else 0

def wrap (n : Int) : Int := Int.bmod n Number.wordCount

/-- A number too large for a word counts as the largest. -/
def clamp (n : Nat) : Int :=
  if n < Number.wordCount / 2 then n else Number.wordCount / 2 - 1

def digitValue (d : Char) : Nat :=
  if d.isDigit then d.toNat - '0'.toNat
  else if 'a' ≤ d.toLower && d.toLower ≤ 'z' then d.toLower.toNat - 'a'.toNat + 10
  else 99

def digitsIn (base : Nat) (cs : List Char) : Nat × List Char :=
  let ds := cs.takeWhile fun c => digitValue c < base
  (ds.foldl (fun n d => n * base + digitValue d) 0, cs.drop ds.length)

/-- A number in base ten, or in base eight or sixteen behind a zero, and what follows it. -/
def numberAt : List Char → Nat × List Char
  | '0' :: x :: c :: cs =>
    if (x == 'x' || x == 'X') && digitValue c < 16 then digitsIn 16 (c :: cs)
    else digitsIn 8 ('0' :: x :: c :: cs)
  | '0' :: cs => digitsIn 8 ('0' :: cs)
  | cs => digitsIn 10 cs

def isBlank (c : Char) : Bool := c == ' ' || c == '\t' || c == '\n'

/-- The operators, a longer one before those it begins with. -/
def signs : List String :=
  ["<<=", ">>=", "<<", ">>", "<=", ">=", "==", "!=", "&&", "||", "+=", "-=", "*=", "/=", "%=",
    "&=", "|=", "^=", "<", ">", "=", "+", "-", "*", "/", "%", "&", "|", "^", "~", "!", "?", ":",
    "(", ")"]

def tokenAt (cs : List Char) : Token × List Char :=
  match cs.dropWhile isBlank with
  | [] => (.exhausted, [])
  | c :: rest =>
    if c.isDigit then
      let (n, after) := numberAt (c :: rest)
      (.number (clamp n), after)
    else if c.isAlpha || c == '_' then
      let name := (c :: rest).takeWhile fun d => d.isAlphanum || d == '_'
      (.name (String.ofList name), (c :: rest).drop name.length)
    else match signs.find? fun s => s.toList.isPrefixOf (c :: rest) with
      | some s => (.sign s, (c :: rest).drop s.length)
      | none => (.bad, c :: rest)

/-- Operators that take the two sides next to them, with their levels; the tightest binds
first. -/
def level? (sign : String) : Option Nat :=
  [("*", 10), ("/", 10), ("%", 10), ("+", 9), ("-", 9), ("<<", 8), (">>", 8), ("<", 7), ("<=", 7),
    (">", 7), (">=", 7), ("==", 6), ("!=", 6), ("&", 5), ("^", 4), ("|", 3)].lookup sign

def operate (op : String) (a b : Int) : Except Defect Int :=
  if op = "|" then .ok (Int64.ofInt a ||| Int64.ofInt b).toInt
  else if op = "^" then .ok (Int64.ofInt a ^^^ Int64.ofInt b).toInt
  else if op = "&" then .ok (Int64.ofInt a &&& Int64.ofInt b).toInt
  else if op = "==" then .ok (truth (a = b))
  else if op = "!=" then .ok (truth (a ≠ b))
  else if op = "<=" then .ok (truth (a ≤ b))
  else if op = ">=" then .ok (truth (b ≤ a))
  else if op = "<" then .ok (truth (a < b))
  else if op = ">" then .ok (truth (b < a))
  else if op = "<<" then .ok (Int64.ofInt a <<< Int64.ofInt b).toInt
  else if op = ">>" then .ok (Int64.ofInt a >>> Int64.ofInt b).toInt
  else if op = "+" then .ok (wrap (a + b))
  else if op = "-" then .ok (wrap (a - b))
  else if op = "*" then .ok (wrap (a * b))
  else if b = 0 then .error .divisionByZero
  else if op = "/" then .ok (wrap (a.tdiv b))
  else .ok (a.tmod b)

/-- Reading an expression: what is left of it, and what it assigned so far. -/
abbrev Reading := EStateM Defect (List Char × Bindings)

def peek : Reading Token := return (tokenAt (← get).1).1

def drop : Reading Unit := modify fun s => ((tokenAt s.1).2, s.2)

def wholeNumber? (text : String) : Option Int :=
  let cs := text.toList.dropWhile fun c => c == ' ' || ('\t' ≤ c && c ≤ '\r')
  let (negative, ds) := match cs with
    | '-' :: ds => (true, ds)
    | '+' :: ds => (false, ds)
    | ds => (false, ds)
  if !ds.head?.any Char.isDigit then (if cs.isEmpty then some 0 else none) else
  let (n, rest) := numberAt ds
  if (rest.dropWhile fun c => c == ' ' || ('\t' ≤ c && c ≤ '\r')).isEmpty then
    some (if negative then max (-(n : Int)) (-(Number.wordCount / 2 : Nat)) else clamp n)
  else none

def valueOf (name : String) : Reading Int := do
  let b := (← get).2
  match b.assigned.lookup name with
  | some n => return n
  | none => match b.values.lookup name with
    | none => return 0
    | some text => match wholeNumber? text with
      | some n => return n
      | none => throw (.illegalNumber text)

def bind (name : String) (n : Int) : Reading Unit := do
  if (← get).2.readOnly name then throw (.readOnly name)
  modify fun s => (s.1, { s.2 with assigned := (name, n) :: s.2.assigned })

mutual

/-- A number, a name, a bracket, or one of these behind signs. `skipped` holds where nothing
is to be evaluated. -/
def primary (skipped : Bool) : (steps : Nat) → Reading Int
  | 0 => throw (.expecting "primary")
  | steps + 1 => do
    match ← peek with
    | .sign "(" =>
      drop
      let n ← assignment skipped steps
      if (← peek) ≠ .sign ")" then throw (.expecting "')'")
      drop
      return n
    | .number n =>
      drop
      return n
    | .name s =>
      drop
      if skipped then return 0 else valueOf s
    | .sign "+" =>
      drop
      primary skipped steps
    | .sign "-" =>
      drop
      return wrap (-(← primary skipped steps))
    | .sign "!" =>
      drop
      return truth ((← primary skipped steps) = 0)
    | .sign "~" =>
      drop
      return -(← primary skipped steps) - 1
    | _ => throw (.expecting "primary")

/-- Operators of at least the given level, after a left side. -/
def climb (skipped : Bool) : (steps : Nat) → (least : Nat) → (left : Int) → Reading Int
  | 0, _, left => return left
  | steps + 1, least, left => do
    match ← peek with
    | .sign op => match level? op with
      | none => return left
      | some l =>
        if l < least then return left else
        drop
        let right ← primary skipped steps
        let right ← climb skipped steps (l + 1) right
        let value ← if skipped then pure 0 else match operate op left right with
          | .ok n => pure n
          | .error e => throw e
        climb skipped steps least value
    | _ => return left

def conjunction (skipped : Bool) : (steps : Nat) → Reading Int
  | 0 => throw (.expecting "primary")
  | steps + 1 => do
    let a ← climb skipped steps 0 (← primary skipped steps)
    if (← peek) = .sign "&&" then
      drop
      let b ← conjunction (skipped || a = 0) steps
      return truth (a ≠ 0 && b ≠ 0)
    else return a

def disjunction (skipped : Bool) : (steps : Nat) → Reading Int
  | 0 => throw (.expecting "primary")
  | steps + 1 => do
    let a ← conjunction skipped steps
    if (← peek) = .sign "||" then
      drop
      let b ← disjunction (skipped || a ≠ 0) steps
      return truth (a ≠ 0 || b ≠ 0)
    else return a

def choice (skipped : Bool) : (steps : Nat) → Reading Int
  | 0 => throw (.expecting "primary")
  | steps + 1 => do
    let a ← disjunction skipped steps
    if (← peek) = .sign "?" then
      drop
      let b ← assignment (skipped || a = 0) steps
      if (← peek) ≠ .sign ":" then throw (.expecting "':'")
      drop
      let c ← choice (skipped || a ≠ 0) steps
      return if a ≠ 0 then b else c
    else return a

def assignment (skipped : Bool) : (steps : Nat) → Reading Int
  | 0 => throw (.expecting "primary")
  | steps + 1 => do
    let before ← get
    match ← peek with
    | .name s =>
      drop
      match ← peek with
      | .sign "=" =>
        drop
        let n ← assignment skipped steps
        if !skipped then bind s n
        return n
      | .sign op =>
        match op.toList.getLast? with
        | some '=' =>
          let inner := String.ofList op.toList.dropLast
          if (level? inner).isSome && op ≠ "<=" && op ≠ ">=" && op ≠ "==" && op ≠ "!=" then
            drop
            let n ← assignment skipped steps
            if skipped then return n
            match operate inner (← valueOf s) n with
            | .ok n =>
              bind s n
              return n
            | .error e => throw e
          else
            set before
            choice skipped steps
        | _ =>
          set before
          choice skipped steps
      | _ =>
        set before
        choice skipped steps
    | _ => choice skipped steps

end

/-- The value of an expression and what it assigned, the latest first. -/
def evaluate (b : Bindings) (text : String) : Except Defect (Int × List (String × Int)) :=
  let cs := text.toList
  let read : Reading Int := do
    let n ← assignment false (16 * cs.length + 64)
    if (← peek) ≠ .exhausted then throw (.expecting "EOF")
    return n
  match read (cs, b) with
  | .ok n s => .ok (n, s.2.assigned)
  | .error e _ => .error e

def Defect.message (text : String) : Defect → String
  | divisionByZero => "arithmetic expression: division by zero: \"" ++ text ++ "\""
  | expecting what => "arithmetic expression: expecting " ++ what ++ ": \"" ++ text ++ "\""
  | illegalNumber s => "Illegal number: " ++ s
  | readOnly name => name ++ ": is read only"

end DeltaDebugging.Shell.Arithmetic
