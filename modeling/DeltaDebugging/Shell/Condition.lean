import DeltaDebugging.Files.Basic
import DeltaDebugging.Number.Natural

/-!
# Conditions

The language of `test`: unary operators on files and texts, comparisons, negation,
brackets, and the two connectives, of which `-a` binds closer. What an argument means
depends on those after it, so `-f` alone is a text and before `=` too.

A reader is given the arguments from its first one on and returns the value with the
arguments from the last one that it used on.
-/
namespace DeltaDebugging.Shell.Condition

def unaryOperators : List String :=
  ["-b", "-c", "-d", "-e", "-f", "-g", "-G", "-h", "-k", "-L", "-n", "-O", "-p", "-r", "-s",
    "-S", "-t", "-u", "-w", "-x", "-z"]

def binaryOperators : List String :=
  ["-ef", "-eq", "-ge", "-gt", "-le", "-lt", "-ne", "-nt", "-ot", "!=", "<", "=", ">"]

inductive Token where
  | exhausted
  | operand
  | unary (op : String)
  | binary (op : String)
  | negation
  | conjunction
  | disjunction
  | opening
  | closing
  deriving DecidableEq, Repr

def Token.ofArgument (a : String) : Token :=
  if unaryOperators.contains a then unary a
  else if binaryOperators.contains a then binary a
  else if a = "!" then negation
  else if a = "-a" then conjunction
  else if a = "-o" then disjunction
  else if a = "(" then opening
  else if a = ")" then closing
  else operand

/-- What the first argument is in its place. A unary operator without an argument behind it
is an operand, and so is one between which and a further argument a comparison stands. -/
def token : List String → Token
  | [] => .exhausted
  | a :: rest => match Token.ofArgument a, rest with
    | .unary _, [] => .operand
    | .unary op, [_] => .unary op
    | .unary op, b :: _ :: _ => match Token.ofArgument b with
      | .binary _ => .operand
      | _ => .unary op
    | .opening, [] => .operand
    | t, _ => t

/-- A decimal number of 64 bits between blanks, with or without a sign. -/
def number (s : String) : Except String Int :=
  let blank (c : Char) : Bool := c == ' ' || ('\t' ≤ c && c ≤ '\r')
  let trimmed := ((s.toList.dropWhile blank).reverse.dropWhile blank).reverse
  let (negative, digits) := match trimmed with
    | '-' :: ds => (true, ds)
    | '+' :: ds => (false, ds)
    | ds => (false, ds)
  let n : Nat := digits.foldl (fun n d => n * 10 + (d.toNat - '0'.toNat)) 0
  let value : Int := if negative then -n else n
  if digits.isEmpty || !digits.all Char.isDigit || value ≠ Int.bmod value Number.wordCount then
    .error ("Illegal number: " ++ s)
  else .ok value

def isKind (files : Files) (path : String) (p : FileKind → Bool) : Bool :=
  (files.look? path).any fun node => p node.kind

def isRegular : FileKind → Bool
  | .regular _ | .program _ => true
  | _ => false

def isDevice : FileKind → Bool
  | .device _ | .descriptor _ => true
  | _ => false

def isLink (files : Files) (path : String) : Bool :=
  match files.locate false path with
  | .ok (_, _, ⟨.link _, _, _⟩) => true
  | _ => false

def isExecutable (files : Files) (path : String) : Bool :=
  (files.look? path).any fun node =>
    decide (node.kind = .directory) || node.mode / 64 % 2 = 1 || node.mode / 8 % 2 = 1 ||
      node.mode % 2 = 1

def isFifo : FileKind → Bool
  | .fifo _ => true
  | _ => false

def hasContent : FileKind → Bool
  | .regular content => !content.isEmpty
  | .directory => true
  | .program _ => true
  | _ => false

def hasBits (files : Files) (path : String) (bits : Nat) : Bool :=
  (files.look? path).any fun node => node.mode / bits % 2 = 1

def belongs (files : Files) (path : String) (part : Nat × Nat → Nat) : Bool :=
  ((files.locate true path).toOption).any fun found => part (files.owner found.2.1) = 0

def unaryHolds (files : Files) (op a : String) : Bool :=
  if op = "-n" then !a.isEmpty
  else if op = "-z" then a.isEmpty
  else if op = "-e" || op = "-r" || op = "-w" then files.present a
  else if op = "-O" then belongs files a Prod.fst
  else if op = "-G" then belongs files a Prod.snd
  else if op = "-f" then isKind files a isRegular
  else if op = "-d" then files.isDirectory a
  else if op = "-x" then isExecutable files a
  else if op = "-c" then isKind files a isDevice
  else if op = "-p" then isKind files a isFifo
  else if op = "-s" then isKind files a hasContent
  else if op = "-h" || op = "-L" then isLink files a
  else if op = "-u" then hasBits files a 0o4000
  else if op = "-g" then hasBits files a 0o2000
  else if op = "-k" then hasBits files a 0o1000
  else false

def binaryHolds (files : Files) (op a b : String) : Except String Bool :=
  let numbers (f : Int → Int → Bool) : Except String Bool := do return f (← number a) (← number b)
  if op = "=" then .ok (a = b)
  else if op = "!=" then .ok (a ≠ b)
  else if op = "<" then .ok (decide (a < b))
  else if op = ">" then .ok (decide (b < a))
  else if op = "-eq" then numbers fun x y => x = y
  else if op = "-ne" then numbers fun x y => x ≠ y
  else if op = "-lt" then numbers fun x y => x < y
  else if op = "-le" then numbers fun x y => x ≤ y
  else if op = "-gt" then numbers fun x y => x > y
  else if op = "-ge" then numbers fun x y => x ≥ y
  else if op = "-ef" then .ok (match files.locate true a, files.locate true b with
    | .ok (_, n, _), .ok (_, m, _) => decide (n = m)
    | _, _ => false)
  else if op = "-nt" then .ok (match files.look? a, files.look? b with
    | some x, some y => decide (y.changed < x.changed)
    | _, _ => false)
  else if op = "-ot" then .ok (match files.look? a, files.look? b with
    | some x, some y => decide (x.changed < y.changed)
    | _, _ => false)
  else .ok false

mutual

def disjunction (files : Files) : (steps : Nat) → List String → Except String (Bool × List String)
  | 0, as => .ok (false, as)
  | steps + 1, as => do
    let (value, as) ← conjunction files steps as
    if token (as.drop 1) = .disjunction then
      let (other, as) ← disjunction files steps (as.drop 2)
      return (value || other, as)
    else return (value, as)

def conjunction (files : Files) : (steps : Nat) → List String → Except String (Bool × List String)
  | 0, as => .ok (false, as)
  | steps + 1, as => do
    let (value, as) ← negated files steps as
    if token (as.drop 1) = .conjunction then
      let (other, as) ← conjunction files steps (as.drop 2)
      return (value && other, as)
    else return (value, as)

def negated (files : Files) : (steps : Nat) → List String → Except String (Bool × List String)
  | 0, as => .ok (false, as)
  | steps + 1, as => do
    if token as = .negation then
      let (value, rest) ← negated files steps (as.drop 1)
      return (!value, if as.length = 1 then as else rest)
    else primary files steps as

def primary (files : Files) : (steps : Nat) → List String → Except String (Bool × List String)
  | 0, as => .ok (false, as)
  | steps + 1, as => match token as, as with
    | .exhausted, _ => .ok (false, as)
    | .opening, _ =>
      if token (as.drop 1) = .closing then .ok (false, as.drop 1) else do
      let (value, as) ← disjunction files steps (as.drop 1)
      if token (as.drop 1) = .closing then return (value, as.drop 1)
      else throw "closing paren expected"
    | .unary op, _ :: a :: rest => .ok (unaryHolds files op a, a :: rest)
    | .unary op, _ => .error (op ++ ": argument expected")
    | _, a :: rest => match token rest, rest with
      | .binary op, _ :: b :: more => do return (← binaryHolds files op a b, b :: more)
      | .binary op, _ => .error (op ++ ": argument expected")
      | _, _ => .ok (!a.isEmpty, a :: rest)
    | _, [] => .ok (false, [])

end

/-- A comparison of three arguments is read as one, whatever its sides look like. Three or
four in brackets are those within, and after a negation it is the rest that counts. -/
def holds (files : Files) : (steps : Nat) → List String → Except String Bool
  | 0, _ => .ok false
  | _ + 1, [] => .ok false
  | steps + 1, arguments => do
    let whole (as : List String) : Except String Bool := do
      let (value, rest) ← disjunction files (8 * as.length + 8) as
      match rest with
      | a :: _ :: _ => throw (if a.isEmpty then "unexpected operator" else a ++ ": unexpected operator")
      | _ => return value
    let short (as : List String) : Except String Bool :=
      if as.head? = some "(" && as.getLast? = some ")" then whole (as.drop 1).dropLast
      else if as.head? = some "!" then (holds files steps as.tail).map (!·)
      else whole as
    match arguments with
    | [a, op, b] => match Token.ofArgument op with
      | .binary op => binaryHolds files op a b
      | _ => short arguments
    | [_, _, _, _] => short arguments
    | _ => whole arguments

/-- The exit status of a condition under the name that it was given. -/
def status (files : Files) (name : String) (arguments : List String) : Except String Nat := do
  let arguments ←
    if name ≠ "[" then pure arguments
    else if arguments.getLast? = some "]" then pure arguments.dropLast
    else throw "missing ]"
  return if ← holds files (arguments.length + 1) arguments then 0 else 1

end DeltaDebugging.Shell.Condition
