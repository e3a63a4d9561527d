import DeltaDebugging.Process.Executable
import DeltaDebugging.Utility.Numeral
import DeltaDebugging.Utility.Paths

/-!
# Small programs

What the system and the user are, and the factors of numbers.
-/
namespace DeltaDebugging.Number

/-!
## Prime factors

Small factors are found by trial; what is left is split by cycles of a quadratic map until all
parts pass a test for primes.
-/

namespace Factors

/-- A power modulo a number, with as many steps as the exponent has bits. -/
def powerModulo (m : Nat) : (steps : Nat) → (base exponent : Nat) → Nat
  | 0, _, _ => 1 % m
  | steps + 1, b, e =>
    if e = 0 then 1 % m else
    let rest := powerModulo m steps (b * b % m) (e / 2)
    if e % 2 = 1 then b * rest % m else rest

def squaresToMinusOne (m : Nat) : (left : Nat) → (x : Nat) → Bool
  | 0, _ => false
  | left + 1, x => x = m - 1 || squaresToMinusOne m left (x * x % m)

def oddPart : (steps : Nat) → (n : Nat) → Nat × Nat
  | 0, n => (0, n)
  | steps + 1, n =>
    if n % 2 = 1 || n = 0 then (0, n) else
    let (k, d) := oddPart steps (n / 2)
    (k + 1, d)

def witnesses : List Nat :=
  [2, 3, 5, 7, 11, 13, 17, 19, 23, 29, 31, 37, 41, 43, 47, 53, 59, 61, 67, 71, 73, 79, 83, 89, 97]

def isPrime (n : Nat) : Bool :=
  if n < 2 then false
  else if witnesses.contains n then true
  else if witnesses.any fun p => n % p = 0 then false
  else
    let (k, d) := oddPart n.log2 (n - 1)
    witnesses.all fun a =>
      let x := powerModulo n (d.log2 + 1) a d
      x = 1 || squaresToMinusOne n k x

inductive Walk where
  | found (divisor : Nat)
  /-- The walk came back to where it was. -/
  | closed
  | tired
  deriving DecidableEq, Repr

/-- Searches a divisor on a cycle of `x ↦ x² + c`, by a slow and a fast walk along it. -/
def walk (n c : Nat) : (steps : Nat) → (slow fast : Nat) → Walk
  | 0, _, _ => .tired
  | steps + 1, slow, fast =>
    let next (x : Nat) : Nat := (x * x + c) % n
    let slow := next slow
    let fast := next (next fast)
    let d := Nat.gcd n (if slow < fast then fast - slow else slow - fast)
    if d = 1 then walk n c steps slow fast else if d = n then .closed else .found d

def longestWalk : Nat := 1000000

/-- A divisor of a composite number, with one map after the other as long as their walks close. -/
def divisor? (n : Nat) : (maps : Nat) → Option Nat
  | 0 => none
  | maps + 1 => match walk n (maps + 1) longestWalk 2 2 with
    | .found d => some d
    | .closed => divisor? n maps
    | .tired => none

/-- The prime factors of a number without small ones. -/
def split : (steps : Nat) → (n : Nat) → List Nat
  | 0, n => [n]
  | steps + 1, n =>
    if n < 2 then [] else if isPrime n then [n] else
    match divisor? n 20 with
    | none => [n]
    | some d => split steps d ++ split steps (n / d)

/-- The factors up to a limit, and what is left. -/
def small : (steps : Nat) → (first n : Nat) → List Nat × Nat
  | 0, _, n => ([], n)
  | steps + 1, d, n =>
    if n < d * d then if n < 2 then ([], n) else ([n], 1)
    else if n % d = 0 then
      let (ds, rest) := small steps d (n / d)
      (d :: ds, rest)
    else small steps (if d = 2 then 3 else d + 2) n

end Factors

/-- The prime factors of a number in rising order, each as often as it divides the number. -/
def primeFactors (n : Nat) : List Nat :=
  let (ds, rest) := Factors.small (5000 + n.log2) 2 n
  (ds ++ Factors.split (n.log2 + 1) rest).mergeSort

end DeltaDebugging.Number

namespace DeltaDebugging.Utility

open Program

/-- The length from which on factored numbers are printed before all are there. -/
def factoredAtOnce : Nat := 512

/-- The end of the last line within a length. -/
def lastEnd (length : Nat) (cs : List Char) : Nat :=
  ((cs.take length).reverse.dropWhile fun c => c ≠ '\n').length

/-- Prints the prime factors of numbers. Lines wait until there are enough of them, but those of
great numbers do not. -/
def factor : Program Nat := do
  let p ← parsed { choices := [] }
  let words ← if !p.operands.isEmpty then pure p.operands else
    match ← input with
    | .ok cs =>
      let text := String.ofList (cs.map fun c => if c = '\n' || c = '\t' then ' ' else c)
      pure ((text.splitOn " ").filter fun (w : String) => !w.isEmpty)
    | .error e => die ("read error: " ++ e.fault.reason) 1
  let mut waiting := ""
  for w in words do
    let bare := w.toList.dropWhile (· = ' ')
    let bare := if bare.head? = some '+' then bare.tail else bare
    match natural? (String.ofList bare) with
    | none =>
      complain (Text.literalQuote w ++ " is not a valid positive integer")
      raise 1
    | some n =>
      let line := toString n ++ ":" ++ String.join ((Number.primeFactors n).map fun d => " " ++ toString d) ++ "\n"
      if Nat.pow 2 127 ≤ n then put line else
      waiting := waiting ++ line
      if factoredAtOnce ≤ waiting.length then
        let cs := waiting.toList
        let cut := lastEnd factoredAtOnce cs
        put (String.ofList (cs.take cut))
        waiting := String.ofList (cs.drop cut)
  put waiting
  return 0

def which : Program Nat := do
  let p ← parsed { choices := ["a"], status := 2 }
  let searchPath := ((← invocation).environment.lookup "PATH").getD defaultSearchPath
  if p.operands.isEmpty then return 1
  for command in p.operands do
    match (← files).programPath command searchPath with
    | .ok path => putLine path
    | .error _ => raise 1
  return 0

def uname : Program Nat := do
  let p ← parsed
    { choices := ["a,all", "s,kernel-name", "n,nodename", "r,kernel-release", "v,kernel-version", "m,machine",
        "p,processor", "i,hardware-platform", "o,operating-system"] }
  match p.operands with
  | extra :: _ => misuse ("extra operand " ++ Text.literalQuote extra) 1
  | [] => pure ()
  let parts := [("s", "Linux"), ("n", "localhost"), ("r", "6.0.0"), ("v", "#1 SMP"), ("m", "x86_64"),
    ("p", "x86_64"), ("i", "x86_64"), ("o", "GNU/Linux")]
  let wanted := parts.filter fun e => if p.options.isEmpty then e.1 = "s" else p.has "a" || p.has e.1
  putLine (String.intercalate " " (wanted.map Prod.snd))
  return 0

def tty : Program Nat := do
  let p ← parsed { choices := ["s,silent,quiet"], status := 2 }
  match p.operands with
  | extra :: _ => misuse ("extra operand " ++ Text.literalQuote extra) 2
  | [] => pure ()
  if !p.has "s" then putLine "not a tty"
  return 1

/-- A utility that takes no operands and prints one line. -/
def printing (line : String) : Program Nat := do
  let p ← parsed { choices := [] }
  match p.operands with
  | extra :: _ => misuse ("extra operand " ++ Text.literalQuote extra) 1
  | [] =>
    putLine line
    return 0

def arch : Program Nat := printing "x86_64"

def hostid : Program Nat := printing "007f0100"

/-- Tells the name under which somebody logged in, which nobody did. -/
def logname : Program Nat := do
  let p ← parsed { choices := [] }
  match p.operands with
  | extra :: _ => misuse ("extra operand " ++ Text.literalQuote extra) 1
  | [] => die "no login name" 1

def users : Program Nat := do
  let p ← parsed { choices := [] }
  match p.operands with
  | _ :: extra :: _ => misuse ("extra operand " ++ Text.literalQuote extra) 1
  | _ => return 0

def processors : Nat := 4

def nproc : Program Nat := do
  let p ← parsed { choices := ["all", "ignore:"] }
  match p.operands with
  | extra :: _ => misuse ("extra operand " ++ Text.literalQuote extra) 1
  | [] => pure ()
  let ignored ← match p.value? "ignore" with
    | some t => numeralWithin "invalid number" 0 (Nat.pow 2 64 - 1) "" t
    | none => pure 0
  putLine (toString (max 1 (processors - ignored.toNat)))
  return 0

end DeltaDebugging.Utility
