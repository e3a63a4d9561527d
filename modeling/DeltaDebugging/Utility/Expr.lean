import DeltaDebugging.Regex.Parser
import DeltaDebugging.Utility.Lines

/-!
# Expressions of texts and numbers

The value of an expression given as arguments: alternatives, comparisons, sums, products, and
matches of a text against a pattern, in the order of how loosely they bind.
-/
namespace DeltaDebugging.Utility

open Program

namespace Expr

inductive Mistake where
  | missingAfter (token : String)
  | unexpected (token : String)
  | unclosed (token : String)
  | nonInteger
  | divisionByZero
  | badPattern (text : String)
  deriving DecidableEq, Repr

def Mistake.message : Mistake → String
  | missingAfter t => "syntax error: missing argument after " ++ Text.literalQuote t
  | unexpected t => "syntax error: unexpected argument " ++ Text.literalQuote t
  | unclosed t => "syntax error: expecting ')' after " ++ Text.literalQuote t
  | nonInteger => "non-integer argument"
  | divisionByZero => "division by zero"
  | badPattern t => t

/-- An integer as it may be written: digits behind an optional sign. -/
def integer? (s : String) : Option Int :=
  let (negative, ds) := match s.toList with
    | '-' :: ds => (true, ds)
    | ds => (false, ds)
  (natural? (String.ofList ds)).map fun n => if negative then -(n : Int) else n

/-- Whether a value counts as false: nothing, or zero. -/
def isNull (s : String) : Bool :=
  s.isEmpty || (let ds := if s.toList.head? = some '-' then s.toList.drop 1 else s.toList
    !ds.isEmpty && ds.all (· = '0'))

/-- Reading goes through the arguments; `previous` is the argument read last. -/
structure Reading where
  rest : List String
  previous : String := ""

abbrev Reader := EStateM Mistake Reading

def peek : Reader (Option String) := return (← get).rest.head?

def advance : Reader Unit := modify fun r => ⟨r.rest.tail, r.rest.headD r.previous⟩

def next : Reader String := do
  match (← get).rest with
  | [] => throw (.missingAfter (← get).previous)
  | a :: _ =>
    advance
    return a

/-- Matches a pattern at the start of a text: the group it has, or how much it takes. -/
def matchText (text pattern : String) : Reader String := do
  match Regex.parse .looseBasic (Octets.characters pattern.toList) with
  | .error e => throw (.badPattern e)
  | .ok p =>
    let t := (Octets.characters text.toList).toArray
    match Regex.matchAt? { text := t, exact := p.regex.refersBack, wide := true } p.regex 0 with
    | some m =>
      if 0 < p.groups then match m.groups.lookup 1 with
        | some (a, b) => return String.ofList (Octets.ofCharacters (t.extract a b).toList)
        | none => return ""
      else return toString m.position
    | none => return if 0 < p.groups then "" else "0"

def numbers (evaluated : Bool) (a b : String) (f : Int → Int → Reader Int) : Reader String := do
  if !evaluated then return ""
  match integer? a, integer? b with
  | some x, some y => return toString (← f x y)
  | _, _ => throw .nonInteger

/-- The binary operators by how loosely they bind, from the loosest. -/
def levels : List (List String) :=
  [["|"], ["&"], ["<", "<=", "=", "==", "!=", ">=", ">"], ["+", "-"], ["*", "/", "%"], [":"]]

def compare (op a b : String) : Bool :=
  let o : Ordering := match integer? a, integer? b with
    | some x, some y => if x < y then .lt else if x = y then .eq else .gt
    | _, _ => if a < b then .lt else if a = b then .eq else .gt
  match op with
  | "<" => o = .lt
  | "<=" => o ≠ .gt
  | ">" => o = .gt
  | ">=" => o ≠ .lt
  | "!=" => o ≠ .eq
  | _ => o = .eq

def apply (evaluated : Bool) (op a b : String) : Reader String :=
  match op with
  | "+" => numbers evaluated a b fun x y => pure (x + y)
  | "-" => numbers evaluated a b fun x y => pure (x - y)
  | "*" => numbers evaluated a b fun x y => pure (x * y)
  | "/" => numbers evaluated a b fun x y =>
      if y = 0 then throw .divisionByZero else pure (Int.tdiv x y)
  | "%" => numbers evaluated a b fun x y =>
      if y = 0 then throw .divisionByZero else pure (Int.tmod x y)
  | ":" => if evaluated then matchText a b else return ""
  | _ => return if compare op a b then "1" else "0"

mutual

def level : (steps : Nat) → (evaluated : Bool) → List (List String) → Reader String
  | 0, _, _ => throw (.missingAfter "")
  | steps + 1, evaluated, [] => primary steps evaluated
  | steps + 1, evaluated, ops :: tighter => do
    let a ← level steps evaluated tighter
    chain steps evaluated ops tighter a

/-- The operators of a level behind a first operand. -/
def chain : (steps : Nat) → (evaluated : Bool) → List String → List (List String) → String → Reader String
  | 0, _, _, _, a => return a
  | steps + 1, evaluated, ops, tighter, a => do
    match ← peek with
    | none => return a
    | some op =>
      if !ops.contains op then return a
      advance
      match op with
      | "|" =>
        let b ← level steps (evaluated && isNull a) tighter
        let value := if isNull a then (if isNull b then "0" else b) else a
        chain steps evaluated ops tighter value
      | "&" =>
        let b ← level steps (evaluated && !isNull a) tighter
        let value := if isNull a || isNull b then "0" else a
        chain steps evaluated ops tighter value
      | _ =>
        let b ← level steps evaluated tighter
        chain steps evaluated ops tighter (← apply evaluated op a b)

def primary : (steps : Nat) → (evaluated : Bool) → Reader String
  | 0, _ => throw (.missingAfter "")
  | steps + 1, evaluated => do
    let a ← next
    match a with
    | "(" =>
      let v ← level steps evaluated levels
      match ← peek with
      | some ")" =>
        advance
        return v
      | _ => throw (.unclosed (← get).previous)
    | ")" => throw (.unexpected ")")
    | "+" => next
    | "length" =>
      let s ← primary steps evaluated
      return toString (Octets.characters s.toList).length
    | "match" =>
      let s ← primary steps evaluated
      let r ← primary steps evaluated
      if evaluated then matchText s r else return ""
    | "index" =>
      let s ← primary steps evaluated
      let cs ← primary steps evaluated
      let wanted := Octets.characters cs.toList
      return toString (match (Octets.characters s.toList).findIdx? fun c => wanted.contains c with
        | some i => i + 1
        | none => 0)
    | "substr" =>
      let s ← primary steps evaluated
      let i ← primary steps evaluated
      let n ← primary steps evaluated
      match integer? i, integer? n with
      | some i, some n =>
        if i ≤ 0 || n ≤ 0 then return ""
        else return String.ofList (Octets.onCharacters (fun cs => (cs.drop (i.toNat - 1)).take n.toNat) s.toList)
      | _, _ => return ""
    | _ => return a

end

end Expr

open DeltaDebugging.Utility.Expr in
def expr : Program Nat := do
  whenUnwrittenExit 3
  let args ← arguments
  let args := if args.head? = some "--" then args.tail else args
  if args.isEmpty then misuse "missing operand" 2
  if args = ["--help"] || args = ["--version"] then return 0
  let whole : Reader String := do
    let v ← level (30 * args.length + 60) true levels
    match ← peek with
    | some a => throw (.unexpected a)
    | none => return v
  match whole { rest := args } with
  | .ok v _ =>
    putLine v
    return if isNull v then 1 else 0
  | .error e _ => die e.message 2

end DeltaDebugging.Utility
