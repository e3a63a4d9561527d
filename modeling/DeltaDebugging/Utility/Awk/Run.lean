import DeltaDebugging.Utility.Awk.Machine
import DeltaDebugging.Utility.Awk.Parser

/-!
# Running pattern scanning programs

Expressions and statements change the state of a machine. A statement that does not run to its
end leaves by a jump, which the loop, the call or the rule around it takes.
-/
namespace DeltaDebugging.Utility.Awk

namespace Run

/-- The rest of a division that is cut off towards zero. -/
def remainder (x y : Float) : Float :=
  if x.isNaN || y.isNaN || x.isInf || y == 0 then 0.0 / 0.0
  else if y.isInf then x
  else
    let (a, b) := Number.magnitude x
    let (c, d) := Number.magnitude y
    let num := (a * d) % (c * b)
    let den := b * d
    let g := Nat.gcd num den
    let r := Float.ofNat (num / g) / Float.ofNat (den / g)
    if x < 0 then -r else r

def arithmetic (op : Arithmetic) (x y : Float) : Float := match op with
  | .add => x + y
  | .sub => x - y
  | .mul => x * y
  | .div => x / y
  | .mod => remainder x y
  | .power => Float.pow x y

def truncated (x : Float) : Float := if x < 0 then x.ceil else x.floor

def truth (b : Bool) : Value := .number (if b then 1.0 else 0.0)

def count (n : Nat) : Value := .number (Float.ofNat n)

/-- Values are compared as numbers if both are some, and as texts otherwise. -/
def related (r : Relation) (a b : Value) : Run Bool := do
  if a.isNumeric && b.isNumeric then
    let (x, y) := (a.toNumber, b.toNumber)
    return match r with
      | .equal => x == y
      | .unequal => x != y
      | .less => x < y
      | .atMost => x ≤ y
      | .greater => x > y
      | .atLeast => x ≥ y
  else
    let s ← textOf a
    let t ← textOf b
    return match r with
      | .equal => s == t
      | .unequal => s != t
      | .less => decide (s < t)
      | .atMost => !decide (t < s)
      | .greater => decide (t < s)
      | .atLeast => !decide (s < t)

def fits (r : Regex) (s : String) : Bool :=
  (Regex.search { text := s.toList.toArray } r 0).isSome

/-- The place where a text stands in another, from one on, or zero. -/
def placeOf (s t : List Char) : (steps : Nat) → Nat → Nat
  | 0, _ => 0
  | steps + 1, n => if t.isPrefixOf (s.drop n) then n + 1 else placeOf s t steps (n + 1)

/-- A piece of a text by the number of its first character and its length. -/
def substring (s : String) (first : Float) (length : Option Float) : String :=
  let b := wholePart first
  let rest := s.toList.drop (b - 1).toNat
  String.ofList (match length with
    | none => rest
    | some l =>
      let l := wholePart l
      rest.take (if b ≤ 0 then l - b else l).toNat)

inductive Place where
  | variable (name : String)
  | element (table : Nat) (k : Subscript)
  | field (n : Nat)

def Place.get : Place → Run Value
  | .variable name => valueOf name
  | .element n k => do
    let (t, v) := (← table n).get k
    setTable n t
    return v
  | .field n => Run.field n

def Place.set (v : Value) : Place → Run Unit
  | .variable name => setVariable name v
  | .element n k => do setTable n ((← table n).put k v)
  | .field n => setField n v

/-- Runs the body of a loop; whether the loop goes on. -/
def bodyGoesOn (body : Run Unit) : Run Bool := do
  try
    body
    return true
  catch
    | .leave => return false
    | .goOn => return true
    | j => throw j

/-- Rounds of a loop while a condition holds. -/
def rounds (c : Run Bool) (body step : Run Unit) : (rounds : Nat) → Run Unit
  | 0 => return
  | n + 1 => do
    spend
    if ← c then
      if ← bodyGoesOn body then
        step
        rounds c body step n

def formatted (name : String) (f : String) (vs : List Value) : Run String := do
  let plain := Figures.numberText (← format)
  match Figures.format plain f vs with
  | (text, none) => return text
  | (text, some misfit) =>
    if name = "printf" then put text
    runtimeError (match misfit with
      | .tooFew => "not enough arguments passed to " ++ name ++ "(\"" ++ f ++ "\")"
      | .improper n => "improper conversion(number " ++ toString n ++ ") in " ++ name ++ "(\"" ++ f ++ "\")")

def output (target : Option (Channel × Bool)) (text : String) : Run Unit :=
  match target with
  | none => put text
  | some (c, appends) => send c appends text

def maximalCalls : Nat := 1020

def tooDeep : Run α := die "program limit exceeded: eval stack size=1024"

/-- The next line of a file or a command, or the status instead. -/
def nextLine (start : Runner) (c : Channel) : Run (Except Float String) := do
  let known : Option Stream ← match (← get).inputs.lookup c with
    | some s => pure (some s)
    | none =>
      if c.isCommand then pure (some (← commandStream start c.name))
      else match ← streamOf c.name with
        | .ok s => pure (some s)
        | .error _ => pure none
  match known with
  | none => return .error (-1.0)
  | some s =>
    let (record, rest) ← nextRecord s
    modify fun m => { m with inputs := (c, rest) :: m.inputs.filter fun e => e.1 ≠ c }
    return match record with
      | some r => .ok r
      | none => .error 0.0

mutual

def evaluate (start : Runner) : (depth : Nat) → Expr → Run Value
  | 0, _ => tooDeep
  | depth + 1, e => do
    let eval (e : Expr) : Run Value := evaluate start depth e
    let text (e : Expr) : Run String := do textOf (← eval e)
    match e with
    | .number x => return .number x
    | .text s => return .text s
    | .pattern source => do
      let r ← expression source
      return truth (fits r (← textOf (← field 0)))
    | .variable name => valueOf name
    | .element .. => do (← locate start depth e).get
    | .field _ => do (← locate start depth e).get
    | .plain e => eval e
    | .assign op target value => do
      let place ← locate start depth target
      let v ← eval value
      let v ← match op with
        | none => pure v
        | some op => do
          let old ← place.get
          pure (.outcome (arithmetic op old.toNumber v.toNumber) [old, v])
      place.set v
      return v
    | .step first up target => do
      let place ← locate start depth target
      let old := (← place.get).asNumber
      let new := Value.outcome (old.toNumber + if up then 1.0 else -1.0) [old]
      place.set new
      return if first then new else old
    | .choice c yes no => do if (← eval c).isTrue then eval yes else eval no
    | .both a b => do
      if !(← eval a).isTrue then return truth false
      return truth (← eval b).isTrue
    | .either a b => do
      if (← eval a).isTrue then return truth true
      return truth (← eval b).isTrue
    | .negation e => return truth !(← eval e).isTrue
    | .minus e => return (← eval e).opposite
    | .plus e => return (← eval e).asNumber
    | .binary op a b => do
      let v ← eval a
      let w ← eval b
      return .outcome (arithmetic op v.toNumber w.toNumber) [v, w]
    | .join a b => do
      let s ← text a
      return .text (s ++ (← text b))
    | .compare r a b => do
      let v ← eval a
      return truth (← related r v (← eval b))
    | .matching negated e p => do
      let s ← text e
      let r ← pattern start depth p
      return truth (fits r s != negated)
    | .member subscripts name => do
      let k ← elementOf start depth subscripts
      let n ← tableNumber name
      let (t, found) := (← table n).find? k
      setTable n t
      return truth found.isSome
    | .call name arguments => call start depth name arguments
    | .builtin name arguments => builtin start depth name arguments
    | .split e name separator => do
      let s ← text e
      let sep ← match separator with
        | none => separatorOf (← globalText "FS")
        | some (.pattern source) => do
          let r ← expression source
          pure (.fitting r)
        | some e => do
          let s ← text e
          separatorOf s
      let pieces := sep.split s
      setTable (← tableNumber name) (Table.ofPieces pieces)
      return count pieces.length
    | .substitute all p replacement target => do
      let r ← pattern start depth p
      let replacement ← text replacement
      let place ← locate start depth target
      let (s, n) := substituted r all replacement (← textOf (← place.get))
      if 0 < n then place.set (.text s)
      return count n
    | .readLine target source => do
      let place ← match target with
        | some t => do
          let p ← locate start depth t
          pure (some p)
        | none => pure none
      let keep (r : String) : Run Value := do
        match place with
        | some p => p.set (.outside r)
        | none => setRecord (.outside r)
        return .number 1.0
      let reads (c : Channel) : Run Value := do
        match ← nextLine start c with
        | .ok r => keep r
        | .error x => return .number x
      match source with
      | .input => do
        match ← mainRecord operandLimit with
        | none => return .number 0.0
        | some r =>
          countRecord
          keep r
      | .file path => do
        let name ← text path
        reads ⟨false, name⟩
      | .command e => do
        let name ← text e
        reads ⟨true, name⟩

def locate (start : Runner) : (depth : Nat) → Expr → Run Place
  | 0, _ => tooDeep
  | depth + 1, e => do
    match e with
    | .variable name => return .variable name
    | .element name subscripts => do
      let n ← tableNumber name
      return .element n (← elementOf start depth subscripts)
    | .field e => return .field (← fieldIndex (← evaluate start depth e).toNumber)
    | .plain e => locate start depth e
    | _ => return .variable ""

def elementOf (start : Runner) : (depth : Nat) → List Expr → Run Subscript
  | 0, _ => tooDeep
  | depth + 1, es => do
    match es with
    | [e] => subscript (← evaluate start depth e)
    | es =>
      let texts ← es.mapM fun e => do textOf (← evaluate start depth e)
      return { text := String.intercalate (← globalText "SUBSEP") texts }

def pattern (start : Runner) : (depth : Nat) → Expr → Run Regex
  | 0, _ => tooDeep
  | depth + 1, e => do
    match e with
    | .pattern source => expression source
    | e => expression (← textOf (← evaluate start depth e))

def builtin (start : Runner) : (depth : Nat) → String → List Expr → Run Value
  | 0, _, _ => tooDeep
  | depth + 1, name, arguments => do
    let number (e : Expr) : Run Float := return (← evaluate start depth e).toNumber
    let text (e : Expr) : Run String := do textOf (← evaluate start depth e)
    let function (f : Float → Float) : Run Value := do
      match arguments with
      | e :: _ =>
        let v ← evaluate start depth e
        return .outcome (f v.toNumber) [v]
      | [] => return .number (f 0.0)
    match name, arguments with
    | "length", [] => return count (← textOf (← field 0)).length
    | "length", e :: _ => do
      let whole : Option Nat ← match e with
        | .variable s => do
          let m ← get
          pure (match m.locals.lookup s with
            | some (.table n) => some n
            | some _ => none
            | none => m.tableNumbers.lookup s)
        | _ => pure none
      match whole with
      | some n => return count (← table n).size
      | none => return count (← text e).length
    | "index", [a, b] => do
      let s ← text a
      let t ← text b
      return count (placeOf s.toList t.toList (s.length + 1) 0)
    | "substr", [a, b] => do
      let s ← text a
      return .text (substring s (← number b) none)
    | "substr", [a, b, c] => do
      let s ← text a
      let x ← number b
      return .text (substring s x (some (← number c)))
    | "sprintf", f :: rest => do
      let f ← text f
      let vs ← rest.mapM fun e => evaluate start depth e
      return .text (← formatted "sprintf" f vs)
    | "match", [a, p] => do
      let s ← text a
      let r ← pattern start depth p
      let (place, length) : Float × Float :=
        match Regex.search { text := s.toList.toArray } r 0 with
        | some p => (Float.ofNat (p.start + 1), Float.ofNat (p.position - p.start))
        | none => (0.0, -1.0)
      setGlobal "RSTART" (.number place)
      setGlobal "RLENGTH" (.number length)
      return .number place
    | "toupper", [e] => return .text (← text e).toUpper
    | "tolower", [e] => return .text (← text e).toLower
    | "sin", _ => function Float.sin
    | "cos", _ => function Float.cos
    | "exp", _ => function Float.exp
    | "log", _ => function Float.log
    | "sqrt", _ => function Float.sqrt
    | "int", _ => function truncated
    | "atan2", [a, b] => do
      let v ← evaluate start depth a
      let w ← evaluate start depth b
      return .outcome (Float.atan2 v.toNumber w.toNumber) [v, w]
    | "rand", _ => do
      let (n, generator) := ((← get).generator.getD (.ofSeed 1)).next
      modify fun m => { m with generator }
      return .number (Float.ofNat n / 2147483647.0)
    | "srand", arguments => do
      let old := (← get).seed
      let seed ← match arguments with
        | e :: _ => evaluate start depth e
        | [] => pure (.number 0.0)
      modify fun m => { m with seed, generator := some (.ofSeed (wordPart seed.toNumber)) }
      return old
    | "systime", _ => return .number 0.0
    | "system", [e] => do
      let command ← text e
      flushAll
      let descriptors ← lift (return (← Program.invocation).descriptors)
      match ← runCommand start "sh" command descriptors with
      | .endless => lift (throw .endless)
      | fate => return count (fateNumber fate)
    | "close", [e] => do
      match ← close start (← text e) with
      | some n => return count n
      | none => return .number (-1.0)
    | "fflush", [] => do
      match ← lift Program.flush with
      | some e => die ("write failure (" ++ e.reason ++ ")")
      | none => return .number 0.0
    | "fflush", e :: _ => do
      let name ← text e
      match (← get).outputs.find? fun o => o.1.name = name with
      | some (c, o) =>
        flushFile c o
        return .number 0.0
      | none => return .number (-1.0)
    | _, _ => return .nothing

/-- Calls a function; its parameters and what they stand for last as long as the call. -/
def call (start : Runner) : (depth : Nat) → String → List Expr → Run Value
  | 0, _, _ => tooDeep
  | depth + 1, name, arguments => do
    spend
    match (← get).functions.find? fun f => f.name = name with
    | none => return .nothing
    | some f =>
      let slots ← f.parameters.zipIdx.mapM fun ((p, isTable), i) => do
        let slot : Slot ← match isTable, arguments[i]? with
          | true, some (.variable s) => do
            let n ← tableNumber s
            pure (.table n)
          | true, _ => do
            let n ← newTable
            pure (.table n)
          | false, some (.variable s) => do
            let m ← get
            match m.locals.lookup s, m.tableNumbers.lookup s with
            | some slot, _ => pure slot
            | none, some n => pure (.table n)
            | none, none => do
              let v ← global s
              pure (.value v)
          | false, some e => do
            let v ← evaluate start depth e
            pure (.value v)
          | false, none => pure (.value .nothing)
        return (p, slot)
      let m ← get
      if maximalCalls < m.depth then tooDeep
      let outer := m.locals
      set { m with locals := slots, depth := m.depth + 1 }
      let result : Run Value := do
        try
          execute start depth f.body
          return .nothing
        catch
          | .giveBack v => return v
          | j => throw j
      let v ← result
      modify fun m => { m with locals := outer, depth := m.depth - 1 }
      return v

def execute (start : Runner) : (depth : Nat) → Statement → Run Unit
  | 0, _ => tooDeep
  | depth + 1, s => do
    let eval (e : Expr) : Run Value := evaluate start depth e
    let condition (c : Option Expr) : Run Bool := do
      match c with
      | some c => return (← eval c).isTrue
      | none => return true
    let perhaps (e : Option Expr) : Run Unit := do
      match e with
      | some e => let _ ← eval e
      | none => return
    let run (s : Statement) : Run Unit := execute start depth s
    match s with
    | .nothing => return
    | .expr e => let _ ← eval e
    | .print arguments sink => do
      let texts ← arguments.mapM fun e => do
        match ← eval e with
        | .text s => return s
        | .outside s => return s
        | .nothing => return ""
        | v => return Figures.numberText (← globalText "OFMT") v
      let texts ← if arguments.isEmpty then pure [← textOf (← field 0)] else pure texts
      let target ← target? start depth sink
      output target (String.intercalate (← globalText "OFS") texts ++ (← globalText "ORS"))
    | .printf arguments sink => do
      match arguments with
      | [] => return
      | f :: rest =>
        let f ← textOf (← eval f)
        let vs ← rest.mapM eval
        let target ← target? start depth sink
        output target (← formatted "printf" f vs)
    | .conditional c yes no => do
      if (← eval c).isTrue then run yes
      else match no with
        | some no => run no
        | none => return
    | .loop c body => do
      rounds (condition (some c)) (run body) (pure ()) ((← get).patience + 1)
    | .loopAfter body c => do
      let patience := (← get).patience
      spend
      if ← bodyGoesOn (run body) then
        rounds (condition (some c)) (run body) (pure ()) (patience + 1)
    | .count first c step body => do
      perhaps first
      rounds (condition c) (run body) (perhaps step) ((← get).patience + 1)
    | .each name of body => do
      let n ← tableNumber of
      let (t, keys) := (← table n).keys
      setTable n t
      let rec go : List String → Run Unit
        | [] => return
        | k :: ks => do
          spend
          setVariable name (.text k)
          if ← bodyGoesOn (run body) then go ks
      go keys
    | .block ss => ss.forM run
    | .next => leaving .next
    | .nextFile => leaving .nextFile
    | .exit e => do
      match e with
      | some e => do
        let n := wholePart (← eval e).toNumber
        modify fun m => { m with status := (n % 256).toNat }
      | none => pure ()
      leaving .exit
    | .giveBack e => do
      let v ← match e with
        | some e => eval e
        | none => pure .nothing
      leaving (.giveBack v)
    | .leave => leaving .leave
    | .goOn => leaving .goOn
    | .delete name none => do setTable (← tableNumber name) {}
    | .delete name (some subscripts) => do
      let n ← tableNumber name
      let k ← elementOf start depth subscripts
      setTable n ((← table n).erase k)

/-- Where output goes, and whether it is appended there. -/
def target? (start : Runner) : (depth : Nat) → Option Sink → Run (Option (Channel × Bool))
  | 0, _ => tooDeep
  | depth + 1, sink => do
    let text (e : Expr) : Run String := do textOf (← evaluate start depth e)
    match sink with
    | none => return none
    | some (.file e) => return some (⟨false, ← text e⟩, false)
    | some (.append e) => return some (⟨false, ← text e⟩, true)
    | some (.command e) => return some (⟨true, ← text e⟩, false)

end

/-- How deep expressions, statements and calls may be inside one another. -/
def maximalDepth : Nat := 20000

def applies (start : Runner) (i : Nat) (p : Pattern) : Run Bool := do
  match p with
  | .all => return true
  | .when e => return (← evaluate start maximalDepth e).isTrue
  | .range first last =>
    let inside := (← get).begun.contains i
    if !inside then
      if !(← evaluate start maximalDepth first).isTrue then return false
      modify fun m => { m with begun := i :: m.begun }
    if (← evaluate start maximalDepth last).isTrue then
      modify fun m => { m with begun := m.begun.erase i }
    return true

def leaveCalls : Run Unit := modify fun m => { m with locals := [], depth := 0 }

def process (start : Runner) (rules : List (Rule × Nat)) : Run Unit := do
  try
    for (rule, i) in rules do
      if ← applies start i rule.pattern then
        match rule.body with
        | some body => execute start maximalDepth body
        | none => execute start maximalDepth (.print [] none)
  catch
    | .next => leaveCalls
    | .nextFile =>
      leaveCalls
      modify fun m => { m with main := none }
    | j => throw j

def processAll (start : Runner) (rules : List (Rule × Nat)) : (steps : Nat) → Run Unit
  | 0 => return
  | steps + 1 => do
    match ← mainRecord operandLimit with
    | none => return
    | some r =>
      spend
      countRecord
      setRecord (.outside r)
      process start rules
      processAll start rules steps

/-- Whether something ran to its end; an exit ends it early. -/
def untilExit (body : Run Unit) : Run Unit := do
  try
    body
  catch
    | .failed => throw .failed
    | _ => leaveCalls

/-- Everything that is still on its way gets there. -/
def finishAll (start : Runner) : Run Unit := do
  let outputs := (← get).outputs
  for (c, o) in outputs do
    let _ ← finish start c o

def script (start : Runner) (s : Script) : Run Unit := do
  untilExit do
    s.beginnings.forM (execute start maximalDepth)
    if !s.rules.isEmpty || !s.endings.isEmpty then
      processAll start s.rules.zipIdx ((← get).patience + 1)
  untilExit (s.endings.forM (execute start maximalDepth))

end Run

end DeltaDebugging.Utility.Awk
