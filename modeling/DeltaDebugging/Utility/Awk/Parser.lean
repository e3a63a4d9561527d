import DeltaDebugging.Number.Natural
import DeltaDebugging.Utility.Awk.Basic
import DeltaDebugging.Utility.Awk.Lexer
import DeltaDebugging.Utility.Awk.Matching

/-!
# Reading pattern scanning programs

The grammar by recursive descent. Operands that stand next to one another are joined; an
assignment may stand wherever an operand of a comparison may. The first mistake ends the
reading.
-/
namespace DeltaDebugging.Utility.Awk

namespace Reader

/-- The complaint about a word that does not fit. -/
def refuse : Reader α := do
  let t ← peek
  let r ← get
  let closes := [.newline, .semicolon, .implied, .sign "\x7d", .finished].contains t
  if closes && 0 < r.brackets then fail ("missing ) near " ++ t.shown)
  else if 0 < r.braces && [.finished, .keyword "BEGIN", .keyword "END"].contains t then
    fail ("missing \x7d near " ++ t.shown)
  else fail ("syntax error at or near " ++ t.shown)

def expect (t : Token) : Reader Unit := do
  if (← peek) = t then drop else refuse

def expectSign (s : String) : Reader Unit := expect (.sign s)

def accept (t : Token) : Reader Bool := do
  if (← peek) = t then
    drop
    return true
  else return false

def acceptSign (s : String) : Reader Bool := accept (.sign s)

/-- Passes over the end of a line, as if it were not there. -/
def joinLine : Reader Unit := do
  let before := (← get).previous
  if ← accept .newline then modify fun r => { r with previous := before }

def note (u : Use) : Reader Unit := modify fun r => { r with uses := u :: r.uses }

def useVariable (s : String) : Reader Unit := do
  let r ← get
  if r.parameters.contains s then
    if r.parameterKinds.lookup s = some .table then fail ("illegal reference to local array " ++ s)
    note (.value r.scope s)
    modify fun r => { r with parameterKinds := (s, .variable) :: r.parameterKinds }
  else match r.kinds.lookup s with
  | some .table => fail ("illegal reference to array " ++ s)
  | some .function => fail ("illegal reference to function " ++ s)
  | some .variable => return
  | none => modify fun r => { r with kinds := (s, .variable) :: r.kinds }

def useTable (s : String) : Reader Unit := do
  let r ← get
  note (.table r.scope s)
  if r.parameters.contains s then
    if r.parameterKinds.lookup s = some .variable then fail ("illegal reference to local variable " ++ s)
    modify fun r => { r with parameterKinds := (s, .table) :: r.parameterKinds }
  else match r.kinds.lookup s with
  | some .table => return
  | some .function => fail ("illegal reference to function " ++ s)
  | some .variable => fail ("illegal reference to variable " ++ s)
  | none => modify fun r => { r with kinds := (s, .table) :: r.kinds }

def isTarget : Expr → Bool
  | .variable _ | .element .. | .field _ => true
  | _ => false

def assignment? : Token → Option (Option Arithmetic)
  | .sign "=" => some none
  | .sign "+=" => some (some .add)
  | .sign "-=" => some (some .sub)
  | .sign "*=" => some (some .mul)
  | .sign "/=" => some (some .div)
  | .sign "%=" => some (some .mod)
  | .sign "^=" => some (some .power)
  | _ => none

def relation? : Token → Option Relation
  | .sign "==" => some .equal
  | .sign "!=" => some .unequal
  | .sign "<" => some .less
  | .sign "<=" => some .atMost
  | .sign ">" => some .greater
  | .sign ">=" => some .atLeast
  | _ => none

def beginsOperand : Token → Bool
  | .number _ | .text _ | .pattern _ | .name _ | .function _ | .builtin _ => true
  | .keyword s => s = "getline"
  | .sign s => ["(", "!", "$", "++", "--"].contains s
  | _ => false

def stepped (e : Expr) : Reader Expr := do
  if !isTarget e then return e
  else if ← acceptSign "++" then return .step false true e
  else if ← acceptSign "--" then return .step false false e
  else return e

/-- The number of arguments of a builtin function has to be right. -/
def checkCount (name : String) (n : Nat) : Reader Unit := do
  match builtins.lookup name with
  | some (least, most) =>
    if n < least || most < n then fail ("wrong number of arguments in call to " ++ name)
  | none => return

/-- A constant becomes a regular expression where one is wanted. -/
def patternOf (e : Expr) : Reader Expr := do
  match e with
  | .text s => match Matching.read s with
    | .error e => fail ("regular expression compile failed (" ++ e.reason ++ ")\n" ++ s)
    | .ok _ => return .pattern s
  | e => return e

mutual

def expr : (steps : Nat) → Reader Expr
  | 0 => refuse
  | steps + 1 => do
    let c ← climb steps 2
    if ← acceptSign "?" then
      let yes ← expr steps
      expectSign ":"
      return .choice c yes (← expr steps)
    else return c

/-- Operators of at least the given level: two for alternatives, three for conjunctions, four
for membership, five for fitting, six for comparisons. -/
def climb : (steps : Nat) → (least : Nat) → Reader Expr
  | 0, _ => refuse
  | steps + 1, least => do
    climbOn steps least (← joined steps)

def climbOn : (steps : Nat) → (least : Nat) → Expr → Reader Expr
  | 0, _, e => return e
  | steps + 1, least, e => do
    let t ← peek
    match t, relation? t with
    | _, some r =>
      if 6 < least then return e else
      drop
      climbOn steps least (.compare r e (← climb steps 7))
    | .sign s, none =>
      let level := (["||", "&&", "~", "!~"].zip [2, 3, 5, 5]).lookup s
      match level with
      | none => return e
      | some l =>
        if l < least then return e else
        drop
        let right ← climb steps (l + 1)
        let right ← if l = 5 then patternOf right else pure right
        climbOn steps least (match s with
          | "||" => .either e right
          | "&&" => .both e right
          | s => .matching (s = "!~") e right)
    | .keyword "in", none =>
      if 4 < least then return e else
      drop
      climbOn steps least (.member [e] (← tableName))
    | _, none => return e

def tableName : Reader String := do
  match ← peek with
  | .name s =>
    drop
    useTable s
    return s
  | _ => refuse

def joined : (steps : Nat) → Reader Expr
  | 0 => refuse
  | steps + 1 => do
    let e ← sum steps
    match isTarget e, assignment? (← peek) with
    | true, some op =>
      drop
      return .assign op e (← expr steps)
    | _, _ => joinedOn steps e

def joinedOn : (steps : Nat) → Expr → Reader Expr
  | 0, e => return e
  | steps + 1, e => do
    if beginsOperand (← peek) then joinedOn steps (.join e (← sum steps)) else return e

def sum : (steps : Nat) → Reader Expr
  | 0 => refuse
  | steps + 1 => do sumOn steps (← product steps)

def sumOn : (steps : Nat) → Expr → Reader Expr
  | 0, e => return e
  | steps + 1, e => do
    if ← acceptSign "+" then sumOn steps (.binary .add e (← product steps))
    else if ← acceptSign "-" then sumOn steps (.binary .sub e (← product steps))
    else return e

def product : (steps : Nat) → Reader Expr
  | 0 => refuse
  | steps + 1 => do productOn steps (← signed steps)

def productOn : (steps : Nat) → Expr → Reader Expr
  | 0, e => return e
  | steps + 1, e => do
    if ← acceptSign "*" then productOn steps (.binary .mul e (← signed steps))
    else if ← acceptSign "/" then productOn steps (.binary .div e (← signed steps))
    else if ← acceptSign "%" then productOn steps (.binary .mod e (← signed steps))
    else return e

def signed : (steps : Nat) → Reader Expr
  | 0 => refuse
  | steps + 1 => do
    if ← acceptSign "!" then return .negation (← signed steps)
    else if ← acceptSign "-" then return .minus (← signed steps)
    else if ← acceptSign "+" then return .plus (← signed steps)
    else piped steps (← power steps)

def piped : (steps : Nat) → Expr → Reader Expr
  | 0, e => return e
  | steps + 1, e => do
    if ← acceptSign "|" then
      expect (.keyword "getline")
      piped steps (.readLine (← target? steps) (.command e))
    else return e

def power : (steps : Nat) → Reader Expr
  | 0 => refuse
  | steps + 1 => do
    let base ← operand steps
    if ← acceptSign "^" then
      let signs := [.sign "!", .sign "-", .sign "+"].contains (← peek)
      return .binary .power base (← if signs then signed steps else power steps)
    else return base

/-- A variable, an element or a field that is read into, if one follows. -/
def target? : (steps : Nat) → Reader (Option Expr)
  | 0 => return none
  | steps + 1 => do
    match ← peek with
    | .name _ => return some (← named steps)
    | .sign "$" =>
      drop
      return some (.field (← fieldNumber steps))
    | _ => return none

def named : (steps : Nat) → Reader Expr
  | 0 => refuse
  | steps + 1 => do
    match ← peek with
    | .name s =>
      drop
      if ← acceptSign "[" then
        useTable s
        let first ← expr steps
        let more ← moreArguments steps
        expectSign "]"
        return .element s (first :: more)
      else
        useVariable s
        return .variable s
    | _ => refuse

/-- The expressions after the first between commas. -/
def moreArguments : (steps : Nat) → Reader (List Expr)
  | 0 => return []
  | steps + 1 => do
    if ← acceptSign "," then
      let e ← expr steps
      return e :: (← moreArguments steps)
    else return []

def fieldNumber : (steps : Nat) → Reader Expr
  | 0 => refuse
  | steps + 1 => do
    match ← peek with
    | .sign "-" | .sign "+" | .sign "!" => signed steps
    | _ => primary steps

def operand : (steps : Nat) → Reader Expr
  | 0 => refuse
  | steps + 1 => do stepped (← primary steps)

/-- An operand without anything behind it. -/
def primary : (steps : Nat) → Reader Expr
  | 0 => refuse
  | steps + 1 => do
    match ← peek with
    | .number s =>
      let x := ((Number.floatAt? s.toList).map Prod.fst).getD 0.0
      let significant := s.toList.takeWhile fun c => c ≠ 'e' && c ≠ 'E'
      if x == 0.0 && significant.any fun c => '1' ≤ c && c ≤ '9' then fail (s ++ " : decimal underflow")
      if x.isInf || (x != 0.0 && x < 2.2250738585072014e-308) then fail (s ++ " : decimal overflow")
      drop
      return .number x
    | .text s =>
      drop
      return .text s
    | .pattern s =>
      match Matching.read s with
      | .error e => fail ("regular expression compile failed (" ++ e.reason ++ ")\n" ++ s)
      | .ok _ =>
        drop
        return .pattern s
    | .name _ => named steps
    | .function s => do
      drop
      let line := (← get).wordLine
      expectSign "("
      let arguments ← callArguments steps s 0
      modify fun r => { r with calls := (s, arguments.length, line) :: r.calls }
      return .call s arguments
    | .builtin s => do
      drop
      builtinCall steps s
    | .keyword "getline" => do
      drop
      let target ← target? steps
      if ← acceptSign "<" then return .readLine target (.file (← power steps))
      else return .readLine target .input
    | .sign "$" => do
      drop
      return .field (← fieldNumber steps)
    | .sign "++" => do
      drop
      steppedFirst steps true
    | .sign "--" => do
      drop
      steppedFirst steps false
    | .sign "(" => do
      drop
      let first ← expr steps
      let more ← moreArguments steps
      expectSign ")"
      if more.isEmpty then
        match first with
        | .field e => return .field e
        | .variable _ => return .plain first
        | .element .. => return .plain first
        | e => return e
      else
        if ← accept (.keyword "in") then return .member (first :: more) (← tableName)
        else refuse
    | _ => refuse

def steppedFirst : (steps : Nat) → (up : Bool) → Reader Expr
  | 0, _ => refuse
  | steps + 1, up => do
    match ← target? steps with
    | some e => return .step true up e
    | none => refuse

def callArguments : (steps : Nat) → (callee : String) → (position : Nat) → Reader (List Expr)
  | 0, _, _ => refuse
  | steps + 1, callee, position => do
    if position = 0 then
      if ← acceptSign ")" then return []
    let e ← argument steps callee position
    if ← acceptSign "," then return e :: (← callArguments steps callee (position + 1))
    else
      expectSign ")"
      return [e]

/-- An argument; a name by itself may turn out to be a table. -/
def argument : (steps : Nat) → (callee : String) → (position : Nat) → Reader Expr
  | 0, _, _ => refuse
  | steps + 1, callee, position => do
    let other : Reader Expr := do
      let e ← expr steps
      let r ← get
      note (.passed r.scope none callee position r.wordLine)
      return e
    match ← peek with
    | .name s => do
      let before ← get
      drop
      match ← peek with
      | .sign "," | .sign ")" =>
        note (.passed before.scope (some s) callee position before.wordLine)
        return .variable s
      | _ =>
        set before
        other
    | _ => other

def builtinCall : (steps : Nat) → String → Reader Expr
  | 0, _ => refuse
  | steps + 1, name => do
    match name with
    | "length" => do
      if ← acceptSign "(" then
        if ← acceptSign ")" then return .builtin name []
        let e ← argument steps name 0
        expectSign ")"
        return .builtin name [e]
      else return .builtin name []
    | "split" => do
      expectSign "("
      let e ← expr steps
      expectSign ","
      let t ← tableName
      let separator ← if ← acceptSign "," then do
          let separator ← expr steps
          match separator with
          | .text s => if 1 < s.length then
              let _ ← patternOf separator
          | _ => pure ()
          pure (some separator)
        else pure none
      expectSign ")"
      return .split e t separator
    | "match" => do
      expectSign "("
      let e ← expr steps
      expectSign ","
      let p ← patternOf (← expr steps)
      expectSign ")"
      return .builtin name [e, p]
    | "sub" => substitution steps false
    | "gsub" => substitution steps true
    | _ => do
      expectSign "("
      let arguments ← if ← acceptSign ")" then pure [] else do
        let first ← expr steps
        let more ← moreArguments steps
        expectSign ")"
        pure (first :: more)
      checkCount name arguments.length
      return .builtin name arguments

def substitution : (steps : Nat) → (all : Bool) → Reader Expr
  | 0, _ => refuse
  | steps + 1, all => do
    expectSign "("
    let p ← patternOf (← expr steps)
    expectSign ","
    let replacement ← expr steps
    let target ← if ← acceptSign "," then do
        match ← target? steps with
        | some e => pure e
        | none => refuse
      else pure (.field (.number 0.0))
    expectSign ")"
    return .substitute all p replacement target

end

def separator : Reader Unit := do
  match ← peek with
  | .newline | .semicolon | .implied => drop
  | _ => refuse

def atSeparator : Reader Bool := do
  return [.newline, .semicolon, .implied].contains (← peek)

def depth : Nat := 4000

def optional : Reader (Option Expr) := do
  if ← atSeparator then return none else return some (← expr depth)

/-- Where output goes, if a redirection follows. -/
def sink : Reader (Option Sink) := do
  match ← peek with
  | .redirection s =>
    drop
    let e ← expr depth
    return some (match s with
      | ">" => .file e
      | ">>" => .append e
      | _ => .command e)
  | _ => return none

/-- What is printed: expressions between commas, which may be in brackets all together. -/
def printed : Reader (List Expr) := do
  match ← peek with
  | .newline | .semicolon | .implied | .redirection _ => return []
  | .sign "(" =>
    let before ← get
    drop
    if ← acceptSign ")" then return []
    let first ← expr depth
    let more ← moreArguments depth
    expectSign ")"
    match ← peek with
    | .newline | .semicolon | .implied | .redirection _ => return first :: more
    | t =>
      if !more.isEmpty && t ≠ .keyword "in" then refuse
      set before
      let first ← expr depth
      return first :: (← moreArguments depth)
  | _ =>
    let first ← expr depth
    return first :: (← moreArguments depth)

def condition : Reader Expr := do
  expectSign "("
  let c ← expr depth
  expectSign ")"
  return c

def inLoop (body : Reader α) : Reader α := do
  modify fun r => { r with loops := r.loops + 1 }
  let a ← body
  modify fun r => { r with loops := r.loops - 1 }
  return a

/-- The names of a loop over the subscripts of a table, if it is one. -/
def eachNames? : Reader (Option (String × String)) := do
  let before ← get
  match ← peek with
  | .name x =>
    drop
    if ← accept (.keyword "in") then
      match ← peek with
      | .name t =>
        drop
        if ← acceptSign ")" then
          useVariable x
          useTable t
          return some (x, t)
        else
          set before
          return none
      | _ => refuse
    else
      set before
      return none
  | _ => return none

mutual

def statement : (steps : Nat) → Reader Statement
  | 0 => refuse
  | steps + 1 => do
    match ← peek with
    | .sign "\x7b" => block steps
    | .newline | .semicolon | .implied => do
      drop
      return .nothing
    | .keyword k => keywordStatement steps k
    | _ => do
      let e ← expr depth
      separator
      return .expr e

def block : (steps : Nat) → Reader Statement
  | 0 => refuse
  | steps + 1 => do
    expectSign "\x7b"
    return .block (← statements steps)

def statements : (steps : Nat) → Reader (List Statement)
  | 0 => refuse
  | steps + 1 => do
    if ← acceptSign "\x7d" then return []
    else
      let s ← statement steps
      return s :: (← statements steps)

def keywordStatement : (steps : Nat) → String → Reader Statement
  | 0, _ => refuse
  | steps + 1, k => do
    match k with
    | "if" => do
      drop
      let c ← condition
      joinLine
      let yes ← statement steps
      if ← accept (.keyword "else") then
        joinLine
        return .conditional c yes (some (← statement steps))
      else return .conditional c yes none
    | "while" => do
      drop
      let c ← condition
      joinLine
      return .loop c (← inLoop (statement steps))
    | "do" => do
      drop
      joinLine
      let body ← inLoop (statement steps)
      expect (.keyword "while")
      let c ← condition
      separator
      return .loopAfter body c
    | "for" => do
      drop
      expectSign "("
      match ← eachNames? with
      | some (x, t) =>
        joinLine
        return .each x t (← inLoop (statement steps))
      | none =>
        let start ← if (← peek) = .semicolon then pure none else do
          pure (some (← expr depth))
        expect .semicolon
        let c ← if (← peek) = .semicolon then pure none else do
          pure (some (← expr depth))
        expect .semicolon
        let step ← if (← peek) = .sign ")" then pure none else do
          pure (some (← expr depth))
        expectSign ")"
        joinLine
        return .count start c step (← inLoop (statement steps))
    | "break" | "continue" => do
      drop
      separator
      if (← get).loops = 0 then fail (k ++ " statement outside of loop")
      return if k = "break" then .leave else .goOn
    | "next" | "nextfile" => do
      drop
      separator
      if !(← get).inRule then fail ("improper use of " ++ k)
      return if k = "next" then .next else .nextFile
    | "exit" => do
      drop
      let e ← optional
      separator
      return .exit e
    | "return" => do
      drop
      let e ← optional
      separator
      if (← get).scope.isNone then fail "return outside function body"
      return .giveBack e
    | "delete" => do
      drop
      let t ← tableName
      if ← acceptSign "[" then
        let first ← expr depth
        let more ← moreArguments depth
        expectSign "]"
        separator
        return .delete t (some (first :: more))
      else
        separator
        return .delete t none
    | "print" | "printf" => do
      drop
      let arguments ← printed
      let place ← sink
      if k = "printf" && arguments.isEmpty then fail "no arguments in call to printf"
      separator
      return if k = "print" then .print arguments place else .printf arguments place
    | _ => do
      let e ← expr depth
      separator
      return .expr e

end

/-- The names of the parameters of a function, past the closing bracket. -/
def parameterNames : (steps : Nat) → List String → Reader (List String)
  | 0, _ => refuse
  | steps + 1, found => do
    match ← peek with
    | .name s =>
      drop
      if found.contains s then fail (s ++ " is duplicated in argument list")
      if ← acceptSign "," then parameterNames steps (found ++ [s])
      else
        expectSign ")"
        return found ++ [s]
    | .function _ => fail "function parameter cannot be the function"
    | _ => refuse

def function (known : List Function) : Reader Function := do
  expect (.keyword "function")
  match ← peek with
  | .function name =>
    drop
    if known.any fun f => f.name = name then fail ("redefinition of " ++ name)
    expectSign "("
    let parameters ← if ← acceptSign ")" then pure [] else parameterNames depth []
    modify fun r => { r with scope := some name, parameters, parameterKinds := [] }
    joinLine
    let body ← block depth
    modify fun r => { r with scope := none, parameters := [] }
    return ⟨name, parameters.map fun p => (p, false), body⟩
  | .name s => fail ("illegal reference to variable " ++ s)
  | _ => refuse

def rule : Reader Rule := do
  modify fun r => { r with inRule := true }
  let body : Reader (Option Statement) := do
    match ← peek with
    | .sign "\x7b" => return some (← block depth)
    | .newline | .semicolon =>
      drop
      return none
    | _ => refuse
  let found ← match ← peek with
    | .sign "\x7b" => do pure ⟨.all, some (← block depth)⟩
    | _ =>
      let e ← expr depth
      if ← acceptSign "," then
        let finish ← expr depth
        pure ⟨.range e finish, ← body⟩
      else pure ⟨.when e, ← body⟩
  modify fun r => { r with inRule := false }
  return found

def script : (steps : Nat) → Script → Reader Script
  | 0, _ => refuse
  | steps + 1, s => do
    match ← peek with
    | .finished => return s
    | .newline =>
      drop
      script steps s
    | .keyword "BEGIN" => do
      drop
      let b ← block depth
      script steps { s with beginnings := s.beginnings ++ [b] }
    | .keyword "END" => do
      drop
      let b ← block depth
      script steps { s with endings := s.endings ++ [b] }
    | .keyword "function" => do
      let f ← function s.functions
      script steps { s with functions := s.functions ++ [f] }
    | _ => do
      let r ← rule
      script steps { s with rules := s.rules ++ [r] }

/-- The functions with the parameters marked that are used as tables, also by those that they
are passed on to. -/
def marked (uses : List Use) : (rounds : Nat) → List Function → List Function
  | 0, fs => fs
  | rounds + 1, fs =>
    let isTable (f : Function) (p : String) : Bool := uses.any fun u => match u with
      | .table (some scope) name => scope = f.name && name = p
      | .passed (some scope) (some name) callee position _ => scope = f.name && name = p &&
        (fs.find? fun g => g.name = callee).any fun g => (g.parameters[position]?).any Prod.snd
      | _ => false
    marked uses rounds (fs.map fun f =>
      { f with parameters := f.parameters.map fun p => (p.1, p.2 || isTable f p.1) })

/-- Whether all calls are of functions that there are, with arguments that fit. -/
def checkCalls (fs : List Function) : Reader Unit := do
  let r ← get
  let complain (line : Nat) (text : String) : Reader Unit :=
    throw ((r.file.map (· ++ ": ")).getD "" ++ "line " ++ toString line ++ ": " ++ text)
  for (name, count, line) in r.calls.reverse do
    match fs.find? fun f => f.name = name with
    | none => fail ("function " ++ name ++ " never defined")
    | some f =>
      if f.parameters.length < count then complain line ("too many arguments in call to " ++ name)
  for u in r.uses.reverse do
    match u with
    | .passed scope name callee position line =>
      match fs.find? fun f => f.name = callee with
      | some f =>
        let wanted := (f.parameters[position]?).any Prod.snd
        let (actual, wantedText) := if wanted then ("variable", "array") else ("array", "variable")
        let kind := match scope, name with
          | none, some name => r.kinds.lookup name
          | _, none => some .variable
          | _, _ => none
        let used := r.uses.any fun u => match u with
          | .value scope name => scope = some callee && (f.parameters[position]?).any fun p => p.1 = name
          | _ => false
        let clash := match kind with
          | some .variable => wanted
          | some .table => !wanted && used
          | _ => false
        if clash then complain line ("type error in arg(" ++ toString (position + 1) ++ ") in call to " ++ callee ++
          " (actual local " ++ actual ++ " vs local " ++ wantedText ++ ")")
      | none => pure ()
    | _ => pure ()

def firstKinds : List (String × Kind) :=
  (["NR", "NF", "FNR", "FS", "OFS", "ORS", "RS", "FILENAME", "CONVFMT", "OFMT", "SUBSEP", "RSTART",
    "RLENGTH", "ARGC"].map fun s => (s, Kind.variable)) ++ [("ENVIRON", .table), ("ARGV", .table)]

/-- The program in some texts, of which each but one that was given with the command comes from
a file. Some variables are known already. -/
def program (known : List String) (sources : List (Option String × String)) : Reader Script := do
  let mut s : Script := {}
  modify fun r => { r with kinds := firstKinds ++ known.map fun name => (name, Kind.variable) }
  for (file, text) in sources do
    let cs := text.toList ++ ['\n']
    modify fun r => { r with rest := cs, file, line := 1, ahead := none, previous := .newline }
    skipLines
    s ← script (cs.length + 8) s
  let functions := marked (← get).uses (Number.total (s.functions.map fun f => f.parameters.length) + 1) s.functions
  checkCalls functions
  return { s with functions }

end Reader

def Script.read (known : List String) (sources : List (Option String × String)) :
    Except String Script :=
  match Reader.program known sources { rest := [] } with
  | .ok s _ => .ok s
  | .error e _ => .error e

end DeltaDebugging.Utility.Awk
