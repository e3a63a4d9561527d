import DeltaDebugging.Utility.Sed.Script

/-!
# Reading editing scripts

A script comes in pieces, from options and files. A mistake is told with the piece and the
number of characters read of it, or the line of the file.
-/
namespace DeltaDebugging.Utility.Sed

/-- A piece of a script: the file it comes from, or its number among the texts. -/
structure Source where
  text : String
  file : Option String := none
  number : Nat := 1

structure Mistake where
  text : String
  status : Nat := 1

/-- A branch whose label is not known yet. -/
structure Jump where
  place : Nat
  label : String

structure Manner where
  extended : Bool := false
  /-- Whether only what is standard is understood. -/
  plain : Bool := false
  /-- Whether commands that touch files or run programs are refused. -/
  guarded : Bool := false

structure Reading where
  rest : List Char
  source : Source
  /-- How many characters of the piece are read. -/
  count : Nat := 0
  line : Nat := 1
  manner : Manner := {}
  instructions : Array Instruction := #[]
  /-- Blocks that are open, the innermost first. -/
  blocks : List Nat := []
  labels : List (String × Nat) := []
  jumps : List Jump := []
  /-- Files that are written to. -/
  files : List String := []
  silent : Bool := false

abbrev Reader := EStateM Mistake Reading

namespace Reader

def failAt (count : Nat) (text : String) : Reader α := do
  let r ← get
  let place := match r.source.file with
    | some f => "file " ++ f ++ " line " ++ toString r.line
    | none => "-e expression #" ++ toString r.source.number ++ ", char " ++ toString count
  throw ⟨place ++ ": " ++ text, 1⟩

def fail (text : String) : Reader α := do failAt (← get).count text

def next : Reader (Option Char) := do
  match (← get).rest with
  | [] => return none
  | c :: cs =>
    modify fun r => { r with
      rest := cs, count := r.count + 1, line := if c = '\n' then r.line + 1 else r.line }
    return some c

def peek : Reader (Option Char) := return (← get).rest.head?

def isPlain : Reader Bool := return (← get).manner.plain

def guarded : Reader Unit := do
  if (← get).manner.guarded then fail "e/r/w commands disabled in sandbox mode"

def isBlank (c : Char) : Bool := c = ' ' || c = '\t'

def isSpace (c : Char) : Bool := c = ' ' || ('\t' ≤ c && c ≤ '\r')

def skipWhile (p : Char → Bool) : Reader Unit := modify fun r =>
  let skipped := r.rest.takeWhile p
  { r with
    rest := r.rest.drop skipped.length, count := r.count + skipped.length
    line := r.line + skipped.count '\n' }

/-- Takes the characters up to one that is not wanted. -/
def takeWhile (p : Char → Bool) : Reader String := do
  let taken := (← get).rest.takeWhile p
  skipWhile p
  return String.ofList taken

def number : Reader Nat := do
  return (← takeWhile Char.isDigit).toList.foldl (fun n d => n * 10 + (d.toNat - '0'.toNat)) 0

/-- The end of a command: a semicolon, a new line, or what the next command begins with. -/
def endOfCommand : Reader Unit := do
  skipWhile isBlank
  match ← peek with
  | none => return
  | some c =>
    if c = '\x7d' || c = '#' then return
    let _ ← next
    if c ≠ '\n' && c ≠ ';' then fail "extra characters after command"

/-- A character given by its number: in decimal, octal or hexadecimal figures, or as a control
character. -/
def codedChar? (c : Char) (rest : List Char) : Option (Char × List Char) :=
  let numbered (base most : Nat) : Option (Char × List Char) :=
    let value (d : Char) : Nat := ((Regex.hexValue? [d]).getD 99)
    let ds := (rest.take most).takeWhile fun d => value d < base
    if ds.isEmpty then none else
    some (Char.ofNat (ds.foldl (fun n d => n * base + value d) 0 % 256), rest.drop ds.length)
  match c with
  | 'a' => some ('\x07', rest)
  | 'f' => some ('\x0c', rest)
  | 'r' => some ('\r', rest)
  | 't' => some ('\t', rest)
  | 'v' => some ('\x0b', rest)
  | 'd' => numbered 10 3
  | 'o' => numbered 8 3
  | 'x' => numbered 16 2
  | 'c' => match rest with
    | d :: rest => some (Char.ofNat (d.toUpper.toNat ^^^ 64), rest)
    | [] => none
  | _ => none

def decoded : (steps : Nat) → List Char → List Char
  | 0, cs => cs
  | _, [] => []
  | steps + 1, '\\' :: c :: rest => match codedChar? c rest with
    | some (d, rest) => d :: decoded steps rest
    | none => '\\' :: c :: decoded steps rest
  | steps + 1, c :: rest => c :: decoded steps rest

/-- What stands up to the next delimiter. In an expression brackets protect it, and a backslash
and an `n` are a new line. -/
def delimited (delimiter : Char) (isRegex : Bool) (complaint : String) : Reader (List Char) := do
  if '\xc2' ≤ delimiter && delimiter ≤ '\xf4' then fail "delimiter character is not a single-byte character"
  let cs := (← get).rest
  let breaks := !(← isPlain)
  let rec go : (steps : Nat) → (inBracket : Bool) → List Char → Option (List Char × Nat)
    | 0, _, _ => none
    | _, _, [] => none
    | steps + 1, inBracket, c :: cs =>
      let more (taken : Nat) (out : List Char) (inBracket : Bool) (rest : List Char) :=
        (go steps inBracket rest).map fun (text, n) => (out ++ text, n + taken)
      if inBracket then
        if c = '\n' then none
        else if c = ']' then more 1 [c] false cs
        else match c, cs with
          | '\\', 'n' :: rest => if breaks then more 2 ['\n'] true rest else more 1 [c] true cs
          | '\\', ']' :: _ => more 1 ['\\'] true cs
          | '\\', d :: rest => if d = delimiter then more 2 (['\\', d].drop 1) true rest else more 1 [c] true cs
          | '[', m :: rest =>
            if m = ':' || m = '.' || m = '=' then
              let name := rest.takeWhile fun d => d.isAlpha
              match rest.drop name.length with
              | d :: ']' :: after =>
                if d = m then more (name.length + 4) ([c, m] ++ name ++ [d, ']']) true after
                else more 1 [c] true cs
              | _ => more 1 [c] true cs
            else more 1 [c] true cs
          | _, _ => more 1 [c] true cs
      else if c = delimiter then some ([], 1)
      else if c = '\n' && isRegex then none
      else if c = '\n' then none
      else if c = '\\' then match cs with
        | [] => none
        | d :: rest =>
          if d = delimiter then
            more 2 (if !isRegex && d = '&' then ['\\', d] else [d]) false rest
          else if d = 'n' && isRegex then more 2 ['\n'] false rest
          else if d = '\n' && isRegex then more 2 ['\n'] false rest
          else more 2 ['\\', d] false rest
      else if c = '[' && isRegex then
        match cs with
        | '^' :: ']' :: rest => more 3 ['[', '^', ']'] true rest
        | '^' :: rest => more 2 ['[', '^'] true rest
        | ']' :: rest => more 2 ['[', ']'] true rest
        | rest => more 1 ['['] true rest
      else more 1 [c] false cs
  match go (cs.length + 1) false cs with
  | some (text, n) =>
    let taken := cs.take n
    modify fun r => { r with
      rest := cs.drop n, count := r.count + n, line := r.line + taken.count '\n' }
    return text
  | none =>
    let line := cs.takeWhile (· ≠ '\n')
    skipWhile (fun _ => false)
    modify fun r => { r with count := r.count + line.length }
    fail complaint

def sought (text : List Char) (folds lines : Bool) (needed : Nat) : Reader Sought := do
  if text.isEmpty then
    if folds || lines then fail "cannot specify modifiers on empty regexp"
    return { regex := none }
  let manner := (← get).manner
  let grammar : Regex.Grammar := match manner.plain, manner.extended with
    | true, true => .plainExtended
    | true, false => .plainBasic
    | false, true => .strictExtended
    | false, false => .strictBasic
  let text := decoded (text.length + 1) text
  match Regex.parse grammar (Octets.characters text) lines with
  | .error e =>
    if e = Regex.forgottenBrackets then throw ⟨e, 4⟩ else fail e
  | .ok p =>
    if p.groups < needed && !manner.plain then
      fail ("invalid reference \\" ++ toString needed ++ " on \x60s' command's RHS")
    let encoded := if p.wide || folds then none else some p.regex.encoded
    return { regex := some p.regex, text, folds, lines, encoded }

/-- An address, if one begins here. -/
def address : Reader (Option (Address ⊕ Limit)) := do
  let regexAt (delimiter : Char) : Reader (Option (Address ⊕ Limit)) := do
    let text ← delimited delimiter true "unterminated address regex"
    let rec flags : (steps : Nat) → Bool → Bool → Reader (Bool × Bool)
      | 0, i, m => return (i, m)
      | steps + 1, i, m => do
        skipWhile isBlank
        match ← peek with
        | some 'I' => do
          let _ ← next
          flags steps true m
        | some 'M' => do
          let _ ← next
          flags steps i true
        | _ => return (i, m)
    skipWhile isBlank
    let (i, m) ← if ← isPlain then pure (false, false) else flags ((← get).rest.length + 1) false false
    return some (.inl (.regex (← sought text i m 0)))
  let plain ← isPlain
  match ← peek with
  | some '/' =>
    let _ ← next
    regexAt '/'
  | some '\\' =>
    let _ ← next
    match ← next with
    | some c => regexAt c
    | none => fail "unterminated address regex"
  | some '$' =>
    let _ ← next
    return some (.inl .last)
  | some '+' =>
    if plain then return none
    let _ ← next
    skipWhile isBlank
    return some (.inr (.after (← number)))
  | some '~' =>
    if plain then return none
    let _ ← next
    skipWhile isBlank
    return some (.inr (.multiple (← number)))
  | some c =>
    if !c.isDigit then return none
    let n ← number
    let before ← get
    skipWhile isBlank
    if !plain && (← peek) = some '~' then
      let _ ← next
      skipWhile isBlank
      let step ← number
      return some (.inl (if step = 0 then .line n else .every n step))
    else
      set before
      return some (.inl (.line n))
  | none => return none

/-- A character with its codes put in, behind a backslash in a replacement or a list. -/
def escapedChar (c : Char) (rest : List Char) : Char × List Char :=
  if c = 'n' then ('\n', rest) else (codedChar? c rest).getD (c, rest)

/-- The segments of a replacement. `text` is what was read of the current one, in reverse; the
change of case for its first character ends with it, the other one stays. -/
def segments (plain : Bool) : (steps : Nat) → (text : List Char) → (casing first : Casing) → List Char →
    List Segment
  | 0, _, _, _, _ => []
  | steps + 1, text, casing, first, cs =>
    let segment (group : Option Nat) : Segment := { text := text.reverse, group, casing, first }
    match cs with
    | [] => if text.isEmpty then [] else [segment none]
    | '&' :: rest => segment (some 0) :: segments plain steps [] casing .plain rest
    | '\\' :: d :: rest =>
      if d.isDigit then
        segment (some (d.toNat - '0'.toNat)) :: segments plain steps [] casing .plain rest
      else
        let change : Option (Casing × Casing) := if plain then none else match d with
          | 'U' => some (.upper, .plain)
          | 'L' => some (.lower, .plain)
          | 'E' => some (.plain, .plain)
          | 'u' => some (casing, .upper)
          | 'l' => some (casing, .lower)
          | _ => none
        match change with
        | some (casing, first) => segment none :: segments plain steps [] casing first rest
        | none =>
          -- a literal character ends the segment, too
          let (e, rest) := escapedChar d rest
          { segment none with text := (e :: text).reverse } :: segments plain steps [] casing .plain rest
    | c :: rest => segments plain steps (c :: text) casing first rest

def greatestGroup (ss : List Segment) : Nat := ss.foldl (fun n s => max n (s.group.getD 0)) 0

def fileName : Reader String := do
  guarded
  skipWhile isBlank
  let name ← takeWhile (· ≠ '\n')
  if name.isEmpty then fail "missing filename in r/R/w/W commands"
  let _ ← next
  return name

def outputFile : Reader String := do
  let name ← fileName
  modify fun r => { r with files := if r.files.contains name then r.files else r.files ++ [name] }
  return name

def substitutionFlags : (steps : Nat) → Substitution → Reader Substitution
  | 0, s => return s
  | steps + 1, s => do
    match ← peek with
    | none => return s
    | some c =>
      if c = '\x7d' || c = '#' then return s
      if c.isDigit then
        -- zero stands for a number not given yet
        let _ ← next
        if s.first ≠ 0 then fail "multiple number options to \x60s' command"
        modify fun r => { r with rest := c :: r.rest, count := r.count - 1 }
        let n ← number
        if n = 0 then fail "number option to \x60s' command may not be zero"
        substitutionFlags steps { s with first := n }
      else
        let _ ← next
        if (← isPlain) && "iImMe".toList.contains c then fail "unknown option to \x60s'"
        match c with
        | 'i' => substitutionFlags steps { s with sought := { s.sought with folds := true } }
        | 'I' => substitutionFlags steps { s with sought := { s.sought with folds := true } }
        | 'm' => substitutionFlags steps { s with sought := { s.sought with lines := true } }
        | 'M' => substitutionFlags steps { s with sought := { s.sought with lines := true } }
        | 'e' => substitutionFlags steps { s with runs := true }
        | 'p' =>
          if s.prints then fail "multiple \x60p' options to \x60s' command"
          substitutionFlags steps { s with prints := true, printsCommand := !s.runs }
        | 'g' =>
          if s.everywhere then fail "multiple \x60g' options to \x60s' command"
          substitutionFlags steps { s with everywhere := true }
        | 'w' => return { s with file := some (← outputFile) }
        | '\n' => return s
        | ';' => return s
        | _ =>
          if isBlank c then substitutionFlags steps s
          else fail "unknown option to \x60s'"

def substitution : Reader Command := do
  let complaint := "unterminated \x60s' command"
  match ← next with
  | none => fail complaint
  | some delimiter =>
    if delimiter = '\n' || delimiter = '\\' then fail complaint
    let regex ← delimited delimiter true complaint
    let replacement ← delimited delimiter false complaint
    let replacement := segments (← isPlain) (replacement.length + 1) [] .plain .plain replacement
    let s ← substitutionFlags ((← get).rest.length + 2) { sought := { regex := none }, replacement }
    let found ← sought regex s.sought.folds s.sought.lines (greatestGroup replacement)
    if s.runs then guarded
    return .substitute { s with sought := found }

def translated : (steps : Nat) → List Char → List Char
  | 0, _ => []
  | _, [] => []
  | steps + 1, '\\' :: c :: rest =>
    let (d, rest) := escapedChar c rest
    d :: translated steps rest
  | steps + 1, c :: rest => c :: translated steps rest

def translation : Reader Command := do
  let complaint := "unterminated \x60y' command"
  match ← next with
  | none => fail complaint
  | some delimiter =>
    let a ← delimited delimiter false complaint
    let b ← delimited delimiter false complaint
    let a := Octets.characters (translated (a.length + 1) a)
    let b := Octets.characters (translated (b.length + 1) b)
    if a.length ≠ b.length then fail "strings for \x60y' command are different lengths"
    endOfCommand
    return .translate (a.zip b)

/-- The text of an insertion: the rest of the line, and the lines after it as long as each but
the last ends in a backslash. -/
def insertion : Reader String := do
  skipWhile isBlank
  let plain ← isPlain
  let unexpected := "expected \\ after \x60a', \x60c' or \x60i'"
  match ← peek with
  | none => fail unexpected
  | some '\\' => do
    let _ ← next
    let blanks ← takeWhile isBlank
    match ← peek with
    | none => if plain then fail "incomplete command" else return ""
    | some '\n' => do
      let _ ← next
      body
    | some _ => do
      let text ← body
      return blanks ++ text
  | some _ =>
    if plain then
      let _ ← next
      fail unexpected
    body
where
  body : Reader String := do
    let cs := (← get).rest
    let rec go : (steps : Nat) → List Char → List Char × Nat
      | 0, _ => ([], 0)
      | _, [] => (['\n'], 0)
      | _, '\n' :: _ => (['\n'], 1)
      | steps + 1, '\\' :: c :: rest =>
        match (if c = 'n' then some ('\n', rest) else codedChar? c rest) with
        | some (d, after) =>
          let (out, n) := go steps after
          (d :: out, n + 2 + (rest.length - after.length))
        | none =>
          let (out, n) := go steps rest
          (c :: out, n + 2)
      | steps + 1, c :: rest =>
        let (out, n) := go steps rest
        (if c = '\\' && rest.isEmpty then out else c :: out, n + 1)
    let (out, n) := go (cs.length + 1) cs
    let taken := cs.take n
    modify fun r => { r with
      rest := cs.drop n, count := r.count + n, line := r.line + taken.count '\n' }
    if n = cs.length && (← isPlain) && taken.getLast? = some '\\' then fail "incomplete command"
    return String.ofList out

def label : Reader String := do
  skipWhile isBlank
  takeWhile fun c => !isSpace c && c ≠ ';' && c ≠ '\x7d'

/-- A command after its letter; nothing if the letter is a comment or a mark. -/
def command (c : Char) (lines : Lines) : Reader (Option Command) := do
  let plain (c : Command) : Reader (Option Command) := do
    endOfCommand
    return some c
  let isRange := match lines with
    | .range .. => true
    | _ => false
  let plainly ← isPlain
  let size : Reader (Option Nat) := do
    skipWhile isBlank
    let n ← if !plainly && (← peek).any Char.isDigit then (do return some (← number)) else pure none
    endOfCommand
    return n
  let jump (make : Nat → Command) : Reader (Option Command) := do
    let name ← label
    let place := (← get).instructions.size
    modify fun r => { r with jumps := ⟨place, name⟩ :: r.jumps }
    return some (make 0)
  if plainly then
    if "eFvzLQTRW".toList.contains c then fail ("unknown command: \x60" ++ String.singleton c ++ "'")
    if isRange && "aiqlr=".toList.contains c then fail "command only uses one address"
  match c with
  | '#' =>
    if lines ≠ .all then fail "comments don't accept any addresses"
    let first := (← get).count = 1 && (← get).line = 1 && (← get).source.number = 1
    let text ← takeWhile (· ≠ '\n')
    if first && text.startsWith "n" then modify fun r => { r with silent := true }
    return none
  | ':' =>
    if lines ≠ .all then fail ": doesn't want any addresses"
    let name ← label
    if name.isEmpty then fail "\":\" lacks a label"
    modify fun r => { r with labels := (name, r.instructions.size) :: r.labels }
    return some (.mark name)
  | '\x7b' =>
    modify fun r => { r with blocks := r.instructions.size :: r.blocks }
    return some (.block 0)
  | '\x7d' =>
    match (← get).blocks with
    | [] => fail "unexpected \x60\x7d'"
    | b :: bs =>
      if lines ≠ .all then fail "\x7d doesn't want any addresses"
      endOfCommand
      modify fun r => { r with
        blocks := bs
        instructions := r.instructions.modify b fun i => { i with command := .block r.instructions.size } }
      return some .close
  | 'e' =>
    guarded
    skipWhile isBlank
    if (← peek).all (· = '\n') then
      let _ ← next
      return some (.execute "")
    return some (.execute (← insertion))
  | 'a' => return some (.append (← insertion))
  | 'i' => return some (.insert (← insertion))
  | 'c' => return some (.change (← insertion))
  | 'b' => jump .branch
  | 't' => jump .branchIfChanged
  | 'T' => jump .branchUnlessChanged
  | 'v' =>
    let version ← label
    match version.toList with
    | d :: _ => if '4' < d then fail "expected newer version of sed"
    | [] => pure ()
    return none
  | 'q' =>
    if isRange then fail "command only uses one address"
    return some (.quit (← size))
  | 'Q' =>
    if isRange then fail "command only uses one address"
    return some (.quitSilently (← size))
  | 'l' => return some (.list (← size))
  | 'r' =>
    let path ← fileName
    return some (if lines = .single (.line 0) then .readBefore path else .readFile path)
  | 'R' => return some (.readLine (← fileName))
  | 'w' => return some (.writeFile (← outputFile))
  | 'W' => return some (.writeFirst (← outputFile))
  | 's' => return some (← substitution)
  | 'y' => return some (← translation)
  | '=' => plain .number
  | 'd' => plain .delete
  | 'D' => plain .deleteFirst
  | 'F' => plain .fileName
  | 'g' => plain .get
  | 'G' => plain .getMore
  | 'h' => plain .hold
  | 'H' => plain .holdMore
  | 'n' => plain .next
  | 'N' => plain .nextMore
  | 'p' => plain .print
  | 'P' => plain .printFirst
  | 'x' => plain .exchange
  | 'z' => plain .empty
  | _ => fail ("unknown command: \x60" ++ String.singleton c ++ "'")

def addresses : Reader Lines := do
  let plain ← isPlain
  -- there is no line zero, but a range may begin there, and a file may be read before the first line
  let zero : Reader Unit := do
    let _ ← next
    fail "invalid usage of line address 0"
  match ← address with
  | none => return .all
  | some (.inr _) => failAt 2 "invalid usage of +N or ~N as first address"
  | some (.inl a) =>
    skipWhile isBlank
    let isZero := a = .line 0
    if (← peek) = some ',' then
      let _ ← next
      skipWhile isBlank
      match ← address with
      | none =>
        let _ ← next
        fail "unexpected \x60,'"
      | some b =>
        skipWhile isBlank
        let limit := match b with
          | .inl b => .at b
          | .inr l => l
        let isRegex := match limit with
          | .at (.regex _) => true
          | _ => false
        if isZero && (plain || !isRegex) then zero
        return .range a limit
    else
      if isZero && (plain || (← peek) ≠ some 'r') then zero
      return .single a

def commands : (steps : Nat) → Reader Unit
  | 0 => return
  | steps + 1 => do
    skipWhile fun c => c = ';' || isSpace c
    if (← get).rest.isEmpty then return
    let lines ← addresses
    skipWhile isBlank
    let negated := (← peek) = some '!'
    if negated then
      let _ ← next
      skipWhile isBlank
      if (← peek) = some '!' then
        let _ ← next
        fail "multiple \x60!'s"
    match ← next with
    | none => fail "missing command"
    | some c =>
      match ← command c lines with
      | none => pure ()
      | some c =>
        let lines := if lines = .single (.line 0) then .single (.line 1) else lines
        modify fun r => { r with instructions := r.instructions.push ⟨lines, negated, c⟩ }
      commands steps

end Reader

structure Script where
  instructions : Array Instruction
  files : List String
  silent : Bool

def Command.goTo (target : Nat) : Command → Command
  | .branch _ => .branch target
  | .branchIfChanged _ => .branchIfChanged target
  | .branchUnlessChanged _ => .branchUnlessChanged target
  | c => c

def readScript (manner : Manner) (sources : List Source) : Except Mistake Script :=
  let all : Reader Unit := do
    for s in sources do
      modify fun r => { r with rest := s.text.toList, source := s, count := 0, line := 1 }
      Reader.commands (s.text.length + 2)
    if !(← get).blocks.isEmpty then Reader.failAt 0 "unmatched \x60\x7b'"
    let r ← get
    for j in r.jumps.reverse do
      let target ← if j.label.isEmpty then pure r.instructions.size else
        match r.labels.lookup j.label with
        | some n => pure n
        | none => throw ⟨"can't find label for jump to \x60" ++ j.label ++ "'", 4⟩
      modify fun r => { r with
        instructions := r.instructions.modify j.place fun i => { i with command := i.command.goTo target } }
  match all { rest := [], source := { text := "" }, manner } with
  | .ok () r => .ok { instructions := r.instructions, files := r.files, silent := r.silent }
  | .error m _ => .error m

end DeltaDebugging.Utility.Sed
