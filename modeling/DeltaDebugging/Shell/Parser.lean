import DeltaDebugging.Shell.Reader

/-!
# The grammar of the shell

Words hold commands and commands hold words, so the readers of both take the reader of
whole commands as a parameter; `commandAt` ties the knot by the depth of nesting, which the
length of the script bounds.
-/
namespace DeltaDebugging.Shell

namespace Reading

/-- Text that is being gathered into parts; both lists run backwards. -/
structure Draft where
  parts : List Part := []
  run : List Char := []

namespace Draft

def push (d : Draft) (c : Char) : Draft := { d with run := c :: d.run }

def flush (d : Draft) : Draft :=
  if d.run.isEmpty then d else ⟨.text (String.ofList d.run.reverse) :: d.parts, []⟩

def add (d : Draft) (p : Part) : Draft := { d.flush with parts := p :: d.flush.parts }

def finish (d : Draft) : Word := d.flush.parts.reverse

end Draft

/-- Where a part of a word stands, as far as it matters for what it may hold. -/
inductive Setting where
  /-- Outside quotes. -/
  | plain
  /-- Between double quotes. -/
  | quotes
  /-- In a here-document. -/
  | document
  /-- In an arithmetic expansion. -/
  | arithmetic
  deriving DecidableEq, Repr

def singleQuoted : (steps : Nat) → (read : List Char) → Reading String
  | 0, _ => mistake "Unterminated quoted string"
  | steps + 1, read => do
    match ← raw with
    | none => mistake "Unterminated quoted string"
    | some '\'' => return String.ofList read.reverse
    | some c => singleQuoted steps (c :: read)

/-- What a backslash protects outside quotes. -/
def escaped : Reading String := do
  match ← raw with
  | none => return "\\"
  | some c => return String.singleton c

/-- What a backslash protects between double quotes: only characters that would mean
something there, so elsewhere it stands for itself. -/
def escapedIn (protects : Char → Bool) : Reading String := do
  match ← raw with
  | none => return "\\"
  | some c => return if protects c then String.singleton c else String.ofList ['\\', c]

def alwaysProtected (c : Char) : Bool := c == '\\' || c == '\x60' || c == '$'

/-- The text up to a closing backquote, with what backslashes protect set free. -/
def backquoted (inQuotes : Bool) : (steps : Nat) → (read : List Char) → Reading (List Char)
  | 0, _ => mistake "EOF in backquote substitution"
  | steps + 1, read => do
    match ← next with
    | none => mistake "EOF in backquote substitution"
    | some '\x60' => return read.reverse
    | some '\\' =>
      let c := (← raw).getD '\\'
      backquoted inQuotes steps
        (if alwaysProtected c || (inQuotes && c == '"') then c :: read else c :: '\\' :: read)
    | some c => backquoted inQuotes steps (c :: read)

def apart (act : Reading α) : Reading α := do
  let r ← get
  set { r with again := false, attention := {}, announced := [] }
  let a ← act
  modify fun t => { t with
    token := r.token, again := r.again, word := r.word, quoted := r.quoted
    attention := r.attention, announced := r.announced }
  return a

def within (text : List Char) (act : Reading α) : Reading α := do
  let r ← get
  set { r with rest := text, line := 1, active := [] }
  let a ← act
  modify fun t => { t with rest := r.rest, line := r.line, active := r.active }
  return a

structure Inner where
  /-- The commands of a substitution, up to what closes it. -/
  commands : Reading Command
  /-- The commands of a substitution between brackets, past the closing one. -/
  bracketed : Reading Command

def backquote (inner : Inner) (inQuotes : Bool) : Reading Part := do
  let text ← backquoted inQuotes (← fuel) []
  return .output (← apart (within text inner.commands))

def takeWhile (p : Char → Bool) : (steps : Nat) → (read : List Char) → Reading String
  | 0, read => return String.ofList read.reverse
  | steps + 1, read => do
    match ← peek with
    | some c =>
      if p c then
        let _ ← raw
        takeWhile p steps (c :: read)
      else return String.ofList read.reverse
    | none => return String.ofList read.reverse

/-- The name of a parameter between braces, if there is one, and whether its length is asked
for. -/
def bracedName : Reading (Option String × Bool) := do
  let named (c : Char) : Reading String := do
    takeWhile (if isNameStart c then isNameChar else Char.isDigit) (← fuel) []
  match ← peek with
  | none => return (none, false)
  | some c =>
    if isNameStart c || c.isDigit then return (some (← named c), false)
    else if c == '\x7d' then return (none, false)
    else if c ≠ '#' then
      if isSpecial c then
        let _ ← raw
        return (some (String.singleton c), false)
      else return (none, false)
    else
      let _ ← raw
      match ← peek with
      | none => return (some "#", false)
      | some c =>
        if isNameStart c || c.isDigit then return (some (← named c), true)
        else
          let before ← get
          let _ ← raw
          if c == '\x7d' || (← peek) ≠ some '\x7d' then
            set before
            return (some "#", false)
          else if isSpecial c then return (some (String.singleton c), true)
          else return (none, false)

inductive Mark where
  | done
  | broken
  | trim (atEnd longest : Bool)
  | fallback (kind : Fallback) (orEmpty : Bool)
  | length
  deriving DecidableEq, Repr

def fallbackMark? (c : Char) : Option Fallback :=
  if c == '-' then some .default else if c == '+' then some .instead
  else if c == '?' then some .complain else if c == '=' then some .assign else none

def bracedMark : Reading Mark := do
  match ← next with
  | none => return .broken
  | some '\x7d' => return .done
  | some '%' => return .trim true (← take '%')
  | some '#' => return .trim false (← take '#')
  | some ':' => match ← next with
    | some c => match fallbackMark? c with
      | some k => return .fallback k true
      | none => return .broken
    | none => return .broken
  | some c => match fallbackMark? c with
    | some k => return .fallback k false
    | none =>
      -- the end of a line is taken for a mark here, and not counted
      if c == '\n' then modify fun r => { r with line := r.line - 1 }
      return .broken

mutual

def dollar (inner : Inner) (setting : Setting) : (steps : Nat) → Reading Part
  | 0 => return .text "$"
  | steps + 1 => do
    match ← peek with
    | some '(' =>
      let _ ← raw
      if ← take '(' then return .arithmetic (← arithmetic inner steps 0 {})
      else return .output (← apart inner.bracketed)
    | some '\x7b' =>
      let _ ← raw
      let (name, length) ← bracedName
      let mark ← match name with
        | none => pure .broken
        | some _ =>
          if length then pure (if (← peek) = some '\x7d' then Mark.length else .broken)
          else bracedMark
      if mark = .done then return .parameter (name.getD "") .plain else
      let within := match mark with
        | .trim _ _ => .plain
        | _ => setting
      let w ← braced inner within false steps {}
      return .parameter (name.getD "") (match mark with
        | .trim atEnd longest => .trim atEnd longest w
        | .fallback kind orEmpty => .fallback kind orEmpty w
        | .length => .length
        | _ => .malformed)
    | some c =>
      if isNameStart c then
        return .parameter (← takeWhile isNameChar (← fuel) []) .plain
      else if isSpecial c then
        let _ ← raw
        return .parameter (String.singleton c) .plain
      else return .text "$"
    | none => return .text "$"

/-- The word of a parameter expansion, past the closing brace. Between double quotes, further
double quotes only keep braces from closing it. -/
def braced (inner : Inner) (setting : Setting) (nested : Bool) : (steps : Nat) → Draft → Reading Word
  | 0, _ => mistake "Missing '\x7d'"
  | steps + 1, d => do
    let inQuotes := decide (setting ≠ .plain)
    match ← next with
    | none => mistake (if setting = .quotes then "Unterminated quoted string" else "Missing '\x7d'")
    | some '\x7d' =>
      if nested then braced inner setting nested steps (d.push '\x7d') else return d.finish
    | some '\\' =>
      let s ← if inQuotes then
          escapedIn fun c => alwaysProtected c || c == '"' || c == '\x7d'
        else escaped
      braced inner setting nested steps (d.add (.quoted s))
    | some '\'' =>
      if inQuotes then braced inner setting nested steps (d.push '\'') else
      let s ← singleQuoted (← fuel) []
      braced inner setting nested steps (d.add (.quoted s))
    | some '"' =>
      if inQuotes then braced inner setting (!nested) steps d else
      let ps ← double inner .quotes steps {}
      braced inner setting nested steps (d.add (.double ps))
    | some '$' =>
      let p ← dollar inner setting steps
      braced inner setting nested steps (d.add p)
    | some '\x60' =>
      let p ← backquote inner inQuotes
      braced inner setting nested steps (d.add p)
    | some c => braced inner setting nested steps (d.push c)

/-- The rest of a text between double quotes, past the closing one; a here-document ends
with its text. -/
def double (inner : Inner) (setting : Setting) : (steps : Nat) → Draft → Reading Word
  | 0, _ => mistake "Unterminated quoted string"
  | steps + 1, d => do
    match ← next with
    | none =>
      if setting = .document then return d.finish else mistake "Unterminated quoted string"
    | some '"' =>
      if setting = .document then double inner setting steps (d.push '"') else return d.finish
    | some '\\' =>
      let s ← escapedIn fun c => alwaysProtected c || (c == '"' && setting ≠ .document)
      double inner setting steps (d.add (.quoted s))
    | some '$' =>
      if (← get).attention.mark then double inner setting steps (d.push '$') else
      let p ← dollar inner setting steps
      double inner setting steps (d.add p)
    | some '\x60' =>
      if (← get).attention.mark then double inner setting steps (d.push '\x60') else
      let p ← backquote inner true
      double inner setting steps (d.add p)
    | some c => double inner setting steps (d.push c)

/-- The rest of an arithmetic expansion within `depth` brackets of its own. -/
def arithmetic (inner : Inner) : (steps : Nat) → (depth : Nat) → Draft → Reading Word
  | 0, _, _ => mistake "Missing '))'"
  | steps + 1, depth, d => do
    match ← next with
    | none => mistake "Missing '))'"
    | some '(' => arithmetic inner steps (depth + 1) (d.push '(')
    | some ')' => match depth with
      | 0 =>
        if ← take ')' then return d.finish
        else arithmetic inner steps 0 (d.push ')')
      | depth + 1 => arithmetic inner steps depth (d.push ')')
    | some '\\' =>
      let s ← escapedIn fun c => alwaysProtected c || c == '"'
      arithmetic inner steps depth (d.add (.quoted s))
    | some '$' =>
      let p ← dollar inner .arithmetic steps
      arithmetic inner steps depth (d.add p)
    | some '\x60' =>
      let p ← backquote inner true
      arithmetic inner steps depth (d.add p)
    | some c => arithmetic inner steps depth (d.push c)

end

/-- A word outside quotes, up to the character that ends it, and whether it was quoted. -/
def plainWord (inner : Inner) : (steps : Nat) → (quoted : Bool) → Draft → Reading (Word × Bool)
  | 0, quoted, d => return (d.finish, quoted)
  | steps + 1, quoted, d => do
    match ← peek with
    | none => return (d.finish, quoted)
    | some c =>
      if endsWord c then return (d.finish, quoted) else
      let _ ← raw
      match c with
      | '\\' => plainWord inner steps true (d.add (.quoted (← escaped)))
      | '\'' => plainWord inner steps true (d.add (.quoted (← singleQuoted (← fuel) [])))
      | '"' => plainWord inner steps true (d.add (.double (← double inner .quotes (← fuel) {})))
      | '$' =>
        if (← get).attention.mark then plainWord inner steps quoted (d.push '$') else
        let p ← dollar inner .plain (← fuel)
        plainWord inner steps quoted (match p with
          | .text s => s.toList.foldl Draft.push d
          | p => d.add p)
      | '\x60' =>
        if (← get).attention.mark then plainWord inner steps quoted (d.push '\x60') else
        plainWord inner steps quoted (d.add (← backquote inner false))
      | c => plainWord inner steps quoted (d.push c)

/-- The text of a word in which nothing is expanded. -/
def literal : Word → String
  | [] => ""
  | .text s :: ps => s ++ literal ps
  | .quoted s :: ps => s ++ literal ps
  | .double inner :: ps => literalInner inner ++ literal ps
  | _ :: ps => literal ps
where
  literalInner : List Part → String
    | [] => ""
    | .text s :: ps => s ++ literalInner ps
    | .quoted s :: ps => s ++ literalInner ps
    | _ :: ps => literalInner ps

def documentLines (mark : List Char) (stripTabs : Bool) : (steps : Nat) → List Char →
    List Char × List Char × Nat
  | 0, cs => ([], cs, 0)
  | _ + 1, [] => ([], [], 0)
  | steps + 1, cs =>
    let cs := if stripTabs then cs.dropWhile (· == '\t') else cs
    let line := cs.takeWhile (· != '\n')
    let rest := cs.drop line.length
    if line = mark then ([], rest.drop 1, 1)
    else match rest with
      | [] => (line, [], 0)
      | _ :: rest =>
        let (more, rest, count) := documentLines mark stripTabs steps rest
        (line ++ '\n' :: more, rest, count + 1)

def announcedDocuments (inner : Inner) : (announced : List Announced) → Reading Unit
  | [] => modify fun r => { r with announced := [] }
  | a :: more => do
    let r ← get
    let (text, rest, lines) :=
      documentLines a.mark.toList a.stripTabs (r.rest.length + 1) r.rest
    let w ← if a.expands then do
        set { r with rest := text, announced := [], attention := {} }
        let w ← double inner .document (text.length + 1) {}
        modify fun t => { t with rest, attention := r.attention, announced := more, line := r.line + lines }
        pure w
      else do
        set { r with rest, announced := more, line := r.line + lines }
        pure [.quoted (String.ofList text)]
    modify fun t => { t with documents := (a.number, w) :: t.documents }
    announcedDocuments inner more

def readDocuments (inner : Inner) : Reading Unit := do
  announcedDocuments inner (← get).announced

/-- The mark of a redirection after its first sign. -/
def redirectionMark (sign : Char) : Reading RedirectionMark := do
  if sign == '>' then
    if ← take '>' then return .open .append
    else if ← take '|' then return .open .overwrite
    else if ← take '&' then return .duplicate
    else return .open .write
  else
    if ← take '<' then return .document (← take '-')
    else if ← take '&' then return .duplicate
    else if ← take '>' then return .open .readWrite
    else return .open .read

def wordToken (inner : Inner) : Reading Token := do
  let (w, quoted) ← plainWord inner (← fuel) false {}
  let sign ← peek
  let digit : Option (Option Nat) := match w with
    | [] => some none
    | [.text s] => match s.toList with
      | [c] => if c.isDigit then some (some (c.toNat - '0'.toNat)) else none
      | _ => none
    | _ => none
  match digit, sign with
  | some d, some c =>
    if (c == '<' || c == '>') && !quoted then
      let _ ← raw
      let mark ← redirectionMark c
      return .redirection (d.getD (if c == '>' then 1 else 0)) mark
    else
      modify fun r => { r with word := w, quoted }
      return .word
  | _, _ =>
    modify fun r => { r with word := w, quoted }
    return .word

def scan (inner : Inner) : (steps : Nat) → Reading Token
  | 0 => return .endOfFile
  | steps + 1 => do
    match ← peek with
    | none => return .endOfFile
    | some c =>
      if c == ' ' || c == '\t' then
        let _ ← raw
        scan inner steps
      else if c == '#' then
        modify fun r => { r with rest := r.rest.dropWhile (· != '\n') }
        scan inner steps
      else if c == '\n' then
        let _ ← raw
        return .newline
      else if c == '&' then
        let _ ← raw
        return if ← take '&' then .andIf else .background
      else if c == '|' then
        let _ ← raw
        return if ← take '|' then .orIf else .pipe
      else if c == ';' then
        let _ ← raw
        return if ← take ';' then .branchEnd else .semicolon
      else if c == '(' then
        let _ ← raw
        return .opening
      else if c == ')' then
        let _ ← raw
        return .closing
      else wordToken inner

/-- The next token, or the last one again. -/
def anyToken (inner : Inner) : Reading Token := do
  let r ← get
  if r.again then
    set { r with again := false }
    return r.token
  else
    let t ← scan inner (← fuel)
    modify fun r => { r with token := t }
    return t

def skipNewlines (inner : Inner) : (steps : Nat) → Token → Reading Token
  | 0, t => return t
  | steps + 1, t => do
    if t = .newline then
      readDocuments inner
      modify fun r => { r with attention := {} }
      skipNewlines inner steps (← anyToken inner)
    else return t

/-- The text that an unquoted word stands for as an alias, unless that alias is being read. -/
def alias? (r : Reader) : Option (String × String) := do
  let name ← Part.bare? r.word
  let value ← r.aliases.lookup name
  if r.active.any fun a => a.1 = name && a.2 < r.rest.length then none else some (name, value)

def token (inner : Inner) : (steps : Nat) → Reading Token
  | 0 => return .endOfFile
  | steps + 1 => do
    let attention := (← get).attention
    let t ← anyToken inner
    let t ← if attention.newlines then skipNewlines inner (← fuel) t else pure t
    let r ← get
    let keywords := attention.keywords || r.attention.keywords
    let aliases := attention.aliases || r.attention.aliases
    set { r with attention := {} }
    if t ≠ .word || r.quoted then return t else
    match if keywords then (Part.bare? r.word).bind Keyword.ofText? else none with
    | some k =>
      modify fun r => { r with token := .keyword k }
      return .keyword k
    | none => match if aliases then alias? r else none with
      | some (name, value) =>
        modify fun r => { r with
          rest := value.toList ++ ' ' :: r.rest
          active := (name, r.rest.length) :: r.active.filter fun a => a.2 < r.rest.length
          attention }
        token inner steps
      | none => return t

def readToken (inner : Inner) : Reading Token := do token inner ((← get).aliases.length + 2)

def pushBack : Reading Unit := modify fun r => { r with again := true }

def attend (a : Attention) : Reading Unit := modify fun r => { r with attention := a }

/-- What is looked for where a command may begin. -/
def atCommand : Attention := { keywords := true, aliases := true }

def atCommandBelow : Attention := { newlines := true, keywords := true, aliases := true }

/-- The descriptor that a word names literally: none for a dash. -/
def literalDescriptor? (w : Word) : Option (Option Nat) :=
  match Part.bare? w with
  | none => none
  | some s => match s.toList with
    | ['-'] => some none
    | [c] => if c.isDigit then some (some (c.toNat - '0'.toNat)) else none
    | _ => none

def redirection (inner : Inner) (descriptor : Nat) (mark : RedirectionMark) :
    Reading Redirection := do
  match mark with
  | .document _ => attend { mark := true }
  | _ => pure ()
  if (← readToken inner) ≠ .word then unexpected
  let r ← get
  match mark with
  | .open mode => return .file descriptor mode r.word
  | .duplicate => match literalDescriptor? r.word with
    | some source => return .duplicate descriptor source
    | none => return .duplicateWord descriptor r.word
  | .document stripTabs =>
    let a : Announced := ⟨r.nextDocument, literal r.word, stripTabs, !r.quoted⟩
    set { r with announced := r.announced ++ [a], nextDocument := r.nextDocument + 1 }
    return .document descriptor a.number

def redirections (inner : Inner) : (steps : Nat) → Reading (List Redirection)
  | 0 => return []
  | steps + 1 => do
    match ← readToken inner with
    | .redirection descriptor mark =>
      let r ← redirection inner descriptor mark
      return r :: (← redirections inner steps)
    | _ =>
      pushBack
      return []

def assignment? : Word → Option (String × Word)
  | .text s :: ps =>
    let name := s.toList.takeWhile isNameChar
    match s.toList.drop name.length with
    | '=' :: rest =>
      if name.head?.any isNameStart then
        some (String.ofList name, if rest.isEmpty then ps else .text (String.ofList rest) :: ps)
      else none
    | _ => none
  | _ => none

/-- The builtins that no function may take the name of. -/
def specialBuiltins : List String :=
  [".", ":", "break", "continue", "eval", "exec", "exit", "export", "readonly", "return", "set",
    "shift", "times", "trap", "unset"]

structure Simple where
  assignments : List (String × Word) := []
  words : List Word := []
  redirections : List Redirection := []

/-- A simple command, or the definition of a function. `leading` holds as long as only
assignments and redirections were read. -/
def simple (inner : Inner) (self : Reading Command) (line : Nat) :
    (steps : Nat) → (leading : Bool) → Simple → Reading Command
  | 0, _, _ => unexpected
  | steps + 1, leading, s => do
    attend { aliases := leading }
    let finish : Reading Command := do
      pushBack
      return .simple line s.assignments.reverse s.words.reverse s.redirections.reverse
    match ← readToken inner with
    | .word =>
      let w := (← get).word
      match if leading then assignment? w else none with
      | some a => simple inner self line steps true { s with assignments := a :: s.assignments }
      | none => simple inner self line steps false { s with words := w :: s.words }
    | .redirection descriptor mark =>
      let r ← redirection inner descriptor mark
      simple inner self line steps leading { s with redirections := r :: s.redirections }
    | .opening => match s.words, s.assignments, s.redirections with
      | [w], [], [] =>
        if (← readToken inner) ≠ .closing then expecting .closing
        let name := (Part.bare? w).getD ""
        if !isName name || specialBuiltins.contains name then mistake "Bad function name"
        attend atCommandBelow
        let line := (← get).line
        return .define line name (← self)
      | _, _, _ => finish
    | _ => finish

def expect (inner : Inner) (t : Token) : Reading Unit := do
  if (← readToken inner) ≠ t then expecting t

structure Lists where
  /-- A list with at least one command. -/
  some : Reading Command
  /-- A list that may be empty. -/
  any : Reading (Option Command)

/-- What follows the first list of a condition. -/
def branches (inner : Inner) (lists : Lists) : (steps : Nat) → Reading Command
  | 0 => unexpected
  | steps + 1 => do
    let c ← lists.some
    expect inner (.keyword .thenWord)
    let yes ← lists.some
    match ← readToken inner with
    | .keyword .elifWord => return .conditional c yes (some (← branches inner lists steps))
    | .keyword .elseWord => return .conditional c yes (some (← lists.some))
    | _ =>
      pushBack
      return .conditional c yes none

def loopWords (inner : Inner) : (steps : Nat) → Reading (List Word)
  | 0 => return []
  | steps + 1 => do
    match ← readToken inner with
    | .word =>
      let w := (← get).word
      return w :: (← loopWords inner steps)
    | .newline => return []
    | .semicolon => return []
    | _ => unexpected

/-- The patterns of a branch, past the bracket that closes them; the first token is read. -/
def patterns (inner : Inner) : (steps : Nat) → Reading (List Word)
  | 0 => unexpected
  | steps + 1 => do
    let w := (← get).word
    match ← readToken inner with
    | .pipe =>
      let _ ← readToken inner
      return w :: (← patterns inner steps)
    | .closing => return [w]
    | _ => expecting .closing

def choices (inner : Inner) (lists : Lists) : (steps : Nat) →
    Reading (List (List Word × Option Command))
  | 0 => unexpected
  | steps + 1 => do
    attend { newlines := true, keywords := true }
    match ← readToken inner with
    | .keyword .esacWord => return []
    | t =>
      if t = .opening then
        let _ ← readToken inner
      let ps ← patterns inner (← fuel)
      let body ← lists.any
      attend { newlines := true, keywords := true }
      match ← readToken inner with
      | .keyword .esacWord => return [(ps, body)]
      | .branchEnd => return (ps, body) :: (← choices inner lists steps)
      | _ => expecting .branchEnd

/-- A command without its redirections, if a compound one begins with this token. -/
def compound (inner : Inner) (lists : Lists) (line : Nat) : Token → Reading (Option Command)
  | .keyword .ifWord => do
    let c ← branches inner lists (← fuel)
    expect inner (.keyword .fiWord)
    return some c
  | .keyword .whileWord => do
    let c ← lists.some
    expect inner (.keyword .doWord)
    let body ← lists.some
    expect inner (.keyword .doneWord)
    return some (.loop false c body)
  | .keyword .untilWord => do
    let c ← lists.some
    expect inner (.keyword .doWord)
    let body ← lists.some
    expect inner (.keyword .doneWord)
    return some (.loop true c body)
  | .keyword .forWord => do
    let t ← readToken inner
    let r ← get
    let name := (Part.bare? r.word).getD ""
    if t ≠ .word || r.quoted || !isName name then mistake "Bad for loop variable"
    attend atCommandBelow
    let words ← match ← readToken inner with
      | .keyword .inWord => loopWords inner (← fuel)
      | t =>
        if t ≠ .semicolon then pushBack
        pure [[.double [.parameter "@" .plain]]]
    attend atCommandBelow
    expect inner (.keyword .doWord)
    let body ← lists.some
    expect inner (.keyword .doneWord)
    return some (.each line name words body)
  | .keyword .caseWord => do
    if (← readToken inner) ≠ .word then expecting .word
    let w := (← get).word
    attend atCommandBelow
    expect inner (.keyword .inWord)
    return some (.choose line w (← choices inner lists (← fuel)))
  | .opening => do
    let c ← lists.some
    expect inner .closing
    return some (.subshell line c [])
  | .keyword .openBrace => do
    let c ← lists.some
    expect inner (.keyword .closeBrace)
    return some c
  | _ => return none

def single (inner : Inner) (lists : Lists) (self : Reading Command) : Reading Command := do
  let line := (← get).line
  let t ← readToken inner
  match ← compound inner lists line t with
  | some c =>
    attend atCommand
    let rs ← redirections inner (← fuel)
    match rs, c with
    | [], c => return c
    | rs, .subshell line c _ => return .subshell line c rs
    | rs, c => return .redirected line c rs
  | none => match t with
    | .word | .redirection _ _ =>
      pushBack
      simple inner self (← get).line (← fuel) true {}
    | _ => unexpected

def moreStages (inner : Inner) (self : Reading Command) : (steps : Nat) → Reading (List Command)
  | 0 => return []
  | steps + 1 => do
    match ← readToken inner with
    | .pipe =>
      attend atCommandBelow
      let c ← self
      return c :: (← moreStages inner self steps)
    | _ =>
      pushBack
      return []

def pipeline (inner : Inner) (self : Reading Command) : Reading Command := do
  let negated ← match ← readToken inner with
    | .keyword .bang => do
      attend atCommand
      pure true
    | _ => do
      pushBack
      pure false
  let c ← self
  let c ← match ← moreStages inner self (← fuel) with
    | [] => pure c
    | more => pure (.pipeline (c :: more))
  return if negated then .negation c else c

def moreChained (inner : Inner) (self : Reading Command) : (steps : Nat) → Command → Reading Command
  | 0, c => return c
  | steps + 1, c => do
    match ← readToken inner with
    | .andIf =>
      attend atCommandBelow
      moreChained inner self steps (.both c (← pipeline inner self))
    | .orIf =>
      attend atCommandBelow
      moreChained inner self steps (.either c (← pipeline inner self))
    | _ =>
      pushBack
      return c

def chain (inner : Inner) (self : Reading Command) : Reading Command := do
  moreChained inner self (← fuel) (← pipeline inner self)

/-- Commands up to what closes the list. Within a compound command line ends are passed over;
at the top a line end ends the list. The first command must be there if `required` holds. -/
def list (inner : Inner) (self : Reading Command) (top : Bool) : (steps : Nat) →
    (required : Bool) → (read : List Command) → Reading (Option Command)
  | 0, _, _ => unexpected
  | steps + 1, required, read => do
    let result : Option Command := match read with
      | [] => none
      | [c] => some c
      | cs => some (.sequence cs.reverse)
    attend { atCommand with newlines := !top }
    let t ← readToken inner
    let finish : Reading (Option Command) := do
      readDocuments inner
      modify fun r => { r with again := true, token := .endOfFile }
      return result
    if t = .newline then
      readDocuments inner
      return result
    else if t = .endOfFile then finish
    else
      pushBack
      if !top && !required && t.closes then return result else
      let line := (← get).line
      let c ← chain inner self
      match ← readToken inner with
      | .background => list inner self top steps false (.background line c :: read)
      | .semicolon => list inner self top steps false (c :: read)
      | .newline =>
        pushBack
        list inner self top steps false (c :: read)
      | .endOfFile =>
        readDocuments inner
        modify fun r => { r with again := true, token := .endOfFile }
        return match read with
          | [] => some c
          | cs => some (.sequence (c :: cs).reverse)
      | _ =>
        if top then unexpected else
        pushBack
        return match read with
          | [] => some c
          | cs => some (.sequence (c :: cs).reverse)

/-- The readers below commands that may be nested as deep as `self` reads them. -/
def innerOf (self : Inner → Reading Command) : (depth : Nat) → Inner
  | 0 => ⟨unexpected, unexpected⟩
  | depth + 1 =>
    let below := innerOf self depth
    let commands : Reading Command := do
      return (← list below (self below) false (← fuel) false []).getD .nothing
    { commands
      bracketed := do
        let c ← commands
        expect below .closing
        readDocuments below
        return c }

/-- A command nested at most `depth` deep. -/
def commandAt (inner : Inner) : (depth : Nat) → Reading Command
  | 0 => unexpected
  | depth + 1 =>
    let self := commandAt inner depth
    single inner
      { some := do return (← list inner self false (← fuel) true []).getD .nothing
        any := do list inner self false (← fuel) false [] }
      self

def maximalDepth : Nat := 1000

def inner : Inner := innerOf (fun below => commandAt below maximalDepth) maximalDepth

/-- The next whole line of commands: nothing at the end of the script, and no command if the
line holds none. -/
def nextLine : Reading (Option (Option Command)) := do
  let r ← get
  set { r with again := false, attention := {} }
  let c ← list inner (commandAt inner maximalDepth) true (← fuel) true []
  let r ← get
  if r.token = .endOfFile && r.again && c.isNone then return none else return some c

end Reading

end DeltaDebugging.Shell
