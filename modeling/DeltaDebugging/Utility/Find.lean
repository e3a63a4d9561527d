import DeltaDebugging.Regex.Parser
import DeltaDebugging.Shell.Pattern
import DeltaDebugging.Utility.Control
import DeltaDebugging.Utility.Numeral
import DeltaDebugging.Utility.Status

/-!
# Finding files

A walk through directories, where each file is put to a question. A question is built from tests
and actions; parts joined by conjunction or disjunction are only asked as far as they decide.
-/
namespace DeltaDebugging.Utility

open Program Paths Properties

namespace Find

/-- More than a number, less than it, or just it. -/
structure Bound where
  sign : Option Char
  number : Nat
  deriving DecidableEq, Repr

def Bound.holds (b : Bound) (n : Int) : Bool := match b.sign with
  | some '+' => b.number < n
  | some _ => n < b.number
  | none => n = b.number

inductive ModeTest where
  | exactly
  | all
  | some
  deriving DecidableEq, Repr

inductive Piece where
  | text (s : String)
  | directive (shape : Number.Shape) (c : Char)
  /-- A time with a conversion of its own. -/
  | time (shape : Number.Shape) (c : Char)
  /-- Nothing is printed from here on. -/
  | stop

inductive Age where
  /-- Whole days, or minutes of which the last one has begun. -/
  | days (b : Bound)
  | minutes (b : Bound)

/-- Whether so many nanoseconds are the age that is asked for. -/
def Age.holds (passed : Int) : Age → Bool
  | days b => b.holds (passed / 86400000000000)
  | minutes b =>
    let minute : Int := 60000000000
    b.holds (match b.sign with
      | some '+' => (passed + minute - 1) / minute
      | some _ => passed / minute
      | none => passed / minute + 1)

inductive Query where
  | constant (value : Bool)
  | user (b : Bound)
  | group (b : Bound)
  /-- Whether the user, or the group, has no name. -/
  | nameless (isGroup : Bool)
  | name (pattern : String) (folds : Bool)
  | path (pattern : String) (folds : Bool)
  | linkName (pattern : String)
  | regex (r : Regex) (folds : Bool)
  | kind (letters : List Char) (follows : Bool)
  | size (b : Bound) (unit : Nat)
  | empty
  | newer (changed : Int)
  | age (a : Age)
  | same (number : Nat)
  | links (b : Bound)
  | inode (b : Bound)
  /-- The bits that are wanted of files, and of directories. -/
  | mode (t : ModeTest) (bits searchable : Nat)
  | executable
  /-- Prints, to an opening if one is given. -/
  | print (goal : Option Nat) (ends : String)
  | format (goal : Option Nat) (pieces : List Piece)
  | details (goal : Option Nat)
  | delete
  | prune
  | quit
  | run (command : List String) (inDirectory asks : Bool)
  | runMany (index : Nat)
  | not (q : Query)
  | both (a b : Query)
  | either (a b : Query)
  | second (a b : Query)

def Query.acts : Query → Bool
  | .print .. | .format .. | .details _ | .delete | .quit | .run .. | .runMany _ => true
  | .not q => q.acts
  | .both a b => a.acts || b.acts
  | .either a b => a.acts || b.acts
  | .second a b => a.acts || b.acts
  | _ => false

structure Options where
  least : Nat := 0
  most : Option Nat := none
  depthFirst : Bool := false
  follows : Bool := false
  followsRoots : Bool := false
  /-- Commands that are run on many files at once. -/
  many : List (List String) := []
  /-- How regular expressions are written. -/
  grammar : Regex.Grammar := .mixed

structure Reading where
  rest : List String
  options : Options := {}
  /-- The test or action that came last. -/
  last : Option String := none

abbrev Reader := StateT Reading Program

def peek : Reader (Option String) := return (← get).rest.head?

def advance : Reader Unit := modify fun r => { r with rest := r.rest.tail }

def stop (text : String) : Reader α := do die text 1

def option (f : Options → Options) : Reader Query := do
  modify fun r => { r with options := f r.options }
  return .constant true

def argument (test : String) : Reader String := do
  match ← peek with
  | some a =>
    advance
    return a
  | none => stop ("missing argument to \x60" ++ test ++ "'")

def natural (test : String) : Reader Nat := do
  let a ← argument test
  match natural? a with
  | some n => return n
  | none => stop ("Expected a positive decimal integer argument to " ++ test ++ ", but got " ++ Text.literalQuote a)

def bound (test : String) : Reader Bound := do
  let a ← argument test
  let (sign, digits) := match a.toList with
    | '+' :: cs => (some '+', cs)
    | '-' :: cs => (some '-', cs)
    | cs => (none, cs)
  match natural? (String.ofList digits) with
  | some n => return ⟨sign, n⟩
  | none => stop ("invalid argument \x60" ++ a ++ "' to \x60" ++ test ++ "'")

def sizeBound (test : String) : Reader Query := do
  let a ← argument test
  let (sign, cs) := match a.toList with
    | '+' :: cs => (some '+', cs)
    | '-' :: cs => (some '-', cs)
    | cs => (none, cs)
  let units : List (Char × Nat) :=
    [('b', 512), ('c', 1), ('w', 2), ('k', 1024), ('M', 1048576), ('G', 1073741824)]
  let last := (cs.getLast?).getD ((sign).getD 'x')
  let (digits, unit) ← match units.lookup last with
    | some u => pure (cs.dropLast, u)
    | none =>
      if !last.isDigit then stop ("invalid " ++ test ++ " type \x60" ++ String.singleton last ++ "'")
      else pure (cs, 512)
  match natural? (String.ofList digits) with
  | some n => return .size ⟨sign, n⟩ unit
  | none => stop ("Invalid argument \x60" ++ a ++ "' to " ++ test)

def braces : String := "\x7b\x7d"

/-- Whether a word of a command stands for the files, perhaps among other text. -/
def holdsBraces (word : String) : Bool := 1 < (word.splitOn braces).length

/-- The words of a command up to the sign that ends them, and whether that is a plus. -/
def commandWords (mayJoin : Bool) : List String → Option (List String × Bool × List String)
  | [] => none
  | ";" :: rest => some ([], false, rest)
  | a :: "+" :: rest =>
    if mayJoin && holdsBraces a then some ([a], true, rest)
    else (commandWords mayJoin ("+" :: rest)).map fun e => (a :: e.1, e.2)
  | a :: rest => (commandWords mayJoin rest).map fun e => (a :: e.1, e.2)

def command (test : String) (inDirectory asks : Bool) : Reader Query := do
  match commandWords (!asks) (← get).rest with
  | none => stop ("missing argument to \x60" ++ test ++ "'")
  | some ([], _, _) => stop ("missing argument to \x60" ++ test ++ "'")
  | some (words, many, rest) =>
    modify fun r => { r with rest }
    let shown := Text.literalQuote (test ++ " ... " ++ braces ++ " +")
    if many then
      if 1 < (words.filter holdsBraces).length then
        stop ("Only one instance of " ++ braces ++ " is supported with " ++ test ++ " ... +")
      if words.getLast? ≠ some braces then
        stop ("In " ++ shown ++ " the " ++ Text.literalQuote braces ++ " must appear by itself, but you specified " ++
          Text.literalQuote (words.getLastD ""))
      let k := (← get).options.many.length
      modify fun r => { r with options := { r.options with many := r.options.many ++ [words] } }
      return .runMany k
    else return .run words inDirectory asks

def modeTest (test : String) : Reader Query := do
  let a ← argument test
  let (t, text) := match a.toList with
    | '-' :: cs => (ModeTest.all, String.ofList cs)
    | '/' :: cs => (ModeTest.some, String.ofList cs)
    | _ => (ModeTest.exactly, a)
  let isSum := match a.toList with
    | '+' :: c :: _ => FileMode.isOctal c
    | _ => false
  match if isSum then none else FileMode.read? text with
  | some change => return .mode t (change.apply 0 false 0) (change.apply 0 true 0)
  | none => stop ("invalid mode " ++ Text.literalQuote a)

def readPieces : (steps : Nat) → List Char → Reader (List Piece)
  | 0, _ => return []
  | _, [] => return []
  | steps + 1, '\\' :: cs => do
    match cs with
    | [] =>
      complain "warning: escape \x60\\' followed by nothing at all"
      return [.text "\\"]
    | 'c' :: _ => return [.stop]
    | c :: rest =>
      if c.isDigit && Escape.isOctal c then
        let ds := (cs.take 3).takeWhile Escape.isOctal
        return .text (String.singleton (Escape.octal ds)) :: (← readPieces steps (cs.drop ds.length))
      match if c = '\\' then some '\\' else Escape.control? c with
      | some d => return .text (String.singleton d) :: (← readPieces steps rest)
      | none =>
        complain ("warning: unrecognized escape \x60\\" ++ String.singleton c ++ "'")
        return .text (String.ofList ['\\', c]) :: (← readPieces steps rest)
  | steps + 1, '%' :: cs => do
    let (shape, length) := Status.shapeAt cs
    match cs.drop length with
    | [] => stop "error: % at end of format string"
    | '%' :: rest => return .text "%" :: (← readPieces steps rest)
    | c :: rest =>
      if "ABCT".toList.contains c && !rest.isEmpty then
        return .time shape (rest.headD 'c') :: (← readPieces steps rest.tail)
      else if "abcdDfFgGhHiklmMnpPsStuUyYZ".toList.contains c then
        return .directive shape c :: (← readPieces steps rest)
      else
        complain ("warning: unrecognized format directive \x60%" ++ String.singleton c ++ "'")
        return .text (String.ofList ('%' :: cs.take (length + 1))) :: (← readPieces steps rest)
  | steps + 1, c :: cs => do
    let plain := (c :: cs).takeWhile fun c => c ≠ '%' && c ≠ '\\'
    return .text (String.ofList plain) :: (← readPieces steps ((c :: cs).drop plain.length))

def grammars : List (String × Regex.Grammar) :=
  [("findutils-default", .mixed), ("ed", .looseBasic), ("emacs", .mixed), ("gnu-awk", .strictExtended),
    ("grep", .looseBasic), ("posix-awk", .strictExtended), ("awk", .strictExtended),
    ("posix-basic", .looseBasic), ("posix-egrep", .strictExtended), ("egrep", .strictExtended),
    ("posix-extended", .strictExtended), ("posix-minimal-basic", .plainBasic), ("sed", .looseBasic)]

def primary (test : String) : Reader Query := do
  match test with
  | "-name" => return .name (← argument test) false
  | "-iname" => return .name (← argument test) true
  | "-path" => return .path (← argument test) false
  | "-wholename" => return .path (← argument test) false
  | "-ipath" => return .path (← argument test) true
  | "-lname" => return .linkName (← argument test)
  | "-regextype" =>
    let name ← argument test
    match grammars.lookup name with
    | some grammar => option fun o => { o with grammar }
    | none => stop ("Unknown regular expression type " ++ Text.literalQuote name ++ "; valid types are " ++
        String.intercalate ", " (grammars.map fun g => Text.literalQuote g.1) ++ ".")
  | "-regex" => regex (← argument test) false
  | "-iregex" => regex (← argument test) true
  | "-type" => kinds test (← argument test)
  | "-xtype" => kinds test (← argument test)
  | "-size" => sizeBound test
  | "-empty" => return .empty
  | "-newer" => newer (← argument test)
  | "-anewer" => newer (← argument test)
  | "-cnewer" => newer (← argument test)
  | "-samefile" => return .same (← node (← argument test)).1
  | "-links" => return .links (← bound test)
  | "-inum" => return .inode (← bound test)
  | "-perm" => modeTest test
  | "-executable" => return .executable
  | "-readable" => return .constant true
  | "-writable" => return .constant true
  | "-true" => return .constant true
  | "-false" => return .constant false
  | "-user" =>
    let f ← (files : Program _)
    return .user (⟨none, ← account (Accounts.users f) (← argument test) "user"⟩)
  | "-group" =>
    let f ← (files : Program _)
    return .group (⟨none, ← account (Accounts.groups f) (← argument test) "group"⟩)
  | "-uid" => return .user (← bound test)
  | "-gid" => return .group (← bound test)
  | "-mtime" => return .age (.days (← bound test))
  | "-atime" => return .age (.days (← bound test))
  | "-ctime" => return .age (.days (← bound test))
  | "-mmin" => return .age (.minutes (← bound test))
  | "-amin" => return .age (.minutes (← bound test))
  | "-cmin" => return .age (.minutes (← bound test))
  | "-nouser" => return .nameless false
  | "-nogroup" => return .nameless true
  | "-print" => return .print none "\n"
  | "-print0" => return .print none "\x00"
  | "-fprint" => return .print (some (← goal (← argument test))) "\n"
  | "-fprint0" => return .print (some (← goal (← argument test))) "\x00"
  | "-printf" => return .format none (← pieces (← argument test))
  | "-fprintf" =>
    let o ← goal (← argument test)
    return .format (some o) (← pieces (← argument test))
  | "-ls" => return .details none
  | "-fls" => return .details (some (← goal (← argument test)))
  | "-delete" =>
    let _ ← option fun o => { o with depthFirst := true }
    return .delete
  | "-prune" => return .prune
  | "-quit" => return .quit
  | "-exec" => command test false false
  | "-execdir" => command test true false
  | "-ok" => command test false true
  | "-okdir" => command test true true
  | "-maxdepth" =>
    let n ← natural test
    option fun o => { o with most := some n }
  | "-mindepth" =>
    let n ← natural test
    option fun o => { o with least := n }
  | "-depth" => option fun o => { o with depthFirst := true }
  | "-d" => option fun o => { o with depthFirst := true }
  | "-follow" => option fun o => { o with follows := true, followsRoots := true }
  | _ =>
    if "-newer".toList.isPrefixOf test.toList && test.length = 8 then newerThan test
    else if ["-xdev", "-mount", "-noleaf", "-daystart", "-warn", "-nowarn", "-ignore_readdir_race",
        "-noignore_readdir_race"].contains test then return .constant true
    else stop ("unknown predicate \x60" ++ test ++ "'")
where
  node (path : String) : Reader (Nat × FileNode) := do
    match ← (Filing.found true path : Program _) with
    | .ok (_, n, node) => return (n, node)
    | .error e => stop (Text.literalQuote path ++ ": " ++ e.reason)
  newer (path : String) : Reader Query := do return .newer (← node path).2.changed
  account (accounts : List Accounts.Account) (text what : String) : Reader Nat := do
    match Accounts.named? accounts text, natural? text with
    | some a, _ => return a.number
    | none, some n => return n
    | none, none => stop (Text.literalQuote text ++ " is not the name of a known " ++ what)
  regex (text : String) (folds : Bool) : Reader Query := do
    match Regex.parse (← get).options.grammar (Octets.characters text.toList) with
    | .ok p => return .regex p.regex folds
    | .error e => stop ("failed to compile regular expression " ++ Text.literalQuote text ++ ": " ++ e)
  kinds (test text : String) : Reader Query := do
    match ((text.splitOn ",").flatMap String.toList).find? fun c => !"bcdpflsD".toList.contains c with
    | some c => stop ("Unknown argument to " ++ test ++ ": " ++ String.singleton c)
    | none =>
      if text.isEmpty then stop ("Arguments to " ++ test ++ " should contain at least one letter")
      if (text.splitOn ",").any fun w => 1 < w.length then
        stop ("Must separate multiple arguments to " ++ test ++ " using: ','")
      return .kind ((text.splitOn ",").flatMap String.toList) (decide (test = "-xtype"))
  newerThan (test : String) : Reader Query := do
    let letters := test.toList.drop 6
    match letters with
    | [own, other] =>
      if !"aBcm".toList.contains own || !"aBcmt".toList.contains other then
        stop ("invalid predicate \x60" ++ test ++ "'")
      let text ← argument test
      if other ≠ 't' then return ← newer text
      let z ← (Dates.zone : Program _)
      let present ← (Dates.now : Program _)
      match Time.Phrase.read? z present text with
      | some m => return .newer (m.total - systemStart)
      | none => stop ("I cannot figure out how to interpret " ++ Text.literalQuote text ++ " as a date or time")
    | _ => stop ("unknown predicate \x60" ++ test ++ "'")
  goal (path : String) : Reader Nat := do
    match ← (openPath path .toReplace : Program _) with
    | .ok o => return o
    | .error e => stop (Text.literalQuote path ++ ": " ++ e.reason)
  pieces (text : String) : Reader (List Piece) := do readPieces (text.length + 1) text.toList

mutual

def listed : (steps : Nat) → Reader Query
  | 0 => return .constant true
  | steps + 1 => do
    let a ← disjunction steps
    if (← peek) = some "," then
      advance
      return .second a (← listed steps)
    return a

def disjunction : (steps : Nat) → Reader Query
  | 0 => return .constant true
  | steps + 1 => do
    let a ← conjunction steps
    if (← peek) = some "-o" || (← peek) = some "-or" then
      let op := (← peek).getD ""
      advance
      if (← peek).isNone then stop ("expected an expression after '" ++ op ++ "'")
      return .either a (← disjunction steps)
    return a

def conjunction : (steps : Nat) → Reader Query
  | 0 => return .constant true
  | steps + 1 => do
    let a ← term steps
    match ← peek with
    | none => return a
    | some op =>
      if op = "-a" || op = "-and" then
        advance
        if (← peek).isNone then stop ("expected an expression after '" ++ op ++ "'")
        return .both a (← conjunction steps)
      else if ["-o", "-or", ",", ")"].contains op then return a
      else return .both a (← conjunction steps)

def term : (steps : Nat) → Reader Query
  | 0 => return .constant true
  | steps + 1 => do
    match ← peek with
    | none => return .constant true
    | some a =>
      advance
      if a = "!" || a = "-not" then
        if (← peek).isNone then stop ("expected an expression after '" ++ a ++ "'")
        return .not (← term steps)
      else if a = "(" then
        if (← peek) = some ")" then
          stop "invalid expression; empty parentheses are not allowed."
        let unclosed := "invalid expression; expected to find a ')' but didn't see one. " ++
          "Perhaps you need an extra predicate after '('"
        if (← peek).isNone then stop unclosed
        let q ← listed steps
        if (← peek) ≠ some ")" then
          stop "invalid expression; I was expecting to find a ')' somewhere but did not see one."
        advance
        return q
      else if a = ")" then stop "invalid expression; you have too many ')'"
      else if ["-o", "-or", "-a", "-and", ","].contains a then
        stop ("invalid expression; you have used a binary operator '" ++ a ++
          "' with nothing before it.")
      else if a.toList.head? = some '-' && 1 < a.length then
        modify fun r => { r with last := some a }
        primary a
      else
        complain ("paths must precede expression: \x60" ++ a ++ "'")
        match (← get).last with
        | some test => if (← (files : Program _)).present a then
            complain ("possible unquoted pattern after predicate \x60" ++ test ++ "'?")
        | none => pure ()
        exit 1

end

structure Progress where
  pruned : Bool := false
  finished : Bool := false
  /-- The files that wait for commands run on many at once. -/
  waiting : List (List String) := []

abbrev Walk := StateT Progress Program

structure Subject where
  path : String
  root : String
  depth : Nat
  way : Way
  number : Nat
  node : FileNode

def fits (pattern text : String) (folds : Bool) : Bool :=
  let fold (s : String) : List Char :=
    let cs := Octets.characters s.toList
    if folds then cs.map Text.lowerChar else cs
  Shell.Glob.accepts (Shell.Glob.ofMarked ((fold pattern).map fun c => (c, false))) (fold text)

def filled (words : List String) (path : String) : List String :=
  words.map fun w => String.intercalate path (w.splitOn "\x7b\x7d")

/-- Runs a command; whether it succeeded. -/
def runs (start : Runner) (words : List String) : Program Bool := do
  match ← runOther start words (← invocation).environment with
  | .ok fate => return decide (fate = .exited 0)
  | .error e =>
    complain (Text.literalQuote (words.headD "") ++ ": " ++ e.reason)
    return false

def typeLetter (kind : FileKind) : Char := if kindLetter kind = '-' then 'f' else kindLetter kind

/-- The node that a path leads to through links, if it does. -/
def behind (f : Files) (s : Subject) : Option FileNode := (f.locate true (render s.way)).toOption.map fun e => e.2.2

/-- A time as it is told without a conversion of its own. -/
def plainTime (l : Time.Local) : String := Time.Pattern.render l "%a %b %e %H:%M:%S.%N0 %Y"

/-- A time by the letter of a conversion. Seconds have their parts behind them. -/
def timeBy (l : Time.Local) (c : Char) : String := match c with
  | '@' => Time.Pattern.render l "%s.%N0"
  | '+' => Time.Pattern.render l "%F+%T.%N0"
  | 'S' => Time.Pattern.render l "%S.%N0"
  | 'T' => Time.Pattern.render l "%T.%N0"
  | 'X' => Time.Pattern.render l "%X.%N0"
  | c => Time.Pattern.render l (String.ofList ['%', c])

def directive (f : Files) (z : Time.Zone) (s : Subject) (shape : Number.Shape) (c : Char) : String :=
  let l := z.localTime (Dates.changeTime s.node)
  let word (t : String) : String := shape.text t
  let number (n : Nat) : String := word (toString n)
  match c with
  | 'p' => word s.path
  | 'f' => word (if s.path = "/" then "/" else base s.path)
  | 'h' => word (if s.path.toList.contains '/' then
      (let h := String.ofList ((s.path.toList.reverse.dropWhile (· ≠ '/')).drop 1).reverse
       h) else ".")
  | 'H' => word s.root
  | 'P' => word (String.ofList ((s.path.toList.drop s.root.length).dropWhile (· = '/')))
  | 'd' => shape.integer s.depth
  | 'y' => word (String.singleton (typeLetter s.node.kind))
  | 'Y' => word (if kindLetter s.node.kind ≠ 'l' then String.singleton (typeLetter s.node.kind)
      else match f.locate true (render s.way) with
        | .ok (_, _, node) => String.singleton (typeLetter node.kind)
        | .error .manyLinks => "L"
        | .error _ => "N")
  | 'm' => shape.natural 8 false s.node.mode
  | 'M' => word (modeText s.node)
  | 'n' => number (linkCount f s.way s.number s.node)
  | 'l' => word (match s.node.kind with
    | .link target => target
    | _ => "")
  | 'u' => word (ownerName f s.number)
  | 'g' => word (groupName f s.number)
  | 'U' => number (f.owner s.number).1
  | 'G' => number (f.owner s.number).2
  | 's' => number (size s.node)
  | 'b' => number (blocks s.node)
  | 'k' => number ((blocks s.node + 1) / 2)
  | 'i' => number (inode s.number)
  | 'D' => number Status.device
  | 'F' => word "overlay"
  | 'S' => word (if size s.node = 0 then "1" else
      Number.Shape.float {} 'g' ((blocks s.node * 512).toFloat / (size s.node).toFloat))
  | 'Z' => word ""
  | _ => word (plainTime l)

def pieceText (f : Files) (z : Time.Zone) (s : Subject) : List Piece → String
  | [] => ""
  | .text t :: ps => t ++ pieceText f z s ps
  | .directive shape c :: ps => directive f z s shape c ++ pieceText f z s ps
  | .time shape c :: ps =>
    shape.text (timeBy (z.localTime (Dates.changeTime s.node)) c) ++ pieceText f z s ps
  | .stop :: _ => ""

def detailLine (f : Files) (l : Time.Zone) (now : Time.Moment) (s : Subject) : String :=
  let m := Dates.changeTime s.node
  let recent := now.total - 15778476000000000 ≤ m.total && m.total ≤ now.total + 3600000000000
  let size := match deviceNumbers s.node.kind with
    | some (major, minor) => rightAligned 3 (toString major) ++ ", " ++ rightAligned 3 (toString minor)
    | none => rightAligned 8 (toString (size s.node))
  rightAligned 9 (toString (inode s.number)) ++ " " ++ rightAligned 6 (toString ((blocks s.node + 1) / 2)) ++ " " ++
    modeText s.node ++ " " ++ rightAligned 3 (toString (linkCount f s.way s.number s.node)) ++
    " " ++ leftAligned 8 (ownerName f s.number) ++ " " ++ leftAligned 8 (groupName f s.number) ++ " " ++ size ++ " " ++
    Time.Pattern.render (l.localTime m) (if recent then "%b %e %H:%M" else "%b %e  %Y") ++ " " ++ s.path ++
    (match s.node.kind with
      | .link target => " -> " ++ target
      | _ => "") ++ "\n"

/-- Prints, to an opening if one is given. -/
def putTo (goal : Option Nat) (text : String) : Program Unit := do
  match goal with
  | none => put text
  | some o => match (← system).write o text with
    | .ok s => setSystem s
    | .error _ => pure ()

def ask (start : Runner) (s : Subject) : Query → Walk Bool
  | .constant value => return value
  | .user b => return b.holds (((← (files : Program _)).owner s.number).1 : Nat)
  | .group b => return b.holds (((← (files : Program _)).owner s.number).2 : Nat)
  | .nameless isGroup => do
    let f ← (files : Program _)
    let (user, group) := f.owner s.number
    return if isGroup then !(Accounts.groups f).any fun a => a.number = group
      else !(Accounts.users f).any fun a => a.number = user
  | .name pattern folds => return fits pattern (base s.path) folds
  | .path pattern folds => return fits pattern s.path folds
  | .linkName pattern => return match s.node.kind with
    | .link target => fits pattern target false
    | _ => false
  | .regex r folds =>
    let path := (Octets.characters s.path.toList).toArray
    return match r.search { text := path, folds, exact := true, wide := true } 0 with
      | some spot => spot.start = 0 && spot.position = path.size
      | none => false
  | .kind letters follows => do
    let f ← (files : Program _)
    let node := if follows then (behind f s).getD s.node else s.node
    return letters.contains (typeLetter node.kind)
  | .size b unit => return b.holds ((size s.node + unit - 1) / unit : Nat)
  | .empty => do
    let f ← (files : Program _)
    return match s.node.kind with
      | .regular content => content.isEmpty
      | .directory => (f.children s.way).isEmpty
      | _ => false
  | .newer changed => return decide (changed < s.node.changed)
  | .same number => return decide (number = s.number)
  | .age a => do
    let passed := (← (Dates.now : Program _)).total - (Dates.changeTime s.node).total
    return a.holds passed
  | .links b => return b.holds (linkCount (← (files : Program _)) s.way s.number s.node)
  | .inode b => return b.holds (inode s.number)
  | .mode t bits searchable =>
    let bits := if s.node.kind = .directory then searchable else bits
    return match t with
    | .exactly => s.node.mode = bits
    | .all => s.node.mode &&& bits = bits
    | .some => bits = 0 || s.node.mode &&& bits ≠ 0
  | .executable => return isExecutableMode s.node.mode
  | .print goal ends => do
    (putTo goal (s.path ++ ends) : Program _)
    return true
  | .format goal pieces => do
    (putTo goal (pieceText (← (files : Program _)) (← (Dates.zone : Program _)) s pieces) : Program _)
    return true
  | .details goal => do
    let line := detailLine (← (files : Program _)) (← (Dates.zone : Program _)) (← (Dates.now : Program _)) s
    (putTo goal line : Program _)
    return true
  | .delete => do
    let f ← (files : Program _)
    if s.path = "." then return true
    if s.node.kind = .directory && !(f.children s.way).isEmpty then
      complain ("cannot delete " ++ Text.literalQuote s.path ++ ": " ++ FileFault.notEmpty.reason)
      raise 1
      return false
    setFiles (f.unlink s.way)
    return true
  | .prune => do
    modify fun p => { p with pruned := true }
    return true
  | .quit => do
    modify fun p => { p with finished := true }
    return true
  | .run words inDirectory asks => do
    let path := if inDirectory then "./" ++ base s.path else s.path
    let command := filled words path
    if asks then
      tell ("< " ++ words.headD "" ++ " ... " ++ s.path ++ " > ? ")
      return false
    if !inDirectory then return ← (runs start command : Program _)
    let w ← (getThe Working : Program _)
    let place := match s.way with
      | [] => []
      | way => way.dropLast
    (modifyThe Working fun w => { w with invocation := { w.invocation with directory := place } } : Program _)
    let done ← (runs start command : Program _)
    (modifyThe Working fun v => { v with invocation := w.invocation } : Program _)
    return done
  | .runMany index => do
    modify fun p => { p with waiting := p.waiting.zipIdx.map fun e =>
      if e.2 = index then e.1 ++ [s.path] else e.1 }
    return true
  | .not q => do return !(← ask start s q)
  | .both a b => do if ← ask start s a then ask start s b else return false
  | .either a b => do if ← ask start s a then return true else ask start s b
  | .second a b => do
    let _ ← ask start s a
    ask start s b

def walk (start : Runner) (o : Options) (q : Query) (root : String) : (steps : Nat) → (depth : Nat) →
    (path : String) → Walk Unit
  | 0, _, _ => return
  | steps + 1, depth, path => do
    if (← get).finished then return
    let follows := o.follows || (o.followsRoots && depth = 0)
    let linked ← (Filing.found follows path : Program _)
    let found ← match linked with
      | .ok e => pure (.ok e)
      | .error _ => (Filing.found false path : Program _)
    match found with
    | .error e =>
      complain (Text.literalQuote path ++ ": " ++ e.reason)
      raise 1
    | .ok (way, number, node) =>
      let s : Subject := ⟨path, root, depth, way, number, node⟩
      modify fun p => { p with pruned := false }
      let asked := o.least ≤ depth
      if asked && !o.depthFirst then
        let _ ← ask start s q
      let p ← get
      if p.finished then return
      if node.kind = .directory && (!p.pruned || o.depthFirst) && o.most.all (fun n => decide (depth < n)) then
        for child in (← (files : Program _)).children way do
          walk start o q root steps (depth + 1) (below path child)
      if asked && o.depthFirst && !(← get).finished then
        let _ ← ask start s q

end Find

open Find in
def find (start : Runner) : Program Nat := do
  whenUnwritten fun e => (["'standard output': " ++ e.reason,
    "write error" ++ if e = .noSpace then "" else ": " ++ e.reason], 1)
  let rec leading (o : Options) : List String → Options × List String
    | "-H" :: rest => leading { o with followsRoots := true } rest
    | "-L" :: rest => leading { o with follows := true } rest
    | "-P" :: rest => leading { o with follows := false, followsRoots := false } rest
    | as => (o, as)
  let (o, given) := leading {} (← arguments)
  let isExpression (a : String) : Bool :=
    (a.toList.head? = some '-' && 1 < a.length) || ["(", "!"].contains a
  let paths := given.takeWhile fun a => !isExpression a
  let rest := given.drop paths.length
  let reading : Reading := { rest, options := o }
  let (q, r) ← if rest.isEmpty then pure (Query.constant true, reading)
    else (listed (4 * rest.length + 4)).run reading
  match r.rest with
  | [] => pure ()
  | ")" :: _ => die "you have too many ')'" 1
  | a :: _ => die ("paths must precede expression: \x60" ++ a ++ "'") 1
  let q := if q.acts then q else .both q (.print none "\n")
  let act : Walk Unit := do
    for path in if paths.isEmpty then ["."] else paths do
      if path.toList.getLast? = some '/' && !path.isEmpty then
        match ← (Filing.found true path : Program _) with
        | .ok _ => walk start r.options q path 300 0 path
        | .error e =>
          complain (Text.literalQuote path ++ ": " ++ e.reason)
          raise 1
      else walk start r.options q path 300 0 path
  let (_, p) ← act.run { waiting := r.options.many.map fun _ => [] }
  for (words, found) in r.options.many.zip p.waiting do
    if !found.isEmpty then
      let whole := words.flatMap fun w => if w = "\x7b\x7d" then found else [w]
      if !(← Find.runs start whole) then raise 1
  return 0

end DeltaDebugging.Utility
