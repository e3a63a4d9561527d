import DeltaDebugging.Number.Scaled
import DeltaDebugging.Shell.Pattern
import DeltaDebugging.Utility.Numeral
import DeltaDebugging.Utility.Ordering
import DeltaDebugging.Utility.Properties

/-!
# Listing files

The names in directories, in some order and some shape, with what is known of the files.
-/
namespace DeltaDebugging.Utility

open Program Paths Properties

namespace Listing

inductive Shape where
  | single
  | long
  | commas
  /-- In columns, filled downwards or across. -/
  | down
  | across
  deriving DecidableEq, Repr

inductive Order where
  | name
  | none
  | size
  | time
  | version
  | extension
  | width
  deriving DecidableEq, Repr

inductive Signs where
  | none
  | slashes
  | kinds
  | all
  deriving DecidableEq, Repr

inductive Quoting where
  | plain
  | shell (always escapes : Bool)
  | strings
  | escapes
  | localized
  deriving DecidableEq, Repr

inductive Scale where
  | bytes (count : Nat) (mark : String)
  /-- The greatest unit that is reached, from powers of this. -/
  | reached (base : Nat)
  deriving DecidableEq, Repr

structure Look where
  shape : Shape
  order : Order
  signs : Signs
  quoting : Quoting
  /-- Unit of sizes, and of the space that is taken. -/
  sizes : Scale
  spaces : Scale
  /-- Patterns for times that are long ago, and for others. -/
  old : String
  recent : String
  zone : Time.Zone
  now : Time.Moment
  all : Bool
  almostAll : Bool
  asThemselves : Bool
  owner : Bool
  author : Bool
  group : Bool
  numeric : Bool
  inodes : Bool
  blockCounts : Bool
  marks : Bool
  reversed : Bool
  recursive : Bool
  follows : Bool
  directoriesFirst : Bool
  width : Nat
  tab : Nat
  ends : Char
  ignored : List String

/-- Whether what links lead to is wanted, and not only their names. -/
def Look.looksBehind (l : Look) : Bool :=
  l.follows && (l.shape = .long || l.blockCounts || l.inodes || l.order = .time || l.order = .size || l.recursive ||
    l.signs ≠ .none || l.directoriesFirst)

/-- A file that is listed; what it is may be unknown. -/
structure Entry where
  name : String
  way : Way
  number : Nat
  node : Option FileNode

def Entry.isDirectory (e : Entry) : Bool := e.node.any fun n => n.kind = .directory

/-! ### Names -/

def signOf (s : Signs) (node : FileNode) : String := match s, kindLetter node.kind with
  | .none, _ => ""
  | _, 'd' => "/"
  | .slashes, _ => ""
  | _, 'l' => "@"
  | _, 'p' => "|"
  | .all, '-' => if isExecutableMode node.mode then "*" else ""
  | _, _ => ""

/-- A name with escapes for what cannot be printed and for the `special` characters. -/
def escaped (special : List Char) (name : String) : String :=
  String.join ((Octets.characters name.toList).map fun c =>
    if special.contains c then "\\" ++ String.singleton c
    else if Text.isPrintable c then Text.shown c else Text.characterEscape c)

def marked (name : String) : String :=
  String.join ((Octets.characters name.toList).map fun c =>
    if Text.isPrintable c then Text.shown c else "?")

def quoted (l : Look) (name : String) : String :=
  let bare := if l.marks then marked name else name
  match l.quoting with
  | .plain => bare
  | .strings => "\"" ++ escaped ['"', '\\'] name ++ "\""
  | .escapes => escaped [' ', '\\'] name
  | .localized => Text.literalQuote name
  | .shell true true => Text.shellQuote name
  | .shell false true => Text.shellName name
  | .shell always false =>
    let cs := Octets.characters name.toList
    let special := always || cs.isEmpty || cs.zipIdx.any fun e =>
      Text.isShellSpecial e.1 || e.1 = '\n' || Text.isSpecialAt (e.2 = 0) (cs.length = 1) (if Text.isPrintable e.1 then e.1 else 'x')
    let mild := cs.contains '\'' && cs.all fun c => c = '\'' || c = ' ' || (Text.isPrintable c && !Text.isShellSpecial c)
    if !special then bare
    else if mild then "\"" ++ bare ++ "\""
    else "'" ++ String.intercalate "'\\''" (bare.splitOn "'") ++ "'"

def aligns (l : Look) : Bool :=
  (match l.quoting with
    | .shell false _ => true
    | _ => false) &&
  (l.shape = .long || ((l.shape = .down || l.shape = .across) && l.width ≠ 0))

def columnsOf (text : String) : Nat :=
  ((Octets.characters text.toList).map fun c => if Octets.isStray c then 1 else Text.columns c).foldl (· + ·) 0

/-! ### What stands before a name -/

def inScale (u : Scale) (n : Nat) : String := match u with
  | .bytes count mark => toString ((n + count - 1) / count) ++ mark
  | .reached base =>
    let (text, letter) := Number.scaled true base n
    text ++ letter

def timeText (l : Look) (node : FileNode) : String :=
  let m := Dates.changeTime node
  let halfYear : Int := 15778476 * 1000000000
  let recent := l.now.total - halfYear < m.total && m.total ≤ l.now.total
  Time.Pattern.render (l.zone.localTime m) (if recent then l.recent else l.old)

/-- The texts of some files, with blanks on their left or right to make them as wide as one
another. -/
def aligned (left : Bool) (texts : List String) : List String :=
  let width := (texts.map String.length).foldl max 0
  texts.map fun t =>
    let fill := String.ofList (List.replicate (width - t.length) ' ')
    if left then fill ++ t else t ++ fill

/-- The names of files with what stands before and behind them, line by line. -/
def texts (f : Files) (l : Look) (es : List Entry) : List String :=
  let quotes := es.map fun e => quoted l e.name
  let someQuoted := aligns l && quotes.any fun q => q.toList.head? = some '\'' || q.toList.head? = some '"'
  let names := quotes.map fun q =>
    if someQuoted && !(q.toList.head? = some '\'' || q.toList.head? = some '"') then " " ++ q else q
  let field (left : Bool) (own : FileNode → String) (e : Entry → String) : List String :=
    aligned left (es.map fun x => match x.node with
      | some n => own n
      | none => e x)
  let unknown (_ : Entry) : String := "?"
  let align (left : Bool) (ts : List String) : List String := if l.shape = .commas then ts else aligned left ts
  let inodes := align true (es.map fun e => if e.node.isSome then toString (inode e.number) else "?")
  let spaces := align true (es.map fun e => match e.node with
    | some n => inScale l.spaces (blocks n * 512)
    | none => "?")
  let links := aligned true (es.map fun e => match e.node with
    | some n => toString (linkCount f e.way e.number n)
    | none => "?")
  let account (own : Entry → String) (number : Entry → Nat) : List String :=
    aligned l.numeric (es.map fun e =>
      if e.node.isNone then "?" else if l.numeric then toString (number e) else own e)
  let owners := account (fun e => ownerName f e.number) fun e => (f.owner e.number).1
  let groups := account (fun e => groupName f e.number) fun e => (f.owner e.number).2
  let majors := (es.filterMap fun e => (e.node.bind fun n => deviceNumbers n.kind)).map fun d => (toString d.1).length
  let minors := (es.filterMap fun e => (e.node.bind fun n => deviceNumbers n.kind)).map fun d => (toString d.2).length
  let sizes := field true (fun n => match deviceNumbers n.kind with
    | some (major, minor) =>
      rightAligned (majors.foldl max 0) (toString major) ++ ", " ++ rightAligned (minors.foldl max 0) (toString minor)
    | none => inScale l.sizes (size n)) unknown
  let usualTime := (timeText l { kind := .directory, mode := 0 }).length
  let times := es.map fun e => match e.node with
    | some n => timeText l n
    | none => rightAligned usualTime "?"
  let column (k : Nat) (all : List String) : String := (all[k]?).getD ""
  es.zipIdx.map fun (e, k) =>
    (if l.inodes then column k inodes ++ " " else "") ++
    (if l.blockCounts then column k spaces ++ " " else "") ++
    (if l.shape = .long then
      (match e.node with
        | some n => modeText n
        | none => "l?????????") ++ " " ++ column k links ++ " " ++
      (if l.owner then column k owners ++ " " else "") ++
      (if l.group then column k groups ++ " " else "") ++
      (if l.author then column k owners ++ " " else "") ++
      column k sizes ++ " " ++ column k times ++ " "
    else "") ++
    column k names ++
    (match e.node, l.shape with
      | some ⟨.link target, _, _⟩, .long =>
        let goal := f.look? (if Files.isAbsolute target then target else render (e.way.dropLast ++ [target]))
        " -> " ++ quoted l target ++ ((goal.map (signOf l.signs)).getD "")
      | some n, _ => signOf l.signs n
      | none, _ => "")

/-! ### Shapes -/

/-- The blanks between two columns, with tabs where they fit. -/
def indentation (tab : Nat) (stop : Nat) : (steps : Nat) → (start : Nat) → String
  | 0, _ => ""
  | steps + 1, start =>
    if stop ≤ start then ""
    else if tab ≠ 0 && (start + 1) / tab < stop / tab then
      "\t" ++ indentation tab stop steps (start + tab - start % tab)
    else " " ++ indentation tab stop steps (start + 1)

def columnWidths (across : Bool) (widths : List Nat) (count : Nat) : List Nat :=
  let rows := (widths.length + count - 1) / count
  let place (k : Nat) : Nat := if across then k % count else k / rows
  (List.range count).map fun column =>
    (widths.zipIdx.filterMap fun w =>
      if place w.2 = column then some (w.1 + if column + 1 = count then 0 else 2) else none).foldl max 3

def columnCount (across : Bool) (line : Nat) (widths : List Nat) : Nat :=
  let most := min (max 1 ((line + 2) / 3)) widths.length
  let fits (count : Nat) : Bool := count ≤ 1 || (columnWidths across widths count).foldl (· + ·) 0 < line
  (((List.range most).map (· + 1)).reverse.find? fits).getD 1

def inColumns (l : Look) (across : Bool) (texts : List String) : String :=
  let widths := texts.map columnsOf
  let count := columnCount across l.width widths
  let columns := columnWidths across widths count
  let rows := (texts.length + count - 1) / count
  let starts := columns.foldl (fun acc w => acc ++ [acc.getLastD 0 + w]) [0]
  let row (r : Nat) : List Nat :=
    ((List.range count).map fun c => if across then r * count + c else c * rows + r).filter (· < texts.length)
  let rowCount := if across then (texts.length + count - 1) / count else rows
  String.join ((List.range rowCount).map fun r =>
    let places := row r
    String.join (places.zipIdx.map fun (k, c) =>
      let text := (texts[k]?).getD ""
      let start := (starts[c]?).getD 0
      if c + 1 = places.length then text
      else text ++ indentation l.tab ((starts[c + 1]?).getD 0) l.width.succ (start + (widths[k]?).getD 0)) ++
    String.singleton l.ends)

/-- Names in a row with a separator behind each, broken where a line is full. -/
def inRow (l : Look) (separator : String) (texts : List String) : String :=
  let step (acc : String × Nat) (e : String × Nat) : String × Nat :=
    let (text, k) := e
    let length := columnsOf text
    if k = 0 then (text, length)
    else if l.width = 0 || acc.2 + length + 2 < l.width then
      (acc.1 ++ separator ++ " " ++ text, acc.2 + 2 + length)
    else (acc.1 ++ separator ++ String.singleton l.ends ++ text, length)
  if texts.isEmpty then "" else (texts.zipIdx.foldl step ("", 0)).1 ++ String.singleton l.ends

def rows (f : Files) (l : Look) (es : List Entry) : String :=
  let ts := texts f l es
  match l.shape with
  | .commas => inRow l "," ts
  | .down => if l.width = 0 then inRow l " " ts else inColumns l false ts
  | .across => if l.width = 0 then inRow l " " ts else inColumns l true ts
  | _ => String.join (ts.map fun t => t ++ String.singleton l.ends)

/-! ### Orders -/

/-- What follows the last dot of a name, with the dot. -/
def extension (name : String) : String :=
  let behind := name.toList.reverse.takeWhile (· ≠ '.')
  if behind.length = name.length then "" else String.ofList ('.' :: behind.reverse)

/-- Files in the order that is asked for. -/
def sorted (l : Look) (es : List Entry) : List Entry :=
  let byName (a b : Entry) : Bool := a.name ≤ b.name
  let sizeOf (e : Entry) : Nat := (e.node.map size).getD 0
  let timeOf (e : Entry) : Int := (e.node.map FileNode.changed).getD 0
  let widthOf (e : Entry) : Nat := columnsOf (quoted l e.name)
  let le (a b : Entry) : Bool := match l.order with
    | .size => sizeOf b < sizeOf a || (sizeOf a = sizeOf b && byName a b)
    | .time => timeOf b < timeOf a || (timeOf a = timeOf b && byName a b)
    | .width => widthOf a < widthOf b || (widthOf a = widthOf b && byName a b)
    | .version => compareVersions a.name.toList b.name.toList != .gt
    | .extension =>
      let (x, y) := (extension a.name, extension b.name)
      x < y || (x = y && byName a b)
    | _ => byName a b
  let es := if l.order = .none then es else es.mergeSort le
  let es := if l.reversed && l.order ≠ .none then es.reverse else es
  if l.directoriesFirst then
    let directory (e : Entry) : Bool := match e.node.map FileNode.kind with
      | some .directory => true
      | _ => false
    es.filter directory ++ es.filter fun e => !directory e
  else es

/-! ### Directories -/

def entriesIn (l : Look) (path : String) (w : Way) : Program (List Entry) := do
  let f ← files
  let names := (f.children w).filter fun n => (l.all || l.almostAll || n.toList.head? ≠ some '.') &&
    !l.ignored.any fun p =>
      Shell.Glob.accepts (Shell.Glob.ofMarked (p.toList.map fun c => (c, false))) n.toList
  let places : List (String × Way) := (if l.all then [(".", w), ("..", w.dropLast)] else []) ++
    names.map fun n => (n, w ++ [n])
  places.filterMapM fun (name, way) => do
    match f.find? way with
    | none => return none
    | some n => match f.node? n with
      | none => return none
      | some node =>
        if !l.looksBehind || kindLetter node.kind ≠ 'l' then return some ⟨name, way, n, some node⟩
        match f.locate true (render way) with
        | .ok (_, n, node) => return some ⟨name, way, n, some node⟩
        | .error e =>
          let shown := if path = "." then name else below path name
          complain ("cannot access " ++ Text.shellQuote shown ++ ": " ++ e.reason)
          raise 1
          return some ⟨name, way, n, none⟩

/-- Lists directories, with those below them if that is asked for. -/
def list (l : Look) : (depth : Nat) → (title : Option String) → (path : String) → Way → Program Unit
  | 0, _, _, _ => return
  | depth + 1, title, path, w => do
    match title with
    | some t => put (t ++ quoted l path ++ ":\n")
    | none => pure ()
    let es := sorted l (← entriesIn l path w)
    if l.shape = .long || l.blockCounts then
      put ("total " ++ inScale l.spaces ((es.map fun e => (e.node.map blocks).getD 0).foldl (· + ·) 0 * 512) ++
        String.singleton l.ends)
    put (rows (← files) l es)
    if l.recursive then
      for e in es do
        if e.isDirectory && e.name ≠ "." && e.name ≠ ".." then
          list l depth (some "\n") (below path e.name) e.way

/-! ### Options -/

def readScale (option text : String) : Program Scale := do
  let bad (reason : String) : Program Scale := die (reason ++ option ++ " argument '" ++ text ++ "'") 2
  if text = "human-readable" then return .reached 1024
  if text = "si" then return .reached 1000
  let digits := text.toList.takeWhile Char.isDigit
  let cs := text.toList.drop digits.length
  match numeral 10 false "eEgGkKmMpPtTyYzZ0" text with
  | (n, none) =>
    if n = 0 then bad "invalid "
    else return .bytes n.toNat (if digits.isEmpty then String.ofList (if cs = ['k'] then ['K'] else cs) else "")
  | (_, some .tooLarge) => die (option ++ " argument '" ++ text ++ "' too large") 2
  | (_, some .malformed) => bad "invalid "
  | _ => die ("invalid suffix in " ++ option ++ " argument '" ++ text ++ "'") 2

def shapeOf (before : Shape) (o : Given) : Program Shape := match o.key with
  | "l" => return .long
  | "g" => return .long
  | "o" => return .long
  | "n" => return .long
  | "full-time" => return .long
  | "C" => return .down
  | "x" => return .across
  | "m" => return .commas
  | "1" => return if before = .long then .long else .single
  | "zero" => return if before = .long then .long else .single
  | "f" => return if before = .long then .single else before
  | "format" => do
    let k ← wordChoice "format" o.value
      [["verbose", "long"], ["commas"], ["horizontal", "across"], ["vertical"], ["single-column"]]
    return ([Shape.long, .commas, .across, .down, .single][k]?).getD .single
  | _ => return before

def orderOf (before : Option Order) (o : Given) : Program (Option Order) := match o.key with
  | "S" => return some .size
  | "t" => return some .time
  | "U" => return some .none
  | "f" => return some .none
  | "v" => return some .version
  | "X" => return some .extension
  | "sort" => do
    let k ← wordChoice "sort" o.value [["none"], ["time"], ["size"], ["extension"], ["version"], ["width"]]
    return [Order.none, .time, .size, .extension, .version, .width][k]?
  | _ => return before

def signsOf (before : Signs) (o : Given) : Program Signs := match o.key with
  | "p" => return .slashes
  | "file-type" => return .kinds
  | "F" => do
    if o.value.isEmpty then return .all
    let k ← wordChoice "classify" o.value [["always", "yes", "force"], ["never", "no", "none"], ["auto", "tty", "if-tty"]]
    return if k = 0 then .all else before
  | "indicator-style" => do
    let k ← wordChoice "indicator-style" o.value [["none"], ["slash"], ["file-type"], ["classify"]]
    return ([Signs.none, .slashes, .kinds, .all][k]?).getD .none
  | _ => return before

def quotingOf (before : Quoting) (o : Given) : Program Quoting := match o.key with
  | "b" => return .escapes
  | "N" => return .plain
  | "Q" => return .strings
  | "zero" => return .plain
  | "quoting-style" => do
    let k ← wordChoice "quoting-style" o.value [["literal"], ["shell"], ["shell-always"], ["shell-escape"],
      ["shell-escape-always"], ["c"], ["c-maybe"], ["escape"], ["locale"], ["clocale"]]
    return ([Quoting.plain, .shell false false, .shell true false, .shell false true, .shell true true, .strings,
      .strings, .escapes, .localized, .localized][k]?).getD .plain
  | _ => return before

/-- The patterns for times long ago and for others that a style names. -/
def timePatterns (style : String) : Program (String × String) := do
  let bare := if "posix-".toList.isPrefixOf style.toList then "locale" else style
  match bare.toList with
  | '+' :: pattern =>
    match (String.ofList pattern).splitOn "\n" with
    | [p] => return (p, p)
    | [p, q] => return (p, q)
    | _ => die ("invalid time style format " ++ Text.literalQuote (String.ofList pattern)) 2
  | _ =>
    let known := [("full-iso", "%Y-%m-%d %H:%M:%S.%N %z", "%Y-%m-%d %H:%M:%S.%N %z"),
      ("long-iso", "%Y-%m-%d %H:%M", "%Y-%m-%d %H:%M"), ("iso", "%Y-%m-%d ", "%m-%d %H:%M"),
      ("locale", "%b %e  %Y", "%b %e %H:%M")]
    let hits := known.filter fun k => bare.toList.isPrefixOf k.1.toList
    match known.lookup bare, hits with
    | some ps, _ => return ps
    | none, [(_, ps)] => return ps
    | none, _ =>
      complain ((if hits.isEmpty then "invalid" else "ambiguous") ++ " argument " ++ Text.literalQuote style ++
        " for " ++ Text.literalQuote "time style")
      tell ("Valid arguments are:\n" ++ String.join (known.map fun k => "  - [posix-]" ++ k.1 ++ "\n") ++
        "  - +FORMAT (e.g., +%H:%M) for a 'date'-style format\n" ++ (← hint))
      exit 2

/-- The look of a listing. A program may start out with a shape and a way to quote of its own. -/
def readLook (p : Parsed) (shape : Shape) (quoting : Quoting) : Program Look := do
  let environment := (← invocation).environment
  let mut shape := shape
  let mut order : Option Order := none
  let mut signs := Signs.none
  let mut quoting := quoting
  let mut sizes := Scale.bytes 1 ""
  let mut spaces := Scale.bytes 1024 ""
  let mut style := (environment.lookup "TIME_STYLE").getD "locale"
  let mut width : Nat := ((environment.lookup "COLUMNS").bind natural?).getD 80
  let mut tab : Nat := 8
  let mut spaced := false
  let mut marks := false
  let mut ignoring := 0
  for o in p.options do
    shape ← shapeOf shape o
    order ← orderOf order o
    signs ← signsOf signs o
    quoting ← quotingOf quoting o
    match o.key with
    | "h" =>
      sizes := .reached 1024
      spaces := .reached 1024
    | "si" =>
      sizes := .reached 1000
      spaces := .reached 1000
    | "block-size" =>
      sizes ← readScale "--block-size" o.value
      spaces := sizes
    | "full-time" => style := "full-iso"
    | "time-style" => style := o.value
    | "w" => match numeral 0 false "" o.value with
      | (n, none) => width := n.toNat
      | (n, some .tooLarge) => width := n.toNat
      | _ => die ("invalid line width: " ++ Text.literalQuote o.value) 2
    | "T" => tab := (← numeralWithin "invalid tab size" 0 (Nat.pow 2 63 - 1) "" o.value 2).toNat
    | "s" => spaced := true
    | "f" =>
      spaced := false
      ignoring := 2
    | "a" => ignoring := 2
    | "A" => ignoring := 1
    | "q" => marks := true
    | "show-control-chars" => marks := false
    | "time" =>
      let _ ← wordChoice "time" o.value
        [["atime", "access", "use"], ["ctime", "status"], ["birth", "creation"]]
    | "color" =>
      if !o.value.isEmpty then
        let _ ← wordChoice "color" o.value
          [["always", "yes", "force"], ["never", "no", "none"], ["auto", "tty", "if-tty"]]
    | _ => pure ()
  let byAccess := p.has "u" || p.has "c" || p.has "time"
  let (old, recent) ← if shape = .long then timePatterns style else pure ("", "")
  return {
    shape, signs, quoting, sizes, spaces, old, recent, width, tab
    order := order.getD (if byAccess && shape ≠ .long then .time else .name)
    zone := ← Dates.zone
    now := ← Dates.now
    all := ignoring = 2, almostAll := ignoring = 1, asThemselves := p.has "d"
    owner := !p.has "g", author := p.has "author", group := !(p.has "o" || p.has "G"), numeric := p.has "n"
    inodes := p.has "i", blockCounts := spaced, marks
    reversed := p.has "r", recursive := p.has "R" && !p.has "d", follows := p.has "L"
    directoriesFirst := p.has "group-directories-first"
    ends := if p.has "zero" then '\x00' else '\n'
    ignored := p.values "I" ++ (if p.has "B" then ["*~", ".*~"] else []) ++
      (if ignoring = 0 then p.values "hide" else []) }

def listing (shape : Shape) (quoting : Quoting) : Program Nat := do
  whenUnwrittenExit 2
  let p ← parsed
    { choices := ["a,all", "A,almost-all", "author", "b,escape", "B,ignore-backups", "block-size:", "c", "C",
        "color::", "d,directory", "D,dired", "dereference-command-line-symlink-to-dir", "f", "F,classify::",
        "file-type", "format:", "full-time", "g", "G,no-group", "group-directories-first", "h,human-readable",
        "H,dereference-command-line", "hide:", "hyperlink::", "i,inode", "I,ignore:", "indicator-style:",
        "k,kibibytes", "l", "L,dereference", "m", "n,numeric-uid-gid", "N,literal", "o", "p",
        "q,hide-control-chars", "Q,quote-name", "quoting-style:", "r,reverse", "R,recursive", "s,size", "S",
        "show-control-chars", "si", "sort:", "t", "T,tabsize:", "time:", "time-style:", "u", "U", "v",
        "w,width:", "x", "X", "Z,context", "zero", "1"]
      status := 2 }
  let l ← readLook p shape quoting
  let paths := if p.operands.isEmpty then ["."] else p.operands
  let intoLinks := p.has "L" || p.has "H" || p.has "dereference-command-line-symlink-to-dir" ||
    !(p.has "d" || l.shape = .long || l.signs = .all)
  let mut found : List Entry := []
  for path in paths do
    let linked ← Filing.found true path
    let outcome ← match linked with
      | .ok (w, n, node) =>
        if p.has "L" || p.has "H" || (intoLinks && node.kind = .directory) then pure (.ok (w, n, node))
        else Filing.found false path
      | .error e => if p.has "L" || p.has "H" then pure (.error e) else Filing.found false path
    match outcome with
    | .error e =>
      complain ("cannot access " ++ Text.shellQuote path ++ ": " ++ e.reason)
      raise 2
    | .ok (w, n, node) => found := found ++ [⟨path, w, n, some node⟩]
  let ordered := sorted l found
  let plain := ordered.filter fun e => l.asThemselves || !e.isDirectory
  let directories := ordered.filter fun e => !l.asThemselves && e.isDirectory
  put (rows (← files) l plain)
  let titled := 1 < paths.length || l.recursive
  for (e, k) in directories.zipIdx do
    let gap := if k = 0 && plain.isEmpty then "" else "\n"
    list l Filing.maximalDepth (if titled then some gap else none) e.name e.way
  return 0

end Listing

def ls : Program Nat := Listing.listing .single .plain

def dir : Program Nat := Listing.listing .down .escapes

def vdir : Program Nat := Listing.listing .long .escapes

end DeltaDebugging.Utility
