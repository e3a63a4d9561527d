import DeltaDebugging.Regex.Parser
import DeltaDebugging.Utility.Difference
import DeltaDebugging.Utility.Filing
import DeltaDebugging.Utility.Lines

/-!
# Comparing files

Whether files are the same byte for byte, and how their lines differ.
-/
namespace DeltaDebugging.Utility

open Program Paths

namespace Compare

/-- Where two texts first differ: after how many bytes, and after how many line ends. -/
def firstDifference : (bytes lines : Nat) → List Char → List Char → Nat × Nat × Option Char × Option Char
  | n, k, a :: as, b :: bs =>
    if a = b then firstDifference (n + 1) (if a = '\n' then k + 1 else k) as bs
    else (n, k, some a, some b)
  | n, k, as, bs => (n, k, as.head?, bs.head?)

def octal3 (c : Char) : String :=
  rightAligned 3 (String.ofList (Nat.toDigits 8 c.toNat))

end Compare

open Compare in
def cmp : Program Nat := do
  whenUnwritten fun e => if e = .badDescriptor then ([], 1) else (["standard output: " ++ e.reason], 2)
  let again : Program String := do return (← name) ++ ": " ++ (← hint)
  let p ← parsed
    { choices := ["b,print-bytes", "i,ignore-initial:", "l,verbose", "n,bytes:", "s,quiet,silent"]
      status := 2
      usage := some (← again) }
  let misused (text : String) : Program Unit := do
    complain text
    tell (← again)
    exit 2
  let number (option text : String) : Program Nat := do
    match count? text with
    | some n => return n
    | none =>
      misused ("invalid --" ++ option ++ " value '" ++ text ++ "'")
      return 0
  if p.has "l" && p.has "s" then misused "options -l and -s are incompatible"
  let limit ← match p.value? "n" with
    | some t => some <$> number "bytes" t
    | none => pure none
  let (skip₁, skip₂) ← match p.value? "i" with
    | none => pure (0, 0)
    | some t => match t.splitOn ":" with
      | [a, b] => pure (← number "ignore-initial" a, ← number "ignore-initial" b)
      | _ => do
        let n ← number "ignore-initial" t
        pure (n, n)
  match p.operands with
  | [] =>
    misused ("missing operand after '" ++ (← name) ++ "'")
    return 2
  | first :: rest =>
    match rest.drop 3 with
    | extra :: _ => misused ("extra operand '" ++ extra ++ "'")
    | [] => pure ()
    let second := rest.headD "-"
    let skip₁ := max skip₁ (← match rest[1]? with
      | some t => number "ignore-initial" t
      | none => pure 0)
    let skip₂ := max skip₂ (← match rest[2]? with
      | some t => number "ignore-initial" t
      | none => pure 0)
    if first = second then
      match ← (if first = "-" then pure (.ok ()) else do return (← Filing.found true first).map fun _ => ()) with
      | .ok () => return 0
      | .error e => die (first ++ ": " ++ e.reason) 2
    let contents (path : String) : Program (List Char) := do
      match ← (if path = "-" then inputSoFar else beginningOf path) with
      | .error e =>
        die (path ++ ": " ++ e.fault.reason) 2
      | .ok (cs, endless) =>
        if path = "-" then takeInput cs.length
        let cs := if endless then extended cs 1000000 else cs
        return cs
    for path in [first, second] do
      if path ≠ "-" then
        match ← Filing.found true path with
        | .ok _ => pure ()
        | .error e =>
          if p.has "s" then exit 2
          die (path ++ ": " ++ e.reason) 2
    let a := (← contents first).drop skip₁
    let b := (← contents second).drop skip₂
    let (a, b) := match limit with
      | some n => (a.take n, b.take n)
      | none => (a, b)
    if a = b then return 0
    if p.has "s" then return 1
    let shorter := if a.length < b.length then first else second
    let common := min a.length b.length
    let atEnd (byLines : Bool) : Program Unit := do
      if a.length ≠ b.length then
        let cs := a.take common
        let lines := (cs.filter (· = '\n')).length
        let place := if common = 0 then " which is empty"
          else " after byte " ++ toString common ++
            (if !byLines then ""
              else if cs.getLast? = some '\n' then ", line " ++ toString lines
              else ", in line " ++ toString (lines + 1))
        complain ("EOF on " ++ shorter ++ place)
    let withBytes (x y : Char) : String :=
      " " ++ octal3 x ++ " " ++ visible true x
        ++ String.ofList (List.replicate (4 - (visible true x).length) ' ') ++ " " ++ octal3 y ++ " " ++ visible true y
    if p.has "l" then
      let width := (toString (max a.length b.length)).length
      for ((x, y), k) in (a.zip b).zipIdx 1 do
        if x ≠ y then
          putLine (rightAligned width (toString k) ++
            (if p.has "b" then withBytes x y else " " ++ octal3 x ++ " " ++ octal3 y))
      atEnd false
    else
      match firstDifference 0 0 a b with
      | (n, k, some x, some y) =>
        putLine (first ++ " " ++ second ++ " differ: " ++ (if p.has "b" then "byte " else "char ") ++
          toString (n + 1) ++ ", line " ++ toString (k + 1) ++
          (if p.has "b" then " is " ++ octal3 x ++ " " ++ visible true x ++ " " ++ octal3 y ++ " " ++ visible true y
            else ""))
      | _ => atEnd true
    return 1

namespace Diff

inductive Style where
  | normal
  | context (lines : Nat)
  | unified (lines : Nat)
  | script
  | counted
  | brief
  deriving DecidableEq, Repr

structure Wish where
  style : Style := .normal
  sayEqual : Bool := false
  folds : Bool := false
  allSpace : Bool := false
  spaceAmount : Bool := false
  trailingSpace : Bool := false
  tabsAsSpace : Bool := false
  returns : Bool := false
  blankLines : Bool := false
  ignored : Option Regex := none
  asText : Bool := false
  recursive : Bool := false
  absentAsEmpty : Bool := false
  tabs : Bool := false
  expands : Bool := false
  labels : List String := []
  /-- The options as they were given, shown before files of directories. -/
  switches : String := ""

structure Line where
  text : List Char
  ended : Bool := true
  deriving DecidableEq, Repr

def linesIn (cs : List Char) : Array Line :=
  let whole := (linesOf '\n' cs).toArray.map fun l => ({ text := l } : Line)
  if cs.getLast? = some '\n' || cs.isEmpty then whole
  else whole.modify (whole.size - 1) fun l => { l with ended := false }

def isSpaceChar (c : Char) : Bool := c = ' ' || ('\t' ≤ c && c ≤ '\r')

def spacesMerged : List Char → List Char
  | [] => []
  | c :: cs =>
    if !isSpaceChar c then c :: spacesMerged cs
    else if cs.head?.any isSpaceChar then spacesMerged cs
    else ' ' :: spacesMerged cs

def untabbed (column : Nat) : List Char → List Char
  | [] => []
  | c :: cs =>
    if c = '\t' then
      let next := (column / 8 + 1) * 8
      List.replicate (next - column) ' ' ++ untabbed next cs
    else c :: untabbed (column + 1) cs

def Wish.key (w : Wish) (l : Line) : Line :=
  let trimmed (cs : List Char) : List Char := (cs.reverse.dropWhile isSpaceChar).reverse
  let cs := if w.returns && l.text.getLast? = some '\r' then l.text.dropLast else l.text
  let cs := if w.tabsAsSpace then untabbed 0 cs else cs
  let cs := if w.allSpace then cs.filter fun c => !isSpaceChar c
    else if w.spaceAmount then spacesMerged (trimmed cs)
    else if w.trailingSpace then trimmed cs else cs
  let cs := if w.folds then cs.map Char.toLower else cs
  { text := cs, ended := l.ended || w.allSpace || w.spaceAmount || w.trailingSpace }

structure Sides where
  old : Array Line
  new : Array Line

def Style.lines : Style → Nat
  | context n => n
  | unified n => n
  | _ => 0

/-- The changes, which are looked for where the sides are not the same at their ends; the lines
that are shown around changes are looked at, too. -/
def Sides.changes (s : Sides) (w : Wish) : List Difference.Change :=
  let common (a b : List Line) : Nat := ((a.zip b).takeWhile fun e => e.1 = e.2).length
  let (a, b) := (s.old.toList, s.new.toList)
  let first := common a b - w.style.lines
  let last := common (a.drop first).reverse (b.drop first).reverse - w.style.lines
  let s : Sides := ⟨s.old.extract first (s.old.size - last), s.new.extract first (s.new.size - last)⟩
  let keys := (s.old ++ s.new).map w.key
  let sorted := keys.toList.foldl (fun (seen : List (Line × Nat)) k =>
    if (seen.lookup k).isSome then seen else (k, seen.length) :: seen) []
  let number (l : Line) : Nat := (sorted.lookup (w.key l)).getD 0
  (Difference.edit (s.old.map number) (s.new.map number)).map fun c =>
    { c with old := c.old + first, new := c.new + first }

def Sides.deleted (s : Sides) (c : Difference.Change) : List Line := (s.old.toList.drop c.old).take c.deleted

def Sides.inserted (s : Sides) (c : Difference.Change) : List Line := (s.new.toList.drop c.new).take c.inserted

/-- Whether a change is one that does not count. -/
def Sides.ignores (s : Sides) (w : Wish) (c : Difference.Change) : Bool :=
  let lines := s.deleted c ++ s.inserted c
  (w.blankLines || w.ignored.isSome) && lines.all fun l =>
    (w.blankLines && (if w.allSpace || w.spaceAmount then l.text.all isSpaceChar else l.text.isEmpty)) ||
      w.ignored.any fun r =>
        (r.search { text := (Octets.characters l.text).toArray, wide := true } 0).isSome

def Wish.show (w : Wish) (mark : String) (l : Line) : String :=
  let text := if w.expands then untabbed 0 l.text else l.text
  mark ++ (if w.tabs && mark.length < 3 then "\t" else "") ++ String.ofList text ++ "\n" ++
    if l.ended then "" else "\\ No newline at end of file\n"

def range (first count : Nat) : String :=
  if count ≤ 1 then toString (if count = 0 then first - 1 else first)
  else toString first ++ "," ++ toString (first + count - 1)

def letter (c : Difference.Change) : String :=
  if c.deleted = 0 then "a" else if c.inserted = 0 then "d" else "c"

def normal (w : Wish) (s : Sides) (cs : List Difference.Change) : String :=
  String.join (cs.map fun c =>
    range (c.old + 1) c.deleted ++ letter c ++ range (c.new + 1) c.inserted ++ "\n" ++
      String.join ((s.deleted c).map (w.show (if w.tabs then "<" else "< "))) ++
      (if c.deleted ≠ 0 && c.inserted ≠ 0 then "---\n" else "") ++
      String.join ((s.inserted c).map (w.show (if w.tabs then ">" else "> "))))

def hunks (context : Nat) : List Difference.Change → List (List Difference.Change)
  | [] => []
  | c :: cs => match hunks context cs with
    | (d :: ds) :: rest =>
      if d.old - (c.old + c.deleted) ≤ 2 * context then (c :: d :: ds) :: rest else [c] :: (d :: ds) :: rest
    | rest => [c] :: rest

/-- The lines that a hunk covers on each side: first line and count, counted from zero. -/
def extent (context : Nat) (s : Sides) (h : List Difference.Change) : (Nat × Nat) × (Nat × Nat) :=
  match h.head?, h.getLast? with
  | some a, some b =>
    let before := min context a.old
    let stop := b.old + b.deleted
    let after := min context (s.old.size - stop)
    ((a.old - before, stop + after - (a.old - before)),
      (a.new - before, b.new + b.inserted + after - (a.new - before)))
  | _, _ => ((0, 0), (0, 0))

def unified (w : Wish) (context : Nat) (s : Sides) (h : List Difference.Change) : String :=
  let ((a, m), (b, n)) := extent context s h
  let numbers (first count : Nat) : String :=
    if count = 1 then toString (first + 1)
    else toString (if count = 0 then first else first + 1) ++ "," ++ toString count
  let rows := h.foldl (fun (acc : String × Nat) c =>
    let kept := (s.old.toList.drop acc.2).take (c.old - acc.2)
    (acc.1 ++ String.join (kept.map (w.show " ")) ++ String.join ((s.deleted c).map (w.show "-")) ++
      String.join ((s.inserted c).map (w.show "+")), c.old + c.deleted)) ("", a)
  let tail := (s.old.toList.drop rows.2).take (a + m - rows.2)
  "@@ -" ++ numbers a m ++ " +" ++ numbers b n ++ " @@\n" ++ rows.1 ++ String.join (tail.map (w.show " "))

def contextual (w : Wish) (context : Nat) (s : Sides) (h : List Difference.Change) : String :=
  let ((a, m), (b, n)) := extent context s h
  let side (lines : Array Line) (first count : Nat) (own : Difference.Change → Nat × Nat)
      (mark : Difference.Change → String) : String :=
    let rows := h.foldl (fun (acc : String × Nat) c =>
      let (start, size) := own c
      let kept := (lines.toList.drop acc.2).take (start - acc.2)
      let changed := (lines.toList.drop start).take size
      (acc.1 ++ String.join (kept.map (w.show "  ")) ++ String.join (changed.map (w.show (mark c))),
        start + size)) ("", first)
    rows.1 ++ String.join (((lines.toList.drop rows.2).take (first + count - rows.2)).map (w.show "  "))
  let both (c : Difference.Change) : Bool := c.deleted ≠ 0 && c.inserted ≠ 0
  "***************\n*** " ++ range (a + 1) m ++ " ****\n" ++
    (if h.any fun c => c.deleted ≠ 0 then
      side s.old a m (fun c => (c.old, c.deleted)) fun c => if both c then "! " else "- " else "") ++
    "--- " ++ range (b + 1) n ++ " ----\n" ++
    (if h.any fun c => c.inserted ≠ 0 then
      side s.new b n (fun c => (c.new, c.inserted)) fun c => if both c then "! " else "+ " else "")

def scripted (s : Sides) (cs : List Difference.Change) : String :=
  String.join (cs.reverse.map fun c =>
    (if c.deleted = 0 then toString c.old else range (c.old + 1) c.deleted) ++ letter c ++ "\n" ++
      if c.inserted = 0 then ""
      else String.join ((s.inserted c).map fun l => String.ofList l.text ++ "\n") ++ ".\n")

def counted (s : Sides) (cs : List Difference.Change) : String :=
  String.join (cs.map fun c =>
    (if c.deleted = 0 then "" else "d" ++ toString (c.old + 1) ++ " " ++ toString c.deleted ++ "\n") ++
      if c.inserted = 0 then ""
      else "a" ++ toString (c.old + c.deleted) ++ " " ++ toString c.inserted ++ "\n" ++
        String.join ((s.inserted c).map fun l =>
          String.ofList l.text ++ if l.ended then "\n" else ""))

def fileTime (unified : Bool) : String :=
  if unified then "1970-01-01 00:00:00.000000000 +0000" else "Thu Jan  1 00:00:00 1970"

/-- Compares two texts; what is printed, and whether they differ. -/
def compareTexts (w : Wish) (path₁ path₂ : String) (a b : List Char) : String × Bool :=
  let verdict (text : String) : String := "Files " ++ path₁ ++ " and " ++ path₂ ++ " " ++ text ++ "\n"
  let s : Sides := ⟨linesIn a, linesIn b⟩
  let changes := if a = b then [] else s.changes w
  let binary := !w.asText && (a.contains '\x00' || b.contains '\x00')
  let counts := changes.filter fun c => !s.ignores w c
  if binary && a ≠ b then
    (if w.style = .brief then verdict "differ" else "Binary files " ++ path₁ ++ " and " ++ path₂ ++ " differ\n", true)
  else if counts.isEmpty then
    (if w.sayEqual then verdict "are identical" else "", false)
  else
    let title (mark : String) (k : Nat) (path : String) (unified : Bool) : String :=
      mark ++ " " ++ ((w.labels[k]?).getD (path ++ "\t" ++ fileTime unified)) ++ "\n"
    let grouped (n : Nat) := (hunks n changes).filter fun h => h.any fun c => !s.ignores w c
    (match w.style with
      | .normal => normal w s counts
      | .brief => verdict "differ"
      | .script => scripted s counts
      | .counted => counted s counts
      | .unified n => title "---" 0 path₁ true ++ title "+++" 1 path₂ true ++
          String.join ((grouped n).map (unified w n s))
      | .context n => title "***" 0 path₁ false ++ title "---" 1 path₂ false ++
          String.join ((grouped n).map (contextual w n s)), true)

def comparePaths (w : Wish) : (depth : Nat) → (top : Bool) → (path₁ path₂ : String) → Program Nat
  | 0, _, _, _ => return 2
  | depth + 1, top, path₁, path₂ => do
    let kindOf (path : String) : Program (Except FileFault FileKind) := do
      if path = "-" then return .ok (.regular "")
      return (← Filing.found true path).map fun e => e.2.2.kind
    let absent (e : FileFault) : Bool := w.absentAsEmpty && e = .notFound
    match ← kindOf path₁, ← kindOf path₂ with
    | .ok .directory, .ok .directory =>
      let f ← files
      if ((f.way true path₁).toOption) = (f.way true path₂).toOption then return 0
      if !top && !w.recursive then
        putLine ("Common subdirectories: " ++ path₁ ++ " and " ++ path₂)
        return 0
      let (xs, ys) := (f.list path₁, f.list path₂)
      let names := (xs ++ ys.filter fun n => !xs.contains n).mergeSort fun a b => decide (a ≤ b)
      let mut status := 0
      for name in names do
        let (a, b) := (below path₁ name, below path₂ name)
        if !w.absentAsEmpty && !ys.contains name then
          putLine ("Only in " ++ path₁ ++ ": " ++ name)
          status := max status 1
        else if !w.absentAsEmpty && !xs.contains name then
          putLine ("Only in " ++ path₂ ++ ": " ++ name)
          status := max status 1
        else status := max status (← comparePaths w depth false a b)
      return status
    | .ok .directory, .ok other =>
      if top then comparePaths w depth true (below path₁ (base path₂)) path₂
      else if w.absentAsEmpty then return 1
      else
        putLine ("File " ++ path₁ ++ " is a directory while file " ++ path₂ ++ " is a " ++ describe other)
        return 1
    | .ok other, .ok .directory =>
      if top then comparePaths w depth true path₁ (below path₂ (base path₁))
      else
        putLine ("File " ++ path₁ ++ " is a " ++ describe other ++ " while file " ++ path₂ ++ " is a directory")
        return 1
    | one, two =>
      let mut missing := false
      for (path, found) in [(path₁, one), (path₂, two)] do
        match found with
        | .error e => if !absent e then
            complain (path ++ ": " ++ e.reason)
            missing := true
        | .ok _ => pure ()
      if missing || (one.toOption.isNone && two.toOption.isNone) then return 2
      let content (path : String) (found : Except FileFault FileKind) : Program (List Char) := do
        match found with
        | .error _ => return []
        | .ok _ => match ← operand path with
          | .ok cs => return cs
          | .error e => die (path ++ ": " ++ e.fault.reason) 2
      let a ← content path₁ one
      let b ← if path₁ = path₂ then pure a else content path₂ two
      let (text, differ) := compareTexts w path₁ path₂ a b
      if !top && differ && w.style ≠ .brief then
        putLine ("diff" ++ w.switches ++ " " ++ path₁ ++ " " ++ path₂)
      put text
      return if differ then 1 else 0
where
  describe : FileKind → String
    | .regular content => if content.isEmpty then "regular empty file" else "regular file"
    | .directory => "directory"
    | .link _ => "symbolic link"
    | _ => "character special file"

/-- A number of context lines, perhaps behind flags, as an option of its own. -/
def contextArguments (as : List String) : List String :=
  as.flatMap fun a => match a.toList with
    | '-' :: cs =>
      let flags := cs.takeWhile fun c => c.isAlpha && !"CFILUx".toList.contains c
      let digits := cs.drop flags.length
      if digits.isEmpty || !digits.all Char.isDigit then [a]
      else (if flags.isEmpty then [] else ["-" ++ String.ofList flags]) ++ ["--lines=" ++ String.ofList digits]
    | _ => [a]

end Diff

open Diff in
def diff : Program Nat := do
  whenUnwritten fun e => (["standard output: " ++ e.reason], 2)
  let given ← arguments
  let again : Program String := do return (← name) ++ ": " ++ (← hint)
  withArguments contextArguments
  let p ← parsed
    { choices := ["a,text", "B,ignore-blank-lines", "b,ignore-space-change", "C:", "context::", "c",
        "d,minimal", "E,ignore-tab-expansion", "e,ed", "F,show-function-line:", "H,speed-large-files",
        "h", "I,ignore-matching-lines:", "i,ignore-case", "L,label:", "lines:", "N,new-file", "n,rcs",
        "normal", "p,show-c-function", "q,brief", "r,recursive", "s,report-identical-files",
        "strip-trailing-cr", "T,initial-tab", "t,expand-tabs", "U:", "u", "unified::",
        "w,ignore-all-space", "x,exclude:", "Z,ignore-trailing-space", "color::"]
      status := 2
      usage := some (← again) }
  let misused (text : String) : Program Unit := do
    complain text
    tell (← again)
    exit 2
  let lines (text : Option String) : Program Nat := do
    match text with
    | none => return 3
    | some "" => return 3
    | some t => match natural? t with
      | some n => return n
      | none =>
        misused ("invalid context length '" ++ t ++ "'")
        return 3
  let styleOf (o : Given) : Program (Option Style) := do
    match o.key with
    | "c" => return some (.context (← lines (p.value? "lines")))
    | "C" => return some (.context (← lines (some o.value)))
    | "context" => return some (.context (← lines (some o.value)))
    | "u" => return some (.unified (← lines (p.value? "lines")))
    | "U" => return some (.unified (← lines (some o.value)))
    | "unified" => return some (.unified (← lines (some o.value)))
    | "e" => return some .script
    | "n" => return some .counted
    | "normal" => return some .normal
    | _ => return none
  let styles := (← p.options.mapM styleOf).filterMap id
  let kindOf : Style → Nat
    | .normal => 0
    | .context _ => 1
    | .unified _ => 2
    | .script => 3
    | .counted => 4
    | .brief => 5
  if styles.any fun s => some (kindOf s) ≠ styles.head?.map kindOf then
    misused "conflicting output style options"
  let style := (styles.getLast?).getD (if p.has "p" || p.has "F" then .context 3 else .normal)
  let ignored ← match p.value? "I" with
    | none => pure none
    | some text => match Regex.parse .looseBasic (Octets.characters text.toList) with
      | .ok r => pure (some r.regex)
      | .error _ => die (text ++ ": Invalid preceding regular expression") 2
  let switches := given.zipIdx.filter fun e =>
    e.1 ≠ "-" && (e.1.toList.head? = some '-' ||
      (0 < e.2 && ["-L", "-U", "-C", "-I", "-x", "-F", "--label"].contains ((given[e.2 - 1]?).getD "")))
  let w : Wish :=
    { style := if p.has "q" then .brief else style
      sayEqual := p.has "s", folds := p.has "i", allSpace := p.has "w", spaceAmount := p.has "b"
      trailingSpace := p.has "Z", tabsAsSpace := p.has "E", returns := p.has "strip-trailing-cr"
      blankLines := p.has "B", ignored, asText := p.has "a", recursive := p.has "r"
      absentAsEmpty := p.has "N", tabs := p.has "T", expands := p.has "t", labels := p.values "L"
      switches := String.join (switches.map fun e => " " ++ Text.shellName e.1) }
  match p.operands with
  | [] =>
    misused ("missing operand after '" ++ (given.getLast?).getD (← name) ++ "'")
    return 2
  | [path] =>
    misused ("missing operand after '" ++ path ++ "'")
    return 2
  | [a, b] => comparePaths w 100 true a b
  | _ :: _ :: extra :: _ =>
    misused ("extra operand '" ++ extra ++ "'")
    return 2

end DeltaDebugging.Utility
