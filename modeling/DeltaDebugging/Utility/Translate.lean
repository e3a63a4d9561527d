import DeltaDebugging.Regex.CharSet
import DeltaDebugging.Text.Escape
import DeltaDebugging.Utility.Lines

/-!
# Translating characters

A set of characters is written as a row of elements: single characters, ranges, classes, and
characters that are repeated. Translating takes the members of two such rows in pairs.
-/
namespace DeltaDebugging.Utility

open Program

namespace Translation

inductive Element where
  | char (c : Char)
  | range (first last : Char)
  | kind (name : String) (cs : List Char)
  | equivalents (c : Char)
  /-- A character as often as is said, or as often as is needed. -/
  | repeated (c : Char) (count : Option Nat)
  deriving DecidableEq, Repr

namespace Element

/-- The members, when `needed` are missing to the length that a row should have. -/
def members (needed : Nat) : Element → List Char
  | char c => [c]
  | range a b => (List.range (b.toNat + 1 - a.toNat)).map fun k => Char.ofNat (a.toNat + k)
  | kind _ cs => cs
  | equivalents c => [c]
  | repeated c n => List.replicate (n.getD needed) c

def isOpen : Element → Bool
  | repeated _ none => true
  | _ => false

def isKind : Element → Bool
  | kind .. => true
  | _ => false

def isCase : Element → Bool
  | kind name _ => name = "upper" || name = "lower"
  | _ => false

def isEquivalents : Element → Bool
  | equivalents _ => true
  | _ => false

end Element

def members (needed : Nat) (es : List Element) : List Char := es.flatMap (Element.members needed)

abbrev Marked := Char × Bool

/-- Reads the escapes of a text, with the warnings that they give. -/
def unescaped : (steps : Nat) → List Char → List Marked × List String
  | 0, _ => ([], [])
  | _, [] => ([], [])
  | _, ['\\'] => ([('\\', false)], ["warning: an unescaped backslash at end of string is not portable"])
  | steps + 1, '\\' :: c :: cs =>
    if Escape.isOctal c then
      let ds := ((c :: cs).take 3).takeWhile Escape.isOctal
      let large := 255 < ds.foldl (fun n d => n * 8 + (d.toNat - '0'.toNat)) 0
      let used := if large then ds.take 2 else ds
      let (more, warnings) := unescaped steps ((c :: cs).drop used.length)
      ((Escape.octal used, true) :: more,
        if large then
          ("warning: the ambiguous octal escape \\" ++ String.ofList ds ++
            " is being\n\tinterpreted as the 2-byte sequence \\0" ++ String.ofList used ++ ", " ++
            String.ofList (ds.drop 2)) :: warnings
        else warnings)
    else
      let (more, warnings) := unescaped steps cs
      ((((Escape.control? c).getD c), true) :: more, warnings)
  | steps + 1, c :: cs =>
    let (more, warnings) := unescaped steps cs
    ((c, false) :: more, warnings)

def shown (c : Char) : String :=
  if c = '\\' then "\\\\" else if Text.isPlain c then String.singleton c else Text.byteEscape c

def shownAll (cs : List Char) : String := Text.literalQuote (String.join (cs.map shown))

/-- What stands before a mark and a closing bracket, and what comes behind them. -/
def enclosed? (mark : Char) : List Marked → Option (List Char × List Marked)
  | a :: b :: rest =>
    if a = (mark, false) && b = (']', false) then some ([], rest)
    else (enclosed? mark (b :: rest)).map fun e => (a.1 :: e.1, e.2)
  | _ => none

/-- The digits of a repetition after its star, up to the closing bracket. -/
def repetition? : List Marked → Option (List Char × List Marked)
  | (']', false) :: rest => some ([], rest)
  | (c, false) :: rest => (repetition? rest).map fun e => (c :: e.1, e.2)
  | _ => none

/-- How often a character is repeated: a decimal number, or an octal one after a zero. -/
def repeatCount? (ds : List Char) : Option Nat :=
  if ds.head? = some '0' then
    if ds.all Escape.isOctal then some (ds.foldl (fun n d => n * 8 + (d.toNat - '0'.toNat)) 0) else none
  else if ds.isEmpty then some 0
  else (natural? (String.ofList ds)).filter fun n => decide (n < Nat.pow 2 63)

def repeated? : List Marked → Program (Option (Element × List Marked))
  | (c, _) :: ('*', false) :: rest => match repetition? rest with
    | none => return none
    | some (ds, rest) => match repeatCount? ds with
      | some n => return some (.repeated c (if n = 0 then none else some n), rest)
      | none => die ("invalid repeat count " ++ shownAll ds ++ " in [c*n] construct") 1
  | _ => return none

/-- Whether a star, digits and a closing bracket come first. -/
def isRepetition : List Marked → Bool
  | ('*', false) :: rest => (repetition? rest).any fun e => e.1.all Char.isDigit
  | _ => false

/-- What a bracket opens, if it is more than a character. -/
def bracketed? (cs : List Marked) : Program (Option (Element × List Marked)) := do
  match cs with
  | (':', false) :: rest => match enclosed? ':' rest with
    | some ([], _) => die "missing character class name '[::]'" 1
    | some (name, after) => match CharSet.class? (String.ofList name) with
      | some ranges =>
        let all := (List.range 256).map Char.ofNat
        return some (.kind (String.ofList name) (all.filter fun c => CharSet.has { ranges } c), after)
      | none =>
        if isRepetition rest then repeated? cs
        else die ("invalid character class " ++ shownAll name) 1
    | none => repeated? cs
  | ('=', false) :: rest => match enclosed? '=' rest with
    | some ([], _) => die "missing equivalence class character '[==]'" 1
    | some ([c], after) => return some (.equivalents c, after)
    | some (name, _) =>
      if isRepetition rest then repeated? cs
      else die (String.join (name.map shown) ++
        ": equivalence class operand must be a single character") 1
    | none => repeated? cs
  | _ => repeated? cs

def elements : (steps : Nat) → List Marked → Program (List Element)
  | 0, _ => return []
  | steps + 1, cs => do
    let opened ← match cs with
      | ('[', false) :: rest => if 2 ≤ rest.length then bracketed? rest else pure none
      | _ => pure none
    match opened, cs with
    | some (e, rest), _ => return e :: (← elements steps rest)
    | none, a :: ('-', false) :: b :: rest =>
      if b.1 < a.1 then
        die ("range-endpoints of '" ++ shown a.1 ++ "-" ++ shown b.1 ++
          "' are in reverse collating sequence order") 1
      return .range a.1 b.1 :: (← elements steps rest)
    | none, c :: rest => return .char c.1 :: (← elements steps rest)
    | none, [] => return []

def readSet (text : String) : Program (List Element) := do
  let (cs, warnings) := unescaped (text.length + 1) text.toList
  for w in warnings do complain w
  elements (cs.length + 1) cs

/-- A member of a row: the element it comes from, and whether it is the first one there. -/
abbrev Place := Element × Bool

def places (es : List Element) : List Place :=
  es.flatMap fun e => match e.members 0 with
    | [] => []
    | _ :: cs => (e, true) :: cs.map fun _ => (e, false)

def skipped (ps : List Place) : List Place := (ps.drop 1).dropWhile fun p => !p.2

/-- Whether each class of one case in a second row stands where the first row has one, too. -/
def aligned : (steps : Nat) → List Place → List Place → Bool
  | 0, _, _ => true
  | _, _, [] => true
  | _, [], (e, first) :: _ => !(first && e.isCase)
  | steps + 1, (d, start) :: ds, (e, first) :: es =>
    if first && e.isCase then
      start && d.isCase && aligned steps (skipped ((d, start) :: ds)) (skipped ((e, first) :: es))
    else aligned steps ds es

def squeezed (inSet : Char → Bool) : Option Char → List Char → List Char
  | _, [] => []
  | previous, c :: cs =>
    if previous = some c && inSet c then squeezed inSet previous cs
    else c :: squeezed inSet (some c) cs

def table (sources targets : List Char) : Array Char :=
  (sources.zip targets).foldl (fun t pair => t.setIfInBounds pair.1.toNat pair.2)
    ((Array.range 256).map Char.ofNat)

end Translation

open Translation in
/-- The two rows of members between which characters are translated. -/
def translationRows (complements truncates : Bool) (first second : List Element) :
    Program (List Char × List Char) := do
  let sources := members 0 first
  let sources := if complements then
      ((List.range 256).map Char.ofNat).filter fun c => !sources.contains c
    else sources
  let targets := members (sources.length - (members 0 second).length) second
  if second.any Element.isEquivalents then
    die "[=c=] expressions may not appear in string2 when translating" 1
  if second.any fun e => e.isKind && !e.isCase then
    die ("when translating, the only character classes that may appear in\n" ++
      "string2 are 'upper' and 'lower'") 1
  if !complements && second.any Element.isKind then
    let (ps, qs) := (places first, places second)
    if !aligned (ps.length + qs.length) ps qs then
      die "misaligned [:upper:] and/or [:lower:] construct" 1
  let missing := sources.length - targets.length
  let last := match second.getLast? with
    | some (.repeated c _) => some c
    | _ => targets.getLast?
  let targets ← if missing = 0 || truncates then pure targets
    else match last with
      | none => die "when not truncating set1, string2 must be non-empty" 1
      | some c =>
        if second.getLast?.any Element.isKind then
          die ("when translating with string1 longer than string2,\n" ++
            "the latter string must not end with a character class") 1
        else pure (targets ++ List.replicate missing c)
  if complements && first.any Element.isKind &&
      !(targets.length = sources.length && targets.all fun c => some c = targets.head?) then
    die ("when translating with complemented character classes,\n" ++
      "string2 must map all characters in the domain to one") 1
  return (sources, targets)

open Translation in
def tr : Program Nat := do
  let p ← parsed
    { choices := ["c,C,complement", "d,delete", "s,squeeze-repeats", "t,truncate-set1"]
      permutes := false }
  let deletes := p.has "d"
  let squeezes := p.has "s"
  let least := if deletes = squeezes then 2 else 1
  let most := if deletes && !squeezes then 1 else 2
  let refuse (text more : String) : Program Unit := do
    complain text
    if !more.isEmpty then tell (more ++ "\n")
    tell (← hint)
    exit 1
  if p.operands.isEmpty then refuse "missing operand" ""
  else if p.operands.length < least then
    refuse ("missing operand after " ++ Text.literalQuote (p.operands.getLast?.getD ""))
      (if squeezes then "Two strings must be given when both deleting and squeezing repeats."
        else "Two strings must be given when translating.")
  else if most < p.operands.length then
    refuse ("extra operand " ++ Text.literalQuote (p.operands[most]?.getD ""))
      (if p.operands.length = 2 then
        "Only one string may be given when deleting without squeezing repeats." else "")
  let first ← readSet (p.operands.headD "")
  let second ← p.operands.tail.mapM readSet
  if first.any Element.isOpen then die "the [c*] repeat construct may not appear in string1" 1
  let two := second.headD []
  let opens := two.filter Element.isOpen
  if 1 < opens.length then die "only one [c*] repeat construct may appear in string2" 1
  let translates := !second.isEmpty && !deletes
  if !translates && !opens.isEmpty then
    die "the [c*] construct may appear in string2 only when translating" 1
  let (sources, targets) ← if translates then translationRows (p.has "c") (p.has "t") first two
    else pure (members 0 first, members 0 two)
  let selected := members 0 first
  let inFirst (c : Char) : Bool := selected.contains c != p.has "c"
  match ← streamed "-" with
  | .error e => die ("read error: " ++ e.fault.reason) 1
  | .ok cs =>
    let changed := if deletes then cs.filter fun c => !inFirst c
      else if translates then
        let t := table sources targets
        cs.map fun c => (t[c.toNat]?).getD c
      else cs
    put (String.ofList (if !squeezes then changed
      else if second.isEmpty then squeezed inFirst none changed
      else squeezed targets.contains none changed))
    return 0

end DeltaDebugging.Utility
