import DeltaDebugging.Utility.Ordering

/-!
# Keys made visible

A line is shown with marks below it, one row for each key it was compared by and a last one for
the line as a whole. What is odd about the keys is told before: options that no key heeds, keys
that hold nothing, blanks that count.
-/
namespace DeltaDebugging.Utility

/-- How many columns a text takes; a stray byte and a tab take one. -/
def shownColumns (bytes : List Char) : Nat :=
  (Octets.characters bytes).foldl (fun n c =>
    n + if c = '\t' || Octets.isStray c then 1 else Text.columns c) 0

namespace SortKey

/-- Where the part of a line begins and ends that decides about a key; `whole` tells that the key
stands for the line. -/
def decisive (k : SortKey) (whole : Bool) (separator : Option Char) (cs : List Char) : Nat × Nat :=
  let (a, b) := k.span separator cs
  let o := k.order
  if !((o.skipsStart && whole) || o.month || o.isNumeric) then (a, b) else
  let part := (cs.drop a).take (b - a)
  let blanks := (part.takeWhile isBlankChar).length
  let part := part.drop blanks
  let taken :=
    if o.month then if monthRank part = 0 then 0 else 3
    else if o.general then match Number.floatAt? part with
      | some (_, rest) => part.length - rest.length
      | none => 0
    else if o.isNumeric then
      let sign := if part.head? = some '-' then 1 else 0
      match rawNumber (part.drop sign) with
      | (n, some _) =>
        let unit := o.human && (part.drop (sign + n)).head?.any fun c => unitOrder c ≠ 0
        sign + n + if unit then 1 else 0
      | (_, none) => 0
    else part.length
  (a + blanks, a + blanks + taken)

end SortKey

def marksBelow (cs : List Char) (span : Nat × Nat) : String :=
  let width := shownColumns ((cs.drop span.1).take (span.2 - span.1))
  String.ofList (List.replicate (shownColumns (cs.take span.1)) ' ') ++
    if width = 0 then "^ no match for key\n" else String.ofList (List.replicate width '_') ++ "\n"

/-- A line with the marks of its keys; `wholly` tells that a single order stands for the line. -/
def markedLine (keys : List SortKey) (wholly lastResort : Bool) (separator : Option Char)
    (cs : List Char) : String :=
  let shown := cs.map fun c => if c = '\t' then '>' else c
  let rows := keys.map fun k => marksBelow cs (k.decisive wholly separator cs)
  let last := if keys.isEmpty || lastResort then [marksBelow cs (0, cs.length)] else []
  String.ofList shown ++ "\n" ++ String.join (rows ++ last)

namespace Order

/-- The options of an order that a key does not heed. -/
def without (o k : Order) : Order :=
  let ignored (p : Order) : Bool × Bool := (p.dictionary, p.printable && !p.dictionary)
  let same := ignored o = ignored k
  { dictionary := o.dictionary && !same, printable := o.printable && !same
    folds := o.folds && !k.folds, numeric := o.numeric && !k.numeric, general := o.general && !k.general
    human := o.human && !k.human, month := o.month && !k.month, version := o.version && !k.version
    random := o.random && !k.random, reversed := o.reversed && !k.reversed
    skipsStart := o.skipsStart && !k.skipsStart, skipsEnd := o.skipsEnd && !k.skipsEnd }

end Order

def SortKey.spans (k : SortKey) : Bool :=
  match k.last with
  | none => true
  | some (field, _) => k.field < field

def SortKey.oddities (k : SortKey) (wholly blanksSeparate : Bool) (n : Nat) : List String :=
  let empty := k.last.any fun l => l.1 < k.field
  let columnsOnly := k.last.any fun l => l.1 = 0 && l.2 ≠ 0
  let chars := (k.last.map Prod.snd).getD 0
  let number := toString n
  let blanksCount := !empty && !wholly && blanksSeparate && !columnsOnly &&
    ((!k.order.skipsStart && !(k.order.isNumeric || k.order.month)) ||
      (!k.order.skipsStart && k.offset ≠ 0) || (!k.order.skipsEnd && chars ≠ 0))
  (if empty then ["key " ++ number ++ " has zero width and will be ignored"] else []) ++
    (if blanksCount then
      ["leading blanks are significant in key " ++ number ++ "; consider also specifying 'b'"] else []) ++
    (if !wholly && k.order.isNumeric && k.spans then
      ["key " ++ number ++ " is numeric and spans multiple fields"] else [])

/-- What is odd about the keys of a comparison and the order that goes for all. -/
def keyOddities (keys : List SortKey) (wholly : Bool) (separator : Option Char) (global : Order)
    (settled : Bool) : List String :=
  let each := keys.zipIdx.flatMap fun (k, i) => k.oddities wholly separator.isNone (i + 1)
  let numeric := keys.filter fun k => k.order.isNumeric
  let spanning := if wholly then [] else numeric.filter SortKey.spans
  let generalSpan := spanning.any fun k => k.order.general
  let shown (c : Char) : String := Text.literalQuote (String.singleton c)
  let asSign := match separator with
    | some '.' => ["field separator " ++ shown '.' ++ " is treated as a decimal point in numbers"]
    | some '-' => ["field separator " ++ shown '-' ++ " is treated as a minus sign in numbers"]
    | some '+' => if generalSpan then
        ["field separator " ++ shown '+' ++ " is treated as a plus sign in numbers"] else []
    | _ => []
  let asSign := if spanning.isEmpty then [] else asSign
  let told := separator = some '.' && !spanning.isEmpty
  let point := if numeric.isEmpty || told then [] else
    [(if separator = some '.' then "" else "note ") ++ "numbers use " ++ shown '.' ++
      " as a decimal point in this locale"]
  let unheeded := keys.foldl (fun o k => o.without k.order) global
  let counted := if settled then unheeded else { unheeded with reversed := false }
  let ignored :=
    if !({ unheeded with reversed := false } : Order).isPlain ||
        (unheeded.reversed && settled && !keys.isEmpty) then
      let letters := counted.letters
      [(if letters.length = 1 then "option" else "options") ++ " '-" ++ letters ++
        (if letters.length = 1 then "' is ignored" else "' are ignored")]
    else []
  each ++ asSign ++ point ++ ignored ++
    if unheeded.reversed && !settled && !keys.isEmpty then
      ["option '-r' only applies to last-resort comparison"] else []

end DeltaDebugging.Utility
