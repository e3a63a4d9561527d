import DeltaDebugging.Regex.Parser
import DeltaDebugging.Utility.Lines
import DeltaDebugging.Utility.Numeral

/-!
# Numbering lines

A text has pages of a header, a body and a footer, each of which begins by a line of its own
and has its own rule for the lines that get a number.
-/
namespace DeltaDebugging.Utility

open Program

namespace Numbering

inductive Style where
  | all
  | filled
  | none
  | fitting (r : Regex)

inductive PagePart where
  | header
  | body
  | footer
  deriving DecidableEq, Repr

structure Layout where
  width : Nat
  separator : String
  format : String
  first : Int
  step : Int
  /-- Of how many empty lines in a row one gets a number. -/
  blanks : Nat
  starts : Bool
  delimiter : List Char
  style : PagePart → Style

def Layout.number (l : Layout) (n : Int) : String :=
  let digits := toString n
  match l.format with
  | "ln" => digits ++ String.ofList (List.replicate (l.width - digits.length) ' ')
  | "rz" =>
    let zeros := String.ofList (List.replicate (l.width - digits.length) '0')
    if n < 0 then "-" ++ zeros ++ toString n.natAbs else zeros ++ digits
  | _ => rightAligned l.width digits

def Layout.section? (l : Layout) (line : List Char) : Option PagePart :=
  let d := l.delimiter
  if line.length < 2 || d.length < 2 then .none
  else if line = d ++ d ++ d then some .header
  else if line = d ++ d then some .body
  else if line = d then some .footer
  else .none

/-- Where the numbering is; the next number is missing once it is too large. -/
structure Place where
  current : PagePart := .body
  next : Option Int
  blanks : Nat := 0

def Layout.line (l : Layout) (p : Place) (cs : List Char) : Program Place := do
  match l.section? cs with
  | some s =>
    put "\n"
    return { p with current := s, next := if l.starts then some l.first else p.next }
  | .none =>
    let empty := cs.isEmpty
    let (counts, blanks) := match l.style p.current with
      | .all =>
        if 1 < l.blanks then
          if !empty || p.blanks + 1 = l.blanks then (true, 0) else (false, p.blanks + 1)
        else (true, p.blanks)
      | .filled => (!empty, p.blanks)
      | .none => (false, p.blanks)
      | .fitting r =>
        let text := (Octets.characters cs).toArray
        ((Regex.search { text, lines := true, wide := true } r 0).isSome, p.blanks)
    let p := { p with blanks }
    if counts then
      match p.next with
      | none => die "line number overflow" 1
      | some n =>
        put (l.number n ++ l.separator ++ String.ofList cs ++ "\n")
        let m := n + l.step
        return { p with next := if -(Nat.pow 2 63) ≤ m && m < Nat.pow 2 63 then some m else none }
    else
      put (String.ofList (List.replicate (l.width + l.separator.length) ' ') ++ String.ofList cs ++ "\n")
      return p

/-- A style by its letter; a pattern follows a `p`. -/
def readStyle (text : String) : Program (Option Style) := do
  match text.toList with
  | 'a' :: _ => return some .all
  | 't' :: _ => return some .filled
  | 'n' :: _ => return some .none
  | 'p' :: pattern => match Regex.parse .looseBasic (Octets.characters pattern) with
    | .ok r => return some (.fitting r.regex)
    | .error e => die e 1
  | _ => return none

end Numbering

open DeltaDebugging.Utility.Numbering in
def nl : Program Nat := do
  let p ← parsed { choices := ["b,body-numbering:", "d,section-delimiter:", "f,footer-numbering:",
    "h,header-numbering:", "i,line-increment:", "l,join-blank-lines:", "n,number-format:",
    "p,no-renumber", "s,number-separator:", "v,starting-line-number:", "w,number-width:"] }
  let low : Int := -(Nat.pow 2 63)
  let high : Int := Nat.pow 2 63 - 1
  let number (what : String) (low high : Int) (text : String) : Program Int :=
    numeralWithin ("invalid " ++ what) low high "" text
  let mut l : Layout :=
    { width := 6, separator := (p.value? "s").getD "\t", format := "rn", first := 1, step := 1, blanks := 1
      starts := !p.has "p", delimiter := ['\\', ':'], style := fun s => if s = .body then .filled else .none }
  let mut good := true
  for o in p.options do
    match o.key with
    | "v" => l := { l with first := ← number "starting line number" low high o.value }
    | "i" => l := { l with step := ← number "line number increment" low high o.value }
    | "l" => l := { l with blanks := (← number "line number of blank lines" 1 high o.value).toNat }
    | "w" => l := { l with width := (← number "line number field width" 1 2147483647 o.value).toNat }
    | "n" =>
      if ["ln", "rn", "rz"].contains o.value then l := { l with format := o.value }
      else
        complain ("invalid line numbering format: " ++ Text.literalQuote o.value)
        good := false
    | "d" =>
      let cs := o.value.toList
      l := { l with delimiter := if cs.length = 1 then cs ++ l.delimiter.drop 1 else cs }
    | key =>
      let target : Option (String × PagePart) :=
        [("b", ("body", PagePart.body)), ("h", ("header", .header)), ("f", ("footer", .footer))].lookup key
      match target with
      | none => pure ()
      | some (name, s) => match ← readStyle o.value with
        | some style =>
          let others := l.style
          l := { l with style := fun t => if t = s then style else others t }
        | none =>
          complain ("invalid " ++ name ++ " numbering style: " ++ Text.literalQuote o.value)
          good := false
  if !good then
    tell (← hint)
    exit 1
  let mut place : Place := { next := some l.first }
  for path in inputs p do
    match ← operand path with
    | .error e =>
      complain (nameAndReason path e)
      raise 1
    | .ok cs =>
      for line in linesOf '\n' cs do
        place ← l.line place line
  return 0

end DeltaDebugging.Utility
