import DeltaDebugging.Text.Characters

/-!
# Names in complaints

A name is shown as it is if a shell would take it as one word, and quoted for a shell
otherwise. Bytes that cannot be printed are written as escapes between quotes of their own.
-/
namespace DeltaDebugging.Text

def isPlain (c : Char) : Bool := ' ' ≤ c && c ≤ '~'

def isShellSpecial (c : Char) : Bool := " !\"$&()*;<=>[^\x60|\\'?".toList.contains c

def isSpecialAt (first alone : Bool) (c : Char) : Bool :=
  !isPrintable c || isShellSpecial c ||
    (first && (c == '#' || c == '~')) || (alone && (c == '\x7b' || c == '\x7d'))

def byteEscape (c : Char) : String :=
  match c with
  | '\n' => "\\n"
  | '\t' => "\\t"
  | '\r' => "\\r"
  | '\x07' => "\\a"
  | '\x08' => "\\b"
  | '\x0b' => "\\v"
  | '\x0c' => "\\f"
  | c =>
    let n := c.toNat
    "\\" ++ toString (n / 64 % 8) ++ toString (n / 8 % 8) ++ toString (n % 8)

def characterEscape (c : Char) : String := String.join ((Octets.ofCharacter c).map byteEscape)

def shown (c : Char) : String := String.ofList (Octets.ofCharacter c)

def quoteParts : (escaping : Bool) → List Char → String
  | escaping, [] => if escaping then "'" else ""
  | escaping, c :: cs =>
    if isPrintable c then
      (if escaping then "''" else "") ++ (if c == '\'' then "'\\''" else shown c) ++
        quoteParts false cs
    else (if escaping then "" else "'$'") ++ characterEscape c ++ quoteParts true cs

def shellQuote (s : String) : String :=
  let cs := Octets.characters s.toList
  if cs.contains '\'' && cs.all (fun c => c == '\'' || c == ' ' || (isPrintable c && !isShellSpecial c)) then
    "\"" ++ s ++ "\""
  else match cs.getLast? with
    | some c => if isPrintable c then "'" ++ quoteParts false cs ++ "'" else "'" ++ quoteParts false cs
    | none => "''"

def shellName (s : String) : String :=
  let cs := Octets.characters s.toList
  let special := cs.isEmpty || cs.zipIdx.any fun e => isSpecialAt (e.2 = 0) (cs.length = 1) e.1
  if special then shellQuote s else s

def literalQuote (s : String) : String :=
  shown '‘' ++ String.join ((Octets.characters s.toList).map fun c =>
    if c == '’' then "\\" ++ shown c else if c == '\\' then "\\\\"
    else if isPrintable c then shown c else characterEscape c) ++ shown '’'

end DeltaDebugging.Text
