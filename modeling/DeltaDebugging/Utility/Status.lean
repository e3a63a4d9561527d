import DeltaDebugging.Text.Escape
import DeltaDebugging.Utility.Properties

/-!
# What is known of a file, in a format

A format is a text with directives, each with a shape for what it stands for.
-/
namespace DeltaDebugging.Utility

open Program Properties

namespace Status

def kindWords (node : FileNode) : String := match kindLetter node.kind with
  | 'd' => "directory"
  | 'l' => "symbolic link"
  | 'c' => "character special file"
  | 'p' => "fifo"
  | _ => if size node = 0 then "regular empty file" else "regular file"

def device : Nat := 64768

structure Subject where
  path : String
  way : Way
  number : Nat
  node : FileNode

/-- A time as a date, and as seconds with parts as the precision asks for. -/
def seconds (s : Number.Shape) (m : Time.Moment) : String :=
  match s.precision with
  | none => s.padNumber s.zeros (s.sign (m.seconds < 0)) (toString m.seconds.natAbs)
  | some p =>
    let nanos := Number.Shape.fill '0' (9 - (toString m.nanos).length) ++ toString m.nanos
    let part := String.ofList (nanos.toList.take p) ++ Number.Shape.fill '0' (p - 9)
    s.padNumber s.zeros (s.sign (m.seconds < 0)) (toString m.seconds.natAbs ++ (if p = 0 then "" else "." ++ part))

def directive (f : Files) (z : Time.Zone) (x : Subject) (s : Number.Shape) (c : Char) : String :=
  let node := x.node
  let time := Dates.changeTime node
  let date := Time.Pattern.render (z.localTime time) "%Y-%m-%d %H:%M:%S.%N %z"
  let word (t : String) : String := s.text t
  let number (n : Nat) : String := s.natural 10 false n
  let (major, minor) := (deviceNumbers node.kind).getD (0, 0)
  match c with
  | 'n' => word x.path
  | 'N' => word (Text.shellQuote x.path ++ (match node.kind with
    | .link target => " -> " ++ Text.shellQuote target
    | _ => ""))
  | 's' => number (size node)
  | 'a' => s.natural 8 false node.mode
  | 'A' => word (modeText node)
  | 'f' => s.natural 16 false (kindBits node.kind + node.mode)
  | 'F' => word (kindWords node)
  | 'h' => number (linkCount f x.way x.number node)
  | 'i' => number (inode x.number)
  | 'u' => number (f.owner x.number).1
  | 'g' => number (f.owner x.number).2
  | 'U' => word (ownerName f x.number)
  | 'G' => word (groupName f x.number)
  | 'b' => number (blocks node)
  | 'B' => number 512
  | 'o' => number 4096
  | 'd' => number device
  | 'D' => s.natural 16 false device
  | 'm' => word "/"
  | 'r' => number (major * 256 + minor)
  | 'R' => s.natural 16 false (major * 256 + minor)
  | 't' => s.natural 16 false major
  | 'T' => s.natural 16 false minor
  | 'w' => word date
  | 'x' => word date
  | 'y' => word date
  | 'z' => word date
  | 'W' => seconds s time
  | 'X' => seconds s time
  | 'Y' => seconds s time
  | 'Z' => seconds s time
  | _ => "?"

/-- The shape before the letter of a directive, and what is left. -/
def shapeAt (cs : List Char) : Number.Shape × Nat :=
  let flags := cs.takeWhile fun c => "'-+ 0#".toList.contains c
  let rest := cs.drop flags.length
  let width := rest.takeWhile Char.isDigit
  let rest := rest.drop width.length
  let point := rest.head? = some '.'
  let precision := if point then rest.tail.takeWhile Char.isDigit else []
  ({ left := flags.contains '-', plus := flags.contains '+', space := flags.contains ' '
     alternate := flags.contains '#', zeros := flags.contains '0'
     width := (natural? (String.ofList width)).getD 0
     precision := if point then some ((natural? (String.ofList precision)).getD 0) else none },
    flags.length + width.length + (if point then 1 + precision.length else 0))

/-- Prints a format for a file. Escapes count for something only if that is asked for. -/
def printed (f : Files) (z : Time.Zone) (x : Subject) (escapes : Bool) : (steps : Nat) → List Char → Program Unit
  | 0, _ => return
  | _, [] => return
  | steps + 1, '%' :: cs => do
    let (shape, length) := shapeAt cs
    let whole (n : Nat) : String := String.ofList ('%' :: cs.take n)
    match cs.drop length with
    | [] =>
      if 0 < length then die (Text.literalQuote (whole length) ++ ": invalid directive") 1
      put "%"
    | '%' :: rest =>
      if 0 < length then die (Text.literalQuote (whole (length + 1)) ++ ": invalid directive") 1
      put "%"
      printed f z x escapes steps rest
    | 'H' :: c :: rest =>
      let major (n : Nat) : String := shape.natural 10 false (n / 256)
      if c = 'd' then put (major device)
      else if c = 'r' then put (shape.natural 10 false ((deviceNumbers x.node.kind).getD (0, 0)).1)
      else put "?"
      printed f z x escapes steps (if c = 'd' || c = 'r' then rest else c :: rest)
    | 'L' :: c :: rest =>
      if c = 'd' then put (shape.natural 10 false (device % 256))
      else if c = 'r' then put (shape.natural 10 false ((deviceNumbers x.node.kind).getD (0, 0)).2)
      else put "?"
      printed f z x escapes steps (if c = 'd' || c = 'r' then rest else c :: rest)
    | c :: rest =>
      if c = 'C' then
        complain ("failed to get security context of " ++ Text.shellQuote x.path ++ ": No data available")
        raise 1
      put (directive f z x shape c)
      printed f z x escapes steps rest
  | steps + 1, '\\' :: cs => do
    if !escapes then
      put "\\"
      printed f z x escapes steps cs
    else match cs with
      | [] =>
        complain "warning: backslash at end of format"
        put "\\"
      | c :: _ =>
        let known := (Escape.control? c).isSome || Escape.isOctal c || c = 'x' || c = '\\' || c = '"'
        if !known then complain ("warning: unrecognized escape '\\" ++ String.singleton c ++ "'")
        let (d, rest) := if known then Escape.next true cs else (c, cs.tail)
        put (String.singleton d)
        printed f z x escapes steps rest
  | steps + 1, c :: cs => do
    put (String.singleton c)
    printed f z x escapes steps cs

/-- What is told of a file if nothing else is asked for. -/
def usualFormat (node : FileNode) : String :=
  let device := match deviceNumbers node.kind with
    | some _ => "Device: %Hd,%Ld\tInode: %-10i  Links: %-5h Device type: %Hr,%Lr\n"
    | none => "Device: %Hd,%Ld\tInode: %-10i  Links: %h\n"
  "  Size: %-10s\tBlocks: %-10b IO Block: %-6o %F\n" ++ device ++
    "Access: (%04a/%10.10A)  Uid: (%5u/%8U)   Gid: (%5g/%8G)\n" ++
    "Access: %x\nModify: %y\nChange: %z\n Birth: %w\n"

end Status

open Status in
def stat : Program Nat := do
  let p ← parsed
    { choices := ["L,dereference", "f,file-system", "cached:", "c,format:", "printf:", "t,terse"] }
  for o in p.options do
    if o.key = "cached" then
      let _ ← wordChoice "cached" o.value [["default"], ["never"], ["always"]]
  if p.operands.isEmpty then misuse "missing operand" 1
  let z ← Dates.zone
  for path in p.operands do
    let found ← if path = "-" then pure (.ok ([], 0, { kind := .device .null, mode := 0o666 }))
      else Filing.found (p.has "L") path
    match found with
    | .error e =>
      complain ("cannot statx " ++ Text.shellQuote path ++ ": " ++ e.reason)
      raise 1
    | .ok (way, number, node) =>
      let x : Subject := { path, way, number, node }
      let report (escapes : Bool) (format : String) : Program Unit := do
        printed (← files) z x escapes (format.length + 1) format.toList
      match p.last? ["c", "printf"] with
      | some "c" =>
        report false ((p.value? "c").getD "")
        put "\n"
      | some _ => report true ((p.value? "printf").getD "")
      | none =>
        if p.has "t" then report false "%n %s %b %f %u %g %D %i %h %t %T %X %Y %Z %W %o\n"
        else
          let target := match node.kind with
            | .link target => " -> " ++ Text.shellName target
            | _ => ""
          put ("  File: " ++ Text.shellName path ++ target ++ "\n")
          report false (usualFormat node)
  return 0

end DeltaDebugging.Utility
