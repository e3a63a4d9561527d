import DeltaDebugging.Utility.FileMode

/-!
# Making files and directories
-/
namespace DeltaDebugging.Utility

open Program Paths

namespace Filing

/-- Makes one directory, unless it is there and that is allowed. -/
def makeDirectory (path : String) (mode : Nat) (mayExist : Bool) : Program (Except FileFault Bool) := do
  let f ← files
  let bare := if Files.withoutSlashes path = "" then path else Files.withoutSlashes path
  match f.way false bare with
  | .error e => return .error e
  | .ok w =>
    if (f.find? w).isSome then
      if mayExist && f.isDirectory bare then return .ok false
      return .error .present
    setFiles (f.add w .directory mode).1
    return .ok true

end Filing

open Filing

def mkdir : Program Nat := do
  let p ← parsed { choices := ["m,mode:", "p,parents", "v,verbose"] }
  if p.operands.isEmpty then misuse "missing operand" 1
  let mask := (← invocation).mask
  let mode ← match p.value? "m" with
    | none => masked 0o777
    | some text => match FileMode.read? text with
      | some change =>
        let decided := change.decided mask true 0o777
        let mode := change.apply mask true 0o777
        pure ((mode &&& decided) ||| FileMode.without (FileMode.without mode mask) decided)
      | none => die ("invalid mode " ++ Text.literalQuote text) 1
  let parents := p.has "p"
  for path in p.operands do
    let steps := if parents then beginnings path else [path]
    let steps := if steps.isEmpty then [path] else steps
    let mut stopped := false
    for (step, k) in steps.zipIdx 1 do
      if !stopped then
        let last := decide (k = steps.length)
        match ← makeDirectory step (if last then mode else FileMode.without 0o777 mask ||| 0o300) parents with
        | .error e =>
          let e := if e = .present && !last then .notDirectory else e
          failed ("cannot create directory " ++ Text.literalQuote (if last then path else step)) e
          stopped := true
        | .ok made =>
          if made && p.has "v" then
            putLine ((← name) ++ ": created directory " ++ Text.shellQuote step)
  return 0

def mkfifo : Program Nat := do
  let p ← parsed { choices := ["m,mode:", "Z,context"] }
  let mode ← match p.value? "m" with
    | none => masked 0o666
    | some text => match FileMode.read? text with
      | some change =>
        let mode := change.apply (← invocation).mask false 0o666
        if 0o777 < mode then die "mode must specify only file permission bits" 1
        pure mode
      | none => die "invalid mode" 1
  if p.operands.isEmpty then misuse "missing operand" 1
  for path in p.operands do
    let refuse (e : FileFault) : Program Unit := failed ("cannot create fifo " ++ Text.shellQuote path) e
    match (← files).way false path with
    | .error e => refuse e
    | .ok w =>
      if ((← files).find? w).isSome then refuse .present
      else setFiles ((← files).add w (.fifo "") mode).1
  return 0

def truncate : Program Nat := do
  let p ← parsed { choices := ["c,no-create", "o,io-blocks", "r,reference:", "s,size:"] }
  if !p.has "s" && !p.has "r" then misuse ("you must specify either " ++ Text.literalQuote "--size" ++ " or " ++ Text.literalQuote "--reference") 1
  let reference ← match p.value? "r" with
    | none => pure 0
    | some path => match ← contentOf path with
      | .ok cs => pure cs.length
      | .error e => die ("cannot stat " ++ Text.shellQuote path ++ ": " ++ e.fault.reason) 1
  let text := (p.value? "s").getD ""
  let (sign, bare) := match text.toList with
    | c :: cs => if "+-<>/%".toList.contains c then (some c, String.ofList cs) else (none, text)
    | [] => (none, text)
  let size ← if !p.has "s" then pure reference else match count? bare with
    | some n => pure n
    | none => die ("Invalid number: " ++ Text.literalQuote text) 1
  if p.operands.isEmpty then misuse "missing file operand" 1
  for path in p.operands do
    let f ← files
    if p.has "c" && !f.present path then pure () else
    match f.opened path (← masked 0o666) with
    | .error e =>
      complain ("cannot open " ++ Text.shellQuote path ++ " for writing: " ++ e.reason)
      raise 1
    | .ok (f, n, node) => match node.kind with
      | .regular content =>
        let old := content.length
        let new := match sign with
          | some '+' => old + size
          | some '-' => old - size
          | some '<' => min old size
          | some '>' => max old size
          | some '/' => if size = 0 then old else old / size * size
          | some '%' => if size = 0 then old else (old + size - 1) / size * size
          | _ => size
        let cs := content.toList.take new ++ List.replicate (min (new - old) 10000000) '\x00'
        setFiles (f.setNode n { node with kind := .regular (String.ofList cs) })
      | _ => setFiles f
  return 0

namespace Filing

/-- Letters and digits in place of a row of marks, other ones for each process. -/
def scrambled (seed count : Nat) : String :=
  let letters := "abcdefghijklmnopqrstuvwxyzABCDEFGHIJKLMNOPQRSTUVWXYZ0123456789".toList
  String.ofList ((List.range count).map fun k =>
    (letters[(seed * 7919 + k * k * 104729 + k * 31) % letters.length]?).getD 'x')

end Filing

def mktemp : Program Nat := do
  let p ← parsed { choices := ["d,directory", "u,dry-run", "q,quiet", "p:", "tmpdir::", "suffix:", "t", "V"] }
  let environment := (← invocation).environment
  let given ← match p.operands with
    | [] => pure none
    | [t] => pure (some t)
    | _ => misuse "too many templates" 1
  let template := given.getD "tmp.XXXXXXXXXX"
  let cs := template.toList
  let shown := Text.literalQuote template
  let (stem, suffix) ← match p.value? "suffix" with
    | some s =>
      if cs.getLast? ≠ some 'X' then die ("with --suffix, template " ++ shown ++ " must end in X") 1
      pure (cs, s)
    | none =>
      let tail := (cs.reverse.takeWhile (· ≠ 'X')).reverse
      pure (if tail.length = cs.length then (cs, "") else (cs.take (cs.length - tail.length), String.ofList tail))
  if suffix.toList.contains '/' then
    die ("invalid suffix " ++ Text.literalQuote suffix ++ ", contains directory separator") 1
  let count := (stem.reverse.takeWhile (· = 'X')).length
  if count < 3 then die ("too few X's in template " ++ shown) 1
  let chosen := (p.value? "p").or (p.value? "tmpdir")
  let home := (environment.lookup "TMPDIR").getD "/tmp"
  let directory ← if p.has "t" then
      if cs.contains '/' then
        die ("invalid template, " ++ shown ++ ", contains directory separator") 1
      pure (some (if (environment.lookup "TMPDIR").isSome then home else chosen.getD home))
    else if chosen.isSome || given.isNone then
      if chosen.isSome && Files.isAbsolute template then
        die ("invalid template, " ++ shown ++ "; with --tmpdir, it may not be absolute") 1
      pure (some (match chosen with
        | some "" => home
        | some d => d
        | none => home))
    else pure none
  let bare := String.ofList (stem.take (stem.length - count))
  let named (middle : String) : String :=
    let whole := bare ++ middle ++ suffix
    match directory with
    | some d => below d whole
    | none => whole
  let s ← system
  setSystem { s with processes := s.processes + 1 }
  let path := named (scrambled (s.processes + s.files.next) count)
  let f ← files
  match f.way false path with
  | .error e =>
    if !p.has "q" then
      complain ("failed to create " ++ (if p.has "d" then "directory" else "file") ++ " via template " ++
        Text.literalQuote (named (String.ofList (List.replicate count 'X'))) ++ ": " ++ e.reason)
    return 1
  | .ok w =>
    if !p.has "u" then
      let mode ← masked (if p.has "d" then 0o700 else 0o600)
      setFiles (f.add w (if p.has "d" then .directory else .regular "") mode).1
    putLine path
    return 0

end DeltaDebugging.Utility
