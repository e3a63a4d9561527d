/-!
# Programs that scan patterns

A program is a list of rules, each a pattern and what is done with the records that fit it.
Variables hold single values or tables; which of them, the program shows by their use.
-/
namespace DeltaDebugging.Utility.Awk

inductive Arithmetic where
  | add
  | sub
  | mul
  | div
  | mod
  | power
  deriving DecidableEq, Repr

inductive Relation where
  | equal
  | unequal
  | less
  | atMost
  | greater
  | atLeast
  deriving DecidableEq, Repr

mutual

inductive Expr where
  | number (x : Float)
  | text (s : String)
  /-- A regular expression; by itself it asks whether the record fits it. -/
  | pattern (source : String)
  | variable (name : String)
  | element (table : String) (subscripts : List Expr)
  | field (e : Expr)
  /-- Something between brackets that could be assigned to without them. -/
  | plain (e : Expr)
  | assign (op : Option Arithmetic) (target value : Expr)
  /-- One more or one less; the value is that before or after it. -/
  | step (first : Bool) (up : Bool) (target : Expr)
  | choice (c yes no : Expr)
  | both (a b : Expr)
  | either (a b : Expr)
  | negation (e : Expr)
  | minus (e : Expr)
  | plus (e : Expr)
  | binary (op : Arithmetic) (a b : Expr)
  | join (a b : Expr)
  | compare (r : Relation) (a b : Expr)
  | matching (negated : Bool) (e pattern : Expr)
  | member (subscripts : List Expr) (table : String)
  | call (name : String) (arguments : List Expr)
  | builtin (name : String) (arguments : List Expr)
  | split (e : Expr) (table : String) (separator : Option Expr)
  | substitute (all : Bool) (pattern replacement target : Expr)
  | readLine (target : Option Expr) (source : Source)
  deriving Inhabited

inductive Source where
  | input
  | file (path : Expr)
  | command (text : Expr)

end

inductive Sink where
  | file (path : Expr)
  | append (path : Expr)
  | command (text : Expr)

inductive Statement where
  | nothing
  | expr (e : Expr)
  | print (arguments : List Expr) (sink : Option Sink)
  | printf (arguments : List Expr) (sink : Option Sink)
  | conditional (c : Expr) (yes : Statement) (no : Option Statement)
  | loop (c : Expr) (body : Statement)
  | loopAfter (body : Statement) (c : Expr)
  | count (start c step : Option Expr) (body : Statement)
  | each (name table : String) (body : Statement)
  | block (ss : List Statement)
  | next
  | nextFile
  | exit (e : Option Expr)
  | giveBack (e : Option Expr)
  | leave
  | goOn
  | delete (table : String) (subscripts : Option (List Expr))
  deriving Inhabited

inductive Pattern where
  | all
  | when (e : Expr)
  | range (start finish : Expr)

structure Rule where
  pattern : Pattern
  /-- Without a body records are printed. -/
  body : Option Statement

structure Function where
  name : String
  /-- The parameters, and which of them are tables. -/
  parameters : List (String × Bool)
  body : Statement

structure Script where
  beginnings : List Statement := []
  rules : List Rule := []
  endings : List Statement := []
  functions : List Function := []

end DeltaDebugging.Utility.Awk
