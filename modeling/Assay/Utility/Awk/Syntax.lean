import Assay.Utility.Awk.Pattern
import Assay.Utility.Awk.Value

/-!
# Programs

A program is a list of rules, each of them a pattern with statements that are
carried out for the records which it selects, and of functions.
-/

set_option autoImplicit false

namespace Assay.Utility.Awk

inductive Arithmetic where
  | add
  | subtract
  | multiply
  | divide
  | remainder
  | power
deriving DecidableEq, Repr

inductive Comparison where
  | less
  | atMost
  | equal
  | unequal
  | more
  | atLeast
deriving DecidableEq, Repr

namespace Comparison

def holds (c : Comparison) (o : Ordering) : Bool :=
  match c with
  | less => o == .lt
  | atMost => o != .gt
  | equal => o == .eq
  | unequal => o != .eq
  | more => o == .gt
  | atLeast => o != .lt

end Comparison

/-- Functions that every program may call. -/
inductive Builtin where
  | length
  | index
  | substr
  | sprintf
  | sin
  | cos
  | atan2
  | exp
  | log
  | int
  | sqrt
  | rand
  | srand
  | close
  | system
  | toupper
  | tolower
  | fflush
  | systime
  | mktime
  | strftime
deriving DecidableEq, Repr

namespace Builtin

def all : List (String × Builtin × Nat × Nat) := [
  ("length", length, 0, 1), ("index", index, 2, 2), ("substr", substr, 2, 3),
  ("sprintf", sprintf, 1, 255), ("sin", sin, 1, 1), ("cos", cos, 1, 1), ("atan2", atan2, 2, 2),
  ("exp", exp, 1, 1), ("log", log, 1, 1), ("int", int, 1, 1), ("sqrt", sqrt, 1, 1),
  ("rand", rand, 0, 0), ("srand", srand, 0, 1), ("close", close, 1, 1),
  ("system", system, 1, 1), ("toupper", toupper, 1, 1), ("tolower", tolower, 1, 1),
  ("fflush", fflush, 0, 1), ("systime", systime, 0, 0), ("mktime", mktime, 1, 1),
  ("strftime", strftime, 0, 3)]

end Builtin

inductive Expr where
  | number (x : Binary64)
  | text (s : String)
  | pattern (r : Regex)
  | name (s : String)
  | field (index : Expr)
  | fieldCount
  | element (table : String) (subscripts : List Expr)
  | assign (op : Option Arithmetic) (target value : Expr)
  | step (up first : Bool) (target : Expr)
  | negative (a : Expr)
  | positive (a : Expr)
  | not (a : Expr)
  | arithmetic (op : Arithmetic) (a b : Expr)
  | compare (c : Comparison) (a b : Expr)
  | joined (a b : Expr)
  | both (a b : Expr)
  | either (a b : Expr)
  | choice (condition a b : Expr)
  | matching (negated : Bool) (text pattern : Expr)
  | member (subscripts : List Expr) (table : String)
  | call (function : String) (arguments : List Expr)
  | apply (b : Builtin) (arguments : List Expr)
  | place (text pattern : Expr)
  | split (text : Expr) (table : String) (separator : Option Expr)
  | substitute (everywhere : Bool) (pattern replacement : Expr) (target : Option Expr)
  | readRecord (target : Option Expr)
  | readFile (target : Option Expr) (path : Expr)
  | readCommand (command : Expr) (target : Option Expr)
deriving Inhabited

/-- Where text goes that is printed. -/
inductive Outlet where
  | fresh
  | adding
  | command
deriving DecidableEq, Repr

inductive Statement where
  | nothing
  | block (body : List Statement)
  | expression (e : Expr)
  | print (arguments : List Expr) (target : Option (Outlet × Expr))
  | printf (arguments : List Expr) (target : Option (Outlet × Expr))
  | condition (e : Expr) (yes : Statement) (no : Option Statement)
  | loopWhile (e : Expr) (body : Statement)
  | doWhile (body : Statement) (e : Expr)
  | forLoop (start condition next : Option Expr) (body : Statement)
  | forEach (name table : String) (body : Statement)
  | leave
  | again
  | next
  | nextFile
  | exit (e : Option Expr)
  | back (e : Option Expr)
  | erase (table : String) (subscripts : List Expr)
  | clear (table : String)
deriving Inhabited

inductive Selection where
  | start
  | finish
  | always
  | holding (e : Expr)
  | range (first last : Expr)

structure Rule where
  selection : Selection
  body : List Statement

structure Function where
  name : String
  parameters : List String
  body : List Statement
deriving Inhabited

structure Program where
  rules : List Rule
  functions : List Function
  /-- The names of tables. Those of parameters stand behind the name of their function. -/
  tables : List (String × String)

end Assay.Utility.Awk
