import Assay.Utility.Awk.Syntax
import Assay.Utility.Awk.Value
import Assay.Utility.Basic

/-!
# The state of a program

What a program knows: its variables and tables, and the record that is worked
on. A record is split into fields when one of them is asked for, and joined again
when one has been changed.
-/

set_option autoImplicit false

namespace Assay.Utility.Awk

open Shell (Sh Runner Sink)

/-- What a name of a function stands for while the function is called. -/
inductive Slot where
  | value (v : Value)
  | table (n : Nat)
deriving Inhabited

structure Source where
  name : String
  isCommand : Bool
  text : Array Char
  place : Nat
  status : Nat
deriving Inhabited

/-- Where text goes, and what is still to be written there, last first. -/
structure Output where
  name : String
  isCommand : Bool
  sink : Option Sink
  texts : List String

/-- How records are set apart. -/
inductive Parting where
  | char (c : Char)
  | paragraphs
  | pattern (r : Regex)

structure State where
  values : Std.HashMap String Value
  tableNumbers : Std.HashMap String Nat
  tables : Array Table
  locals : List (String × Slot)
  record : String
  isJoined : Bool
  fields : Array Value
  isSplit : Bool
  separator : Separator
  parting : Parting
  ranges : List Nat
  patterns : Std.HashMap String Regex
  written : List String
  outputs : List Output
  sources : List Source
  current : Option Source
  nextArgument : Nat
  anyFile : Bool
  seed : Value
  random : Nat
  ticks : Nat

structure Setup where
  program : Program
  name : String
  run : Runner

/-- How the usual course of a program ends. -/
inductive Ending where
  | leave
  | again
  | next
  | nextFile
  | exit (status : Nat)
  | back (v : Value)
  | failed (status : Nat)
deriving Inhabited

abbrev Work := ReaderT Setup (ExceptT Ending (StateT State Sh))

def sh {α : Type} (body : Sh α) : Work α := liftM (m := Sh) body

/-- Says why a program cannot go on. -/
def panic {α : Type} (text : String) : Work α := do
  let own := (← read).name
  sh (Shell.note (own ++ ": " ++ text ++ "\n"))
  throw (.failed 2)

def variableValue (name : String) : Work Value := do
  return (← getThe State).values.getD name .unset

def setVariableRaw (name : String) (v : Value) : Work Unit :=
  modifyThe State fun s => { s with values := s.values.insert name v }

def form : Work String := do
  match (← getThe State).values["CONVFMT"]? with
  | some (.text f) | some (.input f) => return f
  | some v => return v.toText "%.6g"
  | none => return "%.6g"

def textOf (v : Value) : Work String := do
  match v with
  | .text s | .input s => return s
  | .unset => return ""
  | v => return v.toText (← form)

/-- Says why a program cannot go on, and where it has come to. -/
def fault {α : Type} (text : String) : Work α := do
  let file ← textOf (← variableValue "FILENAME")
  let fnr ← textOf (← variableValue "FNR")
  let nr ← textOf (← variableValue "NR")
  panic ("run time error: " ++ text ++ "\n\tFILENAME=\"" ++ file ++ "\" FNR=" ++ fnr ++ " NR=" ++ nr)

def patternOf (text : String) : Work Regex := do
  match (← getThe State).patterns[text]? with
  | some r => return r
  | none =>
    match Pattern.read text with
    | .ok r =>
      modifyThe State fun s => { s with patterns := s.patterns.insert text r }
      return r
    | .error e => fault e

def separatorOf (text : String) : Work Separator := do
  match Separator.read text with
  | .ok s => return s
  | .error e => fault e

def splitRecord : Work Unit := do
  if !(← getThe State).isSplit then
    modifyThe State fun s =>
      { s with fields := ((s.separator.split s.record).map Value.input).toArray, isSplit := true }

def fieldCount : Work Nat := do
  splitRecord
  return (← getThe State).fields.size

def wholeRecord : Work String := do
  let s ← getThe State
  if s.isJoined then return s.record
  let between ← textOf (← variableValue "OFS")
  let texts ← s.fields.toList.mapM textOf
  let record := String.intercalate between texts
  modifyThe State fun s => { s with record := record, isJoined := true }
  return record

def setRecord (text : String) : Work Unit :=
  modifyThe State fun s => { s with record := text, isJoined := true, isSplit := false }

def field (n : Nat) : Work Value := do
  if n = 0 then return .input (← wholeRecord)
  splitRecord
  return ((← getThe State).fields[n - 1]?).getD .unset

def fieldLimit : Nat := 100000

def setField (n : Nat) (v : Value) : Work Unit := do
  if n = 0 then setRecord (← textOf v)
  else
    if fieldLimit < n then panic ("program limit exceeded: maximum number of fields size=32767")
    splitRecord
    modifyThe State fun s =>
      let fields := if s.fields.size < n
        then s.fields ++ Array.replicate (n - s.fields.size) (Value.text "") else s.fields
      { s with fields := fields.set! (n - 1) v, isJoined := false }

def setFieldCount (v : Value) : Work Unit := do
  let n := toWhole v.toNumber
  if n < 0 then fault "negative value assigned to NF"
  if (fieldLimit : Int) < n then
    panic ("program limit exceeded: maximum number of fields size=32767")
  splitRecord
  modifyThe State fun s =>
    let n := n.toNat
    let fields := if s.fields.size < n
      then s.fields ++ Array.replicate (n - s.fields.size) (Value.text "")
      else s.fields.extract 0 n
    { s with fields := fields, isJoined := false }

def setVariable (name : String) (v : Value) : Work Unit := do
  if name = "FS" then
    -- The record at hand is split as before.
    splitRecord
    let separator ← separatorOf (← textOf v)
    modifyThe State fun s => { s with separator := separator }
  else if name = "RS" then
    let text ← textOf v
    let parting ← match text.toList with
      | [] => pure Parting.paragraphs
      | [c] => pure (Parting.char c)
      | _ => Parting.pattern <$> patternOf text
    modifyThe State fun s => { s with parting := parting }
  setVariableRaw name v

def tableNumber (name : String) : Work Nat := do
  let s ← getThe State
  match s.locals.find? fun l => l.1 == name with
  | some (_, .table n) => return n
  | some (_, .value _) | none =>
    match s.tableNumbers[name]? with
    | some n => return n
    | none =>
      modifyThe State fun s => { s with
        tableNumbers := s.tableNumbers.insert name s.tables.size
        tables := s.tables.push .empty }
      return s.tables.size

def newTable : Work Nat := do
  let n := (← getThe State).tables.size
  modifyThe State fun s => { s with tables := s.tables.push .empty }
  return n

def onTable {α : Type} (n : Nat) (f : Table → α × Table) : Work α :=
  modifyGetThe State fun s =>
    let t := (s.tables[n]?).getD .empty
    let s := { s with tables := s.tables.set! n .empty }
    let (a, t) := f t
    (a, { s with tables := s.tables.set! n t })

def tick : Work Unit := do
  let n := (← getThe State).ticks
  if n < 3 then modifyThe State fun s => { s with ticks := n + 1 }
  else
    modifyThe State fun s => { s with ticks := 0 }
    sh (Shell.spend 1)

end Assay.Utility.Awk
