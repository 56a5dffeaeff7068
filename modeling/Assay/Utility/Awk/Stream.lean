import Assay.Shell.Signal
import Assay.Utility.Awk.Reader
import Assay.Utility.Awk.Record

/-!
# What a program reads and writes

Records come from the files among the arguments, from other files or from
commands, and text goes to files and to commands. What is written stays in
memory until it has to be there.
-/

set_option autoImplicit false

namespace Assay.Utility.Awk

open Shell (Sh Sink bytesOf octetsOf)

/-- Writes texts, last first, to the sink under a name. `isLast` tells that nothing else is
going to be written there. -/
def writeTexts (isLast : Bool) (name : String) (sink : Option Sink) (texts : List String) :
    Work Unit := do
  let t ← getThe Shell.Session
  match t.write (bytesOf (String.join texts.reverse).toList) sink with
  | .ok t => set t
  | .error e =>
    let reason := "(" ++ e.text ++ ")"
    let own := (← read).name
    let first := if isLast then "" else "write failure " ++ reason ++ "\n" ++ own ++ ": "
    panic (first ++ "close failed on file \"" ++ name ++ "\" " ++ reason)

def flushAll (isLast : Bool) : Work Unit := do
  let s ← getThe State
  modifyThe State fun s => { s with
    written := []
    outputs := s.outputs.map fun o => if o.isCommand then o else { o with texts := [] } }
  writeTexts isLast "/dev/stdout" ((← getThe Shell.Session).sink? 1) s.written
  for o in s.outputs.reverse do
    if !o.isCommand then writeTexts isLast o.name o.sink o.texts

def flush : Work Unit := flushAll false

def statusOf (w : WaitStatus) : Nat :=
  match w.signal? with
  | some n => 256 + n
  | none => Shell.statusOf w

def runCommand (command : String) : Work Nat := do
  let run := (← read).run
  match ← sh (start run "/bin/sh" ["-c", command]) with
  | .ok w => return statusOf w
  | .error _ => return 127

def feedCommand (command : String) (text : String) : Work Nat := do
  let s ← getThe Shell.Session
  let number ← sh (Shell.addInput ⟨text.toList, s.clock⟩)
  modifyThe Shell.Session fun t => t.withDescriptor 0 (.input number)
  let status ← runCommand command
  modifyThe Shell.Session fun t => { t with descriptors := s.descriptors }
  return status

/-- Runs a command and yields what it writes, as far as it comes to an end. -/
def askCommand (command : String) : Work (List Char × Nat) := do
  let run := (← read).run
  sh do
    let s ← get
    let sink := Sink.buffer s.buffers.length
    set { s with buffers := [] :: s.buffers }
    let ended ← Shell.attempt do
      modify fun t => t.withDescriptor 1 sink
      match ← start run "/bin/sh" ["-c", command] with
      | .ok w => Shell.setStatus (statusOf w)
      | .error _ => Shell.setStatus 127
    let t ← get
    if !ended && decide (s.deadline ≤ t.clock) then throw .never
    let written := Shell.Written.gathered (t.buffers.headD [])
    let status := if ended then t.status else 0
    set { t with
      toShellState := s.toShellState
      buffers := t.buffers.tail
      clock := if ended then t.clock else s.clock }
    if ended then Shell.waitUntil (t.heldUntil sink)
    return (octetsOf written, status)

def emitText (text : String) : Work Unit :=
  modifyThe State fun s => { s with written := text :: s.written }

def openOutput (o : Outlet) (name : String) : Work Output := do
  if o = .command then
    flush
    return ⟨name, true, none, []⟩
  else
    match ← sh (Shell.openForWriting (if o = .adding then .adding else .fresh) name) with
    | .ok sink => return ⟨name, false, some sink, []⟩
    | .error e => panic ("cannot open \"" ++ name ++ "\" for output (" ++ reason e ++ ")")

def writeTo (o : Outlet) (name text : String) : Work Unit := do
  let isCommand := o == .command
  if !isCommand && (name = "/dev/stdout" || name = "-") then emitText text
  else if !isCommand && name = "/dev/stderr" then sh (Shell.note text)
  else
    let isSame := fun (x : Output) => x.name == name && x.isCommand == isCommand
    if !(← getThe State).outputs.any isSame then
      let opened ← openOutput o name
      modifyThe State fun s => { s with outputs := opened :: s.outputs }
    modifyThe State fun s => { s with
      outputs := s.outputs.map fun x => if isSame x then { x with texts := text :: x.texts } else x }

/-- Is done with a file or a command that text has gone to, and yields its status. -/
def closeOutput (o : Output) : Work Nat := do
  modifyThe State fun s => { s with
    outputs := s.outputs.filter fun x => !(x.name == o.name && x.isCommand == o.isCommand) }
  if o.isCommand then feedCommand o.name (String.join o.texts.reverse)
  else
    writeTexts true o.name o.sink o.texts
    return 0

/-- Is done with all that is open under a name; the value is the status of the last one. -/
def close (name : String) : Work Int := do
  let s ← getThe State
  let outputs := s.outputs.filter fun x => x.name == name
  let sources := s.sources.filter fun x => x.name == name
  modifyThe State fun s => { s with sources := s.sources.filter fun x => x.name != name }
  let mut status : Int := -1
  for x in sources do
    status := x.status
  for o in outputs do
    status := (← closeOutput o : Nat)
  return status

def endOfRun (c : Char) (text : Array Char) : Nat → Nat → Nat
  | 0, i => i
  | fuel + 1, i =>
    match text[i]? with
    | some d => if d = c then i else endOfRun c text fuel (i + 1)
    | none => i

def endOfParagraph (text : Array Char) : Nat → Nat → Nat
  | 0, i => i
  | fuel + 1, i =>
    match text[i]?, text[i + 1]? with
    | some '\n', some '\n' => i
    | some _, _ => endOfParagraph text fuel (i + 1)
    | none, _ => i

def behindLines (text : Array Char) : Nat → Nat → Nat
  | 0, i => i
  | fuel + 1, i => if text[i]? == some '\n' then behindLines text fuel (i + 1) else i

def cut (text : Array Char) (i j : Nat) : String := String.ofList (text.extract i j).toList

def recordAt? (p : Parting) (text : Array Char) (i : Nat) : Option (String × Nat) :=
  if text.size ≤ i then none
  else
    match p with
    | .char c =>
      let stop := endOfRun c text (text.size - i) i
      some (cut text i stop, stop + 1)
    | .paragraphs =>
      let start := behindLines text (text.size - i) i
      if text.size ≤ start then none
      else
        let stop := endOfParagraph text (text.size - start) start
        -- A line end that nothing follows belongs to no paragraph.
        let last := if stop = text.size && text.back? == some '\n' then stop - 1 else stop
        some (cut text start last, behindLines text (text.size - stop) stop)
    | .pattern r =>
      match Separator.solidMatch? r text (text.size + 1 - i) i with
      | some f => some (cut text i f.start, f.stop)
      | none => some (cut text i text.size, text.size)

def takeRecord (x : Source) : Work (Option String × Source) := do
  match recordAt? (← getThe State).parting x.text x.place with
  | some (record, place) => return (some record, { x with place := place })
  | none => return (none, { x with place := x.text.size })

def assignment? (word : String) : Option (String × String) :=
  match word.toList.span (· != '=') with
  | (name, _ :: value) =>
    let isName := name.head?.any Lexer.isNameStart && name.all Lexer.isNamePart
    if isName then
      some (String.ofList name, String.ofList (Lexer.resolve value.length value))
    else none
  | (_, []) => none

def isInput (name : String) : Bool := name = "-" || name = "/dev/stdin"

def openSource (name : String) : Work (Except Unread Source) := do
  match ← sh (content (if isInput name then "-" else name)) with
  | .ok cs => return .ok ⟨name, false, cs.toArray, 0, 0⟩
  | .error u => return .error u

def openArgument (name : String) : Work Source := do
  match ← openSource name with
  | .ok x =>
    setVariableRaw "FILENAME" (.text name)
    setVariableRaw "FNR" (.ofNat 0)
    return x
  | .error u =>
    if u.isFound then panic ("read error (" ++ u.text ++ ")")
    else panic ("cannot open \"" ++ name ++ "\" (" ++ u.text ++ ")")

def argument (n : Nat) : Work (Option String) := do
  let t ← tableNumber "ARGV"
  match (← getThe State).tables[t]? with
  | some table =>
    match table.values[toString n]? with
    | some v => return some (← textOf v)
    | none => return none
  | none => return none

def openNext : Nat → Work (Option Source)
  | 0 => return none
  | fuel + 1 => do
    let s ← getThe State
    let count := toWhole (← variableValue "ARGC").toNumber
    if (s.nextArgument : Int) < count then
      modifyThe State fun s => { s with nextArgument := s.nextArgument + 1 }
      match ← argument s.nextArgument with
      | none | some "" => openNext fuel
      | some word =>
        match assignment? word with
        | some (name, value) =>
          setVariable name (.input value)
          openNext fuel
        | none =>
          modifyThe State fun s => { s with anyFile := true }
          return some (← openArgument word)
    else if s.anyFile then return none
    else
      modifyThe State fun s => { s with anyFile := true }
      return some (← openArgument "-")

def argumentFuel : Work Nat := do
  return (toWhole (← variableValue "ARGC").toNumber).toNat + 2

def nextRecordFrom : Nat → Work (Option String)
  | 0 => return none
  | fuel + 1 => do
    match (← getThe State).current with
    | some x =>
      let (record, x) ← takeRecord x
      modifyThe State fun s => { s with current := some x }
      match record with
      | some record => return some record
      | none =>
        let next ← openNext (← argumentFuel)
        match next with
        | some _ =>
          modifyThe State fun s => { s with current := next }
          nextRecordFrom fuel
        | none => return none
    | none =>
      match ← openNext (← argumentFuel) with
      | some x =>
        modifyThe State fun s => { s with current := some x }
        nextRecordFrom fuel
      | none => return none

def nextRecord : Work (Option String) := do
  match ← nextRecordFrom (2 * (← argumentFuel)) with
  | some record =>
    for name in ["NR", "FNR"] do
      let n := (← variableValue name).toNumber
      setVariableRaw name (.number (n.add one))
    return some record
  | none => return none

/-- The next record of a file or of a command that is asked for by name: the record, or
whether there is none left rather than nothing to be read at all. -/
def recordFrom (isCommand : Bool) (name : String) : Work (Except Bool String) := do
  let isSame := fun (x : Source) => x.name == name && x.isCommand == isCommand
  let found ← match (← getThe State).sources.find? isSame with
    | some x => pure (some x)
    | none =>
      let opened ← if isCommand then do
          flush
          let (cs, status) ← askCommand name
          pure (some (⟨name, true, cs.toArray, 0, status⟩ : Source))
        else
          match ← openSource name with
          | .ok x => pure (some x)
          | .error u =>
            if u.isFound then panic ("read error (" ++ u.text ++ ")")
            pure none
      modifyThe State fun s => { s with sources := opened.toList ++ s.sources }
      pure opened
  match found with
  | none => return .error false
  | some x =>
    let (record, x) ← takeRecord x
    modifyThe State fun s => { s with sources := s.sources.map fun y => if isSame y then x else y }
    match record with
    | some record => return .ok record
    | none => return .error true

end Assay.Utility.Awk
