import Assay.Shell.Expansion

/-!
# Redirections

A redirection lets a descriptor lead somewhere else. All targets of a command
are worked out before the first of them is opened.
-/

set_option autoImplicit false

namespace Assay.Shell

/-- Why a path cannot be opened, in the words that diagnostics use where a part of it
is missing. -/
def openFailure (missing : String) : FileError → String
  | .system e =>
    if e = .notFound ∨ e = .notADirectory then missing else e.text
  | _ => missing

def cannotOpen (path : String) (e : FileError) : String :=
  "cannot open " ++ path ++ ": " ++ openFailure "No such file" e

def cannotCreate (path : String) (e : FileError) : String :=
  "cannot create " ++ path ++ ": " ++ openFailure "Directory nonexistent" e

/-- Opens once more what a descriptor leads to. A file is read and written from its start.
What a script is first given to read is empty. -/
def openAgain (s : Session) (descriptor : Nat) (kind : OpenFile → OpenFile) :
    Sh (Except FileError Sink) := do
  match s.sink? descriptor with
  | some (.file n) =>
    match s.opened? n with
    | some f => return .ok (← addFile (kind { f with offset := 0 }))
    | none => return .error (.system .notFound)
  | some (.input 0) => return .ok (.device .null)
  | some sink => return .ok sink
  | none => return .error (.system .notFound)

def openForReading (path : String) : Sh (Except FileError Sink) := do
  let s ← get
  let path := readable path
  match s.files.stat s.folder path with
  | .error e => return .error e
  | .ok (.device (.descriptor n)) =>
    openAgain s n fun f => { f with forReading := true, forWriting := false, atEnd := false }
  | .ok (.device .terminal) => return .error (.system .noDevice)
  | .ok (.device d) => return .ok (.device d)
  | .ok _ =>
    match s.files.numberAt? s.folder path with
    | none => return .error .notFound
    | some node => return .ok (← addFile ⟨node, 0, true, false, false⟩)

structure WritingMode where
  forReading : Bool
  empties : Bool
  atEnd : Bool

namespace WritingMode

def fresh : WritingMode := ⟨false, true, false⟩

def adding : WritingMode := ⟨false, false, true⟩

def both : WritingMode := ⟨true, false, false⟩

end WritingMode

def openForWriting (m : WritingMode) (path : String) : Sh (Except FileError Sink) := do
  let s ← get
  let path := readable path
  match s.files.stat s.folder path with
  | .ok (.device (.descriptor n)) =>
    if m.empties then
      match (s.sink? n).bind fun sink => if let .file k := sink then s.opened? k else none with
      | some f => set (s.rewrite f.node fun _ => [])
      | none => pure ()
    openAgain (← get) n fun f =>
      { f with forReading := m.forReading, forWriting := true, atEnd := m.atEnd }
  | .ok (.device .terminal) => return .error (.system .noDevice)
  | .ok (.device d) => return .ok (.device d)
  | _ =>
    match s.files.obtain s.making s.folder path with
    | .error e => return .error e
    | .ok (files, node) =>
      let t := s.withFiles files
      set (if m.empties then t.rewrite node fun _ => [] else t)
      return .ok (← addFile ⟨node, 0, m.forReading, true, m.atEnd⟩)

def isProtected (s : Session) (path : String) : Bool :=
  s.has 'C' && s.files.isFile s.folder (readable path)

def openTarget (kind : RedirectionKind) (path : String) : Sh (Except String Sink) := do
  match kind with
  | .read => return (← openForReading path).mapError (cannotOpen path)
  | .readWrite => return (← openForWriting .both path).mapError (cannotCreate path)
  | .write =>
    if isProtected (← get) path then
      return .error (cannotCreate path (.system .alreadyExists))
    return (← openForWriting .fresh path).mapError (cannotCreate path)
  | kind =>
    let m := if kind == .append then .adding else .fresh
    return (← openForWriting m path).mapError (cannotCreate path)

/-- A redirection whose target is known. -/
inductive Opening where
  | path (descriptor : Nat) (kind : RedirectionKind) (target : String)
  | same (descriptor other : Nat)
  | shut (descriptor : Nat)
  | document (descriptor : Nat) (body : Word)

def openingOf (run : Runner) : Redirection → Sh Opening
  | .document descriptor number => do
    let found := (← get).documents.find? fun d => d.1 == number
    return .document descriptor ((found.map Prod.snd).getD [])
  | .toWord descriptor .duplicate target => do
    match (← textOf run target).toList with
    | ['-'] => return .shut descriptor
    | [c] =>
      if c.isDigit then return .same descriptor (c.toNat - '0'.toNat) else refuse
    | _ => refuse
  | .toWord descriptor kind target => do return .path descriptor kind (← textOf run target)
where
  refuse : Sh Opening := do
    modify fun s => { s with line := s.reached }
    abort "Syntax error: Bad fd number"

/-- Carries out a redirection, or tells why that is impossible. -/
def Opening.perform (run : Runner) : Opening → Sh (Option String)
  | .path descriptor kind target => do
    match ← openTarget kind target with
    | .error text => return some text
    | .ok sink =>
      modify fun s => s.withDescriptor descriptor sink
      return none
  | .same descriptor other => do
    match (← get).sink? other with
    | some sink =>
      modify fun s => s.withDescriptor descriptor sink
      return none
    | none => return some (toString other ++ ": " ++ SystemError.badDescriptor.text)
  | .shut descriptor => do
    modify fun s => s.withoutDescriptor descriptor
    return none
  | .document descriptor body => do
    let n ← addInput ⟨(← documentText run body).toList, 0⟩
    modify fun s => s.withDescriptor descriptor (.input n)
    return none

/-- Carries out redirections up to one that is impossible, and tells why it is. -/
def performAll (run : Runner) : List Opening → Sh (Option String)
  | [] => return none
  | o :: rest => do
    match ← o.perform run with
    | some text => return some text
    | none => performAll run rest

def openAll (run : Runner) : List Redirection → Sh (List Opening)
  | [] => return []
  | r :: rest => do
    let o ← openingOf run r
    return o :: (← openAll run rest)

def redirect (run : Runner) (rs : List Redirection) : Sh Bool := do
  let openings ← openAll run rs
  try
    match ← performAll run openings with
    | none => return true
    | some text =>
      complain text
      return false
  catch
    | .fail => return false
    | h => throw h

/-- Carries something out under redirections, if these are possible; otherwise its status
is that of a failure, which may have a consequence. -/
def redirected (run : Runner) (consequence : Sh Unit) (rs : List Redirection) (body : Sh Unit) :
    Sh Unit := do
  let before := (← get).descriptors
  let number := (← get).nextNumber
  let close : Sh Unit := do
    modify fun s => { s with descriptors := before }
    dropInputs number
  try
    if ← redirect run rs then body
    else
      setStatus 2
      consequence
    close
  catch h =>
    close
    throw h

end Assay.Shell
