import Assay.Shell.Signal
import Assay.Utility.Basic
import Assay.Utility.Numbers
import Assay.Utility.Plain

/-!
# Utilities that start programs

Programs are started with less right to be carried out, without a terminal, with
other buffers or for a limited time.
-/

set_option autoImplicit false

namespace Assay.Utility

open Shell (Sh Runner)

/-- Puts a program in the place of the utility. A program that cannot be started leaves
a status of its own. -/
def become (run : Runner) (utility name : String) (arguments : List String) : Sh Nat := do
  match (← get).findProgram name with
  | .ok p =>
    run (.program p name arguments)
    return (← get).status
  | .error u =>
    let shown := match utility with
      | "nice" => quotedText name
      | "nohup" => "failed to run command " ++ quotedName name
      | "setsid" => "failed to execute " ++ name
      | _ => "failed to run command " ++ quotedText name
    blame utility (shown ++ ": " ++ u.said)
    return u.status

def wrapper (name : String) (options : Options) (missing : String) (status : Nat) : Tool :=
  fun run arguments =>
  withOptions name status options arguments fun g => do
    match g.operands with
    | [] => refuse name status missing
    | program :: words => become run name program words

def nohup : Tool := wrapper "nohup" ⟨"", [], true⟩ "missing operand" 125

def setsid : Tool :=
  wrapper "setsid" ⟨"cfw", [("ctty", 'c'), ("fork", 'f'), ("wait", 'w')], true⟩
    "no command specified" 1

namespace Nice

/-- Puts adjustments in their old form, which is a number behind a dash, into that of an
option. -/
def withoutOldForms : List String → List String
  | [] => []
  | word :: rest =>
    match word.toList with
    | '-' :: c :: cs =>
      let digit := if c = '-' || c = '+' then cs.headD ' ' else c
      if digit.isDigit then "-n" :: String.ofList (c :: cs) :: withoutOldForms rest
      else if word = "-n" || word = "--adjustment" then
        match rest with
        | value :: rest => word :: value :: withoutOldForms rest
        | [] => [word]
      else if word.startsWith "-n" || word.startsWith "--a" then word :: withoutOldForms rest
      else word :: rest
    | _ => word :: rest

def read (text : String) : Except String Int :=
  match Numeral.read "" true text with
  | .ok n => .ok (max (-39) (min 39 n))
  | .error .beyond => .ok (if (text.toList.dropWhile (· == ' ')).head? == some '-' then -39 else 39)
  | .error .malformed => .error ("invalid adjustment " ++ quotedText text)

end Nice

/-- Runs a program that stands back behind others, or tells how far a program does so. -/
def nice : Tool := fun run arguments =>
  withOptions "nice" 125 ⟨"n:", [("adjustment", 'n')], true⟩ (Nice.withoutOldForms arguments)
    fun g => do
    settle "nice" 125 (g.read 'n' 10 Nice.read) fun adjustment => do
      match g.operands with
      | [] =>
        if g.has 'n' then refuse "nice" 125 "a command must be given with an adjustment"
        else emit "nice" (toString (← get).niceness ++ "\n")
      | program :: words =>
        modify fun s => { s with niceness := max (-20) (min 19 (s.niceness + adjustment)) }
        become run "nice" program words

namespace Stdbuf

/-- What is wrong with a way to buffer, and whether that calls for a hint. -/
def fault? (c : Char) (mode : String) : Option (String × Bool) :=
  if mode = "L" then
    if c = 'i' then some ("line buffering stdin is meaningless", true) else none
  else
    match Numeral.read "EGkKMPQRTYZ0" false mode with
    | .ok _ => none
    | .error .beyond =>
      some ("invalid mode " ++ quotedText mode ++ ": Value too large for defined data type", false)
    | .error .malformed => some ("invalid mode " ++ quotedText mode, false)

end Stdbuf

def stdbuf : Tool := fun run arguments =>
  withOptions "stdbuf" 125 ⟨"i:o:e:", [("input", 'i'), ("output", 'o'), ("error", 'e')], true⟩
    arguments fun g => do
    match g.options.findSome? fun o => Stdbuf.fault? o.1 o.2, g.operands with
    | some (text, true), _ => refuse "stdbuf" 125 text
    | some (text, false), _ =>
      blame "stdbuf" text
      return 125
    | none, [] => refuse "stdbuf" 125 "missing operand"
    | none, program :: words =>
      if g.options.isEmpty then refuse "stdbuf" 125 "you must specify a buffering mode option"
      else become run "stdbuf" program words

namespace Timeout

def terminate : Nat := 15

def signal? (text : String) : Option Nat :=
  if !text.isEmpty && text.all Char.isDigit then (natural? text).filter (· < 65)
  else
    let name := text.toUpper
    let name := if name.startsWith "SIG" then (name.drop 3).toString else name
    if name = "EXIT" then some 0
    else (WaitStatus.signalNames.findIdx? (· == name)).map (· + 1)

structure Request where
  signal : Nat
  keepsStatus : Bool
  foreground : Bool
  verbose : Bool

/-- Carries something out until it is over, or until a time. Time stands still for what is
outside of it. -/
def within (limit : Nat) (body : Sh (Except Shell.Unstartable WaitStatus)) :
    Sh (Option (Except Shell.Unstartable WaitStatus)) := do
  let s ← get
  let stop := s.clock + limit * Shell.ticks
  if limit = 0 then return some (← body)
  set { s with deadline := min s.deadline stop }
  let result ← try
      let found ← body
      pure (some found)
    catch
      | .never => pure none
      | h => throw h
  modify fun t => { t with deadline := s.deadline }
  if result.isNone then
    modify fun t => { t with toShellState := s.toShellState, clock := stop }
    if s.deadline ≤ stop then throw .never
  return result

def expire (r : Request) (name : String) : Sh Nat := do
  if r.verbose then
    let shown := (WaitStatus.signalName? r.signal).getD (toString r.signal)
    blame "timeout" ("sending signal " ++ shown ++ " to command " ++ quotedText name)
  if r.signal = 9 && !r.foreground then throw (.killed 9)
  return if r.signal = 9 || r.keepsStatus then 128 + r.signal else 124

end Timeout

def timeout : Tool := fun run arguments =>
  withOptions "timeout" 125 ⟨"k:s:vαβ", [("kill-after", 'k'), ("signal", 's'), ("verbose", 'v'),
    ("foreground", 'α'), ("preserve-status", 'β')], true⟩ arguments fun g => do
    let wrongTime := fun (text : String) => "invalid time interval " ++ quotedText text
    let fault? := g.options.findSome? fun o =>
      if o.1 = 'k' && (duration? o.2).isNone then some (wrongTime o.2)
      else if o.1 = 's' && (Timeout.signal? o.2).isNone then
        some (quotedText o.2 ++ ": invalid signal")
      else none
    match fault?, g.operands with
    | some text, _ => refuse "timeout" 125 text
    | none, duration :: name :: words =>
      match duration? duration with
      | none => refuse "timeout" 125 (wrongTime duration)
      | some limit =>
        let signal := ((g.text? 's').bind Timeout.signal?).getD Timeout.terminate
        match ← Timeout.within limit (start run name words) with
        | none => Timeout.expire ⟨signal, g.has 'β', g.has 'α', g.has 'v'⟩ name
        | some (.ok w) =>
          match w.signal? with
          | some n => throw (.killed n)
          | none => return Shell.statusOf w
        | some (.error u) =>
          blame "timeout" ("failed to run command " ++ quotedText name ++ ": " ++ u.said)
          return u.status
    | none, _ =>
      let own ← ownName "timeout"
      noteQuoted ("Try '" ++ own ++ " --help' for more information.\n")
      return 125

end Assay.Utility
