import Assay.Command.Init
import Assay.CommandLine.Help

/-!
# The program

The program reads its command line, carries out the command it finds there, and
turns what comes of it into an exit code and two streams of text.
-/

set_option autoImplicit false

namespace Assay

structure ProgramRun where
  host : Host
  exitCode : Nat
  stdout : String
  stderr : String

def switch? (env : Environment) (name : String) : Option Bool := (env.get? name).map (· != "0")

def wantsColour (env : Environment) (terminal : Bool) : Bool :=
  if switch? env "CLICOLOR_FORCE" = some true then true
  else if (switch? env "NO_COLOR").isSome then false
  else terminal && (switch? env "CLICOLOR").getD true

namespace ProgramRun

def ofStop (h : Host) (locale : Locale) (stop : CommandLine.Stop) : ProgramRun :=
  let text := Console.printed (stop.text locale)
  if stop.exitCode = 0 then ⟨h, 0, text, ""⟩ else ⟨h, stop.exitCode, "", text⟩

def ofCommandRun (r : CommandRun) : ProgramRun :=
  match r.result with
  | .ok success => ⟨r.host, if success then 0 else 1, r.printed, ""⟩
  | .error p => ⟨r.host, 1, r.printed, Console.printed ("Error: " ++ p.oneLine r.locale)⟩

end ProgramRun

def runProgram (h : Host) (m : Machine) (keyboard : Keyboard) (terminal : Bool)
    (argv : List String) : ProgramRun :=
  let language := CommandLine.spokenLanguage? argv
  let locale := Locale.resolve language h.environment
  let look : Look := ⟨locale, wantsColour h.environment terminal⟩
  match CommandLine.parse argv with
  | .error stop => .ofStop h locale stop
  | .ok parsed =>
    match parsed.command with
    | .run => .ofCommandRun ((parsed.runRequest language).carryOut h m look)
    | .init => .ofCommandRun ((parsed.initRequest locale.tag).carryOut h keyboard look)

end Assay
