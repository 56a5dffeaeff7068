import Assay.Command.Run
import Assay.Terminal.Question

/-!
# Setting up a project

Setting up writes the settings of a project and a sample document. At a terminal
it asks for some of the settings; without one it takes the default ones. Files
that exist are overwritten only where that is asked for, or allowed at the
terminal.
-/

set_option autoImplicit false

namespace Assay

def askSettings (s : Settings) (keys : List Key) : Answer Settings :=
  match Keyboard.readText s.binaryName keys with
  | .unreadable => .unreadable
  | .given binaryName keys =>
    match Keyboard.readText s.testsDir keys with
    | .unreadable => .unreadable
    | .given testsDir keys =>
      match Keyboard.readPositive s.timeoutSecs (keys.length + 1) keys with
      | .unreadable => .unreadable
      | .given timeoutSecs keys => .given { s with
          binaryName := binaryName
          testsDir := testsDir
          timeoutSecs := timeoutSecs } keys

def sampleName : String := "example.json"

def sampleText : String := "\x7b
  \"category\": \"example\",
  \"tests\": [
    \x7b
      \"name\": \"identity\",
      \"file\": \"examples/identity.goth\",
      \"cases\": [
        \x7b \"input\": [5], \"expected\": 5 \x7d,
        \x7b \"input\": [0], \"expected\": 0 \x7d
      ]
    \x7d,
    \x7b
      \"name\": \"sqrt\",
      \"file\": \"examples/sqrt.goth\",
      \"cases\": [
        \x7b \"input\": [2.0], \"expected\": 1.4142135623730951, \"reltol\": 1e-9 \x7d
      ]
    \x7d
  ]
\x7d
"

/-- A step of setting up: the host and what has been printed, also where it fails. -/
structure SetupState where
  host : Host
  printed : String

namespace SetupState

def print (s : SetupState) (line : String) : SetupState :=
  { s with printed := s.printed ++ Console.printed line }

def printCreated (s : SetupState) (look : Look) (path : String) : SetupState :=
  s.print (look.paint .green "✔" ++ " " ++ look.paint .bold (look.say (.created path)))

def writeSettings (s : SetupState) (look : Look) (path : String) (settings : Settings) :
    SetupState × Option Problem :=
  match s.host.writeText path settings.toToml with
  | .error e => (s, some (.fileUnwritable path e))
  | .ok h => ({ s with host := h }.printCreated look path, none)

def writeSample (s : SetupState) (look : Look) (folder : String) (force : Bool) :
    SetupState × Option Problem :=
  let path := Path.join folder sampleName
  if s.host.exists? path && !force then
    (s.print (look.paint .yellow (look.say (.sampleKept path))), none)
  else
    match s.host.createFolders folder with
    | (h, some e) => ({ s with host := h }, some (.folderUncreatable folder e))
    | (h, none) =>
      let s := { s with host := h }
      match s.host.writeText path sampleText with
      | .error e => (s, some (.fileUnwritable path e))
      | .ok h => ({ s with host := h }.printCreated look path, none)

def writeAll (s : SetupState) (look : Look) (root settingsPath : String) (settings : Settings)
    (force : Bool) : SetupState × Option Problem :=
  match s.writeSettings look settingsPath settings with
  | (s, some p) => (s, some p)
  | (s, none) =>
    match s.writeSample look (settings.testsDirIn root) force with
    | (s, some p) => (s, some p)
    | (s, none) => (s.print (look.say .usageHint), none)

def toRun (s : SetupState) (look : Look) (problem : Option Problem) : CommandRun :=
  ⟨s.host, #[], s.printed, look.locale,
    match problem with
    | some p => .error p
    | none => .ok true⟩

end SetupState

namespace InitRequest

def startSettings (r : InitRequest) : Settings :=
  { Settings.default with language := some r.language }

def carryOutSilently (r : InitRequest) (s : SetupState) (look : Look) (root : String) :
    CommandRun :=
  let path := Path.join root Settings.fileName
  if s.host.exists? path && !r.force then s.toRun look (some (.settingsExist path))
  else
    let (s, problem) := s.writeAll look root path r.startSettings r.force
    s.toRun look problem

def carryOutAsking (r : InitRequest) (s : SetupState) (look : Look) (root : String)
    (keyboard : Keyboard) : CommandRun :=
  let path := Path.join root Settings.fileName
  let s := (s.print ("\n" ++ look.paint .boldCyan (look.say .welcome))).print
    (look.say .setupDescription)
  let allowed : Answer Bool := match keyboard with
    | none => .unreadable
    | some keys =>
      if s.host.exists? path && !r.force then Keyboard.readYesNo keys else .given true keys
  match allowed with
  | .unreadable => s.toRun look (some .inputUnreadable)
  | .given false _ => (s.print (look.paint .yellow (look.say .setupAborted))).toRun look none
  | .given true keys =>
    match askSettings r.startSettings keys with
    | .unreadable => s.toRun look (some .inputUnreadable)
    | .given settings _ =>
      let (s, problem) := s.writeAll look root path settings r.force
      s.toRun look problem

def carryOut (r : InitRequest) (h : Host) (keyboard : Keyboard) (look : Look) : CommandRun :=
  match h.projectRoot r.projectRoot with
  | .error p => ⟨h, #[], "", look.locale, .error p⟩
  | .ok root =>
    let s : SetupState := ⟨h, ""⟩
    if r.nonInteractive then r.carryOutSilently s look root
    else r.carryOutAsking s look root keyboard

end InitRequest

end Assay
