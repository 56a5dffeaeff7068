import Assay.Path
import Assay.Toml.Decode
import Assay.Toml.Reader
import Assay.Toml.Quoted

/-!
# Settings

The settings of a project are read from a TOML text in which every key is
optional, and written back as one. Keys that are not settings are passed over.
-/

set_option autoImplicit false

namespace Assay

structure Settings where
  language : Option String
  testsDir : String
  binaryName : String
  binary : Option String
  timeoutSecs : UInt64
  jobs : UInt64
deriving DecidableEq, Repr

namespace Settings

def default : Settings := ⟨none, "benchmark/tests", "goth", none, 10, 1⟩

instance : Inhabited Settings := ⟨default⟩

def takeEntry (s : Settings) (key : String) (item : Toml.Item) : Except Toml.Failure Settings := do
  if key = "language" then
    return { s with language := some (← item.toText "a string") }
  else if key = "tests_dir" then
    return { s with testsDir := ← item.toText "path string" }
  else if key = "binary_name" then
    return { s with binaryName := ← item.toText "a string" }
  else if key = "binary" then
    return { s with binary := some (← item.toText "a string") }
  else if key = "timeout_secs" then
    return { s with timeoutSecs := ← item.toWord "u64" }
  else if key = "jobs" then
    return { s with jobs := ← item.toWord "usize" }
  else
    item.skip
    return s

def takeEntries : Settings → Toml.Entries → Except Toml.Failure Settings
  | s, [] => .ok s
  | s, (key, item) :: rest => do takeEntries (← takeEntry s key item) rest

def sorted (entries : Toml.Entries) : Toml.Entries :=
  entries.mergeSort fun a b => decide (a.1 ≤ b.1)

def ofToml (text : String) : Except Toml.Failure Settings :=
  match Toml.parse? text with
  | some entries => takeEntries default (sorted entries)
  | none => .error .syntaxError

def toToml (s : Settings) : String :=
  Toml.optionalLine "language" s.language ++ Toml.stringLine "tests_dir" s.testsDir ++
    Toml.stringLine "binary_name" s.binaryName ++ Toml.optionalLine "binary" s.binary ++
    Toml.line "timeout_secs" (toString s.timeoutSecs.toNat) ++
    Toml.line "jobs" (toString s.jobs.toNat)

def testsDirIn (s : Settings) (root : String) : String := Path.join root s.testsDir

end Settings

end Assay
