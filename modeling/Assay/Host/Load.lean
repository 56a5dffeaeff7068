import Assay.Document.Reader
import Assay.Host.Basic
import Assay.Problem
import Assay.Settings

/-!
# Loading settings and documents

Both are read from files of a host. Settings that no file was named for may be
missing, and are the default ones then.
-/

set_option autoImplicit false

namespace Assay

def Document.load (h : Host) (path : String) : Except Problem Document :=
  match h.readText path with
  | .error e => .error (.documentUnreadable path e)
  | .ok text =>
    match Document.ofText text with
    | .error f => .error (.documentInvalid path f)
    | .ok d => .ok d

namespace Settings

def fileName : String := "Harness.toml"

def loadFrom (h : Host) (path : String) : Except Problem Settings :=
  match h.readText path with
  | .error e => .error (.settingsUnreadable path e)
  | .ok text =>
    match ofToml text with
    | .error f => .error (.settingsInvalid path f)
    | .ok s => .ok s

def load (h : Host) (root : String) : Option String → Except Problem Settings
  | some path => loadFrom h (Path.join root path)
  | none =>
    let path := Path.join root fileName
    if h.exists? path then loadFrom h path else .ok default

end Settings

end Assay
