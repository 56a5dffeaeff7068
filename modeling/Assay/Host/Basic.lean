import Assay.Environment
import Assay.Host.Change

/-!
# Hosts

A host is what a command finds around it: the file tree, the current folder,
the environment and the time.
-/

set_option autoImplicit false

namespace Assay

structure Host where
  files : FileTree
  folder : Place
  environment : Environment
  time : Int
deriving DecidableEq, Repr, Inhabited

namespace Host

def usualMask : Nat := 0o022

def making (h : Host) : Making := ⟨h.time, usualMask⟩

def isFile (h : Host) (path : String) : Bool := h.files.isFile h.folder path

def exists? (h : Host) (path : String) : Bool := h.files.exists? h.folder path

def readText (h : Host) (path : String) : Except FileError String :=
  h.files.readText h.folder path

def writeText (h : Host) (path text : String) : Except FileError Host :=
  (h.files.writeFile h.making h.folder path (Text.encode text)).map fun t =>
    { h with files := t }

/-- Creates a folder and those on the way to it, as far as that is possible. -/
def createFolders (h : Host) (path : String) : Host × Option FileError :=
  let (t, problem) := h.files.createFolders h.making h.folder path
  ({ h with files := t }, problem)

/-- The absolute path of something that exists, with every detour removed. -/
def canonical (h : Host) (path : String) : Except FileError String :=
  (h.files.resolve h.folder path).map Place.toPath

end Host

end Assay
