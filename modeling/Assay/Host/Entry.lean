import Assay.Invocation.Capture
import Assay.SystemError

/-!
# Entries

An entry is what may stand at a place: a folder, a file, something to be
started, a device, or a link that leads on. A node is an entry with its rights
and the time of its last change.
-/

set_option autoImplicit false

namespace Assay

/-- What may be started: programs that come with the system, and files that have been
made executable. -/
inductive Program where
  | shell
  | utility (name : String)
  | script (content : Bytes)
deriving DecidableEq, Repr

/-- Places to write to or read from that hold nothing. -/
inductive Device where
  | null
  | full
  | zeros
  | descriptor (number : Nat)
  | terminal
deriving DecidableEq, Repr

inductive Entry where
  | folder
  | file (content : Bytes)
  | program (p : Program)
  | device (d : Device)
  | link (target : String)
  | pipe
deriving DecidableEq, Repr

namespace Entry

def isFolder : Entry → Bool
  | folder => true
  | _ => false

def isLink : Entry → Bool
  | link _ => true
  | _ => false

def isRegular : Entry → Bool
  | file _ => true
  | program _ => true
  | _ => false

def content? : Entry → Option Bytes
  | folder => none
  | file content => some content
  | program _ => some [0x7f]
  | _ => some []

end Entry

/-- An entry with its rights, nine bits of them below three for special ones, and the
nanosecond of its last change. -/
structure Inode where
  entry : Entry
  mode : Nat
  time : Int
deriving DecidableEq, Repr

namespace Inode

def isExecutable (n : Inode) : Bool := n.mode &&& 0o111 != 0

def program? (n : Inode) : Option Program :=
  if n.isExecutable then
    match n.entry with
    | .file content => some (.script content)
    | .program p => some p
    | _ => none
  else none

end Inode

inductive FileError where
  | system (e : SystemError)
  | nulByte
  | notText
deriving DecidableEq, Repr

namespace FileError

def message : FileError → String
  | system e => e.message
  | nulByte => "file name contained an unexpected NUL byte"
  | notText => "stream did not contain valid UTF-8"

def notFound : FileError := system .notFound

end FileError

abbrev Place := List String

def Place.toPath (p : Place) : String := "/" ++ String.intercalate "/" p

end Assay
