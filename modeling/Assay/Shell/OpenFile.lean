import Assay.Host.Change
import Assay.Invocation.Capture

/-!
# Octets and open files

The texts that a shell keeps, and the files that it reads them from.
-/

set_option autoImplicit false

namespace Assay.Shell

/-!
## Octets

A shell does not know characters beyond single bytes. Inside it a text is
therefore kept with one character for each byte, and is turned back into a
readable text only where a name leaves the shell.
-/

def octetsOf (bytes : Bytes) : List Char := bytes.map fun b => Char.ofNat b.toNat

def bytesOf (cs : List Char) : Bytes := cs.map fun c => UInt8.ofNat c.toNat

def octets (text : String) : String := String.ofList (octetsOf (Text.encode text))

def readable (text : String) : String :=
  String.ofList (Text.decodeLossy (bytesOf text.toList))

/-!
## Open files

A file that is open is read and written from where it was left, by all who
share it. It stays what it is when its place is given to something else. Bytes
that are only added to a file are kept apart from it, so that adding many of
them one after the other is cheap.
-/

structure OpenFile where
  node : Nat
  offset : Nat
  forReading : Bool
  forWriting : Bool
  atEnd : Bool

/-- Puts bytes over what a text holds from an offset on. What is missing before it is
filled with zeros. -/
def overwrite (content : Bytes) (offset : Nat) (bytes : Bytes) : Bytes :=
  content.take offset ++ List.replicate (offset - content.length) 0 ++ bytes ++
    content.drop (offset + bytes.length)

/-- What is still to be added to a file, last first, and the size that it will have. -/
structure Addition where
  node : Nat
  texts : List Bytes
  size : Nat

def Addition.apply (a : Addition) (m : Making) (t : FileTree) : FileTree :=
  t.rewrite m a.node fun content => content ++ a.texts.reverse.flatten

end Assay.Shell
