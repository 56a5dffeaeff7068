import Assay.Host.Basic
import Assay.Problem

/-!
# Plans

A plan lists the documents that a run covers: the one of a category that is
asked for, or all those in the folder, in the order of their file names.
-/

set_option autoImplicit false

namespace Assay

structure Plan where
  files : List String
  single : Bool
deriving DecidableEq, Repr

namespace Plan

/-- Reversed extension of a document's file name, with its dot. -/
def reversedExtension : List Char := ".json".toList.reverse

def isDocumentName (name : String) : Bool :=
  reversedExtension.isPrefixOf name.toList.reverse &&
    decide (reversedExtension.length < name.length)

/-- Document names out of a folder's listing, in order. The flag of a name tells
whether a file stands there. -/
def select (listing : List (String × Bool)) : List String :=
  ((listing.filter fun e => e.2 && isDocumentName e.1).map Prod.fst).mergeSort
    fun a b => decide (a ≤ b)

def ofCategory (h : Host) (folder name : String) : Except Problem Plan :=
  let path := Path.join folder (name ++ ".json")
  if h.isFile path then .ok ⟨[path], true⟩ else .error (.categoryNotFound name)

def ofFolder (h : Host) (folder : String) : Except Problem Plan :=
  match h.files.list h.folder folder with
  | .error e => .error (.suiteUnreadable folder e)
  | .ok names =>
    let listing := names.map fun n => (n, h.isFile (Path.join folder n))
    .ok ⟨(select listing).map (Path.join folder), false⟩

def make (h : Host) (folder : String) : Option String → Except Problem Plan
  | some name => ofCategory h folder name
  | none => ofFolder h folder

end Plan

end Assay
