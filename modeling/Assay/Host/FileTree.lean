import Assay.Host.FileTable
import Assay.Path

/-!
# File trees

A file tree is a file table with the proof that it is that of a tree. A path is
followed name by name, so that it fails at the first place where nothing stands or
where something stands that is no folder; a link on the way is followed in its turn.
-/

set_option autoImplicit false

namespace Assay

@[ext]
structure FileTree extends FileTable where
  isTree : toFileTable.IsTree
deriving DecidableEq, Repr

namespace FileTree

def empty : FileTree where
  names := [([], 0)]
  nodes := #[⟨.folder, 0o755, 0⟩]
  isTree := by
    refine ⟨rfl, by decide, by decide, ?_, ?_⟩ <;> simp

instance : Inhabited FileTree := ⟨empty⟩

def contentOf? (t : FileTree) (number : Nat) : Option Bytes :=
  (t.entryOf? number).bind Entry.content?

def childNames (t : FileTree) (p : Place) : List String :=
  t.names.filterMap fun e =>
    match e.1.getLast? with
    | some name => if e.1.dropLast = p then some name else none
    | none => none

def linkCount (t : FileTree) (number : Nat) : Nat :=
  (t.names.filter fun e => e.2 == number).length

def pathLimit : Nat := 4096

def linkLimit : Nat := 40

def parts (path : String) : List String := (Path.splitChars path.toList).map String.ofList

def start (folder : Place) (path : String) : Place :=
  if Path.isAbsolute path then [] else folder

/-- How far a path leads without a link. -/
inductive Stride where
  | arrived (p : Place)
  | failed (e : FileError)
  /-- A link stands in a folder, with parts of the path behind it. -/
  | link (folder : Place) (target : String) (rest : List String)

/-- Follows the parts of a path from a place up to a link. A link at the end is followed
only where that is wanted. -/
def stride (t : FileTree) (last : Bool) : Place → List String → Stride
  | here, [] => if (t.node? here).isSome then .arrived here else .failed .notFound
  | here, part :: rest =>
    match t.at? here with
    | none => .failed .notFound
    | some .folder =>
      if part = "" ∨ part = "." then stride t last here rest
      else if part = ".." then stride t last here.dropLast rest
      else if nameLimit < part.utf8ByteSize then .failed (.system .nameTooLong)
      else
        let next := here ++ [part]
        match t.at? next with
        | some (.link target) =>
          if last || !rest.isEmpty then .link here target rest else .arrived next
        | _ => stride t last next rest
    | some _ => .failed (.system .notADirectory)

def walk (t : FileTree) (last : Bool) : Nat → Place → List String → Except FileError Place
  | 0, _, _ => .error (.system .tooManyLinks)
  | links + 1, here, rest =>
    match t.stride last here rest with
    | .arrived p => .ok p
    | .failed e => .error e
    | .link folder target more => walk t last links (start folder target) (parts target ++ more)

def follow (t : FileTree) (last : Bool) (folder : Place) (path : String) :
    Except FileError Place :=
  if Path.holdsNul path then .error .nulByte
  else if path = "" then .error .notFound
  else t.walk last (linkLimit + 1) (start folder path) (parts path)

def resolve (t : FileTree) (folder : Place) (path : String) : Except FileError Place :=
  t.follow true folder path

def entrance (t : FileTree) (folder : Place) (path : String) : Except FileError Place :=
  t.follow false folder path

def checkLength (path : String) : Except FileError Unit :=
  if pathLimit ≤ path.utf8ByteSize ∧ !Path.holdsNul path then
    .error (.system .nameTooLong)
  else .ok ()

def nodeAt (t : FileTree) (last : Bool) (folder : Place) (path : String) :
    Except FileError Inode := do
  checkLength path
  let p ← t.follow last folder path
  match t.node? p with
  | some n => return n
  | none => throw .notFound

def stat (t : FileTree) (folder : Place) (path : String) : Except FileError Entry :=
  (t.nodeAt true folder path).map Inode.entry

def exists? (t : FileTree) (folder : Place) (path : String) : Bool :=
  (t.stat folder path).toBool

def isFile (t : FileTree) (folder : Place) (path : String) : Bool :=
  match t.stat folder path with
  | .ok e => e.isRegular
  | .error _ => false

def isFolder (t : FileTree) (folder : Place) (path : String) : Bool :=
  match t.stat folder path with
  | .ok e => e.isFolder
  | .error _ => false

def isLink (t : FileTree) (folder : Place) (path : String) : Bool :=
  match t.nodeAt false folder path with
  | .ok n => n.entry.isLink
  | .error _ => false

def numberAt? (t : FileTree) (folder : Place) (path : String) : Option Nat :=
  ((t.resolve folder path).toOption).bind t.number?

def readBytes (t : FileTree) (folder : Place) (path : String) : Except FileError Bytes := do
  match (← t.stat folder path).content? with
  | some content => return content
  | none => throw (.system .isADirectory)

def readText (t : FileTree) (folder : Place) (path : String) : Except FileError String := do
  match Text.decode? (← t.readBytes folder path) with
  | some cs => return String.ofList cs
  | none => throw .notText

def list (t : FileTree) (folder : Place) (path : String) : Except FileError (List String) := do
  checkLength path
  let p ← t.resolve folder path
  match t.at? p with
  | some .folder => return t.childNames p
  | some _ => throw (.system .notADirectory)
  | none => throw .notFound

/-- A place at which a path may create something: the folder, which exists, and the last
name; and whether slashes stand behind it. -/
structure Vacancy where
  parent : Place
  name : String
  isClosed : Bool

namespace Vacancy

def place (v : Vacancy) : Except FileError Place :=
  if v.name = "" ∨ v.name = "." then .ok v.parent
  else if v.name = ".." then .ok v.parent.dropLast
  else if nameLimit < v.name.utf8ByteSize then .error (.system .nameTooLong)
  else .ok (v.parent ++ [v.name])

end Vacancy

def vacancy (t : FileTree) (folder : Place) (path : String) : Except FileError Vacancy := do
  if Path.holdsNul path then throw .nulByte
  if path = "" then throw .notFound
  checkLength path
  let reversed := (parts path).reverse
  let names := reversed.dropWhile (· == "")
  let parent ← t.walk true (linkLimit + 1) (start folder path) names.tail.reverse
  if (t.at? parent).any Entry.isFolder then
    return ⟨parent, names.headD "", reversed.head? == some ""⟩
  else throw (.system .notADirectory)

def target (t : FileTree) (folder : Place) (path : String) : Except FileError Place := do
  (← t.vacancy folder path).place

end FileTree

end Assay
