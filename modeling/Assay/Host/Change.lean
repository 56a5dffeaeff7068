import Assay.Host.FileTree

/-!
# Changing file trees

Folders and files are created, written, linked, renamed and removed. Whoever
makes a change does so at a time, and with a mask of the rights that what is
new is not given. A change after which a tree would be none leaves it as it is.
-/

set_option autoImplicit false

namespace Assay

structure Making where
  time : Int
  mask : Nat
deriving DecidableEq, Repr

namespace Making

def folder (m : Making) : Inode := ⟨.folder, 0o777 - m.mask, m.time⟩

def file (m : Making) (content : Bytes) : Inode := ⟨.file content, 0o666 &&& (0o777 - m.mask), m.time⟩

def link (m : Making) (target : String) : Inode := ⟨.link target, 0o777, m.time⟩

end Making

namespace FileTree

/-- Lets a place have a number, instead of what stood there, unless that is a folder. -/
def name (t : FileTree) (p : Place) (number : Nat) : FileTree :=
  if h : t.Takes p ∧ t.at? p ≠ some .folder ∧ number < t.nodes.size then
    ⟨t.toFileTable.name p number, t.isTree.name h.1 h.2.1 h.2.2⟩
  else t

def put (t : FileTree) (p : Place) (n : Inode) : FileTree :=
  if h : t.Takes p ∧ t.at? p ≠ some .folder then
    ⟨t.toFileTable.put p n, t.isTree.put n h.1 h.2⟩
  else t

def alter (t : FileTree) (number : Nat) (f : Inode → Inode)
    (hf : ∀ n, n.entry = .folder → (f n).entry = .folder := by exact fun _ h => h) : FileTree :=
  ⟨t.toFileTable.alter number f, t.isTree.alter hf⟩

def remove (t : FileTree) (p : Place) : FileTree :=
  if h : p ≠ [] then ⟨t.toFileTable.remove p, t.isTree.remove h⟩ else t

/-- Moves what stands at a place, with everything below it, instead of what stood at another
place, of which neither is below the other. -/
def rename (t : FileTree) (p q : Place) : FileTree :=
  if h : t.Takes q ∧ ¬ q <+: p ∧ ¬ p <+: q then
    ⟨t.toFileTable.rename p q, t.isTree.rename h.1 h.2.1 h.2.2⟩
  else t

def ensureFolders (m : Making) (t : FileTree) (p : Place) : FileTree :=
  (List.range p.length).foldl
    (fun t n => let q := p.take (n + 1); if (t.at? q).isNone then t.put q m.folder else t) t

/-- A node with another content. Programs of the system become files. -/
def rewritten (m : Making) (f : Bytes → Bytes) (n : Inode) : Inode :=
  match n.entry with
  | .file content => { n with entry := .file (f content), time := m.time }
  | .program _ => { n with entry := .file (f [0x7f]), time := m.time }
  | _ => n

def rewrite (m : Making) (t : FileTree) (number : Nat) (f : Bytes → Bytes) : FileTree :=
  t.alter number (rewritten m f) fun n hn => by rw [rewritten, hn]; exact hn

/-- The tree with the file that a path leads to, to be written, and its number. Where
nothing stands, an empty file is created; so it is where a link leads to nothing. A path
that ends with a slash can only be that of a folder. -/
def obtainFrom (m : Making) (t : FileTree) :
    Nat → Place → String → Except FileError (FileTree × Nat)
  | 0, _, _ => .error (.system .tooManyLinks)
  | links + 1, folder, path => do
    let v ← t.vacancy folder path
    if v.isClosed then throw (.system .isADirectory)
    let p ← v.place
    match t.at? p, t.number? p with
    | some .folder, _ => throw (.system .isADirectory)
    | some (.link target), _ => obtainFrom m t links v.parent target
    | some _, some number => return (t, number)
    | _, _ => return (t.put p (m.file []), t.nodes.size)

/-- What is obtained to be written, unless more links lead to it than may be followed. -/
def obtain (m : Making) (t : FileTree) (folder : Place) (path : String) :
    Except FileError (FileTree × Nat) :=
  match t.stat folder path with
  | .error (.system .tooManyLinks) => .error (.system .tooManyLinks)
  | _ => obtainFrom m t (linkLimit + 1) folder path

def writeNode (m : Making) (t : FileTree) (number : Nat) (content : Bytes) :
    Except FileError FileTree :=
  match t.entryOf? number with
  | some (.device .full) => if content.isEmpty then .ok t else .error (.system .noSpace)
  | some (.device .terminal) => .error (.system .noDevice)
  | _ => .ok (t.rewrite m number fun _ => content)

def writeFile (m : Making) (t : FileTree) (folder : Place) (path : String) (content : Bytes) :
    Except FileError FileTree := do
  let (t, number) ← t.obtain m folder path
  t.writeNode m number content

def create (t : FileTree) (n : Inode) (folder : Place) (path : String) :
    Except FileError FileTree := do
  let p ← t.target folder path
  match t.at? p with
  | some _ => throw (.system .alreadyExists)
  | none => return t.put p n

def createFolder (m : Making) (t : FileTree) (folder : Place) (path : String) :
    Except FileError FileTree :=
  t.create m.folder folder path

/-- The path without its last component; the parts are given last first. -/
def joinReversed (absolute : Bool) (reversed : List String) : String :=
  (if absolute then "/" else "") ++ String.intercalate "/" reversed.reverse

/-- Makes sure that a folder stands at a path whose own folder exists. -/
def ensureFolder (m : Making) (t : FileTree) (folder : Place) (path : String) :
    FileTree × Option FileError :=
  match t.createFolder m folder path with
  | .ok t => (t, none)
  | .error e => (t, if t.isFolder folder path then none else some e)

/-- Creates the folder at the end of some parts, given last first, and those it needs.
Folders that were created before a failure stay. -/
def createFoldersFrom (m : Making) (folder : Place) (absolute : Bool) :
    List String → FileTree → FileTree × Option FileError
  | [], t => (t, none)
  | name :: above, t =>
    let path := joinReversed absolute (name :: above)
    match t.ensureFolder m folder path with
    | (t, some (.system .notFound)) =>
      match createFoldersFrom m folder absolute above t with
      | (t, none) => t.ensureFolder m folder path
      | failed => failed
    | done => done

/-- Creates a folder with all the folders on the way to it. The path itself is tried as
it is written, before and after those on the way have been created. -/
def createFolders (m : Making) (t : FileTree) (folder : Place) (path : String) :
    FileTree × Option FileError :=
  match t.ensureFolder m folder path with
  | (t, some (.system .notFound)) =>
    match createFoldersFrom m folder (Path.isAbsolute path) (Path.names path).reverse.tail t with
    | (t, none) => t.ensureFolder m folder path
    | failed => failed
  | done => done

end FileTree

end Assay
