import Assay.Environment
import Assay.Host.Basic
import Assay.Problem
import Assay.Text.Word

/-!
# Finding the interpreter

The path of an interpreter may name variables of the environment, which are
expanded before it is looked for.
-/

set_option autoImplicit false

namespace Assay

/-!
## Expanding paths

A path may name variables of the environment, as `$NAME` or `${NAME}`, the
latter perhaps with a default after `:-`, and may start with a tilde for the
home folder. What a variable stands for is not expanded again.
-/

inductive PathPiece where
  | char (c : Char)
  | named (name : String) (fallback : Option String)
deriving DecidableEq, Repr

namespace PathPiece

def splitDefault : List Char → Option (List Char × List Char)
  | ':' :: '-' :: rest => some ([], rest)
  | c :: rest => (splitDefault rest).map fun (a, b) => (c :: a, b)
  | [] => none

def ofBraces (body : List Char) : PathPiece :=
  match splitDefault body with
  | some (c :: name, fallback) =>
    .named (String.ofList (c :: name)) (some (String.ofList fallback))
  | _ => .named (String.ofList body) none

def readFrom : Nat → List Char → List PathPiece
  | 0, _ => []
  | _ + 1, [] => []
  | fuel + 1, '$' :: rest =>
    match rest with
    | '\x7b' :: more =>
      match more.span (· != '\x7d') with
      | (_, []) => .char '$' :: .char '\x7b' :: readFrom fuel more
      | (body, _ :: tail) => ofBraces body :: readFrom fuel tail
    | '$' :: more => .char '$' :: readFrom fuel more
    | _ =>
      match rest.span Text.isWordChar with
      | ([], _) => .char '$' :: readFrom fuel rest
      | (name, tail) => .named (String.ofList name) none :: readFrom fuel tail
  | fuel + 1, c :: rest => .char c :: readFrom fuel rest

def read (path : String) : List PathPiece := readFrom (path.length + 1) path.toList

/-- What a piece stands for; a variable that is not set and has no default is named. -/
def expand (env : Environment) : PathPiece → Except String (List Char)
  | char c => .ok [c]
  | named name fallback =>
    match env.lookUp? name, fallback with
    | some value, _ => .ok value.toList
    | none, some value => .ok value.toList
    | none, none => .error name

def expandAll (env : Environment) : List PathPiece → Except String (List Char)
  | [] => .ok []
  | p :: ps =>
    match p.expand env with
    | .error name => .error name
    | .ok cs =>
      match expandAll env ps with
      | .error name => .error name
      | .ok rest => .ok (cs ++ rest)

end PathPiece

/-- Puts the home folder in the place of a leading tilde that stands alone. -/
def expandTilde (env : Environment) (path : List Char) : List Char :=
  match path with
  | '~' :: rest =>
    if rest = [] ∨ rest.head? = some '/' then
      match (env.get? "HOME").filter (· != "") with
      | some home => home.toList ++ rest
      | none => path
    else path
  | _ => path

/-- Expands a path, or names the variable that is not set. A tilde that only a
variable brings in stays. -/
def expandPath (env : Environment) (path : String) : Except String String :=
  match PathPiece.expandAll env (PathPiece.read path) with
  | .error name => .error name
  | .ok cs =>
    .ok (String.ofList (if path.toList.head? = some '~' then expandTilde env cs else cs))

/-!
## Places of the interpreter

An interpreter that is asked for is taken at its path, or looked up by its
name; nothing else is tried in its place. Without one, the build folders of
the project come first and the folders of the search path after them.
-/

/-- Folders of a project into which an interpreter is built, best first. -/
def buildFolders : List String :=
  ["crates/target/release", "crates/target/debug", "target/release", "target/debug"]

namespace Host

def searchFolders (h : Host) : List String :=
  match h.environment.get? "PATH" with
  | some path => path.splitOn ":"
  | none => []

def searchCandidates (h : Host) (name : String) : List String :=
  h.searchFolders.map fun folder => Path.join folder name

def search? (h : Host) (name : String) : Option String :=
  (h.searchCandidates name).find? h.isFile

def buildCandidates (root name : String) : List String :=
  buildFolders.map fun folder => Path.join (Path.join root folder) name

def chosen? (h : Host) (root choice : String) : Option String :=
  if Path.isCompound choice || Path.isAbsolute choice then
    let path := Path.join root choice
    if h.isFile path then some path else none
  else h.search? choice

def locate (h : Host) (root : String) (explicit : Option String) (name : String) :
    Except Problem String :=
  match explicit with
  | some raw =>
    match expandPath h.environment raw with
    | .error missing => .error (.variableNotSet raw missing)
    | .ok choice =>
      match h.chosen? root choice with
      | some path => .ok path
      | none => .error (.chosenInterpreterNotFound raw)
  | none =>
    match (buildCandidates root name ++ h.searchCandidates name).find? h.isFile with
    | some path => .ok path
    | none => .error (.interpreterNotFound name)

def projectRoot (h : Host) (path : String) : Except Problem String :=
  match h.canonical path with
  | .ok root => .ok root
  | .error e => .error (.rootNotFound path e)

end Host

end Assay
