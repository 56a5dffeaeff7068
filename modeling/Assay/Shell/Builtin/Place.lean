import Assay.Host.Rights
import Assay.Shell.Builtin.Basic
import Assay.Shell.Process
import Assay.Shell.Source

/-!
# Commands on the surroundings of a shell

The current folder, what new files may not be used for, limits and times, and
what names stand for.
-/

set_option autoImplicit false

namespace Assay.Shell

/-- A path with what is gone to from it, in which no part leads back. Two slashes in front
stay two. -/
def pathAfter (path target : String) : String :=
  let whole := if target.startsWith "/" then target
    else if path.endsWith "/" then path ++ target
    else path ++ "/" ++ target
  let slashes := whole.toList.takeWhile (· == '/')
  let go := fun (gone : List String) (name : String) =>
    if name = "" ∨ name = "." then gone
    else if name = ".." then gone.tail
    else name :: gone
  (if slashes.length = 2 then "//" else "/") ++
    String.intercalate "/" ((whole.splitOn "/").foldl go []).reverse

def goTo (physical : Bool) (target : String) : Sh Bool := do
  let s ← get
  let path := if physical then target else pathAfter s.folderPath target
  match s.files.stat s.folder (readable path), s.files.resolve s.folder (readable path) with
  | .ok .folder, .ok place =>
    let shown := if physical then octets place.toPath else path
    set { s with
      folder := place
      folderPath := shown
      found := s.found.map fun (f : Found) => { f with isOld := true } }
    modify fun t => t.assign "OLDPWD" s.folderPath
    modify fun t => t.assign "PWD" shown
    modify fun t => t.passOn "OLDPWD"
    modify fun t => t.passOn "PWD"
    return true
  | _, _ => return false

def isSearched (target : String) : Bool :=
  !target.startsWith "/" && target != "." && target != ".." && !target.startsWith "./" &&
    !target.startsWith "../"

def searchedFolders (s : Session) (target : String) : List (String × Bool) :=
  match s.get? "CDPATH" with
  | some folders =>
    if isSearched target then
      (folders.splitOn ":").map fun f =>
        if f = "" then (target, false) else (f ++ "/" ++ target, true)
    else []
  | none => []

def changeFolder (arguments : List String) : Sh Nat := do
  let (options, words) ← optionsOf "LP" arguments
  let physical := options.getLast?.any fun o => o.1 == 'P'
  let s ← get
  let target := match words.head? with
    | none => s.getD "HOME"
    | some "-" => s.getD "OLDPWD"
    | some word => word
  let path := if target = "" then "." else target
  let (path, shows) :=
    ((searchedFolders s path).find? fun f => s.files.isFolder s.folder (readable f.1)).getD
      (path, false)
  if ← goTo physical path then
    if shows || words.head? == some "-" then putLines [(← get).folderPath] else return 0
  else abort ("can't cd to " ++ target)

def printFolder (arguments : List String) : Sh Nat := do
  let (options, _) ← optionsOf "LP" arguments
  let s ← get
  putLines [if options.getLast?.any fun o => o.1 == 'P' then octets s.folder.toPath
    else s.folderPath]

def octalText (n : Nat) : String :=
  let digits := Nat.toDigits 8 n
  String.ofList (List.replicate (4 - digits.length) '0' ++ digits)

def rights (mask unit : Nat) : String :=
  let left := 7 - mask / unit % 8
  String.join [if 4 ≤ left then "r" else "", if 2 ≤ left % 4 then "w" else "",
    if left % 2 = 1 then "x" else ""]

def umaskCommand (arguments : List String) : Sh Nat := do
  let (options, words) ← optionsOf "S" arguments
  let s ← get
  match words with
  | [] =>
    if options.isEmpty then putLines [octalText s.mask]
    else
      putLines ["u=" ++ rights s.mask 64 ++ ",g=" ++ rights s.mask 8 ++ ",o=" ++ rights s.mask 1]
  | text :: _ =>
    if text.toList.head?.any Char.isDigit then
      let (n, rest) := readDigits 8 text.toList
      if rest ≠ [] then badNumber text
      set { s with mask := n % 512 }
      return 0
    else
      let changes? := if text = "" then some []
        else if text.contains 't' then none
        else Rights.read? text
      match changes? with
      | some changes =>
        set { s with mask := 511 - Rights.applyAll changes 0 false (511 - s.mask) % 512 }
        return 0
      | none => abort ("Illegal mode: " ++ text)

def times (_ : List String) : Sh Nat :=
  putLines ["0m0.000000s 0m0.000000s", "0m0.000000s 0m0.000000s"]

def limitNames : List (Char × String) := [
  ('t', "time(seconds)"), ('f', "file(blocks)"), ('d', "data(kbytes)"), ('s', "stack(kbytes)"),
  ('c', "coredump(blocks)"), ('m', "memory(kbytes)"), ('l', "locked memory(kbytes)"),
  ('p', "process"), ('n', "nofiles"), ('v', "vmemory(kbytes)"), ('w', "locks"), ('r', "rtprio")]

def usualLimit (letter : Char) : Limit :=
  match letter with
  | 's' => ⟨some 8192, none⟩
  | 'l' => ⟨some 8192, some 8192⟩
  | 'n' => ⟨some 1048576, some 1048576⟩
  | 'r' => ⟨some 0, some 0⟩
  | _ => ⟨none, none⟩

namespace Session

def limit (s : Session) (letter : Char) : Limit :=
  ((s.limits.find? fun l => l.1 == letter).map Prod.snd).getD (usualLimit letter)

def setLimit (s : Session) (letter : Char) (l : Limit) : Session :=
  { s with limits := (letter, l) :: s.limits.filter fun l => l.1 != letter }

end Session

def Limit.text (l : Limit) (soft : Bool) : String :=
  match if soft then l.soft else l.hard with
  | some n => toString n
  | none => "unlimited"

def ulimit (arguments : List String) : Sh Nat := do
  let (options, words) ← optionsOf "HSatfdscmlpnvwr" arguments
  let letters := options.map Prod.fst
  let kind := (letters.filter (· ∈ ['H', 'S'])).getLast?
  let letter := ((letters.filter fun c => !(['H', 'S', 'a'].contains c)).getLast?).getD 'f'
  let s ← get
  match words with
  | [] =>
    if letters.contains 'a' then
      putLines (limitNames.map fun l =>
        l.2 ++ String.ofList (List.replicate (20 - l.2.length) ' ') ++ " " ++
          (s.limit l.1).text (kind != some 'H'))
    else putLines [(s.limit letter).text (kind != some 'H')]
  | text :: more =>
    if letters.contains 'a' || !more.isEmpty then abort "too many arguments"
    let value ←
      if text = "unlimited" then pure none
      else if text.all Char.isDigit then pure (some (text.toNat?.getD 0))
      else abort "bad number"
    let old := s.limit letter
    let l : Limit := ⟨if kind == some 'H' then old.soft else value,
      if kind == some 'S' then old.hard else value⟩
    let fits := match l.soft, l.hard with
      | _, none => true
      | some m, some n => decide (m ≤ n)
      | none, some _ => false
    if !fits then
      abort ("error setting limit (" ++ SystemError.invalidArgument.text ++ ")")
    set (s.setLimit letter l)
    return 0

def builtinNames : List String := [
  ".", ":", "[", "alias", "bg", "break", "cd", "chdir", "command", "continue", "echo", "eval",
  "exec", "exit", "export", "false", "fg", "getopts", "hash", "jobs", "kill", "local", "printf",
  "pwd", "read", "readonly", "return", "set", "shift", "test", "times", "trap", "true", "type",
  "ulimit", "umask", "unalias", "unset", "wait"]

def isForeign (s : Session) (name : String) : Bool :=
  !keywords.contains name && !builtinNames.contains name &&
    !(s.aliases.any fun a => a.1 == name) && !(s.functions.any fun f => f.1 == name)

def keepProgram (name : String) : Sh Unit :=
  modify fun s => if isForeign s name then s.keepFound name else s

def hashAll (status : Nat) : List String → Sh Nat
  | [] => return status
  | name :: rest => do
    if !isForeign (← get) name || ((← get).locate? name).isSome then
      keepProgram name
      hashAll status rest
    else
      complain (name ++ ": not found")
      hashAll 1 rest

def hashCommand (arguments : List String) : Sh Nat := do
  let (options, names) ← optionsOf "rv" arguments
  if options.any fun o => o.1 == 'r' then
    modify fun s => { s with found := [] }
    return 0
  else if names.isEmpty then
    let found := (← get).found.mergeSort fun f g => decide (place f.name ≤ place g.name)
    putLines (found.map fun f => f.path ++ if f.isOld then "*" else "")
  else hashAll 0 names
where
  place (name : String) : Nat :=
    let codes := name.toList.map Char.toNat
    codes.foldl (· + ·) (codes.headD 0 * 16) % 31

def describe (s : Session) (full : Bool) (name : String) : Option String :=
  let say := fun (long short : String) => some (if full then name ++ long else short)
  if keywords.contains name then say " is a shell keyword" name
  else
    match s.aliases.find? fun a => a.1 == name with
    | some a =>
      if full then some (name ++ " is an alias for " ++ a.2)
      else some ("alias " ++ name ++ "=" ++ singleQuoted a.2)
    | none =>
      if s.functions.any fun f => f.1 == name then say " is a shell function" name
      else if builtinNames.contains name then
        say (if isSpecialCommand name then " is a special shell builtin"
          else " is a shell builtin") name
      else
        match s.locate? name with
        | some path => say (" is " ++ path) path
        | none => none

def describeAll (status : Nat) : List String → Sh Nat
  | [] => return status
  | name :: rest => do
    match describe (← get) true name with
    | some text =>
      keepProgram name
      let _ ← putLines [text]
      describeAll status rest
    | none =>
      let _ ← putLines [name ++ ": not found"]
      describeAll 127 rest

def describeOne (full : Bool) : List String → Sh Nat
  | [] => return 0
  | name :: _ => do
    match describe (← get) full name with
    | some text =>
      keepProgram name
      putLines [text]
    | none =>
      if full then
        let _ ← putLines [name ++ ": not found"]
      return 127

def placeBuiltins : List Builtin := [
  .plain "cd" changeFolder,
  .plain "chdir" changeFolder,
  .plain "pwd" printFolder,
  .plain "umask" umaskCommand,
  .special "times" times,
  .plain "ulimit" ulimit,
  .plain "hash" hashCommand,
  .plain "type" (describeAll 0)]

end Assay.Shell
