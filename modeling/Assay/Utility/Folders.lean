import Assay.Host.Rights
import Assay.Utility.Basic
import Assay.Utility.Numbers

/-!
# Rights, and creating and removing

Utilities that change what stands at a path, and who may do what with it.
-/

set_option autoImplicit false

namespace Assay.Utility

open Shell (Sh readable)
open Rights

/-!
## Utilities on rights

The rights to what stands at a path are set or changed.
-/

def nodeAt (last : Bool) (path : String) : Sh (Except FileError Inode) := do
  let s ← get
  return s.files.nodeAt last s.folder (readable path)

def forEach (body : String → Sh Nat) (status : Nat) : List String → Sh Nat
  | [] => return status
  | operand :: rest => do forEach body (max status (← body operand)) rest

def below (folder name : String) : String :=
  if folder.endsWith "/" then folder ++ name else folder ++ "/" ++ name

def sortedNames (s : Shell.Session) (path : String) : List String :=
  match s.files.list s.folder (readable path) with
  | .error _ => []
  | .ok names => (names.map Shell.octets).mergeSort fun a b => decide (a ≤ b)

def isRightsArgument (argument : String) : Bool :=
  match argument.toList with
  | '-' :: c :: _ => "rwxXstugoa,+=01234567".toList.contains c
  | _ => false

def rightsNote (path : String) (old new : Nat) : String :=
  if old = new then
    "mode of " ++ quotedName path ++ " retained as " ++ digits new ++ " (" ++ text new ++ ")\n"
  else
    "mode of " ++ quotedName path ++ " changed from " ++ digits old ++ " (" ++ text old ++
      ") to " ++ digits new ++ " (" ++ text new ++ ")\n"

/-- Sets the rights of what stands at a path. Where they have been given in the form of an
option, those that the mask of the shell has kept from changing are a failure. -/
def changeRights (g : Given) (changes : List Change) (path : String) : Sh Nat := do
  let s ← get
  match ← nodeAt true path with
  | .error e =>
    if !g.has 'f' then
      if (← nodeAt false path).toBool then
        blame "chmod" ("cannot operate on dangling symlink " ++ quotedName path)
      else blame "chmod" ("cannot access " ++ quotedName path ++ ": " ++ reason e)
    if g.last? "vc" == some 'v' then
      let _ ← emit "chmod" (quotedName path ++ " could not be accessed\n")
    return 1
  | .ok n =>
    let mode := applyAll changes s.mask n.entry.isFolder n.mode
    match s.files.numberAt? s.folder (readable path) with
    | none => return 1
    | some number =>
      if g.has 'ρ' && s.files.entrance s.folder (readable path) matches .ok [] then
        blame "chmod" ("it is dangerous to operate recursively on " ++ quotedName path)
        blame "chmod" "use --no-preserve-root to override this failsafe"
        return 1
      set (s.withFiles (s.files.alter number fun n => { n with mode := mode }))
      let status ← match g.last? "vc" with
        | some 'v' => emit "chmod" (rightsNote path n.mode mode)
        | some _ => if n.mode = mode then pure 0 else emit "chmod" (rightsNote path n.mode mode)
        | none => pure 0
      let wanted := applyAll changes 0 n.entry.isFolder n.mode
      if g.has 'ω' && mode &&& (every - wanted) ≠ 0 then
        blame "chmod" (shownName path ++ ": new permissions are " ++ text mode ++ ", not " ++
          text wanted)
        return 1
      return status

/-- Sets the rights of what stands at a path and below it. Links below it are left alone. -/
def changeRightsBelow (g : Given) (changes : List Change) : Nat → String → Sh Nat
  | 0, _ => return 0
  | fuel + 1, path => do
    let status ← changeRights g changes path
    let s ← get
    if s.files.isFolder s.folder (readable path) then
      (sortedNames s path).foldlM (fun status n => do
        let inner := below path n
        if s.files.isLink s.folder (readable inner) then
          if g.last? "vc" == some 'v' then
            return max status (← emit "chmod" ("neither symbolic link " ++ quotedName inner ++
              " nor referent has been changed\n"))
          else return status
        else return max status (← changeRightsBelow g changes fuel inner)) status
    else return status

/-- The options for setting rights. Three stand for what has been found out about rights that
look like options, and for the root of all folders. -/
def rightsOptions : Options :=
  ⟨"Rvcfρωζ:π", [("changes", 'c'), ("recursive", 'R'), ("no-preserve-root", 'π'),
    ("preserve-root", 'ρ'), ("quiet", 'f'), ("reference", 'ζ'), ("silent", 'f'),
    ("verbose", 'v')], false⟩

def chmod : Tool := fun _ arguments => do
  let (before, after) := arguments.span (· != "--")
  let given := before.filter isRightsArgument
  let arguments := before.filter (fun a => !isRightsArgument a) ++ after
  withOptions "chmod" 1 rightsOptions arguments fun g => do
    let g : Given :=
      { g with options := g.options.filter fun o => o.1 != 'ρ' || g.has 'R' && g.last? "πρ" == some 'ρ' }
    let settled := if given.isEmpty then none else some (String.intercalate "," given)
    match g.text? 'ζ', settled, g.operands with
    | some _, some _, _ => refuse "chmod" 1 "cannot combine mode and --reference options"
    | some _, none, [] | none, some _, [] | none, none, [] => refuse "chmod" 1 "missing operand"
    | none, none, [mode] => refuse "chmod" 1 ("missing operand after " ++ quotedText mode)
    | some model, none, paths =>
      match ← nodeAt true model with
      | .error e =>
        blame "chmod" ("failed to get attributes of " ++ quotedName model ++ ": " ++ reason e)
        return 1
      | .ok n => carryOut g [⟨every, .set, .bits n.mode false, every⟩] paths
    | none, some mode, paths =>
      withChanges mode (carryOut { g with options := ('ω', "") :: g.options } · paths)
    | none, none, mode :: paths => withChanges mode (carryOut g · paths)
where
  carryOut (g : Given) (changes : List Change) (paths : List String) : Sh Nat :=
    forEach (if g.has 'R' then changeRightsBelow g changes 64 else changeRights g changes) 0 paths
  withChanges (mode : String) (body : List Change → Sh Nat) : Sh Nat :=
    match read? mode with
    | some changes => body changes
    | none => refuse "chmod" 1 ("invalid mode: " ++ quotedText mode)

end Assay.Utility

namespace Assay.Utility

open Shell (Sh octets readable Session)

/-!
## Creating and removing

Folders are created, and what stands at a path is removed, alone or with all
that is below it.
-/

def entryAt (path : String) : Sh (Except FileError Entry) := do
  return (← nodeAt true path).map Inode.entry

def withoutSlashes (path : String) : String :=
  let cs := (path.toList.reverse.dropWhile (· == '/')).reverse
  if cs.isEmpty && path != "" then "/" else String.ofList cs

def lastName (path : String) : String :=
  String.ofList ((path.toList.reverse.dropWhile (· == '/')).takeWhile (· != '/')).reverse

def change (name : String) (text : FileError → String)
    (f : Session → Except FileError FileTree) : Sh Nat := do
  let s ← get
  match f s with
  | .ok files =>
    set (s.withFiles files)
    return 0
  | .error e =>
    blame name (text e)
    return 1

def confirm (question : String) : Sh Bool := do
  noteQuoted question
  let cs ← Shell.remainingInput
  Shell.leaveInput ((cs.dropWhile (· != '\n')).drop 1)
  return cs.head? == some 'y' || cs.head? == some 'Y'

def giveRights (changes : List Rights.Change) (path : String) : Sh Unit :=
  modify fun s =>
    match s.files.numberAt? s.folder (readable path) with
    | some number =>
      s.withFiles (s.files.alter number fun n =>
        { n with mode := Rights.applyAll changes s.mask n.entry.isFolder n.mode })
    | none => s

def pathsTo (path : String) : List String :=
  let parts := (withoutSlashes path).splitOn "/"
  ((List.range parts.length).map fun n => String.intercalate "/" (parts.take (n + 1))).filter
    (· != "")

def makeFolder (g : Given) (changes : Option (List Rights.Change)) (path : String) : Sh Nat := do
  let blameFor := fun (path : String) (e : FileError) => do
    blame "mkdir" ("cannot create directory " ++ quotedText path ++ ": " ++ reason e)
    return 1
  let create := fun (path : String) => do
    let s ← get
    match s.files.createFolder s.making s.folder (readable path) with
    | .error e => return some e
    | .ok files =>
      set (s.withFiles files)
      if g.has 'v' then
        let _ ← emit "mkdir" ("mkdir: created directory " ++ quotedName path ++ "\n")
      return none
  if g.has 'p' then
    let mut last := none
    for part in pathsTo path do
      if !((← entryAt part).toOption.any Entry.isFolder) then
        match ← create part with
        | some e =>
          return ← blameFor part (if e = .system .alreadyExists && part ≠ withoutSlashes path then
            .system .notADirectory else e)
        | none => last := some part
    if last == some (withoutSlashes path) then
      if let some changes := changes then giveRights changes path
    if path = "" then return ← blameFor path .notFound
    return 0
  else
    match ← create path with
    | some e => blameFor path e
    | none =>
      if let some changes := changes then giveRights changes path
      return 0

def mkdir : Tool := fun _ arguments =>
  withOptions "mkdir" 1 ⟨"pvm:Z", [("parents", 'p'), ("verbose", 'v'), ("mode", 'm')], false⟩
    arguments fun g => do
    if g.operands.isEmpty then refuse "mkdir" 1 "missing operand"
    else
      match g.text? 'm' with
      | none => forEach (makeFolder g none) 0 g.operands
      | some mode =>
        match Rights.read? mode with
        | some changes =>
          -- Changes are made to the rights that everybody has.
          let changes := ⟨Rights.every, .set, .bits 0o777 false, 0⟩ :: changes
          forEach (makeFolder g (some changes)) 0 g.operands
        | none =>
          blame "mkdir" ("invalid mode " ++ quotedText mode)
          return 1

def isClosedLink (path : String) : Sh Bool := do
  return path.endsWith "/" &&
    (← nodeAt false (withoutSlashes path)).toOption.any fun n => n.entry.isLink

def removeEmpty (path : String) : Sh (Option String) := do
  let s ← get
  let isFile : Bool := match s.files.stat s.folder (readable path) with
    | .ok n => !n.isFolder
    | .error e => e = .system .notADirectory
  if (← isClosedLink path) && !isFile then
    return some "Symbolic link not followed"
  match s.files.entrance s.folder (readable path) with
  | .error e => return some (reason e)
  | .ok place =>
    if !(s.files.at? place).any Entry.isFolder then return some SystemError.notADirectory.text
    else if lastName path = "." then return some SystemError.invalidArgument.text
    else if !(s.files.childNames place).isEmpty then return some SystemError.notEmpty.text
    else
      set (s.withFiles (s.files.remove place))
      return none

def removeFolders (g : Given) : Nat → Bool → String → Sh Nat
  | 0, _, _ => return 0
  | fuel + 1, isFirst, path => do
    if g.has 'v' then
      let _ ← emit "rmdir" ("rmdir: removing directory, " ++ quotedName path ++ "\n")
    match ← removeEmpty path with
    | some e =>
      if g.has 'I' && e = SystemError.notEmpty.text then return 0
      blame "rmdir" ("failed to remove " ++ (if isFirst then "" else "directory ") ++
        quotedName path ++ ": " ++ e)
      return 1
    | none =>
      let above := withoutSlashes (String.ofList
        ((withoutSlashes path).toList.reverse.dropWhile (· != '/')).reverse)
      if g.has 'p' && above != "" && above != "/" then removeFolders g fuel false above
      else return 0

def rmdir : Tool := fun _ arguments =>
  withOptions "rmdir" 1 ⟨"pvI", [("verbose", 'v'), ("parents", 'p'),
    ("ignore-fail-on-non-empty", 'I')], false⟩ arguments fun g => do
    if g.operands.isEmpty then refuse "rmdir" 1 "missing operand"
    else forEach (fun path => removeFolders g (path.length + 1) true path) 0 g.operands

def kindName (n : Entry) : String :=
  match n with
  | .folder => "directory"
  | .link _ => "symbolic link"
  | .device _ => "character special file"
  | .pipe => "fifo"
  | .file [] => "regular empty file"
  | _ => "regular file"

inductive Asking where
  | never
  | once
  | always
deriving DecidableEq

structure Removal where
  recursive : Bool
  empties : Bool
  verbose : Bool
  asking : Asking
  lenient : Bool

namespace Removal

def askingWords : List (List String) := [["never", "no", "none"], ["once"], ["always", "yes"]]

def ofGiven (g : Given) : Except String Removal :=
  g.options.foldlM (fun (r : Removal) o =>
      match o.1 with
      | 'f' => .ok { r with asking := .never, lenient := true }
      | 'i' => .ok { r with asking := .always, lenient := false }
      | 'I' => .ok { r with asking := .once, lenient := false }
      | 'α' =>
        if o.2 = "" then .ok { r with asking := .always, lenient := false }
        else
          (chooseRow "--interactive" askingWords o.2).map fun row =>
            match row with
            | 0 => { r with asking := .never }
            | 1 => { r with asking := .once, lenient := false }
            | _ => { r with asking := .always, lenient := false }
      | _ => .ok r)
    ⟨g.has 'r' || g.has 'R', g.has 'd', g.has 'v', .never, false⟩

def single (r : Removal) (place : Place) (kind path : String) : Sh (Bool × Nat) := do
  let entry := ((← get).files.at? place).getD .folder
  if r.asking = .always then
    if !(← confirm ("rm: remove " ++ kindName entry ++ " " ++ quotedName path ++ "? ")) then
      return (false, 0)
  modify fun t => t.withFiles (t.files.remove place)
  if r.verbose then return (true, ← emit "rm" ("removed " ++ kind ++ quotedName path ++ "\n"))
  else return (true, 0)

/-- What came of removing something: a status, and whether the folders above have to stay,
which then are not asked about. -/
structure Outcome where
  status : Nat
  holds : Bool

def refused (path : String) (e : FileError) : Sh Outcome := do
  blame "rm" ("cannot remove " ++ quotedName path ++ ": " ++ reason e)
  return ⟨1, true⟩

def emptied (r : Removal) (place : Place) (path : String) : Sh Outcome := do
  if (← isClosedLink path) then refused path (.system .notADirectory)
  else if ((← get).files.childNames place).isEmpty then
    let (isGone, status) ← r.single place "directory " path
    return ⟨status, !isGone⟩
  else if r.asking = .always &&
      !(← confirm ("rm: remove directory " ++ quotedName path ++ "? ")) then
    return ⟨0, false⟩
  else refused path (.system .notEmpty)

def path (r : Removal) : Nat → String → Sh Outcome
  | 0, _ => return ⟨0, false⟩
  | fuel + 1, path => do
    let s ← get
    let name := lastName path
    if r.recursive && (name == "." || name == "..") then
      blame "rm" ("refusing to remove '.' or '..' directory: skipping " ++ quotedName path)
      return ⟨1, true⟩
    match s.files.nodeAt false s.folder (readable path),
      s.files.entrance s.folder (readable path) with
    | .ok n, .ok place =>
      if n.entry.isFolder then
        let names := s.files.childNames place
        if !r.recursive then
          if !r.empties then refused path (.system .isADirectory)
          else if !names.isEmpty then refused path (.system .notEmpty)
          else r.emptied place path
        else if place.isEmpty then
          blame "rm" "it is dangerous to operate recursively on '/'"
          blame "rm" "use --no-preserve-root to override this failsafe"
          return ⟨1, true⟩
        else
          if r.asking = .always && !names.isEmpty then
            if !(← confirm ("rm: descend into directory " ++ quotedName path ++ "? ")) then
              return ⟨0, true⟩
          let below ← names.foldlM (fun (o : Outcome) n => do
            let o' ← r.path fuel (below path (octets n))
            return ⟨max o.status o'.status, o.holds || o'.holds⟩) ⟨0, false⟩
          if below.holds then return below
          let own ← r.emptied place path
          return ⟨max below.status own.status, own.holds⟩
      else if path.endsWith "/" then
        if r.lenient then return ⟨0, false⟩ else refused path (.system .notADirectory)
      else
        let (_, status) ← r.single place "" path
        return ⟨status, false⟩
    | .error e, _ | _, .error e =>
      if r.lenient && (e = .notFound || e = .system .notADirectory || e = .nulByte) then
        return ⟨0, false⟩
      else if ← isClosedLink path then refused path (.system .notADirectory)
      else refused path e

def options : Options :=
  ⟨"rRfvidIα::πρ::ξ", [("recursive", 'r'), ("force", 'f'), ("verbose", 'v'), ("dir", 'd'),
    ("interactive", 'α'), ("preserve-root", 'ρ'), ("no-preserve-root", 'π'),
    ("one-file-system", 'ξ')], false⟩

def complain (text : String) (arguments : List String) : Sh Nat := do
  blame "rm" text
  let s ← get
  if text.startsWith "invalid option" then
    let looksAlike := arguments.find? fun a => a.startsWith "-" && a.length > 1 &&
      (s.files.nodeAt false s.folder (readable a)).toBool
    if let some name := looksAlike then
      noteQuoted ("Try '" ++ (← ownName "rm") ++ " ./" ++ name ++ "' to remove the file " ++
        quotedName name ++ ".\n")
  noteQuoted ("Try '" ++ (← ownName "rm") ++ " --help' for more information.\n")
  return 1

end Removal

def rm : Tool := fun _ arguments => do
  match Removal.options.parseAll arguments with
  | .error text => Removal.complain text arguments
  | .ok (given, operands) =>
    let g : Given := ⟨given, operands⟩
    let roots := (given.filter fun o => o.1 == 'ρ' && o.2 != "" && o.2 != "all").map Prod.snd
    if g.has 'π' && !arguments.contains "--no-preserve-root" then
      blame "rm" "you may not abbreviate the --no-preserve-root option"
      return 1
    if let some word := roots.head? then
      blame "rm" ("unrecognized --preserve-root argument: " ++ quotedName word)
      return 1
    settleWithHint "rm" 1 (Removal.ofGiven g) fun r => do
      if operands.isEmpty then
        return ← if r.lenient then pure 0 else refuse "rm" 1 "missing operand"
      if r.asking = .once && (3 < operands.length || r.recursive) then
        let count := operands.length
        if !(← confirm ("rm: remove " ++ toString count ++ " argument" ++
            (if count = 1 then "" else "s") ++
            (if r.recursive then " recursively? " else "? "))) then
          return 0
      forEach (fun path => do return (← r.path 64 path).status) 0 operands

def unlink : Tool := fun _ arguments =>
  withOptions "unlink" 1 ⟨"", [], true⟩ arguments fun g => do
    match g.operands with
    | [] => refuse "unlink" 1 "missing operand"
    | [path] =>
      let s ← get
      match s.files.entrance s.folder (readable path) with
      | .ok place =>
        if (s.files.at? place).any Entry.isFolder then
          blame "unlink" ("cannot unlink " ++ quotedName path ++ ": " ++ SystemError.isADirectory.text)
          return 1
        set (s.withFiles (s.files.remove place))
        return 0
      | .error e =>
        blame "unlink" ("cannot unlink " ++ quotedName path ++ ": " ++ reason e)
        return 1
    | _ :: extra :: _ => refuse "unlink" 1 ("extra operand " ++ quotedText extra)

end Assay.Utility
