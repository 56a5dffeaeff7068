import Assay.Utility.Numbers
import Assay.Utility.Places

/-!
# Copying and moving

What stands at a path is copied, moved or linked to another path, or into a
folder.
-/

set_option autoImplicit false

namespace Assay.Utility

open Shell (Sh octets readable Session)

def sourcesAndTarget (name : String) (g : Given) : Sh (Option (List String × String)) := do
  match g.text? 't', g.operands.reverse with
  | _, [] =>
    blameWithHint name "missing file operand"
    return none
  | some folder, _ => return some (g.operands, folder)
  | none, [only] =>
    blameWithHint name ("missing destination file operand after " ++ quotedName only)
    return none
  | none, target :: sources => return some (sources.reverse, target)

def goesInto? (name : String) (g : Given) (target : String) (sources : List String) :
    Sh (Option Bool) := do
  if g.has 'T' then
    if let _ :: extra :: _ := sources ++ [target] then
      if 1 < sources.length then
        blameWithHint name ("extra operand " ++ quotedName (if sources.length = 2 then target else extra))
        return none
    return some false
  let isFolder := (← entryAt target).toOption.any Entry.isFolder
  let isKept := g.has 'n' && name = "ln" && ((← nodeAt false target).toOption.any (·.entry.isLink))
  if isFolder && !isKept then return some true
  if sources.length ≤ 1 && (g.text? 't').isNone then return some false
  let what := if (g.text? 't').isSome then "target directory " else "target "
  blame name (what ++ quotedName target ++ ": " ++
    match ← entryAt target with
    | .ok _ => SystemError.notADirectory.text
    | .error e => reason e)
  return none

def within (folder source : String) : String :=
  below folder (if lastName source = "" then "/" else lastName source)

def isSameNode (a b : String) : Sh Bool := do
  let s ← get
  let number? := fun path => s.files.numberAt? s.folder (readable path)
  return (number? a).isSome && number? a == number? b

def backupWords : List (List String) :=
  [["none", "off"], ["simple", "never"], ["existing", "nil"], ["numbered", "t"]]

/-- Settles how what would be overwritten is named: the letter for it then stands among the
options with the first word of its row, and with no other text. -/
def withBackup (name : String) (g : Given) (body : Given → Sh Nat) : Sh Nat := do
  let others := g.options.filter fun o => o.1 != 'b' && o.1 != 'β'
  let control := ((g.options.filter fun o => o.1 == 'β' && o.2 != "").getLast?.map Prod.snd).getD
    "existing"
  settleWithHint name 1 (chooseRow "backup type" backupWords control) fun row =>
    let word := ((backupWords.getD row []).headD "")
    if !(g.has 'b' || g.has 'β' || g.has 'S') || word = "none" then body { g with options := others }
    else body { g with options := others ++ [('b', word)] }

def backupNumber? (base name : String) : Option Nat :=
  if name.startsWith (base ++ ".~") && name.endsWith "~" then
    natural? ((name.drop (base.length + 2)).dropEnd 1).toString
  else none

def backupOf (g : Given) (path : String) : Sh String := do
  let s ← get
  let base := lastName path
  let siblings := match s.files.target s.folder (readable path) with
    | .ok p => (s.files.childNames p.dropLast).map octets
    | .error _ => []
  let numbers := siblings.filterMap (backupNumber? base)
  if g.text? 'b' == some "numbered" || (g.text? 'b' == some "existing" && !numbers.isEmpty) then
    return path ++ ".~" ++ toString (numbers.foldl max 0 + 1) ++ "~"
  else return path ++ (g.text? 'S').getD "~"

def keepBackup (g : Given) (path : String) : Sh (Option String) := do
  if !g.has 'b' then return none
  let name ← backupOf g path
  let s ← get
  match s.files.entrance s.folder (readable path), s.files.target s.folder (readable name) with
  | .ok p, .ok q =>
    set (s.withFiles (s.files.rename p q))
    return some name
  | _, _ => return none

def backupNote (backup : Option String) : String :=
  match backup with
  | some name => " (backup: " ++ quotedName name ++ ")"
  | none => ""

def sayCopied (g : Given) (source path : String) (backup : Option String) : Sh Nat := do
  if !g.has 'v' then return 0
  emit "cp" (quotedName source ++ " -> " ++ quotedName path ++ backupNote backup ++ "\n")

def commonWords : List (List String) :=
  [["mode"], ["timestamps"], ["ownership"], ["links"], ["context"], ["xattr"], ["all"]]

/-- Numbers of the words that an option names, or those of the usual ones. -/
def readCommon (option text : String) : Except String (List Nat) :=
  if text = "" then .ok [0, 1, 2] else (text.splitOn ",").mapM (chooseRow option commonWords)

def common (g : Given) : Except String (List Nat) :=
  g.options.foldlM (fun (kept : List Nat) o =>
    match o.1 with
    | 'p' => .ok (kept ++ [0, 1, 2])
    | 'a' => .ok (kept ++ [6])
    | 'ρ' => (readCommon "--preserve" o.2).map (kept ++ ·)
    | 'ν' => (readCommon "--no-preserve" o.2).map fun dropped =>
        if dropped.contains 6 then [] else kept.filter fun n => !dropped.contains n
    | _ => .ok kept) []

def keeps (g : Given) (what : Nat) : Bool :=
  ((common g).toOption.getD []).any fun n => n == what || n == 6

def copyRights (g : Given) (n : Inode) (path : String) : Sh Unit := do
  modify fun s =>
    match (s.files.entrance s.folder (readable path)).toOption.bind s.files.number? with
    | some number =>
      s.withFiles (s.files.alter number fun m =>
        { m with mode := if keeps g 0 then n.mode else m.mode
                 time := if keeps g 1 then n.time else m.time })
    | none => s

def putNode (name : String) (what path : String) (f : Session → Place → FileTree) : Sh Nat := do
  change name (fun e => "cannot create " ++ what ++ quotedName path ++ ": " ++ reason e)
    fun s => do
      let p ← s.files.target s.folder (readable path)
      return f s p

def copyFile (g : Given) (n : Inode) (source path : String) : Sh Nat := do
  let s ← get
  let there := (← nodeAt false path).toOption
  if there.isSome then
    if ← isSameNode source path then
      if !(n.entry.isLink && there.any (fun m => !m.entry.isLink)) && !g.has 'd' then
        if g.has 'l' && !(there.any fun m => m.entry.isLink) then return 0
        let isLink := there.any fun m => m.entry.isLink
        if !(g.has 'b' || (g.has 'R' || g.has 'M') && isLink) then
          blame "cp" (quotedName source ++ " and " ++ quotedName path ++ " are the same file")
          return 1
    if there.any (·.entry.isFolder) then
      blame "cp" ("cannot overwrite directory " ++ quotedName path ++ " with non-directory")
      return 1
    match g.last? "nfi" with
    | some 'n' => return 0
    | some 'i' => if !(← confirm ("cp: overwrite " ++ quotedName path ++ "? ")) then return 1
    | _ => pure ()
    if g.has 'u' then
      let current := (← nodeAt true path).toOption
      match g.text? 'u' with
      | some "none" => return 0
      | some "all" => pure ()
      | _ => if current.any fun m => decide (n.time ≤ m.time) then return 0
  let backup ← if there.isSome then keepBackup g path else pure none
  let remove : Sh Unit := modify fun t =>
    match t.files.entrance t.folder (readable path) with
    | .ok p => t.withFiles (t.files.remove p)
    | .error _ => t
  let status ←
    if g.has 'l' then do
      match (s.files.entrance s.folder (readable source)).toOption.bind s.files.number? with
      | some number =>
        if there.isSome && !g.has 'f' && !g.has 'b' then
          blame "cp" ("cannot create hard link " ++ quotedName path ++ " to " ++ quotedName source ++
            ": " ++ SystemError.alreadyExists.text)
          return 1
        putNode "cp" "hard link " path fun s p => s.files.name p number
      | none => return 1
    else if g.has 's' then do
      let outer := (s.files.target s.folder (readable path)).toOption.map List.dropLast
      if !source.startsWith "/" && outer != some s.folder then
        blame "cp" (shownName path ++ ": can make relative symbolic links only in current directory")
        return 1
      if there.isSome && !g.has 'f' && !g.has 'b' then
        blame "cp" ("cannot create symbolic link " ++ quotedName path ++ " to " ++ quotedName source ++
          ": " ++ SystemError.alreadyExists.text)
        return 1
      putNode "cp" "symbolic link " path fun s p => s.files.put p (s.making.link (readable source))
    else
      match n.entry with
      | .link target =>
        putNode "cp" "symbolic link " path fun s p => s.files.put p (s.making.link target)
      | .program p =>
        putNode "cp" "regular file " path fun s q =>
          s.files.put q ⟨.program p, n.mode &&& (0o777 - s.mask), s.now⟩
      | .pipe =>
        putNode "cp" "fifo " path fun s q => s.files.put q ⟨.pipe, n.mode, s.now⟩
      | _ => do
        match ← content source with
        | .error u =>
          blame "cp" ("cannot open " ++ quotedName source ++ " for reading: " ++ u.text)
          return 1
        | .ok cs =>
          let t ← get
          let isDangling := there.any (·.entry.isLink) && !(← nodeAt true path).toBool
          if isDangling && !g.has 'M' then
            blame "cp" ("not writing through dangling symlink " ++ quotedName path)
            return 1
          if g.has 'M' then remove
          let cs := if g.has 'α' then [] else cs
          let isNew := !(← nodeAt true path).toBool
          let text := "cannot create regular file " ++ quotedName path ++ ": "
          if path.endsWith "/" && there.isNone then
            let e := match t.files.vacancy t.folder (readable path) with
              | .error e => e
              | .ok _ => .system .notADirectory
            blame "cp" (text ++ reason e)
            return 1
          let isFull := (← entryAt path).toOption == some (.device .full)
          let text := if isFull then "error writing " ++ quotedName path ++ ": " else text
          let status ← change "cp" (fun e => text ++ reason e) fun s =>
            s.files.writeFile s.making s.folder (readable path) (Shell.bytesOf cs)
          if status = 0 && isNew then
            modify fun s =>
              match s.files.numberAt? s.folder (readable path) with
              | some number => s.withFiles (s.files.alter number fun m =>
                  { m with mode := n.mode &&& (0o777 - s.mask) })
              | none => s
          pure status
  if status = 0 then
    copyRights g n path
    sayCopied g source path backup
  else return status

def followsLink (g : Given) (isTop : Bool) : Bool :=
  match g.last? "LPHda" with
  | some 'L' => true
  | some 'H' => isTop
  | some _ => false
  | none => !(g.has 'r' || g.has 'R') && !g.has 's' && !g.has 'l'

/-- Copies what stands at a path, with what is below it; the place at which the copy of all
starts is left out. -/
def copyFrom (g : Given) : Nat → Option Place → String → String → Sh Nat
  | 0, _, _, _ => return 0
  | fuel + 1, top, source, path => do
    match ← nodeAt (followsLink g top.isNone) source with
    | .error e =>
      blame "cp" ("cannot stat " ++ quotedName source ++ ": " ++ reason e)
      return 1
    | .ok n =>
      if !n.entry.isFolder then
        if let .error (.system .notADirectory) ← nodeAt true path then
          if !path.endsWith "/" then
            blame "cp" ("cannot stat " ++ quotedName path ++ ": " ++ SystemError.notADirectory.text)
            return 1
        return ← copyFile g n source path
      if !(g.has 'r' || g.has 'R' || g.has 'a') then
        blame "cp" ("-r not specified; omitting directory " ++ quotedName source)
        return 1
      let s ← get
      let there := (← entryAt path).toOption
      if there.any fun e => !e.isFolder then
        blame "cp" ("cannot overwrite non-directory " ++ quotedName path ++ " with directory " ++
          quotedName source)
        return 1
      match s.files.target s.folder (readable path),
        s.files.resolve s.folder (readable source) with
      | .error e, _ | _, .error e =>
        blame "cp" ("cannot create directory " ++ quotedName path ++ ": " ++ reason e)
        return 1
      | .ok q, .ok p =>
        if some p == top then
          return 0
        if there.isNone then
          modify fun t => t.withFiles
            (t.files.put q ⟨.folder, n.mode &&& (0o7777 - t.mask), t.now⟩)
          let _ ← sayCopied g source path none
        let isInside := p.isPrefixOf q
        let top := top.getD q
        let t ← get
        let status ← (t.files.childNames p).foldlM (fun status name => do
          if isInside && p ++ [name] == top then
            blame "cp" ("cannot copy a directory, " ++ quotedName source ++ ", into itself, " ++
              quotedName path)
            return 1
          return max status
            (← copyFrom g fuel (some top) (below source (octets name)) (below path (octets name)))) 0
        copyRights g n path
        return status

def copyOptions : Options :=
  ⟨"abdfHilLnpPrRsS:t:Tu::vxZMβ::αγσ:ρ::ν:ζ::πτ", [("archive", 'a'), ("attributes-only", 'α'),
    ("backup", 'β'), ("copy-contents", 'γ'), ("debug", 'v'), ("dereference", 'L'), ("force", 'f'),
    ("interactive", 'i'), ("link", 'l'), ("no-clobber", 'n'), ("no-dereference", 'P'),
    ("no-preserve", 'ν'), ("no-target-directory", 'T'), ("one-file-system", 'x'),
    ("parents", 'π'), ("path", 'π'), ("preserve", 'ρ'), ("recursive", 'r'),
    ("remove-destination", 'M'), ("sparse", 'σ'), ("reflink", 'ζ'),
    ("strip-trailing-slashes", 'τ'), ("suffix", 'S'), ("symbolic-link", 's'),
    ("target-directory", 't'), ("update", 'u'), ("verbose", 'v'), ("context", 'Z')], false⟩

def checkWords (g : Given) : Except String Unit := do
  let _ ← common g
  for (c, text) in g.options do
    if c = 'u' && text != "" then
      let _ ← chooseRow "--update" [["all"], ["none"], ["older"]] text
    if c = 'σ' then
      let _ ← chooseRow "--sparse" [["never"], ["auto"], ["always"]] text
    if c = 'ζ' && text != "" then
      let _ ← chooseRow "--reflink" [["auto"], ["always"], ["never"]] text

def strippedSources (g : Given) (sources : List String) : List String :=
  if !g.has 'τ' then sources
  else sources.map fun source =>
    let kept := source.toList.reverse.dropWhile (· == '/')
    if kept.isEmpty then source else String.ofList kept.reverse

def eachOnce (name : String) (into : Bool) (act : String → String → Sh Nat) :
    Nat → List String → List String → List (String × String) → Sh Nat
  | status, _, _, [] => return status
  | status, seen, made, (source, path) :: rest => do
    let isFolder := (← nodeAt false source).toOption.any fun n => n.entry.isFolder
    if into && seen.contains source && (name = "cp" || isFolder) then
      blame name ("warning: source " ++ (if isFolder then "directory " else "file ") ++
        quotedName source ++ " specified more than once")
      eachOnce name into act status seen made rest
    else if into && !isFolder && made.contains path && (← nodeAt false source).toBool then
      blame name ("will not overwrite just-created " ++ quotedName path ++ " with " ++
        quotedName source)
      eachOnce name into act 1 seen made rest
    else
      let left ← act source path
      let made := if left = 0 then path :: made else made
      eachOnce name into act (max status left) (source :: seen) made rest

/-- Lets a letter that takes no text, but may be given one by its longer name, stand before
others. -/
def splitUpdate (arguments : List String) : List String :=
  arguments.flatMap fun a =>
    match a.toList with
    | '-' :: 'u' :: c :: cs => if c = '-' then [a] else ["-u", String.ofList ('-' :: c :: cs)]
    | _ => [a]

def makeParents (g : Given) (folder : String) : List String → String → Sh Unit
  | [], _ => return
  | [_], _ => return
  | part :: rest, before => do
    let source := before ++ part
    let path := below folder source
    if part != "" && !(← nodeAt true path).toBool then
      let s ← get
      match s.files.target s.folder (readable path) with
      | .ok q =>
        let mode := match s.files.nodeAt true s.folder (readable source) with
          | .ok n => n.mode
          | .error _ => 0o777
        set (s.withFiles (s.files.put q ⟨.folder, mode &&& (0o7777 - s.mask), s.now⟩))
        if g.has 'v' then
          let _ ← emit "cp" (source ++ " -> " ++ path ++ "\n")
      | .error _ => pure ()
    makeParents g folder rest (source ++ "/")

def cp : Tool := fun _ arguments =>
  withOptions "cp" 1 copyOptions (splitUpdate arguments) fun g =>
    settleWithHint "cp" 1 (checkWords g) fun _ =>
    withBackup "cp" g fun g => do
    if g.has 'n' then
      blame "cp" ("warning: behavior of -n is non-portable and may change in future; " ++
        "use --update=none instead")
    match ← sourcesAndTarget "cp" g with
    | none => return 1
    | some (sources, target) =>
      let sources := strippedSources g sources
      match ← goesInto? "cp" g target sources with
      | none => return 1
      | some into =>
        if g.has 'π' && !into then
          return ← refuse "cp" 1 "with --parents, the destination must be a directory"
        let path := fun (source : String) =>
          if g.has 'π' then below target (String.ofList (source.toList.dropWhile (· == '/')))
          else if into then within target source else target
        eachOnce "cp" into (fun source path => do
          if g.has 'π' then makeParents g target (source.splitOn "/") ""
          copyFrom g 64 none source path) 0 [] [] (sources.map fun source => (source, path source))

def movePath (g : Given) (source path : String) : Sh Nat := do
  let s ← get
  let fail := fun (text : String) => do
    blame "mv" text
    return 1
  let cannot := "cannot move " ++ quotedName source ++ " to " ++ quotedName path ++ ": "
  match s.files.nodeAt false s.folder (readable source),
    s.files.entrance s.folder (readable source) with
  | .error e, _ | _, .error e => fail ("cannot stat " ++ quotedName source ++ ": " ++ reason e)
  | .ok n, .ok p =>
    match s.files.target s.folder (readable path) with
    | .error e =>
      if path = "" then fail ("cannot overwrite directory " ++ quotedName path ++ " with non-directory")
      else if e = .system .notADirectory && !path.endsWith "/" then
        fail ("cannot stat " ++ quotedName path ++ ": " ++ reason e)
      else fail (cannot ++ reason e)
    | .ok q =>
      let there := s.files.node? q
      if q == p || (there.isSome && s.files.number? p == s.files.number? q) then
        return ← fail (quotedName source ++ " and " ++ quotedName path ++ " are the same file")
      if n.entry.isFolder && there.any fun m => !m.entry.isFolder then
        return ← fail ("cannot overwrite non-directory " ++ quotedName path ++ " with directory " ++
          quotedName source)
      if !n.entry.isFolder && there.any fun m => m.entry.isFolder then
        return ← fail ("cannot overwrite directory " ++ quotedName path ++ " with non-directory")
      if lastName source = "." ∨ lastName source = ".." then
        return ← fail (cannot ++ SystemError.busy.text)
      if n.entry.isFolder && p.isPrefixOf q then
        return ← fail ("cannot move " ++ quotedName source ++ " to a subdirectory of itself, " ++
          quotedName path)
      if there.isNone && path.endsWith "/" && !n.entry.isFolder then
        return ← fail (cannot ++ SystemError.notADirectory.text)
      if there.isSome then
        match g.last? "nfi" with
        | some 'n' => return ← fail ("not replacing " ++ quotedName path)
        | some 'i' => if !(← confirm ("mv: overwrite " ++ quotedName path ++ "? ")) then return 1
        | _ => pure ()
        if g.has 'u' then
          match g.text? 'u' with
          | some "none" => return 0
          | some "all" => pure ()
          | _ => if there.any fun m => decide (n.time ≤ m.time) then return 0
        if n.entry.isFolder && !g.has 'b' && !(s.files.childNames q).isEmpty then
          return ← fail ("cannot overwrite " ++ quotedName path ++ ": " ++ SystemError.notEmpty.text)
      let backup ← if there.isSome then keepBackup g path else pure none
      modify fun t => t.withFiles (t.files.rename p q)
      if g.has 'v' then
        emit "mv" ("renamed " ++ quotedName source ++ " -> " ++ quotedName path ++
          backupNote backup ++ "\n")
      else return 0

def mv : Tool := fun _ arguments =>
  withOptions "mv" 1 ⟨"bfinS:t:Tu::vZβ::τ", [("backup", 'β'), ("context", 'Z'), ("debug", 'v'),
    ("force", 'f'), ("interactive", 'i'), ("no-clobber", 'n'), ("no-target-directory", 'T'),
    ("strip-trailing-slashes", 'τ'), ("suffix", 'S'), ("target-directory", 't'), ("update", 'u'),
    ("verbose", 'v')], false⟩ (splitUpdate arguments) fun g =>
    settleWithHint "mv" 1 (checkWords g) fun _ =>
    withBackup "mv" g fun g => do
    match ← sourcesAndTarget "mv" g with
    | none => return 1
    | some (sources, target) =>
      let sources := strippedSources g sources
      match ← goesInto? "mv" g target sources with
      | none => return 1
      | some into =>
        eachOnce "mv" into (movePath g) 0 [] []
          (sources.map fun source => (source, if into then within target source else target))

def linkPath (g : Given) (source path : String) : Sh Nat := do
  let s ← get
  let symbolic := g.has 's' || g.has 'r'
  let kind := if symbolic then "symbolic" else "hard"
  let fail := fun (text : String) => do
    blame "ln" text
    return 1
  let failed := "failed to create " ++ kind ++ " link " ++ quotedName path
  if !symbolic then
    match ← nodeAt (g.has 'L') source with
    | .error e => return ← fail ("failed to access " ++ quotedName source ++ ": " ++ reason e)
    | .ok n =>
      if n.entry.isFolder then
        return ← fail (shownName source ++ ": hard link not allowed for directory")
  match s.files.target s.folder (readable path) with
  | .error e =>
    fail (failed ++ (if symbolic then "" else " => " ++ quotedName source) ++ ": " ++ reason e)
  | .ok p =>
    let there := s.files.node? p
    if there.isSome then
      if there.any fun m => m.entry.isFolder then
        return ← fail (if g.has 'f' then quotedName path ++ ": cannot overwrite directory"
          else failed ++ ": " ++ SystemError.alreadyExists.text)
      if !(g.has 'f' || g.has 'b' || g.has 'S' || g.has 'i') then
        return ← fail (failed ++ ": " ++ SystemError.alreadyExists.text)
      let isSame := if symbolic then
          (s.files.target s.folder (readable source)).toOption == some p && g.has 'f' &&
            !(there.any fun m => m.entry.isLink)
        else s.files.numberAt? s.folder (readable source) == s.files.number? p
      if isSame then
        return ← fail (quotedName source ++ " and " ++ quotedName path ++ " are the same file")
      if g.last? "if" == some 'i' then
        if !(← confirm ("ln: replace " ++ quotedName path ++ "? ")) then return 1
    let backup ← if there.isSome then keepBackup g path else pure none
    let t ← get
    let made? :=
      if symbolic then
        if source = "" then none
        else
          let target := if g.has 'r' then
              match t.files.target t.folder (readable source) with
              | .ok q => relativePath p.dropLast q
              | .error _ => readable source
            else readable source
          some (t.files.put p (t.making.link target))
      else
        let followed := if g.has 'L' then t.files.resolve t.folder (readable source)
          else t.files.entrance t.folder (readable source)
        (followed.toOption.bind t.files.number?).map fun number => t.files.name p number
    match made? with
    | none =>
      fail ("failed to create symbolic link " ++ quotedName path ++ " -> " ++ quotedName source ++ ": " ++
        SystemError.notFound.text)
    | some files =>
      set (t.withFiles files)
      if g.has 'v' then
        let kept := (backup.map fun name => quotedName name ++ " ~ ").getD ""
        emit "ln" (kept ++ quotedName path ++ (if symbolic then " -> " else " => ") ++
          quotedName source ++ "\n")
      else return 0

def ln : Tool := fun _ arguments =>
  withOptions "ln" 1 ⟨"bdfFiLnPrsS:t:Tvβ::", [("backup", 'β'), ("directory", 'F'),
    ("no-dereference", 'n'), ("no-target-directory", 'T'), ("force", 'f'), ("interactive", 'i'),
    ("suffix", 'S'), ("target-directory", 't'), ("logical", 'L'), ("physical", 'P'),
    ("relative", 'r'), ("symbolic", 's'), ("verbose", 'v')], false⟩ arguments fun g =>
    withBackup "ln" g fun g => do
    match g.operands, g.text? 't' with
    | [only], none =>
      if g.has 'T' then
        refuse "ln" 1 ("missing destination file operand after " ++ quotedName only)
      else linkPath g only (within "." only)
    | _, _ =>
      match ← sourcesAndTarget "ln" g with
      | none => return 1
      | some (sources, target) =>
        match ← goesInto? "ln" g target sources with
        | none => return 1
        | some into =>
          forEach (fun source => linkPath g source (if into then within target source else target)) 0
            sources

def link : Tool := fun _ arguments =>
  withOptions "link" 1 ⟨"", [], true⟩ arguments fun g => do
    match g.operands with
    | [] => refuse "link" 1 "missing operand"
    | [only] => refuse "link" 1 ("missing operand after " ++ quotedText only)
    | [source, path] =>
      let s ← get
      let linked := do
        let number := (← s.files.entrance s.folder (readable source)) |> s.files.number?
        let p ← s.files.target s.folder (readable path)
        if (s.files.at? p).isSome then throw (FileError.system .alreadyExists)
        return (s.files.name p (number.getD 0) : FileTree)
      match linked with
      | .ok files =>
        set (s.withFiles files)
        return 0
      | .error e =>
        blame "link" ("cannot create link " ++ quotedName path ++ " to " ++ quotedName source ++ ": " ++
          reason e)
        return 1
    | _ :: _ :: extra :: _ => refuse "link" 1 ("extra operand " ++ quotedText extra)

end Assay.Utility
