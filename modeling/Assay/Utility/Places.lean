import Assay.Utility.Calendar
import Assay.Utility.Folders

/-!
# Places and times

Utilities that tell or make up places, and those that tell or set times.
-/

set_option autoImplicit false

namespace Assay.Utility

/-!
## Utilities on places

Paths are resolved to the places that they lead to, and names for new files are
made up.
-/

open Shell (Sh octets readable Session)

def mkfifo : Tool := fun _ arguments =>
  withOptions "mkfifo" 1 ⟨"m:Z", [("mode", 'm')], false⟩ arguments fun g => do
    if g.operands.isEmpty then refuse "mkfifo" 1 "missing operand"
    else forEach (fun path =>
      change "mkfifo" (fun e => "cannot create fifo " ++ quotedName path ++ ": " ++ reason e)
        fun s => s.files.create ⟨.pipe, 0o666 &&& (0o777 - s.mask), s.now⟩ s.folder
          (readable path)) 0 g.operands

/-- The place that a path comes to where all but its last name has to exist, with fuel for
the links at its end. -/
def reach (t : FileTree) : Nat → Place → String → Except FileError Place
  | 0, _, _ => .error (.system .tooManyLinks)
  | fuel + 1, folder, path => do
    let v ← t.vacancy folder path
    let p ← v.place
    match t.at? p with
    | some (.link target) => reach t fuel v.parent target
    | some .folder => return p
    | some _ => if v.isClosed then throw (.system .notADirectory) else return p
    | none => return p

/-- The place that parts come to whatever exists, with fuel for them, while so many links are
followed. -/
def wander (t : FileTree) : Nat → Nat → Place → List String → Place
  | 0, _, here, _ => here
  | _, _, here, [] => here
  | fuel + 1, links, here, part :: rest =>
    if part = "" ∨ part = "." then wander t fuel links here rest
    else if part = ".." then wander t fuel links here.dropLast rest
    else
      match t.at? (here ++ [part]), links with
      | some (.link target), more + 1 =>
        wander t fuel more (FileTree.start here target) (FileTree.parts target ++ rest)
      | _, _ => wander t fuel links (here ++ [part]) rest

def settledPlace (s : Session) (mode : Char) (path : String) : Except FileError Place :=
  let path := readable path
  match mode with
  | 'e' => s.files.resolve s.folder path
  | 'm' =>
    if path = "" then .error .notFound
    else .ok (wander s.files 4000 20 (FileTree.start s.folder path) (FileTree.parts path))
  | _ => reach s.files 41 s.folder path

def readlink : Tool := fun _ arguments =>
  withOptions "readlink" 1 ⟨"femnqsvz", [("canonicalize", 'f'), ("canonicalize-existing", 'e'),
    ("canonicalize-missing", 'm'), ("no-newline", 'n'), ("quiet", 'q'), ("silent", 'q'),
    ("verbose", 'v'), ("zero", 'z')], false⟩ arguments fun g => do
    if g.operands.isEmpty then return ← refuse "readlink" 1 "missing operand"
    let isSeveral := 1 < g.operands.length
    if isSeveral && g.has 'n' then blame "readlink" "ignoring --no-newline with multiple arguments"
    let stop := if g.has 'n' && !isSeveral then "" else if g.has 'z' then "\x00" else "\n"
    forEach (fun path => do
      let s ← get
      let found : Except FileError String := match g.last? "fem" with
        | some mode => (settledPlace s mode path).map Place.toPath
        | none => do
          match (← s.files.nodeAt false s.folder (readable path)).entry with
          | .link target => return target
          | _ => throw (FileError.system .invalidArgument)
      match found with
      | .ok text => emit "readlink" (octets text ++ stop)
      | .error e =>
        if g.has 'v' then blame "readlink" (shownName path ++ ": " ++ reason e)
        return 1) 0 g.operands

def relativePath (folder place : Place) : String :=
  let shared := ((folder.zip place).takeWhile fun p => p.1 == p.2).length
  let steps := List.replicate (folder.length - shared) ".." ++ place.drop shared
  if steps.isEmpty then "." else String.intercalate "/" steps

def realpath : Tool := fun _ arguments =>
  withOptions "realpath" 1 ⟨"eEmLPqszR:B:", [("canonicalize-existing", 'e'),
    ("canonicalize-missing", 'm'), ("logical", 'L'), ("physical", 'P'), ("quiet", 'q'),
    ("strip", 's'), ("no-symlinks", 's'), ("zero", 'z'), ("relative-to", 'R'),
    ("relative-base", 'B')], false⟩ arguments fun g => do
    if g.operands.isEmpty then return ← refuse "realpath" 1 "missing operand"
    let mode := (g.last? "em").getD 'f'
    let settle : Session → String → Except FileError Place := fun s path =>
      if g.has 's' && path != "" then
        let whole := readable path
        Except.ok (((Path.names whole).foldl (fun p n => if n = ".." then p.dropLast else p ++ [n])
          (FileTree.start s.folder whole)) : Place)
      else settledPlace s mode path
    let settleFolder : Session → String → Except FileError Place := fun s path => do
      let place ← settle s path
      if mode = 'e' && !(s.files.at? place).any Entry.isFolder then
        throw (FileError.system .notADirectory)
      return place
    let s ← get
    let folder? := g.text? 'R' <|> g.text? 'B'
    match folder?.mapM fun p => (settleFolder s p).mapError (p, ·),
      (g.text? 'B').mapM fun p => (settleFolder s p).mapError (p, ·) with
    | .error (path, e), _ | _, .error (path, e) =>
      blame "realpath" (shownName path ++ ": " ++ reason e)
      return 1
    | .ok folder, .ok base =>
      -- A folder that is not below the base counts for nothing.
      let (folder, base) : Option Place × Option Place := match folder, base with
        | some f, some b => if b.isPrefixOf f then (some f, some b) else (none, some f)
        | f, b => (f, b)
      forEach (fun path => do
        match settle (← get) path with
        | .ok place =>
          let text := match folder with
            | some f => if base.all (·.isPrefixOf place) then relativePath f place else place.toPath
            | none => place.toPath
          emit "realpath" (octets text ++ if g.has 'z' then "\x00" else "\n")
        | .error e =>
          if !g.has 'q' then blame "realpath" (shownName path ++ ": " ++ reason e)
          return 1) 0 g.operands

/-- What a template is made of: what stands before the signs that are filled in, how many of
these there are, and what stands behind them. -/
structure Template where
  front : String
  signs : Nat
  suffix : String

namespace Template

def read (text : String) (suffix : Option String) : Except String Template := do
  if suffix.isSome && !text.endsWith "X" then
    throw ("with --suffix, template " ++ quotedText text ++ " must end in X")
  let (tail, front) := text.toList.reverse.span (· != 'X')
  let whole := front.isEmpty
  let tail := if whole then "" else String.ofList tail.reverse ++ suffix.getD ""
  if tail.contains '/' then
    throw ("invalid suffix " ++ quotedText tail ++ ", contains directory separator")
  let (signs, base) := front.span (· == 'X')
  if signs.length < 3 then
    throw ("too few X's in template " ++ quotedText (text ++ suffix.getD ""))
  return ⟨String.ofList base.reverse, signs.length, tail⟩

def text (t : Template) : String :=
  t.front ++ String.ofList (List.replicate t.signs 'X') ++ t.suffix

def filled (t : Template) (number : Nat) : String :=
  let digits := (toString number).toList.reverse ++ List.replicate t.signs 'a'
  t.front ++ String.ofList (digits.take t.signs) ++ t.suffix

def placed (t : Template) (g : Given) (temporary : String) : Except String Template := do
  let given := ((g.options.filter fun o => o.1 == 'p' || o.1 == 'π').getLast?.map Prod.snd).getD ""
  if g.has 't' then
    if t.text.contains '/' then
      throw ("invalid template, " ++ quotedText t.text ++ ", contains directory separator")
  else if t.front.startsWith "/" then
    throw ("invalid template, " ++ quotedText t.text ++
      "; with --tmpdir, it may not be absolute")
  let folder :=
    if g.has 't' then
      if temporary != "" then temporary else if given != "" then given else "/tmp"
    else if given != "" then given
    else if temporary != "" then temporary
    else "/tmp"
  return { t with front := below folder t.front }

end Template

def mktemp : Tool := fun _ arguments =>
  withOptions "mktemp" 1 ⟨"dp:qtuς:π::", [("directory", 'd'), ("quiet", 'q'), ("dry-run", 'u'),
    ("suffix", 'ς'), ("tmpdir", 'π')], false⟩ arguments
    fun g => do
    let s ← get
    modify fun t => { t with nextProcess := t.nextProcess + 1 }
    if 1 < g.operands.length then return ← refuse "mktemp" 1 "too many templates"
    let isPlaced := g.operands.isEmpty || g.has 't' || g.has 'p' || g.has 'π'
    let temporary := ((s.get? "TMPDIR").map octets).getD ""
    let read := do
      let t ← Template.read (g.operands.headD "tmp.XXXXXXXXXX") (g.text? 'ς')
      if isPlaced then t.placed g temporary else return t
    settle "mktemp" 1 read fun t => do
      let path := t.filled (7919 * s.nextProcess)
      if !g.has 'u' then
        let node : Inode := if g.has 'd' then ⟨.folder, 0o700, s.now⟩ else ⟨.file [], 0o600, s.now⟩
        match s.files.create node s.folder (readable path) with
        | .ok files => set ((← get).withFiles files)
        | .error e =>
          if !g.has 'q' then
            blame "mktemp" ("failed to create " ++ (if g.has 'd' then "directory" else "file") ++
              " via template " ++ quotedText t.text ++ ": " ++ reason e)
          return 1
      emit "mktemp" (path ++ "\n")

end Assay.Utility

namespace Assay.Utility

/-!
## Utilities on times

The time of the last change of a file is set, and dates are shown.
-/

open Shell (Sh octets readable Session)

/-- Reads a stamp of two digits each for month, day, hour and minute, perhaps with a year
before them and seconds behind a point. -/
def stampTime? (now : Int) (text : String) : Option Int := do
  let (digits, second) ← match text.splitOn "." with
    | [ds] => some (ds.toList, 0)
    | [ds, s] => if s.length = 2 then (natural? s).map (ds.toList, ·) else none
    | _ => none
  if !digits.all Char.isDigit then none
  else
    let value := fun (from_ count : Nat) => TimeText.valueOf ((digits.drop from_).take count)
    let year ← match digits.length with
      | 8 => some (Moment.ofTime now).year
      | 10 => some (TimeText.yearOf (digits.take 2))
      | 12 => some (value 0 4)
      | _ => none
    let skip := digits.length - 8
    let t ← TimeText.empty.onDate? year (value skip 2) (value (skip + 2) 2)
    let t ← t.atClock? (value (skip + 4) 2) (value (skip + 6) 2) second 0
    return t.time (Moment.ofTime now)

def touchPath (g : Given) (time : Int) (path : String) : Sh Nat := do
  if path = "-" then return 0
  let fault ← openToTouch
  let s ← get
  let last := !g.has 'h'
  let place? := if last then s.files.resolve s.folder (readable path)
    else s.files.entrance s.folder (readable path)
  match s.files.nodeAt last s.folder (readable path), fault with
  | .ok _, _ =>
    if g.has 'm' || !g.has 'a' then
      if let some number := place?.toOption.bind s.files.number? then
        set (s.withFiles (s.files.alter number fun n => { n with time := time }))
    return 0
  | .error _, some e =>
    blame "touch" ("cannot touch " ++ quotedName path ++ ": " ++ reason e)
    return 1
  | .error e, none =>
    if g.has 'c' && e = .notFound then return 0
    blame "touch" ("setting times of " ++ quotedName path ++ ": " ++ reason e)
    return 1
where
  openToTouch : Sh (Option FileError) := do
    if g.has 'c' || g.has 'h' then return none
    let s ← get
    match s.files.obtain s.making s.folder (readable path) with
    | .ok (files, _) =>
      set (s.withFiles files)
      return none
    | .error e => return if e = .system .isADirectory then none else some e

def timeWords : List (List String) := [["atime", "access", "use"], ["mtime", "modify"]]

def touch : Tool := fun _ arguments =>
  withOptions "touch" 1 ⟨"acd:fhmr:t:τ:", [("no-create", 'c'), ("date", 'd'),
    ("no-dereference", 'h'), ("reference", 'r'), ("time", 'τ')], false⟩ arguments
    fun g => do
    let now := (← get).now
    let kinds := ((g.options.filter fun o => o.1 == 'τ').map Prod.snd).mapM
      (chooseRow "--time" timeWords)
    let stamps := (g.options.filter fun o => o.1 == 't').map Prod.snd
    settleWithHint "touch" 1 kinds fun kinds => do
      let letters := kinds.map fun row => (if row = 0 then 'a' else 'm', "")
      let g := { g with options := letters ++ g.options }
      if let some text := stamps.find? fun text => (stampTime? now text).isNone then
        return ← misdated text
      if !stamps.isEmpty && (g.has 'd' || g.has 'r') then
        return ← refuse "touch" 1 "cannot specify times from more than one source"
      let model ← match g.text? 'r' with
        | some path => do pure (some (path, ← nodeAt (!g.has 'h') path))
        | none => pure none
      let start := match model with
        | some (_, .ok n) => n.time
        | _ => now
      match model, g.text? 'd', g.text? 't' with
      | some (path, .error e), _, _ =>
        blame "touch" ("failed to get attributes of " ++ quotedName path ++ ": " ++ reason e)
        return 1
      | _, some text, _ =>
        match TimeText.read? start text with
        | some time => touchAll g time
        | none => misdated text
      | _, none, some text => touchAll g ((stampTime? now text).getD now)
      | _, none, none => touchAll g start
where
  misdated (text : String) : Sh Nat := do
    blame "touch" ("invalid date format " ++ quotedText text)
    return 1
  touchAll (g : Given) (time : Int) : Sh Nat :=
    if g.operands.isEmpty then refuse "touch" 1 "missing file operand"
    else forEach (touchPath g time) 0 g.operands

def dateFormat? (g : Given) : Option String :=
  if g.has 'R' then some "%a, %d %b %Y %H:%M:%S %z"
  else
    match g.text? 'I', g.text? '3' with
    | some text, _ =>
      if text = "" || text = "date" then some "%Y-%m-%d"
      else if "hours".startsWith text then some "%Y-%m-%dT%H%:z"
      else if "minutes".startsWith text then some "%Y-%m-%dT%H:%M%:z"
      else if text = "seconds" then some "%Y-%m-%dT%H:%M:%S%:z"
      else some "%Y-%m-%dT%H:%M:%S,%N%:z"
    | none, some text =>
      if text = "date" then some "%Y-%m-%d"
      else if text = "seconds" then some "%Y-%m-%d %H:%M:%S%:z"
      else some "%Y-%m-%d %H:%M:%S.%N%:z"
    | none, none => none

def date : Tool := fun _ arguments =>
  withOptions "date" 1 ⟨"d:f:r:uRI::3:s:", [("date", 'd'), ("file", 'f'), ("reference", 'r'),
    ("utc", 'u'), ("universal", 'u'), ("rfc-email", 'R'), ("iso-8601", 'I'), ("rfc-3339", '3'),
    ("set", 's')], false⟩ arguments fun g => do
    let now := (← get).now
    let formats := g.operands.filter fun o => o.startsWith "+"
    match formats, g.operands.filter fun o => !o.startsWith "+" with
    | _ :: extra :: _, _ => refuse "date" 1 ("extra operand " ++ quotedText extra)
    | _, extra :: _ =>
      if !formats.isEmpty then refuse "date" 1 ("extra operand " ++ quotedText extra)
      else
        blame "date" ("invalid date " ++ quotedText extra)
        return 1
    | _, [] =>
      let f := ((formats.head?.map fun f => (f.drop 1).toString).or (dateFormat? g)).getD
        "%a %b %e %H:%M:%S %Z %Y"
      let say := fun (time : Int) => emit "date" ((Moment.ofTime time).shown f ++ "\n")
      match g.text? 'd', g.text? 'r', g.text? 'f' with
      | some text, _, _ =>
        match TimeText.read? now text with
        | some time => say time
        | none =>
          blame "date" ("invalid date " ++ quotedText text)
          return 1
      | none, some path, _ =>
        match ← nodeAt true path with
        | .ok n => say n.time
        | .error e =>
          blame "date" (shownName path ++ ": " ++ reason e)
          return 1
      | none, none, some path =>
        let (read, status) ← contents "date" [path]
        (linesOf (together read)).foldlM (fun status text => do
          match TimeText.read? now text with
          | some time => return max status (← say time)
          | none =>
            blame "date" ("invalid date " ++ quotedText text)
            return 1) status
      | none, none, none => say now

end Assay.Utility
