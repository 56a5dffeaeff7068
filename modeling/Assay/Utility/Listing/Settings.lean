import Assay.Utility.Numbers
import Assay.Utility.Quoted

/-!
# How a list is shown

How a list shows the names in it and how it is laid out, and the options that
settle both.
-/

set_option autoImplicit false

namespace Assay.Utility.Listing

/-!
## Names in lists

A list shows names as they are, or so that what cannot be shown is seen: with
codes, in quotes, or in such a way that a shell would read them back.
-/

inductive Quoting where
  | literal
  | shell (always coded : Bool)
  | double (always : Bool)
  | backslash
  | ofPlace (plain : Char)
deriving DecidableEq

namespace Quoting

def named : List (String × Quoting) := [
  ("literal", .literal), ("shell", .shell false false), ("shell-always", .shell true false),
  ("shell-escape", .shell false true), ("shell-escape-always", .shell true true),
  ("c", .double true), ("c-maybe", .double false), ("escape", .backslash),
  ("locale", .ofPlace '\''), ("clocale", .ofPlace '"')]

/-- Characters with backslashes before some of them and codes for those that cannot be shown. -/
def escaped (special : List Char) (cs : List Char) : List Char :=
  cs.flatMap fun c =>
    if c = '\\' || special.contains c then ['\\', c]
    else if isPrintable c then [c]
    else Quoted.code c

def singled (cs : List Char) : List Char :=
  cs.flatMap fun c => if c = '\'' then "'\\''".toList else [c]

def needsQuotes (coded : Bool) (special cs : List Char) : Bool :=
  let tells := fun (c : Char) => if coded then !isPrintable c else c = '\n' || c = '\t' || c = '\r'
  cs.isEmpty || cs.any tells || cs.any special.contains || cs.any Quoted.specials.contains ||
    cs.any [' ', '\''].contains || (cs.take 1).any Quoted.initials.contains ||
    (cs.length = 1 && cs.any Quoted.braces.contains)

def shown (q : Quoting) (isWide : Bool) (special : List Char) (name : String) : String :=
  let cs := widen name.toList
  let text := fun (cs : List Char) => String.ofList (narrow cs)
  let quoted := fun (cs : List Char) => "\"" ++ text cs ++ "\""
  match q with
  | .literal => name
  | .backslash => text (escaped special cs)
  | .double always =>
    if !always && escaped ('"' :: special) cs = cs then name
    else quoted (escaped ('"' :: special) cs)
  | .shell always coded =>
    if !always && !needsQuotes coded special cs then name
    else if cs.contains '\'' && Quoted.isPlain cs then quoted cs
    else "'" ++ text (if coded then Quoted.nameBody false cs else singled cs) ++ "'"
  | .ofPlace plain =>
    if isWide then
      text ('‘' :: escaped special cs ++ ['’'])
    else
      text (plain :: escaped (plain :: special) cs ++ [plain])

end Quoting

/-!
## Cells in columns

Texts are laid out in columns, as many as a line has room for, or in a row with
commas between them.
-/

structure Line where
  width : Nat
  tab : Nat
  stop : String

def cellWidth (cell : String) : Nat := (widen cell.toList).length

def aligned (left : List Nat) (rows : List (List String)) : List String :=
  let count := rows.foldl (fun n r => max n r.length) 0
  let widths := (List.range count).map fun k =>
    rows.foldl (fun w r => max w ((r[k]?).getD "").length) 0
  rows.map fun r =>
    String.intercalate " " (((r.zip widths).zipIdx).map fun ((cell, w), k) =>
      let space := String.ofList (List.replicate (w - cell.length) ' ')
      if left.contains k then cell ++ space else space ++ cell)

def indent (tab : Nat) : Nat → Nat → Nat → String
  | 0, _, _ => ""
  | fuel + 1, start, stop =>
    if stop ≤ start then ""
    else if tab ≠ 0 && decide ((start + 1) / tab < stop / tab) then
      "\t" ++ indent tab fuel (start + tab - start % tab) stop
    else " " ++ indent tab fuel (start + 1) stop

def columnWidths? (vertical : Bool) (lineWidth count : Nat) (widths : List Nat) :
    Option (List Nat) :=
  let total := widths.length
  let perColumn := (total + count - 1) / count
  let start := List.replicate count 3
  let filled := widths.zipIdx.foldl (fun columns (w, k) =>
    let index := if vertical then k / perColumn else k % count
    columns.modify index (max (w + if index + 1 = count then 0 else 2))) start
  if filled.foldl (· + ·) 0 < lineWidth then some filled else none

def bestWidths (vertical : Bool) (lineWidth : Nat) (widths : List Nat) : Nat → List Nat
  | 0 => [lineWidth]
  | 1 => [lineWidth]
  | count + 1 =>
    match columnWidths? vertical lineWidth (count + 1) widths with
    | some columns => columns
    | none => bestWidths vertical lineWidth widths count

def rowText (l : Line) : Nat → List (String × Nat) → String
  | _, [] => l.stop
  | _, [(cell, _)] => cell ++ l.stop
  | position, (cell, width) :: rest =>
    cell ++ indent l.tab 1000 (position + cellWidth cell) (position + width) ++
      rowText l (position + width) rest

def joined (l : Line) (sign : String) (cells : List String) : String :=
  let go := fun (sofar : List String × Nat) (cell : String) =>
    let length := cellWidth cell
    if sofar.1.isEmpty then ([cell], length)
    else if l.width = 0 || sofar.2 + length + 2 < l.width then
      (cell :: (sign ++ " ") :: sofar.1, sofar.2 + 2 + length)
    else (cell :: (sign ++ l.stop) :: sofar.1, length)
  if cells.isEmpty then ""
  else String.join (cells.foldl go ([], 0)).1.reverse ++ l.stop

def inColumns (l : Line) (vertical : Bool) (cells : List String) : String :=
  if cells.isEmpty then ""
  else if l.width = 0 then joined l " " cells
  else
    let most := min cells.length ((l.width + 2) / 3)
    let columns := bestWidths vertical l.width (cells.map cellWidth) most
    let count := columns.length
    let rows := (cells.length + count - 1) / count
    String.join ((List.range rows).map fun r =>
      let row := (List.range count).filterMap fun k =>
        let index := if vertical then k * rows + r else r * count + k
        (cells[index]?).map fun c => (c, (columns[k]?).getD 0)
      rowText l 0 row)

/-!
## Options of a list

Options settle what is listed, in which order and in which form. Where several
of them settle the same, the last one counts.
-/

inductive Layout where
  | lines
  | columns
  | rows
  | commas
  | full
deriving DecidableEq

inductive Order where
  | unsorted
  | name
  | time
  | size
  | extension
  | version
  | width
deriving DecidableEq

/-- The signs that are shown behind names: after folders, after all that is no file, or also
after files that can be run. -/
inductive Signs where
  | unsigned
  | folders
  | kinds
  | all
deriving DecidableEq

def Signs.rank : Signs → Nat
  | .unsigned => 0
  | .folders => 1
  | .kinds => 2
  | .all => 3

/-- Which names that start with a dot are listed. -/
inductive Hidden where
  | never
  | others
  | all
deriving DecidableEq

/-- Which links stand for what they lead to. -/
inductive Following where
  | never
  | operands
  | folderOperands
  | always
deriving DecidableEq

inductive Unit where
  | count (octets : Nat) (mark : String)
  /-- The unit is that in which a size has few digits; each is so many times the last one. -/
  | scaled (base : Nat)
deriving DecidableEq

structure Settings where
  layout : Option Layout
  order : Option Order
  hidden : Hidden
  ignored : List String
  concealed : List String
  quoting : Option Quoting
  masks : Bool
  signs : Signs
  following : Option Following
  itself : Bool
  recursive : Bool
  reverse : Bool
  foldersFirst : Bool
  numbered : Bool
  blocks : Bool
  labelled : Bool
  numericOwner : Bool
  owner : Bool
  group : Bool
  author : Bool
  width : Option Nat
  tab : Option Nat
  unit : Option Unit
  stop : String
  timeStyle : Option String
  timed : Bool

/-- Why a list cannot be made as it has been asked for. -/
structure Fault where
  status : Nat
  hint : Bool
  text : String

namespace Settings

def usual (layout : Option Layout) (quoting : Option Quoting) : Settings :=
  { layout := layout, order := none, hidden := .never, ignored := [], concealed := [],
    quoting := quoting, masks := false, signs := .unsigned, following := none, itself := false,
    recursive := false, reverse := false, foldersFirst := false, numbered := false,
    blocks := false, labelled := false, numericOwner := false, owner := true, group := true,
    author := false, width := none, tab := none, unit := none, stop := "\n",
    timeStyle := none, timed := false }

def choose {α : Type} (option : String) (rows : List (List String × α)) (word : String) :
    Except Fault (Option α) :=
  match chooseRow option (rows.map Prod.fst) word with
  | .ok n => .ok ((rows[n]?).map Prod.snd)
  | .error text => .error ⟨1, true, text⟩

def whens : List (List String × Bool) := [
  (["always", "yes", "force"], true), (["never", "no", "none"], false),
  (["auto", "tty", "if-tty"], false)]

def orders : List (List String × Order) := [
  (["none"], .unsorted), (["time"], .time), (["size"], .size), (["extension"], .extension),
  (["version"], .version), (["width"], .width)]

def times : List (List String × PUnit) := [
  (["atime", "access", "use"], ⟨⟩), (["ctime", "status"], ⟨⟩), (["mtime", "modification"], ⟨⟩),
  (["birth", "creation"], ⟨⟩)]

def layouts : List (List String × Layout) := [
  (["verbose", "long"], .full), (["commas"], .commas), (["horizontal", "across"], .rows),
  (["vertical"], .columns), (["single-column"], .lines)]

def signWords : List (List String × Signs) := [
  (["none"], .unsigned), (["slash"], .folders), (["file-type"], .kinds), (["classify"], .all)]

def quotings : List (List String × Quoting) := Quoting.named.map fun q => ([q.1], q.2)

/-- What stands behind a size in a unit that has been given by its letters alone. -/
def markOf (letters : List Char) : String :=
  match letters with
  | [] => ""
  | c :: more =>
    let isDecimal := more = ['B']
    let letter := if isDecimal && c.toUpper = 'K' then 'k' else c.toUpper
    String.ofList (letter :: if more = ['D'] then [] else more)

def unit? (text : String) : Except Fault Unit :=
  let wrong := fun (start rest : String) =>
    Except.error ⟨2, false, start ++ "--block-size argument '" ++ text ++ "'" ++ rest⟩
  let body := if text.startsWith "'" then (text.drop 1).toString else text
  if body != "" && "human-readable".startsWith body then .ok (.scaled 1024)
  else if body != "" && "si".startsWith body then .ok (.scaled 1000)
  else
    match Numeral.read "eEgGkKmMpPtTyYzZ0" false body with
    | .ok n =>
      if n ≤ 0 then wrong "invalid " ""
      else if body.toList.any Char.isDigit then .ok (.count n.toNat "")
      else .ok (.count n.toNat (markOf body.toList))
    | .error .beyond => wrong "" " too large"
    | .error .malformed =>
      if (body.toList.head?).any Char.isDigit then wrong "invalid suffix in " ""
      else wrong "invalid " ""

def width? (text : String) : Option Nat :=
  if text.startsWith "0" then
    if text.toList.all fun c => '0' ≤ c && c ≤ '7' then
      some (text.toList.foldl (fun n c => n * 8 + (c.toNat - '0'.toNat)) 0)
    else none
  else
    match Numeral.read "" false text with
    | .ok n => some n.toNat
    | .error .beyond => some 0
    | .error .malformed => none

def simple (s : Settings) : Option Layout :=
  if s.layout = some .full then s.layout else some .lines

def step (s : Settings) (o : Char × String) : Except Fault Settings :=
  match o with
  | ('a', _) => .ok { s with hidden := .all }
  | ('A', _) => .ok { s with hidden := .others }
  | ('b', _) => .ok { s with quoting := some .backslash }
  | ('B', _) => .ok { s with ignored := "*~" :: ".*~" :: s.ignored }
  | ('c', _) | ('u', _) => .ok { s with timed := true }
  | ('C', _) => .ok { s with layout := some .columns }
  | ('d', _) => .ok { s with itself := true }
  | ('f', _) =>
    .ok { s with
      hidden := .all, order := some .unsorted, blocks := false
      layout := if s.layout = some .full then none else s.layout }
  | ('F', text) =>
    if text = "" then .ok { s with signs := .all }
    else
      (choose "--classify" whens text).map fun c =>
        if c = some true then { s with signs := .all } else s
  | ('g', _) => .ok { s with layout := some .full, owner := false }
  | ('G', _) => .ok { s with group := false }
  | ('h', _) => .ok { s with unit := some (.scaled 1024) }
  | ('H', _) => .ok { s with following := some .operands }
  | ('i', _) => .ok { s with numbered := true }
  | ('I', text) => .ok { s with ignored := text :: s.ignored }
  | ('l', _) => .ok { s with layout := some .full }
  | ('L', _) => .ok { s with following := some .always }
  | ('m', _) => .ok { s with layout := some .commas }
  | ('n', _) => .ok { s with layout := some .full, numericOwner := true }
  | ('N', _) => .ok { s with quoting := some .literal }
  | ('o', _) => .ok { s with layout := some .full, group := false }
  | ('p', _) => .ok { s with signs := .folders }
  | ('q', _) => .ok { s with masks := true }
  | ('Q', _) => .ok { s with quoting := some (.double true) }
  | ('r', _) => .ok { s with reverse := true }
  | ('R', _) => .ok { s with recursive := true }
  | ('s', _) => .ok { s with blocks := true }
  | ('S', _) => .ok { s with order := some .size }
  | ('t', _) => .ok { s with order := some .time }
  | ('T', text) =>
    match Numeral.natural "" 0 "invalid tab size" text with
    | .ok n => .ok { s with tab := some n }
    | .error text => .error ⟨2, false, text⟩
  | ('U', _) => .ok { s with order := some .unsorted }
  | ('v', _) => .ok { s with order := some .version }
  | ('w', text) =>
    match width? text with
    | some n => .ok { s with width := some n }
    | none => .error ⟨2, false, "invalid line width: " ++ quotedText text⟩
  | ('x', _) => .ok { s with layout := some .rows }
  | ('X', _) => .ok { s with order := some .extension }
  | ('Z', _) => .ok { s with labelled := true }
  | ('1', _) => .ok { s with layout := s.simple }
  | ('φ', _) => .ok { s with layout := some .full, timeStyle := some "full-iso" }
  | ('γ', _) => .ok { s with foldersFirst := true }
  | ('κ', _) => .ok { s with signs := .kinds }
  | ('σ', _) => .ok { s with unit := some (.scaled 1000) }
  | ('η', _) => .ok { s with following := some .folderOperands }
  | ('δ', text) => .ok { s with concealed := text :: s.concealed }
  | ('ι', text) =>
    (choose "--indicator-style" signWords text).map fun c => { s with signs := c.getD .unsigned }
  | ('θ', text) => (choose "--quoting-style" quotings text).map fun c => { s with quoting := c }
  | ('ω', text) => (choose "--format" layouts text).map fun c => { s with layout := c }
  | ('ψ', _) => .ok { s with masks := false }
  | ('ρ', text) => (choose "--sort" orders text).map fun c => { s with order := c }
  | ('τ', text) => (choose "--time" times text).map fun _ => { s with timed := true }
  | ('ξ', text) => .ok { s with timeStyle := some text }
  | ('ζ', _) =>
    .ok { s with stop := "\x00", masks := false, layout := s.simple, quoting := some .literal }
  | ('χ', text) =>
    if text = "" then .ok s else (choose "--color" whens text).map fun _ => s
  | ('λ', text) =>
    if text = "" then .ok s else (choose "--hyperlink" whens text).map fun _ => s
  | ('β', text) => (unit? text).map fun u => { s with unit := some u }
  | ('μ', _) => .ok { s with author := true }
  | _ => .ok s

end Settings

def options : Options :=
  ⟨"abcdfghiklmnopqrstuvw:xABCDF::GHI:LNQRST:UXZ1φγκσηδ:ι:θ:ω:ψρ:τ:ξ:ζχ::λ::β:μ",
    [("all", 'a'), ("escape", 'b'), ("directory", 'd'), ("dired", 'D'), ("full-time", 'φ'),
      ("group-directories-first", 'γ'), ("human-readable", 'h'), ("inode", 'i'),
      ("kibibytes", 'k'), ("numeric-uid-gid", 'n'), ("no-group", 'G'),
      ("hide-control-chars", 'q'), ("reverse", 'r'), ("size", 's'), ("width", 'w'),
      ("almost-all", 'A'), ("ignore-backups", 'B'), ("classify", 'F'), ("file-type", 'κ'),
      ("si", 'σ'), ("dereference-command-line", 'H'),
      ("dereference-command-line-symlink-to-dir", 'η'), ("hide", 'δ'), ("ignore", 'I'),
      ("indicator-style", 'ι'), ("dereference", 'L'), ("literal", 'N'), ("quote-name", 'Q'),
      ("quoting-style", 'θ'), ("recursive", 'R'), ("format", 'ω'), ("show-control-chars", 'ψ'),
      ("sort", 'ρ'), ("tabsize", 'T'), ("time", 'τ'), ("time-style", 'ξ'), ("zero", 'ζ'),
      ("color", 'χ'), ("hyperlink", 'λ'), ("block-size", 'β'), ("context", 'Z'),
      ("author", 'μ')], false⟩

end Assay.Utility.Listing
