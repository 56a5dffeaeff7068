import Assay.Utility.Facts
import Assay.Utility.Listing.Settings
import Assay.Utility.Version

/-!
# Listing folders

What stands at some paths and in folders is listed: one name on a line, in
columns, or each with what is known of it.
-/

set_option autoImplicit false

namespace Assay.Utility

open Shell (Sh octets readable Session)

namespace Listing

structure Item where
  name : String
  place : Place
  node : Inode
  beyond : Option Inode
  isKnown : Bool

structure View where
  settings : Settings
  session : Session
  isWide : Bool

namespace View

def layout (v : View) : Layout := v.settings.layout.getD .lines

/-- What things are sorted by; a time that is asked for counts where it is not shown. -/
def order (v : View) : Order :=
  v.settings.order.getD (if v.settings.timed && v.layout ≠ .full then .time else .name)

def following (v : View) : Following :=
  v.settings.following.getD
    (if v.settings.itself || v.settings.signs = .all || v.layout = .full then .never
    else .folderOperands)

def needsFacts (v : View) : Bool :=
  v.layout = .full || v.settings.blocks || v.settings.labelled || v.settings.numbered ||
    v.settings.recursive || v.settings.foldersFirst || v.settings.signs ≠ .unsigned ||
    v.order = .time || v.order = .size

end View

def extensionOf (name : String) : String :=
  match name.toList.reverse.span (· != '.') with
  | (_, []) => ""
  | (tail, _ :: _) => "." ++ String.ofList tail.reverse

def Order.compare (o : Order) (a b : Item) : Ordering :=
  let byName := Ord.compare a.name b.name
  match o with
  | .size => (Ord.compare (entrySize b.node.entry) (entrySize a.node.entry)).then byName
  | .time => (Ord.compare b.node.time a.node.time).then byName
  | .extension => (Ord.compare (extensionOf a.name) (extensionOf b.name)).then byName
  | .version => (compareVersions a.name.toList b.name.toList).then byName
  | .width => (Ord.compare (cellWidth a.name) (cellWidth b.name)).then byName
  | _ => byName

namespace View

def inOrder (v : View) (items : List Item) : List Item :=
  if v.order = .unsorted then items
  else
    let isFirst := fun (i : Item) =>
      v.settings.foldersFirst && (i.node.entry.isFolder || i.beyond.any fun n => n.entry.isFolder)
    let ordered := items.mergeSort fun a b => (v.order.compare a b).isLE
    let ordered := if v.settings.reverse then ordered.reverse else ordered
    ordered.filter isFirst ++ ordered.filter fun i => !isFirst i

def sign (v : View) (n : Inode) : String :=
  let rank := v.settings.signs.rank
  match n.entry with
  | .folder => if 1 ≤ rank then "/" else ""
  | .link _ => if 2 ≤ rank then "@" else ""
  | .pipe => if 2 ≤ rank then "|" else ""
  | .device _ => ""
  | _ => if 3 ≤ rank && n.isExecutable then "*" else ""

def styled (v : View) (inTitle : Bool) (name : String) : String :=
  let quoting := v.settings.quoting.getD .literal
  let special := (if quoting = .backslash then [' '] else []) ++
    (match v.settings.signs with
      | .kinds => "*=>@|".toList
      | .all => "=>@|".toList
      | _ => []) ++ if inTitle then [':'] else []
  let text := quoting.shown v.isWide special name
  if v.settings.masks then
    String.ofList (narrow ((widen text.toList).map fun c => if isPrintable c then c else '?'))
  else text

end View

/-- A size by a few digits with a letter for its power. -/
def human (base : Nat) (n : Nat) : String :=
  let letters := if base = 1000 then "kMGTPEZY".toList else "KMGTPEZY".toList
  let rec scale : Nat → Nat → List Char → String
    | 0, _, _ => toString n
    | _, _, [] => toString n
    | fuel + 1, unit, c :: cs =>
      let tenths := (n * 10 + unit - 1) / unit
      if tenths < 100 then
        toString (tenths / 10) ++ "." ++ toString (tenths % 10) ++ String.singleton c
      else
        let whole := (n + unit - 1) / unit
        if whole < base then toString whole ++ String.singleton c
        else scale fuel (unit * base) cs
  if n < base then toString n else scale 10 base letters

def Unit.shown (u : Unit) (n : Nat) : String :=
  match u with
  | .count octets mark => toString ((n + octets - 1) / octets) ++ mark
  | .scaled base => human base n

namespace View

def sizeText (v : View) (n : Nat) : String := (v.settings.unit.getD (.count 1 "")).shown n

def blocksText (v : View) (n : Nat) : String :=
  (v.settings.unit.getD (.count 1024 "")).shown (n * 512)

def timeFormats (v : View) : Except Fault (String × String) :=
  let styles := [("full-iso", "%Y-%m-%d %H:%M:%S.%N %z", "%Y-%m-%d %H:%M:%S.%N %z"),
    ("long-iso", "%Y-%m-%d %H:%M", "%Y-%m-%d %H:%M"), ("iso", "%Y-%m-%d ", "%m-%d %H:%M"),
    ("locale", "%b %e  %Y", "%b %e %H:%M")]
  let usual := ("%b %e  %Y", "%b %e %H:%M")
  let style := v.settings.timeStyle.getD (((v.session.get? "TIME_STYLE").map octets).getD "locale")
  if style.startsWith "posix-" then .ok usual
  else if style.startsWith "+" then
    match ((style.drop 1).toString).splitOn "\n" with
    | [both] => .ok (both, both)
    | [old, recent] => .ok (old, recent)
    | _ =>
      .error ⟨2, false, "invalid time style format " ++ quotedText (style.drop 1).toString⟩
  else
    match styles.find? fun s => s.1 == style, styles.filter fun s => s.1.startsWith style with
    | some s, _ | none, [s] => .ok s.2
    | none, found =>
      .error ⟨2, true, (if found.isEmpty then "invalid" else "ambiguous") ++ " argument " ++
        quotedText style ++ " for ‘time style’\nValid arguments are:" ++
        String.join (styles.map fun s => "\n  - [posix-]" ++ s.1) ++
        "\n  - +FORMAT (e.g., +%H:%M) for a 'date'-style format"⟩

def timeText (v : View) (i : Item) : String :=
  let (usual, recent) := v.timeFormats.toOption.getD ("", "")
  let now := v.session.now
  let isRecent := i.node.time ≤ now && decide (now - i.node.time < 15778476 * billion)
  if i.isKnown then (Moment.ofTime i.node.time).shown (if isRecent then recent else usual)
  else
    let width := ((Moment.ofTime 0).shown usual).length
    String.ofList (List.replicate (width - 1) ' ') ++ "?"

def heads (v : View) (i : Item) : List String :=
  let known := fun (text : String) => if i.isKnown then text else "?"
  (if v.settings.numbered then
      [known (toString (1000000 + (v.session.files.number? i.place).getD 0))]
    else []) ++
    if v.settings.blocks then [known (v.blocksText (entryBlocks i.node.entry))] else []

def fullColumns (v : View) (i : Item) : List (String × Bool) :=
  let known := fun (text : String) => if i.isKnown then text else "?"
  let owner := (known (if v.settings.numericOwner then "0" else "root"), !v.settings.numericOwner)
  let size := match i.node.entry with
    | .device _ => "1, 3"
    | e => v.sizeText (entrySize e)
  let rights := Rights.kindLetter i.node.entry ++
    if i.isKnown then Rights.text i.node.mode else "?????????"
  (v.heads i).map (·, false) ++
    [(rights, true), (known (toString (linksOf v.session i.node i.place)), false)] ++
    (if v.settings.owner then [owner] else []) ++ (if v.settings.group then [owner] else []) ++
    (if v.settings.author then [owner] else []) ++
    (if v.settings.labelled then [("?", true)] else []) ++ [(known size, false)]

def named (v : View) (i : Item) : String :=
  match i.node.entry, v.layout, i.isKnown with
  | .link target, .full, true =>
    v.styled false i.name ++ " -> " ++ v.styled false (octets target) ++
      (i.beyond.map v.sign).getD ""
  | _, _, _ => v.styled false i.name ++ v.sign i.node

def line (v : View) : Line :=
  let asked := (v.session.get? "COLUMNS").bind fun t => if t = "" then none else Settings.width? t
  let tab := (v.session.get? "TABSIZE").bind natural?
  ⟨v.settings.width.getD (asked.getD 80), v.settings.tab.getD (tab.getD 8), v.settings.stop⟩

def shown (v : View) (items : List Item) : String :=
  let stop := v.settings.stop
  match v.layout with
  | .full =>
    let columns := items.map v.fullColumns
    let left := ((columns.headD []).zipIdx.filter fun c => c.1.2).map Prod.snd
    let rows := aligned left (columns.map fun c => c.map Prod.fst)
    String.join ((rows.zip items).map fun (row, i) =>
      row ++ " " ++ v.timeText i ++ " " ++ v.named i ++ stop)
  | l =>
    let heads := items.map fun i => v.heads i ++ if v.settings.labelled then ["?"] else []
    let heads := if l = .commas then heads.map (String.intercalate " ") else aligned [] heads
    let cells := (heads.zip items).map fun (head, i) =>
      (if head = "" then "" else head ++ " ") ++ v.named i
    match l with
    | .columns => inColumns v.line true cells
    | .rows => inColumns v.line false cells
    | .commas => joined v.line "," cells
    | _ => String.join (cells.map fun c => c ++ stop)

def isListed (v : View) (name : String) : Bool :=
  let matchesText := fun (pattern : String) =>
    (!name.startsWith "." || pattern.startsWith ".") &&
    Shell.PatternItem.matchesAll
      (Shell.PatternItem.read (pattern.toList.map fun c => ⟨false, c⟩)) name.toList
  let hides := v.settings.hidden = .never
  !(hides && (name.startsWith "." || v.settings.concealed.any matchesText)) &&
    !v.settings.ignored.any matchesText

def itemAt? (v : View) (isOperand : Bool) (name path : String) : Except FileError Item := do
  let files := v.session.files
  let here := v.session.folder
  let path := readable path
  let beyond := files.nodeAt true here path
  let place ← files.entrance here path
  let leadsToFolder := beyond.toOption.any fun n => n.entry.isFolder
  let follows := match v.following with
    | .always => true
    | .operands => isOperand
    | .folderOperands => isOperand && leadsToFolder
    | .never => false
  if follows then
    let node ← beyond
    return ⟨name, (files.resolve here path).toOption.getD place, node, some node, true⟩
  else return ⟨name, place, ← files.nodeAt false here path, beyond.toOption, true⟩

def entryAt? (v : View) (folder name : String) : Option (Item × List String) :=
  let path := below folder name
  match v.itemAt? false name path with
  | .ok i => some (i, [])
  | .error e => do
    let i ← ({ v with settings.following := some .never : View }.itemAt? false name path).toOption
    if v.needsFacts then
      return ({ i with isKnown := false }, ["cannot access " ++ quotedName path ++ ": " ++ reason e])
    else return (i, [])

def itemsIn (v : View) (path : String) : List (Item × List String) :=
  match v.session.files.list v.session.folder (readable path) with
  | .error _ => []
  | .ok names =>
    let dots := if v.settings.hidden = .all then [".", ".."] else []
    ((dots ++ names.map octets).filter v.isListed).filterMap (v.entryAt? path)

def folderBlocks (v : View) (titled : Bool) : Nat → String → List String × List String
  | 0, _ => ([], [])
  | fuel + 1, path =>
    let found := v.itemsIn path
    let items := v.inOrder (found.map Prod.fst)
    let blocks := items.foldl (fun n i => n + entryBlocks i.node.entry) 0
    let total := if v.layout = .full || v.settings.blocks then
      "total " ++ v.blocksText blocks ++ v.settings.stop else ""
    let title := if titled then v.styled true path ++ ":\n" else ""
    let here := title ++ total ++ v.shown items
    let inner := if v.settings.recursive then
        (items.filter fun i => i.node.entry.isFolder && i.name != "." && i.name != "..").map
          fun i => folderBlocks v titled fuel (below path i.name)
      else []
    (here :: inner.flatMap Prod.fst, found.flatMap Prod.snd ++ inner.flatMap Prod.snd)

end View

end Listing

open Listing

def listedOperands (name : String) (v : View) : List String → Sh (List Item × Nat)
  | [] => return ([], 0)
  | operand :: rest => do
    match v.itemAt? true operand operand with
    | .ok i =>
      let (more, status) ← listedOperands name v rest
      return (i :: more, status)
    | .error e =>
      blame name ("cannot access " ++ quotedName operand ++ ": " ++ reason e)
      let (more, _) ← listedOperands name v rest
      return (more, 2)

def listWith (name : String) (usual : Listing.Settings) : Tool := fun _ arguments =>
  withOptions name 2 Listing.options arguments fun g => do
    let fail := fun (f : Fault) => do
      if f.hint then blameWithHint name f.text else blame name f.text
      return f.status
    match g.options.foldlM Listing.Settings.step usual with
    | .error f => fail f
    | .ok settings =>
      let v : View := ⟨settings, ← get, ← isWide⟩
      let asked := ((v.session.get? "COLUMNS").map octets).getD ""
      if [Layout.columns, .rows, .commas].contains v.layout && settings.width.isNone &&
          asked != "" && (Listing.Settings.width? asked).isNone then
        blame name ("ignoring invalid width in environment variable COLUMNS: " ++
          quotedText asked)
      match v.layout, v.timeFormats with
      | .full, .error f => fail f
      | _, _ =>
        let (items, status) ← listedOperands name v (if g.operands.isEmpty then ["."] else g.operands)
        let isFolder := fun (i : Item) => !settings.itself && i.node.entry.isFolder
        let sorted := v.inOrder items
        let files := sorted.filter fun i => !isFolder i
        let titled := 1 < g.operands.length || settings.recursive
        let blocks := (sorted.filter isFolder).map fun i => v.folderBlocks titled 64 i.name
        let notes := blocks.flatMap Prod.snd
        for note in notes do blame name note
        let status := if status = 0 && !notes.isEmpty then 1 else status
        let all := (if files.isEmpty then [] else [v.shown files]) ++ blocks.flatMap Prod.fst
        emitWith name status (String.intercalate "\n" all)

def ls : Tool := listWith "ls" (Listing.Settings.usual none none)

def dir : Tool := listWith "dir" (Listing.Settings.usual (some .columns) (some .backslash))

def vdir : Tool := listWith "vdir" (Listing.Settings.usual (some .full) (some .backslash))

end Assay.Utility
