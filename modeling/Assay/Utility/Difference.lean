import Assay.Utility.Calendar
import Assay.Utility.Difference.Layout
import Assay.Utility.Numbers
import Assay.Utility.RegexReader

/-!
# The diff utility

Two texts are compared line by line, or two folders file by file, and it is told how
one becomes the other.
-/

set_option autoImplicit false

namespace Assay.Utility

open Shell (Sh readable octets)

namespace Difference

inductive Style where
  | plain
  | copied
  | merged
  | commands
  | forwardCommands
  | counts
  | columns
  | groups
deriving DecidableEq, Repr

structure Settings where
  style : Option Style := none
  context : Nat := 0
  digits : Option Nat := none
  horizon : Nat := 0
  brief : Bool := false
  tellsSame : Bool := false
  recursive : Bool := false
  missing : Bool := false
  leftMissing : Bool := false
  asText : Bool := false
  minimal : Bool := false
  colors : Bool := false
  likeness : Likeness := ⟨.none, false, false, 8⟩
  passEmpty : Bool := false
  passing : List String := []
  heading : Option String := none
  untabs : Bool := false
  tabFirst : Bool := false
  bareEmpty : Bool := false
  width : Nat := 130
  leftOnly : Bool := false
  hidesCommon : Bool := false
  labels : List String := []
  excluded : List String := []
  first : Option String := none
  asked : Asked := {}
  caselessNames : Bool := false
  fromFile : Option String := none
  toFile : Option String := none

/-- Why options are refused; `hinted` tells that help is pointed at. -/
structure Refusal where
  text : String
  hinted : Bool

abbrev Reading := Except Refusal

def refuse {α : Type} (text : String) : Reading α := .error ⟨text, true⟩

def Settings.styled (s : Settings) (style : Style) : Reading Settings :=
  match s.style with
  | none => .ok { s with style := some style }
  | some other =>
    if other = style then .ok s else refuse "conflicting output style options"

def readCount (what text : String) (least : Nat) : Reading Nat :=
  match text.toNat? with
  | some n =>
    if text.all Char.isDigit && least ≤ n then .ok n
    else refuse ("invalid " ++ what ++ " '" ++ text ++ "'")
  | none => refuse ("invalid " ++ what ++ " '" ++ text ++ "'")

def Settings.around (s : Settings) (style : Style) (text : String) : Reading Settings := do
  let n ← if text = "" then pure 3 else readCount "context length" text 0
  let s ← s.styled style
  return { s with context := max s.context n }

def colorWords : List (String × Bool) := [("never", false), ("auto", false), ("always", true)]

def Settings.step (s : Settings) (o : Char × String) : Reading Settings := do
  let (c, text) := o
  let group := fun (change : Asked → Asked) => do
    let s ← s.styled .groups
    return { s with asked := change s.asked }
  let blanks := fun (change : Blanks → Blanks) =>
    { s with likeness := { s.likeness with blanks := change s.likeness.blanks } }
  if c.isDigit then
    let n := c.toNat - '0'.toNat
    return { s with digits := some (s.digits.getD 0 * 10 + n) }
  match c with
  | 'a' => return { s with asText := true }
  | 'b' => return blanks Blanks.withAmounts
  | 'B' => return { s with passEmpty := true }
  | 'c' | 'C' | 'π' => s.around .copied text
  | 'u' | 'U' | 'υ' => s.around .merged text
  | 'd' => return { s with minimal := true }
  | 'D' =>
    let s ← s.styled .groups
    return { s with asked := namedForms text }
  | 'e' => s.styled .commands
  | 'E' => return blanks Blanks.withTabs
  | 'f' => s.styled .forwardCommands
  | 'F' => return { s with heading := some text }
  | 'i' => return { s with likeness := { s.likeness with caseless := true } }
  | 'I' => return { s with passing := s.passing ++ [text] }
  | 'L' =>
    if 2 ≤ s.labels.length then .error ⟨"too many file label options", false⟩
    return { s with labels := s.labels ++ [text] }
  | 'n' => s.styled .counts
  | 'N' => return { s with missing := true }
  | 'p' => return { s with heading := some "^[[:alpha:]$_]" }
  | 'P' => return { s with leftMissing := true }
  | 'q' => return { s with brief := true }
  | 'r' => return { s with recursive := true }
  | 's' => return { s with tellsSame := true }
  | 'S' => return { s with first := some text }
  | 't' => return { s with untabs := true }
  | 'T' => return { s with tabFirst := true }
  | 'w' => return blanks fun _ => .all
  | 'W' => return { s with width := ← readCount "width" text 1 }
  | 'x' => return { s with excluded := s.excluded ++ [text] }
  | 'y' => s.styled .columns
  | 'Z' => return blanks Blanks.withEnds
  | 'ν' => s.styled .plain
  | 'λ' => return { s with leftOnly := true }
  | 'σ' => return { s with hidesCommon := true }
  | 'β' => return { s with bareEmpty := true }
  | 'ρ' => return { s with likeness := { s.likeness with passReturns := true } }
  | 'τ' =>
    let n ← readCount "tabsize" text 1
    return { s with likeness := { s.likeness with tabSize := n } }
  | 'η' => return { s with horizon := max s.horizon (← readCount "horizon length" text 0) }
  | 'κ' =>
    match colorWords.find? fun w => w.1 == (if text = "" then "auto" else text) with
    | some w => return { s with colors := w.2 }
    | none => refuse ("invalid color '" ++ text ++ "'")
  | 'α' => group fun w =>
    { w with sameLine := some text, oldLine := some text, newLine := some text }
  | 'γ' => group fun w => { w with sameLine := some text }
  | 'δ' => group fun w => { w with oldLine := some text }
  | 'ε' => group fun w => { w with newLine := some text }
  | 'ζ' => group fun w => { w with same := some text }
  | 'θ' => group fun w => { w with old := some text }
  | 'ι' => group fun w => { w with new := some text }
  | 'μ' => group fun w => { w with changed := some text }
  | 'ξ' => return { s with fromFile := some text }
  | 'ο' => return { s with toFile := some text }
  | 'φ' => return { s with caselessNames := true }
  | 'χ' => return { s with caselessNames := false }
  | _ => return s

def options : Options :=
  ⟨"0123456789abBcC:dD:eEfF:hHiI:lL:nNpPqrsS:tTuU:vwW:x:X:yZνλσβρτ:η:κ::α:γ:δ:ε:ζ:θ:ι:μ:ξ:ο:φχψω:π::υ::",
    [("binary", 'ψ'), ("brief", 'q'), ("changed-group-format", 'μ'), ("color", 'κ'),
      ("context", 'π'), ("ed", 'e'), ("exclude", 'x'), ("exclude-from", 'X'),
      ("expand-tabs", 't'), ("forward-ed", 'f'), ("from-file", 'ξ'), ("horizon-lines", 'η'),
      ("ifdef", 'D'), ("ignore-all-space", 'w'), ("ignore-blank-lines", 'B'),
      ("ignore-case", 'i'), ("ignore-file-name-case", 'φ'), ("ignore-matching-lines", 'I'),
      ("ignore-space-change", 'b'), ("ignore-tab-expansion", 'E'),
      ("ignore-trailing-space", 'Z'), ("inhibit-hunk-merge", 'ψ'), ("initial-tab", 'T'),
      ("label", 'L'), ("left-column", 'λ'), ("line-format", 'α'), ("minimal", 'd'),
      ("new-file", 'N'), ("new-group-format", 'ι'), ("new-line-format", 'ε'),
      ("no-dereference", 'ψ'), ("no-ignore-file-name-case", 'χ'), ("normal", 'ν'),
      ("old-group-format", 'θ'), ("old-line-format", 'δ'), ("paginate", 'l'),
      ("palette", 'ω'), ("rcs", 'n'), ("recursive", 'r'), ("report-identical-files", 's'),
      ("sdiff-merge-assist", 'ψ'), ("show-c-function", 'p'), ("show-function-line", 'F'),
      ("side-by-side", 'y'), ("speed-large-files", 'H'), ("starting-file", 'S'),
      ("strip-trailing-cr", 'ρ'), ("suppress-blank-empty", 'β'),
      ("suppress-common-lines", 'σ'), ("tabsize", 'τ'), ("text", 'a'), ("to-file", 'ο'),
      ("unchanged-group-format", 'ζ'), ("unchanged-line-format", 'γ'), ("unified", 'υ'),
      ("unidirectional-new-file", 'P'), ("width", 'W')], false⟩

def Settings.settled (s : Settings) : Settings :=
  let s := match s.style, s.heading with
    | none, some _ => { s with style := some .copied, context := max s.context 3 }
    | none, none => { s with style := some .plain }
    | _, _ => s
  { s with context := s.digits.getD s.context }

structure Operand where
  path : String
  entry : Option Inode
  content : List Char
  time : Int
  isMissing : Bool

def Operand.isFolder (o : Operand) : Bool := o.entry.any fun n => n.entry == .folder

def kindOf (n : Inode) : String :=
  match n.entry with
  | .folder => "directory"
  | .file bytes => if bytes.isEmpty then "regular empty file" else "regular file"
  | .link _ => "symbolic link"
  | .device _ => "character special file"
  | _ => "fifo"

def titleName (name : String) : String :=
  let letter? := fun (c : Char) =>
    ([('\x07', 'a'), ('\x08', 'b'), ('\t', 't'), ('\n', 'n'), ('\x0b', 'v'), ('\x0c', 'f'),
      ('\x0d', 'r'), ('"', '"'), ('\\', '\\')].find? fun p => p.1 == c).map Prod.snd
  let shown := fun (c : Char) =>
    match letter? c with
    | some d => ['\\', d]
    | none => if c.toNat < 32 then '\\' :: Quoted.octal c.toNat else [c]
  if name.any fun c => c.toNat ≤ 32 || c == '"' || c == '\\' then
    "\"" ++ String.ofList (name.toList.flatMap shown) ++ "\""
  else name

def sideOf (s : Settings) (number : Nat) (o : Operand) : Side :=
  let lines := s.likeness.taken (linesIn o.content)
  match s.labels[number]? with
  | some label => ⟨lines, label, ""⟩
  | none =>
    ⟨lines, titleName o.path, "\t" ++ (Moment.ofTime o.time).shown "%Y-%m-%d %H:%M:%S.%N %z"⟩

def calledName (s : Settings) (number : Nat) (o : Operand) : String :=
  (s.labels[number]?).getD (shownName o.path)

def patternOf (text : String) : Reading Regex :=
  match Regex.parse { extended := false, ignoreCase := false } text with
  | .ok (r, _) => .ok r
  | .error e => .error ⟨text ++ ": " ++ e, false⟩

def Settings.look (s : Settings) : Reading Look := do
  let heading ← s.heading.mapM patternOf
  let passing ← s.passing.mapM patternOf
  let either := match passing with
    | [] => none
    | r :: rs => some (rs.foldl Regex.either r)
  return { context := s.context, untabs := s.untabs, tabSize := s.likeness.tabSize
           tabFirst := s.tabFirst, bareEmpty := s.bareEmpty, heading, passEmpty := s.passEmpty
           passMatching := either, blanks := s.likeness.blanks }

def painted (style : Style) (isTitle : Bool) (line : String) : String :=
  let paint := fun (code : String) =>
    match line.splitOn "\n" with
    | first :: rest =>
      "\x1b[" ++ code ++ "m" ++ first ++ "\x1b[0m" ++ String.join (rest.map fun l => "\n" ++ l)
    | [] => line
  let first := line.toList.headD ' '
  if isTitle then paint "1"
  else
    match style with
    | .plain =>
      if first.isDigit then paint "36" else if first = '<' then paint "31"
      else if first = '>' then paint "32" else line
    | .merged =>
      if first = '@' then paint "36" else if first = '-' then paint "31"
      else if first = '+' then paint "32" else line
    | .copied =>
      if line.startsWith "*** " || line.startsWith "--- " then paint "36"
      else if first = '-' then paint "31"
      else if first = '+' then paint "32" else line
    | _ => line

def report (s : Settings) (k : Look) (isWide : Bool) (a b : Side) (cs : List Change) :
    List String :=
  let told := cs.filter fun c => !k.passes a b [c]
  let titled := fun (first second : String) (hs : List (List String)) =>
    if hs.isEmpty then []
    else
      let style := s.style.getD .plain
      let paintIf := fun (isTitle : Bool) (l : String) =>
        if s.colors then painted style isTitle l else l
      (titles first second a b).map (paintIf true) ++ hs.flatten.map (paintIf false)
  match s.style.getD .plain with
  | .plain =>
    let lines := told.flatMap (Change.plain k a b)
    if s.colors then lines.map (painted .plain false) else lines
  | .merged => titled "---" "+++" ((hunks k a b cs).map fun h => h.merged k a b)
  | .copied => titled "***" "---" ((hunks k a b cs).map fun h => h.copied k a b)
  | .commands => told.reverse.flatMap (Change.command k b)
  | .forwardCommands => told.flatMap (Change.forwardCommand k b)
  | .counts => told.flatMap (Change.counted k b)
  | .columns =>
    (Layout.ofWidth s.untabs s.likeness.tabSize s.width s.leftOnly s.hidesCommon isWide).rows k a b
      0 0 cs
  | .groups => groups k s.asked.forms a b 0 0 cs

/-- Whether a report is written although nothing differs. -/
def Settings.showsSame (s : Settings) : Bool :=
  match s.style with
  | some .groups => true
  | some .columns => !s.hidesCommon
  | _ => false

def Settings.isLax (s : Settings) : Bool :=
  s.likeness.blanks != .none || s.likeness.caseless || s.likeness.passReturns || s.passEmpty ||
    !s.passing.isEmpty

/-- Whether a text is none: an octet of value zero stands near its start. -/
def isBinary (cs : List Char) : Bool := (cs.take 32768).contains '\x00'

def compareFiles (s : Settings) (k : Look) (title : Option String) (a b : Operand) : Sh Nat := do
  let front := match title with
    | some t => t ++ "\n"
    | none => ""
  let names := calledName s 0 a ++ " and " ++ calledName s 1 b
  let tellSame : Sh Nat := do
    if s.tellsSame then emit "diff" ("Files " ++ names ++ " are identical\n") else return 0
  let isSame := a.content == b.content
  if !s.asText && (isBinary a.content || isBinary b.content) then
    if isSame then tellSame
    else if s.brief then return ← emitWith "diff" 1 ("Files " ++ names ++ " differ\n")
    else return ← emitWith "diff" 2 ("Binary files " ++ names ++ " differ\n")
  else if s.brief && !s.isLax then
    if isSame then tellSame
    else return ← emitWith "diff" 1 ("Files " ++ names ++ " differ\n")
  else
    let x := sideOf s 0 a
    let y := sideOf s 1 b
    let joins := s.style == some .commands || s.style == some .forwardCommands
    let cs := changes s.likeness s.minimal joins (max s.horizon s.context) x.lines y.lines
    let differs := cs.any fun c => !k.passes x y [c]
    if s.brief then
      if differs then return ← emitWith "diff" 1 ("Files " ++ names ++ " differ\n")
      else tellSame
    else
      let wide ← isWide
      let lines := if differs || s.showsSame then report s k wide x y cs else []
      let status ← emitWith "diff" (if differs then 1 else 0)
        (if lines.isEmpty then "" else front ++ String.join lines)
      let isCut := fun (o : Side) => joins && o.lines.back?.any fun l => !l.ended
      if isCut x then blame "diff" (a.path ++ ": No newline at end of file\n")
      if isCut y then blame "diff" (b.path ++ ": No newline at end of file\n")
      if isCut x || isCut y then return max status 2
      else if status = 0 then tellSame
      else return status

def operandAt? (path : String) : Sh (Option Operand) := do
  let s ← get
  if path = "-" then
    return some ⟨path, none, [], s.now, false⟩
  match s.files.nodeAt true s.folder (readable path) with
  | .ok n => return some ⟨path, some n, [], n.time, false⟩
  | .error _ => return none

def absent (path : String) : Operand := ⟨path, none, [], 0, true⟩

def loaded (o : Operand) : Sh (Except Nat Operand) := do
  if o.isMissing then return .ok o
  match ← content o.path with
  | .ok cs => return .ok { o with content := cs }
  | .error u =>
    blameUnread "diff" o.path u
    return .error 2

def isSameNode (s : Shell.Session) (a b : String) : Bool :=
  a == b ||
    match s.files.numberAt? s.folder (readable a), s.files.numberAt? s.folder (readable b) with
    | some m, some n => m == n
    | _, _ => false

def below (folder name : String) : String :=
  if folder.endsWith "/" then folder ++ name else folder ++ "/" ++ name

def mergedNames : Nat → List String → List String → List (String × Bool × Bool)
  | 0, _, _ => []
  | _, as, [] => as.map fun a => (a, true, false)
  | _, [], bs => bs.map fun b => (b, false, true)
  | fuel + 1, a :: as, b :: bs =>
    if a = b then (a, true, true) :: mergedNames fuel as bs
    else if a < b then (a, true, false) :: mergedNames fuel as (b :: bs)
    else (b, false, true) :: mergedNames fuel (a :: as) bs

def isExcluded (s : Settings) (name : String) : Bool :=
  s.excluded.any fun p =>
    Shell.PatternItem.matchesAll (Shell.PatternItem.read (p.toList.map fun c => ⟨false, c⟩)) name.toList

def namesIn (s : Settings) (path : String) : Sh (List String) := do
  let t ← get
  match t.files.list t.folder (readable path) with
  | .ok names =>
    let names := (names.map octets).filter fun n => !isExcluded s n
    let names := match s.first with
      | some f => names.filter fun n => !(n < f)
      | none => names
    return names.mergeSort fun a b => a ≤ b
  | .error _ => return []

def compareAt (s : Settings) (k : Look) (title : String) :
    Nat → Bool → Operand → Operand → Sh Nat
  | 0, _, _, _ => return 0
  | fuel + 1, isInner, a, b => do
    if a.isFolder && b.isFolder || a.isFolder && b.isMissing || a.isMissing && b.isFolder then
      if isInner && !s.recursive then
        emit "diff" ("Common subdirectories: " ++ shownName a.path ++ " and " ++
          shownName b.path ++ "\n")
      else if isSameNode (← get) a.path b.path then return 0
      else
        let left ← if a.isMissing then pure [] else namesIn s a.path
        let right ← if b.isMissing then pure [] else namesIn s b.path
        let all := mergedNames (left.length + right.length + 1) left right
        all.foldlM (fun status (name, inLeft, inRight) => do
          let x := below a.path name
          let y := below b.path name
          let only := fun (folder : String) =>
            emitWith "diff" 1 ("Only in " ++ shownName folder ++ ": " ++ shownName name ++ "\n")
          let found ← match inLeft, inRight with
            | true, false => do
              if s.missing then
                match ← operandAt? x with
                | some o =>
                  if o.isFolder && !s.recursive then only a.path
                  else compareAt s k title fuel true o (absent y)
                | none => pure 0
              else only a.path
            | false, true => do
              if s.missing || s.leftMissing then
                match ← operandAt? y with
                | some o =>
                  if o.isFolder && !s.recursive then only b.path
                  else compareAt s k title fuel true (absent x) o
                | none => pure 0
              else only b.path
            | _, _ => do
              match ← operandAt? x, ← operandAt? y with
              | some o, some p => compareAt s k title fuel true o p
              | _, _ => pure 0
          return max status found) 0
    else
      match a.entry.filter fun _ => a.isFolder, b.entry.filter fun _ => b.isFolder with
      | none, none =>
        if isSameNode (← get) a.path b.path && !s.showsSame then
          if s.tellsSame then
            emit "diff" ("Files " ++ calledName s 0 a ++ " and " ++ calledName s 1 b ++
              " are identical\n")
          else return 0
        else
          match ← loaded a, ← loaded b with
          | .ok a, .ok b =>
            let header := if isInner then
                some (title ++ " " ++ shownName a.path ++ " " ++ shownName b.path)
              else none
            compareFiles s k header a b
          | _, _ => return 2
      | _, _ =>
        let kind := fun (o : Operand) => (o.entry.map kindOf).getD "regular file"
        emitWith "diff" 1 ("File " ++ shownName a.path ++ " is a " ++ kind a ++ " while file " ++
          shownName b.path ++ " is a " ++ kind b ++ "\n")

def lastName (path : String) : String :=
  let names := (path.splitOn "/").filter (· != "")
  names.getLastD path

def compareOperands (s : Settings) (k : Look) (title : String) (a b : String) : Sh Nat := do
  let found := fun (path : String) => operandAt? path
  match ← found a, ← found b with
  | some x, some y =>
    let inFolder := fun (folder other : Operand) => do
      if other.path = "-" then
        blame "diff" "cannot compare '-' to a directory"
        return Except.error 2
      let path := below folder.path (lastName other.path)
      match ← operandAt? path with
      | some o => return .ok o
      | none =>
        if s.missing then return .ok (absent path)
        blame "diff" (path ++ ": No such file or directory")
        return .error 2
    if x.isFolder && !y.isFolder then
      match ← inFolder x y with
      | .ok x => compareAt s k title 1000 false x y
      | .error n => return n
    else if y.isFolder && !x.isFolder then
      match ← inFolder y x with
      | .ok y => compareAt s k title 1000 false x y
      | .error n => return n
    else compareAt s k title 1000 false x y
  | x, y =>
    let isLax := (s.missing && (x.isSome || y.isSome)) || (s.leftMissing && y.isSome)
    if isLax then
      compareAt s k title 1000 false (x.getD (absent a)) (y.getD (absent b))
    else
      if x.isNone then blame "diff" (a ++ ": No such file or directory")
      if y.isNone then blame "diff" (b ++ ": No such file or directory")
      return 2

def withoutOperands (arguments operands : List String) : List String :=
  (operands.reverse.foldl (fun (rest : List String) o => rest.erase o) arguments.reverse).reverse

def decline (r : Refusal) : Sh Nat := do
  blame "diff" r.text
  if r.hinted then blame "diff" ("Try '" ++ (← ownName "diff") ++ " --help' for more information.")
  return 2

end Difference

open Difference in
def diff : Tool := fun _ arguments => do
  match Difference.options.parseAll arguments with
  | .error text => decline ⟨text, true⟩
  | .ok (given, operands) =>
    match given.foldlM Difference.Settings.step ({} : Difference.Settings) with
    | .error r => decline r
    | .ok s =>
      let s := s.settled
      match s.look with
      | .error r => decline r
      | .ok k =>
        let words := (withoutOperands arguments operands).map fun w => " " ++ shownName w
        let title := "diff" ++ String.join words
        match s.fromFile, s.toFile, operands with
        | some a, none, bs =>
          bs.foldlM (fun status b => return max status (← compareOperands s k title a b)) 0
        | none, some b, as =>
          as.foldlM (fun status a => return max status (← compareOperands s k title a b)) 0
        | some _, some _, _ => decline ⟨"--from-file and --to-file both specified", false⟩
        | none, none, [a, b] => compareOperands s k title a b
        | none, none, _ :: _ :: c :: _ => decline ⟨"extra operand '" ++ c ++ "'", true⟩
        | none, none, operands =>
          let last := (operands.getLast?.orElse fun _ => arguments.getLast?).getD "diff"
          decline ⟨"missing operand after '" ++ last ++ "'", true⟩

end Assay.Utility
