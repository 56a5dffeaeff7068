import Assay.Host.FileTree
import Assay.Shell.OpenFile
import Assay.Shell.Pattern
import Assay.Shell.Source

/-!
# Fields and file names

What an expanded word falls into, and the names of files and of home folders
that parts of it stand for.
-/

set_option autoImplicit false

namespace Assay.Shell

/-!
## Fields

An expanded word is a row of marks. Characters that have come out of an unquoted
expansion may split it into fields; blanks among the separators are dropped
around fields, while every other separator ends one.
-/

inductive Mark where
  | glyph (g : Glyph) (splits : Bool)
  | anchor
  | separator
  | border
deriving DecidableEq, Repr

namespace Mark

def ofText (quoted : Bool) (text : String) : List Mark :=
  if quoted then text.toList.map fun c => glyph ⟨true, c⟩ false
  else border :: text.toList.map fun c => glyph ⟨false, c⟩ true

/-- Marks of several texts, each of them a field of its own even if it is empty. -/
def ofTexts : List String → List Mark
  | [] => []
  | [text] => anchor :: ofText true text
  | text :: rest => anchor :: ofText true text ++ separator :: ofTexts rest

def splits : Mark → Bool
  | glyph _ splits => splits
  | _ => false

def glyph? : Mark → Option Glyph
  | glyph g _ => some g
  | separator => some ⟨false, ' '⟩
  | _ => none

def glyphs (ms : List Mark) : List Glyph := ms.filterMap glyph?

end Mark

def glyphText (gs : List Glyph) : String := String.ofList (gs.map Glyph.char)

structure Splitting where
  done : List (List Glyph)
  field : Option (List Glyph)
  afterBlank : Bool
  left : Option Nat
  kept : Option (List Glyph)

namespace Splitting

def isBlank (c : Char) : Bool := c == ' ' || c == '\t' || c == '\n' || c == joint

def add (p : Splitting) (g : Glyph) : Splitting :=
  { p with field := some (g :: p.field.getD []) }

/-- A character in the last field, of which separators at the end may be dropped. -/
def lastStep (p : Splitting) (isSplitter blank : Bool) (g : Glyph) : Splitting :=
  if blank then { p.add g with kept := p.kept.or (some (p.field.getD [])) }
  else
    { p.add g with
      kept := if isSplitter && p.afterBlank then p.kept else none
      afterBlank := false }

def splitStep (splitters : List Char) (p : Splitting) (g : Glyph) : Splitting :=
  let isSplitter := g.char == joint || splitters.contains g.char
  let blank := isSplitter && isBlank g.char
  if p.left == some 0 then p.lastStep isSplitter blank g
  else if p.afterBlank && isSplitter then { p with afterBlank := blank }
  else if !isSplitter then { p.add g with afterBlank := false }
  else if p.field.isNone && blank then p
  else if p.left == some 1 then
    { p.add g with left := some 0, kept := some (p.field.getD []), afterBlank := blank }
  else
    { p with
      done := p.field.getD [] :: p.done
      field := none
      afterBlank := blank
      left := p.left.map (· - 1) }

def step (splitters : List Char) (p : Splitting) : Mark → Splitting
  | .glyph g true => p.splitStep splitters g
  | .glyph g false => p.add g
  | .anchor => { p with field := some (p.field.getD []) }
  | .separator => { p with done := p.field.getD [] :: p.done, field := none }
  | .border => { p with afterBlank := false }

def last? (p : Splitting) : Option (List Glyph) :=
  match p.kept with
  | some [] => none
  | some kept => some kept
  | none => p.field

def fields (splitters : List Char) (limit : Option Nat) (ms : List Mark) : List (List Glyph) :=
  let p := ms.foldl (step splitters) ⟨[], none, false, limit, none⟩
  ((p.last?.toList ++ p.done).reverse).map List.reverse

end Splitting

/-!
## File names

A field that is a pattern stands for the paths that match it. The names between
slashes are matched one by one, and names that start with a dot only where the
pattern does.
-/

namespace FileNames

def segments : List Glyph → List (List Glyph)
  | [] => [[]]
  | g :: gs =>
    if g.char = '/' then [] :: segments gs
    else
      match segments gs with
      | s :: more => (g :: s) :: more
      | [] => [[g]]

def closesSet (gs : List Glyph) : Bool :=
  let body := if gs.head?.any fun g => g.isBare '!' then gs.tail else gs
  (body.drop 1).any fun g => g.isBare ']'

def isPattern : List Glyph → Bool
  | [] => false
  | ⟨false, '\\'⟩ :: _ :: gs => isPattern gs
  | g :: gs =>
    g.isBare '*' || g.isBare '?' || (g.isBare '[' && closesSet gs) || isPattern gs

def plain : List Glyph → List Char
  | ⟨false, '\\'⟩ :: g :: gs => g.char :: plain gs
  | g :: gs => g.char :: plain gs
  | [] => []

def startsWithDot : List Glyph → Bool
  | ⟨false, '\\'⟩ :: g :: _ => g.char == '.'
  | g :: _ => g.char == '.'
  | [] => false

def matching (t : FileTree) (folder : Place) (path : String) (part : List Glyph) :
    List String :=
  match t.list folder (if path = "" then "." else readable path) with
  | .error _ => []
  | .ok names =>
    let pattern := PatternItem.read part
    ("." :: ".." :: names.map octets).filter fun name =>
      (!name.startsWith "." || startsWithDot part) &&
        PatternItem.matchesAll pattern name.toList

def pathsFrom (t : FileTree) (folder : Place) : List (List Glyph) → String → List String
  | [], _ => []
  | [part], path =>
    if isPattern part then (matching t folder path part).map (path ++ ·)
    else
      let path := path ++ String.ofList (plain part)
      if (t.nodeAt false folder (readable path)).toBool then [path] else []
  | part :: rest, path =>
    if isPattern part then
      (matching t folder path part).flatMap fun name =>
        pathsFrom t folder rest (path ++ name ++ "/")
    else pathsFrom t folder rest (path ++ String.ofList (plain part) ++ "/")

def expand (t : FileTree) (folder : Place) (field : List Glyph) : List String :=
  let parts := segments field
  let paths := if parts.any isPattern then pathsFrom t folder parts "" else []
  if paths.isEmpty then [glyphText field] else paths.mergeSort fun a b => decide (a ≤ b)

end FileNames

/-!
## Home folders

A tilde at the start of a word stands for a home folder, up to the next slash.
In a value that is assigned it may also follow a colon.
-/

def knownHomes : List (String × String) := [
  ("root", "/root"), ("daemon", "/usr/sbin"), ("bin", "/bin"), ("sys", "/dev"),
  ("sync", "/bin"), ("games", "/usr/games"), ("man", "/var/cache/man"), ("lp", "/var/spool/lpd"),
  ("mail", "/var/mail"), ("news", "/var/spool/news"), ("uucp", "/var/spool/uucp"),
  ("proxy", "/bin"), ("www-data", "/var/www"), ("backup", "/var/backups"),
  ("list", "/var/list"), ("irc", "/run/ircd"), ("_apt", "/nonexistent"),
  ("nobody", "/nonexistent")]

def homeOf? (home : Option String) (user : String) : Option String :=
  if user = "" then home
  else (knownHomes.find? fun h => h.1 == user).map Prod.snd

def Piece.hasTilde : Piece → Bool
  | .text false cs => cs.contains '~'
  | _ => false

namespace Tilde

/-- What a tilde in front of some characters stands for, and the rest. A name that runs
up to the end of the text only counts if nothing follows. -/
def resolve? (home : Option String) (value more : Bool) (cs : List Char) :
    Option (List Char × List Char) :=
  let (user, rest) := cs.span fun c => c != '/' && !(value && c == ':')
  if rest.isEmpty && more then none
  else (homeOf? home (String.ofList user)).map fun h => (h.toList, rest)

/-- The pieces of an unquoted text in which tildes have been resolved. The flag tells
whether one may stand at its start. -/
def textPieces (home : Option String) (value more : Bool) : Nat → Bool → List Char → Word
  | 0, _, cs => [.text false cs]
  | fuel + 1, true, '~' :: cs =>
    match resolve? home value more cs with
    | some (h, rest) =>
      let rest := textPieces home value more fuel false rest
      if h.isEmpty then rest else .text true h :: rest
    | none => textPieces home value more fuel false ('~' :: cs)
  | fuel + 1, _, cs =>
    match if value then cs.span (· != ':') else (cs, []) with
    | (before, ':' :: rest) =>
      .text false (before ++ [':']) :: textPieces home value more fuel true rest
    | _ => [.text false cs]

/-- A word in which tildes have been resolved, in a value behind colons too. -/
def inWord (home : Option String) (value : Bool) : Bool → Word → Word
  | start, .text false cs :: rest =>
    textPieces home value (!rest.isEmpty) (2 * cs.length + 2) start cs ++
      (if value then inWord home value false rest else rest)
  | _, p :: rest => p :: (if value then inWord home value false rest else rest)
  | _, [] => []

end Tilde

end Assay.Shell
