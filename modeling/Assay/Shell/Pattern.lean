/-!
# Shell patterns

A pattern matches a text in which a star stands for any characters, a question
mark for one, and brackets for one of a set. Quoted characters stand for
themselves, and so does one behind a backslash that has come out of an expansion.
-/

set_option autoImplicit false

namespace Assay.Shell

structure Glyph where
  quoted : Bool
  char : Char
deriving DecidableEq, Repr

namespace Glyph

def isBare (g : Glyph) (c : Char) : Bool := !g.quoted && g.char == c

end Glyph

inductive SetItem where
  | range (low high : Char)
  | kind (name : String)
deriving DecidableEq, Repr

inductive PatternItem where
  | exactly (c : Char)
  | anyChar
  | anyText
  | oneOf (negated : Bool) (items : List SetItem)
  | never
deriving DecidableEq, Repr

/-- Whether a byte is of a named kind; no byte beyond the first half is. -/
def kinds : List (String × (Char → Bool)) := [
  ("alnum", Char.isAlphanum),
  ("alpha", Char.isAlpha),
  ("blank", fun c => c == ' ' || c == '\t'),
  ("cntrl", fun c => decide (c.toNat < 32 ∨ c.toNat = 127)),
  ("digit", Char.isDigit),
  ("graph", fun c => decide (32 < c.toNat ∧ c.toNat < 127)),
  ("lower", Char.isLower),
  ("print", fun c => decide (31 < c.toNat ∧ c.toNat < 127)),
  ("punct", fun c => decide (32 < c.toNat ∧ c.toNat < 127) && !c.isAlphanum),
  ("space", fun c => decide (c.toNat = 32 ∨ (8 < c.toNat ∧ c.toNat < 14))),
  ("upper", Char.isUpper),
  ("xdigit", fun c => c.isDigit || decide ('a' ≤ c ∧ c ≤ 'f') || decide ('A' ≤ c ∧ c ≤ 'F'))]

def kind? (name : String) : Option (Char → Bool) :=
  (kinds.find? fun k => k.1 == name).map Prod.snd

namespace SetItem

def admits (c : Char) : SetItem → Bool
  | range low high => decide (low ≤ c ∧ c ≤ high)
  | kind name =>
    match kind? name with
    | some f => f c
    | none => false

def isKnown : SetItem → Bool
  | range _ _ => true
  | kind name => (kind? name).isSome

end SetItem

namespace PatternItem

def kindName? : List Glyph → Option (List Char × List Glyph)
  | g :: h :: rest =>
    if g.isBare ':' && h.isBare ']' then some ([], rest)
    else if decide ('a' ≤ g.char ∧ g.char < 'z') && !g.quoted then
      (kindName? (h :: rest)).map fun (name, rest) => (g.char :: name, rest)
    else none
  | _ => none

/-- The high end of a range that goes on behind its low end. -/
def rangeEnd? : List Glyph → Option (Char × List Glyph)
  | dash :: g :: rest =>
    if dash.isBare '-' && !g.isBare ']' then
      match g, rest with
      | ⟨false, '\\'⟩, h :: rest => some (h.char, rest)
      | _, _ => some (g.char, rest)
    else none
  | _ => none

def rangeFrom (low : Char) (gs : List Glyph) : SetItem × List Glyph :=
  match rangeEnd? gs with
  | some (high, rest) => (.range low high, rest)
  | none => (.range low low, gs)

def setItem (g : Glyph) (gs : List Glyph) : SetItem × List Glyph :=
  match g, gs with
  | ⟨false, '\\'⟩, h :: rest => rangeFrom h.char rest
  | ⟨false, '['⟩, ⟨false, ':'⟩ :: rest =>
    match kindName? rest with
    | some (name, rest) => (.kind (String.ofList name), rest)
    | none => rangeFrom '[' gs
  | ⟨false, '['⟩, ⟨false, '='⟩ :: h :: ⟨false, '='⟩ :: ⟨false, ']'⟩ :: rest =>
    (.range h.char h.char, rest)
  | ⟨false, '['⟩, ⟨false, '.'⟩ :: h :: ⟨false, '.'⟩ :: ⟨false, ']'⟩ :: rest =>
    rangeFrom h.char rest
  | _, _ => rangeFrom g.char gs

def setItems : Nat → Bool → List Glyph → Option (List SetItem × List Glyph)
  | 0, _, _ => none
  | _, _, [] => none
  | fuel + 1, first, g :: gs =>
    if !first && g.isBare ']' then some ([], gs)
    else
      let (item, rest) := setItem g gs
      (setItems fuel false rest).map fun (items, rest) => (item :: items, rest)

def set? (gs : List Glyph) : Option (PatternItem × List Glyph) :=
  let negated := gs.head?.any fun g => g.isBare '!' || g.isBare '^'
  let body := if negated then gs.tail else gs
  (setItems (body.length + 1) true body).map fun (items, rest) =>
    (if items.all SetItem.isKnown then .oneOf negated items else .never, rest)

def readFrom : Nat → List Glyph → List PatternItem
  | 0, _ => []
  | _, [] => []
  | fuel + 1, g :: gs =>
    if g.quoted then .exactly g.char :: readFrom fuel gs
    else
      match g.char with
      | '*' => .anyText :: readFrom fuel gs
      | '?' => .anyChar :: readFrom fuel gs
      | '\\' =>
        match gs with
        | h :: rest => .exactly h.char :: readFrom fuel rest
        | [] => [.never]
      | '[' =>
        match set? gs with
        | some (item, rest) => item :: readFrom fuel rest
        | none => .exactly '[' :: readFrom fuel gs
      | c => .exactly c :: readFrom fuel gs

def read (gs : List Glyph) : List PatternItem := readFrom (gs.length + 1) gs

def admits (c : Char) : PatternItem → Bool
  | exactly d => c == d
  | anyChar => true
  | anyText => true
  | oneOf negated items => (items.any fun i => i.admits c) != negated
  | never => false

def matchesAll : List PatternItem → List Char → Bool
  | [], [] => true
  | [], _ => false
  | .anyText :: ps, [] => matchesAll ps []
  | .anyText :: ps, c :: cs => matchesAll ps (c :: cs) || matchesAll (.anyText :: ps) cs
  | _ :: _, [] => false
  | p :: ps, c :: cs => p.admits c && matchesAll ps cs
termination_by ps cs => (cs.length, ps.length)

end PatternItem

def splitLengths (cs : List Char) : List Nat := List.range (cs.length + 1)

def joint : Char := '\x00'

def firstText (cs : List Char) : List Char := cs.takeWhile (· != joint)

def cutHead (pattern : List PatternItem) (longest : Bool) (cs : List Char) : List Char :=
  let lengths := if longest then (splitLengths cs).reverse else splitLengths cs
  match lengths.find? fun n => PatternItem.matchesAll pattern (firstText (cs.take n)) with
  | some n => cs.drop n
  | none => cs

/-- Cuts the shortest or longest tail that a pattern matches. Of several texts, a tail only
counts with its first one, and the longest is looked for in the first text alone. -/
def cutTail (pattern : List PatternItem) (longest : Bool) (cs : List Char) : List Char :=
  let lengths := if longest then splitLengths (firstText cs) else (splitLengths cs).reverse
  match lengths.find? fun n => PatternItem.matchesAll pattern (firstText (cs.drop n)) with
  | some n => cs.take n
  | none => cs

end Assay.Shell
