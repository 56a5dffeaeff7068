import Assay.Shell.Format
import Assay.Shell.Pattern
import Assay.Utility.Numbers

/-!
# The tr utility

Characters of a set are deleted, squeezed or replaced by those of another set.
Sets are written as strings in which ranges, classes and repetitions have a
notation of their own.
-/

set_option autoImplicit false

namespace Assay.Utility

open Shell (Sh)

namespace Translate

inductive Item where
  | char (c : Char)
  | range (low high : Char)
  | kind (name : String)
  | equivalent (c : Char)
  | repeated (c : Char) (count : Option Nat)
deriving DecidableEq, Repr

structure Mark where
  char : Char
  escaped : Bool
deriving DecidableEq, Repr

def Mark.isBare (m : Mark) (c : Char) : Bool := m.char == c && !m.escaped

def textOf (marks : List Mark) : String := String.ofList (marks.map Mark.char)

def unescape : Nat → List Char → List Mark × List String
  | 0, _ => ([], [])
  | _, [] => ([], [])
  | _, ['\\'] =>
    ([⟨'\\', false⟩], ["warning: an unescaped backslash at end of string is not portable"])
  | fuel + 1, '\\' :: c :: cs =>
    if Shell.isOctal c then
      let digits := ((c :: cs).take 3).takeWhile Shell.isOctal
      let value := fun (ds : List Char) =>
        ds.foldl (fun n d => n * 8 + (d.toNat - '0'.toNat)) 0
      if 255 < value digits then
        let kept := digits.take 2
        let last := digits.getLastD '0'
        let (marks, warnings) := unescape fuel (cs.drop 1)
        (⟨Char.ofNat (value kept), true⟩ :: marks,
          ("warning: the ambiguous octal escape \\" ++ String.ofList digits ++
            " is being\n\tinterpreted as the 2-byte sequence \\0" ++ String.ofList kept ++ ", " ++
            String.singleton last) :: warnings)
      else
        let (marks, warnings) := unescape fuel ((c :: cs).drop digits.length)
        (⟨Char.ofNat (value digits), true⟩ :: marks, warnings)
    else
      let (marks, warnings) := unescape fuel cs
      let char := if c = 'e' then 'e' else (Shell.escaped? c).getD c
      (⟨char, true⟩ :: marks, warnings)
  | fuel + 1, c :: cs =>
    let (marks, warnings) := unescape fuel cs
    (⟨c, false⟩ :: marks, warnings)

def shown (c : Char) : String :=
  if decide (' ' ≤ c ∧ c ≤ '~') then String.singleton c
  else String.ofList ('\\' :: Quoted.octal c.toNat)

def shownAll (marks : List Mark) : String := String.join (marks.map fun m => shown m.char)

def delimited? (delimiter : Char) : List Mark → Option (List Mark × List Mark)
  | a :: b :: rest =>
    if a.isBare delimiter && b.isBare ']' then some ([], rest)
    else (delimited? delimiter (b :: rest)).map fun (body, rest) => (a :: body, rest)
  | _ => none

def isRepetition : List Mark → Bool
  | star :: rest =>
    star.isBare '*' && ((rest.dropWhile fun m => m.char.isDigit).head?.any fun m => m.isBare ']')
  | [] => false

def repetition? : List Mark → Option (Except String (Item × List Mark))
  | c :: star :: rest =>
    if !star.isBare '*' then none
    else
      let (count, rest) := rest.span fun m => !m.escaped && m.char != ']'
      match rest with
      | close :: rest =>
        if !close.isBare ']' then none
        else if count.isEmpty then some (.ok (.repeated c.char none, rest))
        else
          let digits := count.map Mark.char
          let base := if digits.head? = some '0' then 8 else 10
          let isFine := digits.all fun d => d.isDigit && decide (d.toNat < '0'.toNat + base)
          let n := digits.foldl (fun n d => n * base + (d.toNat - '0'.toNat)) 0
          if isFine && decide (n < 18446744073709551615) then
            some (.ok (.repeated c.char (if n = 0 then none else some n), rest))
          else some (.error ("invalid repeat count " ++ quotedText (shownAll count) ++
            " in [c*n] construct"))
      | [] => none
  | _ => none

def class? : List Mark → Option (Except String (Item × List Mark))
  | d :: cs =>
    if d.isBare ':' || d.isBare '=' then
      match delimited? d.char cs with
      | none => none
      | some ([], _) => some (.error (if d.char = ':' then "missing character class name '[::]'"
          else "missing equivalence class character '[==]'"))
      | some (body, rest) =>
        if d.char = ':' then
          if (Shell.kind? (textOf body)).isSome then some (.ok (.kind (textOf body), rest))
          else if isRepetition cs then none
          else some (.error ("invalid character class " ++ quotedText (shownAll body)))
        else
          match body with
          | [m] => some (.ok (.equivalent m.char, rest))
          | _ =>
            if isRepetition cs then none
            else some (.error (shownAll body ++
              ": equivalence class operand must be a single character"))
    else none
  | [] => none

def readItems : Nat → List Mark → Except String (List Item)
  | 0, _ => .ok []
  | fuel + 1, m :: more => do
    if more.length < 2 then return (m :: more).map fun m => Item.char m.char
    let found? := if m.isBare '[' then (class? more).orElse fun _ => repetition? more else none
    match found?, more with
    | some found, _ =>
      let (item, rest) ← found
      return item :: (← readItems fuel rest)
    | none, dash :: high :: rest =>
      if dash.isBare '-' then
        if high.char < m.char then
          throw ("range-endpoints of '" ++ shown m.char ++ "-" ++ shown high.char ++
            "' are in reverse collating sequence order")
        return .range m.char high.char :: (← readItems fuel rest)
      else return .char m.char :: (← readItems fuel more)
    | none, _ => return .char m.char :: (← readItems fuel more)
  | _, [] => .ok []

def allChars : List Char := (List.range 256).map Char.ofNat

def ofKind (name : String) : List Char :=
  allChars.filter ((Shell.kind? name).getD fun _ => false)

def repeatLimit : Nat := 100000

def Item.chars : Item → List Char
  | .char c => [c]
  | .range low high =>
    (List.range (high.toNat - low.toNat + 1)).map fun n => Char.ofNat (low.toNat + n)
  | .kind name => ofKind name
  | .equivalent c => [c]
  | .repeated c count => List.replicate (min repeatLimit (count.getD 0)) c

def Item.size : Item → Nat
  | .repeated _ count => count.getD 0
  | i => i.chars.length

def sizeOf (items : List Item) : Nat := items.foldl (fun n i => n + i.size) 0

inductive Case where
  | lower
  | upper
deriving DecidableEq, Repr

def Item.case? : Item → Option Case
  | .kind "lower" => some .lower
  | .kind "upper" => some .upper
  | _ => none

def isOpenEnded : Item → Bool
  | .repeated _ none => true
  | _ => false

def isKind : Item → Bool
  | .kind _ => true
  | _ => false

/-- Sets an open repetition to the length that is missing. -/
def filled (size : Nat) (items : List Item) : List Item :=
  items.map fun
    | .repeated c none => .repeated c (some (size - sizeOf items))
    | i => i

/-- What is left of the items of a set: the case of each, its characters, and whether none
of them has been taken. -/
structure Piece where
  case : Option Case
  chars : List Char
  fresh : Bool

def pieces (items : List Item) : List Piece :=
  (items.map fun i => Piece.mk i.case? i.chars true).filter fun p => !p.chars.isEmpty

/-- The next character of pieces, its case if it is of a class, whether it is the first one of
its piece, and what is left. -/
def next? : List Piece → Option (Char × Option Case × Bool × List Piece)
  | ⟨case, [c], fresh⟩ :: rest => some (c, case, fresh, rest)
  | ⟨case, c :: cs, fresh⟩ :: rest => some (c, case, fresh, ⟨case, cs, false⟩ :: rest)
  | _ => none

/-- How many characters of two sets stand for classes that change the case, or `none` if a
class of the second set does not stand beside one of the first. -/
def caseDiscount? : Nat → List Piece → List Piece → Option Nat
  | 0, _, _ => some 0
  | fuel + 1, a, b =>
    match next? b with
    | none => some 0
    | some (_, none, _, b) =>
      match next? a with
      | none => some 0
      | some (_, _, _, a) => caseDiscount? fuel a b
    | some (_, some _, _, _) =>
      match next? a with
      | some (_, some _, true, _) => (caseDiscount? fuel a.tail b.tail).map (· + 25)
      | _ => none

def pairs : Nat → List Piece → List Piece → List (Char × Char)
  | 0, _, _ => []
  | fuel + 1, a, b =>
    match next? a, next? b with
    | some (c, caseA, _, restA), some (d, caseB, _, restB) =>
      match caseA, caseB with
      | some .lower, some .upper =>
        (ofKind "lower").map (fun c => (c, c.toUpper)) ++ pairs fuel a.tail b.tail
      | some .upper, some .lower =>
        (ofKind "upper").map (fun c => (c, c.toLower)) ++ pairs fuel a.tail b.tail
      | some _, some _ => pairs fuel a.tail b.tail
      | _, _ => (c, d) :: pairs fuel restA restB
    | _, _ => []

def membership (cs : List Char) : Array Bool :=
  cs.foldl (fun table c => table.setIfInBounds c.toNat true) (Array.replicate 256 false)

def isIn (table : Array Bool) (c : Char) : Bool := (table[c.toNat]?).getD false

def charsOf (items : List Item) : List Char := items.flatMap Item.chars

def others (items : List Item) : List Char :=
  let table := membership (charsOf items)
  allChars.filter fun c => !isIn table c

structure Use where
  complement : Bool
  deleting : Bool
  squeezing : Bool
  truncating : Bool

def Use.isTranslating (u : Use) (second : Option (List Item)) : Bool :=
  second.isSome && !u.deleting

def extended (u : Use) (first second : List Item) : Except String (List Item) := do
  let size := if u.complement then (others first).length else sizeOf first
  let second := filled size second
  if second.any fun i => match i with | .equivalent _ => true | _ => false then
    throw "[=c=] expressions may not appear in string2 when translating"
  if second.any fun i => isKind i && i.case?.isNone then
    throw ("when translating, the only character classes that may appear in\n" ++
      "string2 are 'upper' and 'lower'")
  let discount ← if u.complement || !second.any isKind then pure 0
    else match caseDiscount? (size + sizeOf second + 2) (pieces first) (pieces second) with
      | some n => pure n
      | none => throw "misaligned [:upper:] and/or [:lower:] construct"
  let long := size - discount
  let short := sizeOf second - discount
  let result ← if long ≤ short || u.truncating then pure second
    else if short = 0 then throw "when not truncating set1, string2 must be non-empty"
    else match second.getLast? with
      | some (.kind _) =>
        throw ("when translating with string1 longer than string2,\n" ++
          "the latter string must not end with a character class")
      | some i =>
        let c := match i with
          | .repeated c _ => c
          | i => i.chars.getLastD ' '
        pure (second ++ [.repeated c (some (long - short))])
      | none => pure second
  if u.complement && first.any isKind then
    let chars := charsOf result
    if !(sizeOf result = size && chars.all fun c => chars.head? == some c) then
      throw ("when translating with complemented character classes,\n" ++
        "string2 must map all characters in the domain to one")
  return result

def check (u : Use) (first : List Item) (second : Option (List Item)) : Except String Unit := do
  if first.any isOpenEnded then
    throw "the [c*] repeat construct may not appear in string1"
  if let some items := second then
    let openEnded := (items.filter isOpenEnded).length
    if 1 < openEnded then throw "only one [c*] repeat construct may appear in string2"
    if openEnded = 1 && !u.isTranslating second then
      throw "the [c*] construct may appear in string2 only when translating"

def squeeze (among : Char → Bool) (cs : List Char) : List Char :=
  (cs.foldl (fun (out : List Char × Option Char) c =>
    if out.2 = some c && among c then out else (c :: out.1, some c)) ([], none)).1.reverse

def table (u : Use) (first second : List Item) : Array Char :=
  let changes :=
    if u.complement then (others first).zip (charsOf second)
    else pairs (sizeOf first + sizeOf second + 2) (pieces first) (pieces second)
  changes.foldl (fun table p => table.setIfInBounds p.1.toNat p.2) allChars.toArray

def apply (u : Use) (first : List Item) (second : Option (List Item)) (input : List Char) :
    Except String (List Char) := do
  check u first second
  let source := membership (charsOf first)
  let inSource := fun (c : Char) => isIn source c != u.complement
  let inTarget := fun (items : List Item) => isIn (membership (charsOf items))
  match second with
  | none => return if u.deleting then input.filter fun c => !inSource c else squeeze inSource input
  | some items =>
    if u.deleting then return squeeze (inTarget items) (input.filter fun c => !inSource c)
    let items ← extended u first items
    let table := table u first items
    let moved := input.map fun c => (table[c.toNat]?).getD c
    return if u.squeezing then squeeze (inTarget items) moved else moved

end Translate

def readSet (text : String) : Sh (Except String (List Translate.Item)) := do
  let (marks, warnings) := Translate.unescape (text.length + 1) text.toList
  for warning in warnings do blame "tr" warning
  return Translate.readItems (marks.length + 1) marks

def readSets : List String → Sh (Except String (List (List Translate.Item)))
  | [] => return .ok []
  | text :: rest => do
    match ← readSet text with
    | .error e => return .error e
    | .ok items => return (← readSets rest).map fun more => items :: more

def setCountFault? (deleting squeezing : Bool) (operands : List String) : Option String :=
  let least := if deleting == squeezing then 2 else 1
  let most := if deleting && !squeezing then 1 else 2
  if operands.isEmpty then some "missing operand"
  else if operands.length < least then
    some ("missing operand after " ++ quotedText (operands.getLastD "") ++ "\n" ++
      if squeezing then "Two strings must be given when both deleting and squeezing repeats."
      else "Two strings must be given when translating.")
  else if most < operands.length then
    some ("extra operand " ++ quotedText ((operands[most]?).getD "") ++
      if operands.length = 2
      then "\nOnly one string may be given when deleting without squeezing repeats." else "")
  else none

def tr : Tool := fun _ arguments =>
  withOptions "tr" 1 ⟨"cCdst", [("complement", 'c'), ("delete", 'd'), ("squeeze-repeats", 's'),
    ("truncate-set1", 't')], true⟩ arguments fun g => do
    let use : Translate.Use := ⟨g.has 'c' || g.has 'C', g.has 'd', g.has 's', g.has 't'⟩
    match setCountFault? use.deleting use.squeezing g.operands with
    | some text => refuse "tr" 1 text
    | none =>
      settle "tr" 1 (← readSets g.operands) fun sets => do
        let first := sets.headD []
        let second := sets[1]?
        settle "tr" 1 (Translate.apply use first second []) fun _ => do
          let some input ← input? "tr" | return 1
          settle "tr" 1 (Translate.apply use first second input) fun output =>
            emit "tr" (String.ofList output)

end Assay.Utility
