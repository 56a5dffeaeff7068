/-!
# Versions

Names with versions in them are ordered so that runs of digits count as
numbers. Endings that start with a point and a letter count only where the
names before them are equal.
-/

set_option autoImplicit false

namespace Assay.Utility

namespace Version

/-- How far an ending goes on: letters, digits and tildes. -/
def isEndingChar (c : Char) : Bool := c.isAlphanum || c == '~'

def skipEndings : Nat → List Char → List Char
  | 0, cs => cs
  | fuel + 1, '.' :: c :: cs =>
    if c.isAlpha || c == '~' then skipEndings fuel (cs.dropWhile isEndingChar) else '.' :: c :: cs
  | _, cs => cs

/-- The length of a name without the endings that go up to its end, with fuel for its
characters; at least one character is left. -/
def bodyLength : Nat → List Char → Nat
  | 0, cs => cs.length
  | _, [] => 0
  | fuel + 1, _ :: cs =>
    if (skipEndings cs.length cs).isEmpty then 1 else 1 + bodyLength fuel cs

/-- The rank of a character that is no digit; the end of a name comes after tildes only. -/
def rank : List Char → Int
  | [] => -1
  | c :: _ =>
    if c.isDigit then 0
    else if c.isAlpha then c.toNat
    else if c == '~' then -2
    else c.toNat + 256

def startsWithOther (cs : List Char) : Bool := cs.head?.any fun c => !c.isDigit

def compareOthers : Nat → List Char → List Char → Ordering × List Char × List Char
  | 0, as, bs => (.eq, as, bs)
  | fuel + 1, as, bs =>
    if startsWithOther as || startsWithOther bs then
      match compare (rank as) (rank bs) with
      | .eq => compareOthers fuel as.tail bs.tail
      | o => (o, as, bs)
    else (.eq, as, bs)

def compareParts : Nat → List Char → List Char → Ordering
  | 0, _, _ => .eq
  | fuel + 1, as, bs =>
    if as.isEmpty && bs.isEmpty then .eq
    else
      match compareOthers (as.length + bs.length + 1) as bs with
      | (.eq, as, bs) =>
        let (x, as) := (as.dropWhile (· == '0')).span Char.isDigit
        let (y, bs) := (bs.dropWhile (· == '0')).span Char.isDigit
        let order := (compare x.length y.length).then
          (compare (String.ofList x) (String.ofList y))
        if order == .eq then compareParts fuel as bs else order
      | (o, _, _) => o

def compareAll (as bs : List Char) : Ordering := compareParts (as.length + bs.length + 1) as bs

def dotRank : List Char → Nat
  | [] => 0
  | ['.'] => 1
  | ['.', '.'] => 2
  | '.' :: _ => 3
  | _ => 4

end Version

open Version

def compareVersions (as bs : List Char) : Ordering :=
  match compare (dotRank as) (dotRank bs) with
  | .eq =>
    let x := bodyLength as.length as
    let y := bodyLength bs.length bs
    match compareAll (as.take x) (bs.take y) with
    | .eq => if x = as.length ∧ y = bs.length then .eq else compareAll as bs
    | o => o
  | o => o

end Assay.Utility
