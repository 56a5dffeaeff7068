import Assay.Utility.Numbers

/-!
# The cmp utility

Two texts are compared octet by octet, and the first place is told at which they
differ, or every such place.
-/

set_option autoImplicit false

namespace Assay.Utility

open Shell (Sh)

namespace Compare

structure Settings where
  names : String × String
  skips : Nat × Nat
  limit : Option Nat
  silent : Bool
  all : Bool
  shows : Bool

/-- The place and the line at which two texts differ, with the octets there; `none` if one
starts the other. -/
def firstDifference : Nat → Nat → List Char → List Char → Option (Nat × Nat × Char × Char)
  | n, line, a :: as, b :: bs =>
    if a = b then firstDifference (n + 1) (if a = '\n' then line + 1 else line) as bs
    else some (n, line, a, b)
  | _, _, _, _ => none

def differences (as bs : List Char) : List (Nat × Char × Char) :=
  ((as.zip bs).zipIdx.filter fun p => p.1.1 != p.1.2).map fun p => (p.2 + 1, p.1.1, p.1.2)

/-- An octet in base eight, in three columns. -/
def octal (c : Char) : String := padLeft 3 (String.ofList (Nat.toDigits 8 c.toNat))

/-- An octet as a character, with marks for what cannot be shown. -/
def visible (c : Char) : String :=
  let n := c.toNat
  if 31 < n ∧ n < 127 then String.singleton c
  else
    let low := n % 128
    (if 128 ≤ n then "M-" else "") ++
      if low < 32 then "^" ++ String.singleton (Char.ofNat (low + 64))
      else if low = 127 then "^?"
      else String.singleton (Char.ofNat low)

def padRight (width : Nat) (text : String) : String :=
  text ++ String.ofList (List.replicate (width - text.length) ' ')

def Settings.pair (s : Settings) (pad : Nat) (a b : Char) : String :=
  if s.shows then octal a ++ " " ++ padRight pad (visible a) ++ " " ++ octal b ++ " " ++ visible b
  else octal a ++ " " ++ octal b

def Settings.endText (s : Settings) (shorter : String) (cs : List Char) : String :=
  "EOF on " ++ shorter ++
    if cs.isEmpty then " which is empty"
    else
      let ends := cs.foldl (fun n c => if c = '\n' then n + 1 else n) 0
      " after byte " ++ toString cs.length ++
        if s.all then ""
        else if cs.getLast? == some '\n' then ", line " ++ toString ends
        else ", in line " ++ toString (ends + 1)

def report (s : Settings) (as bs : List Char) : Sh Nat := do
  let cut := fun (cs : List Char) => (s.limit.map fun n => cs.take n).getD cs
  let as := cut (as.drop s.skips.1)
  let bs := cut (bs.drop s.skips.2)
  let found := firstDifference 1 1 as bs
  let isShort := as.length != bs.length
  if s.silent then return if found.isSome || isShort then 1 else 0
  let tellEnd : Sh Unit := do
    if isShort then
      let (name, cs) := if as.length < bs.length then (s.names.1, as) else (s.names.2, bs)
      blame "cmp" (s.endText name cs)
  if s.all then
    let width := (toString (min as.length bs.length)).length
    let lines := (differences as bs).map fun (n, a, b) =>
      padLeft width (toString n) ++ " " ++ s.pair 4 a b
    let status ← emit "cmp" (joinLines lines)
    tellEnd
    return if status ≠ 0 then 2 else if found.isSome || isShort then 1 else 0
  else
    match found with
    | some (n, line, a, b) =>
      let status ← emit "cmp" (s.names.1 ++ " " ++ s.names.2 ++ " differ: " ++
        (if s.shows then "byte " else "char ") ++ toString n ++ ", line " ++ toString line ++
        (if s.shows then " is " ++ s.pair 0 a b else "") ++ "\n")
      return if status ≠ 0 then 2 else 1
    | none =>
      tellEnd
      return if isShort then 1 else 0

def units : String := "kKMGTPEZY0"

def decline (text : String) : Sh Nat := do
  blame "cmp" text
  blame "cmp" ("Try '" ++ (← ownName "cmp") ++ " --help' for more information.")
  return 2

def readNumber (option text : String) : Except String Nat :=
  match Numeral.read units false text with
  | .ok n => .ok n.toNat
  | .error _ => .error ("invalid --" ++ option ++ " value '" ++ text ++ "'")

def readSkips (text : String) : Except String (Nat × Nat) :=
  let read := fun (part : String) => (readNumber "ignore-initial" part).mapError fun _ =>
    "invalid --ignore-initial value '" ++ text ++ "'"
  match text.splitOn ":" with
  | [one] => (read one).map fun n => (n, n)
  | [a, b] => do return (← read a, ← read b)
  | _ => .error ("invalid --ignore-initial value '" ++ text ++ "'")

def allSkips (g : Given) : Except String (Nat × Nat) := do
  let given ← (g.options.filter fun o => o.1 == 'i').mapM fun o => readSkips o.2
  let more ← (g.operands.drop 2).mapM (readNumber "ignore-initial")
  let all := given ++ [(more.headD 0, (more.drop 1).headD 0)]
  return all.foldl (fun s t => (max s.1 t.1, max s.2 t.2)) (0, 0)

end Compare

open Compare in
def cmp : Tool := fun _ arguments => do
  let o : Options := ⟨"bci:ln:s", [("print-bytes", 'b'), ("print-chars", 'c'),
    ("ignore-initial", 'i'), ("verbose", 'l'), ("bytes", 'n'), ("silent", 's'), ("quiet", 's')],
    false⟩
  match o.parseAll arguments with
  | .error text => decline text
  | .ok (options, operands) =>
    let g : Given := ⟨options, operands⟩
    let limits := (options.filter fun o => o.1 == 'n').mapM fun o => readNumber "bytes" o.2
    if g.has 'l' && g.has 's' then decline "options -l and -s are incompatible"
    else
      match operands, operands.drop 4, allSkips g, limits with
      | [], _, _, _ => do decline ("missing operand after '" ++ (← ownName "cmp") ++ "'")
      | _, extra :: _, _, _ => decline ("extra operand '" ++ extra ++ "'")
      | _, _, .error text, _ => decline text
      | _, _, _, .error text => decline text
      | a :: more, _, .ok skips, .ok limits =>
        let b := more.headD "-"
        let s : Compare.Settings :=
          ⟨(a, b), skips, limits.foldl (fun l n => some (min n (l.getD n))) none,
          g.has 's', g.has 'l', g.has 'b' || g.has 'c'⟩
        let t ← get
        let found := (t.files.stat t.folder (Shell.readable a)).toOption.isSome || a == "-"
        if a = b && found && skips.1 = skips.2 then return 0
        match ← content a, ← content b with
        | .ok as, .ok bs => report s as bs
        | .error u, _ =>
          if !s.silent || u.isFound then blameUnread "cmp" a u
          return 2
        | _, .error u =>
          if !s.silent || u.isFound then blameUnread "cmp" b u
          return 2

end Assay.Utility
