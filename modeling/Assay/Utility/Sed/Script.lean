import Assay.Utility.Regex

/-!
# Line edits

A script of edits, the line that it is carried out on, and the escapes in which
a script may be written.
-/

set_option autoImplicit false

namespace Assay.Utility.Sed

/-!
## Scripts of line edits

A script is a list of commands. Each one applies to the lines that its addresses
select, and changes the line, writes something, or goes on somewhere else.
-/

inductive Address where
  | line (n : Nat)
  | step (first every : Nat)
  | last
  | pattern (r : Option Regex)
  | plus (n : Nat)
  /-- The first line behind that of a range whose number is a multiple. -/
  | multiple (n : Nat)

inductive Letters where
  | large
  | small
deriving DecidableEq, Repr

/-- A piece of what a match is replaced with: a text, and a group behind it. The first letter
may be written in a way of its own. -/
structure Piece where
  text : List Char
  group : Option Nat
  letters : Option Letters
  first : Option Letters

inductive Port where
  | main
  | output
  | errors
  | file (name : String)
deriving DecidableEq, Repr

/-- When a substitution prints the line: before it is run as a command, or behind that. -/
inductive Printing where
  | early
  | late
deriving DecidableEq, Repr

structure Substitution where
  pattern : Option Regex
  pieces : List Piece
  nth : Nat
  everywhere : Bool
  print : Option Printing
  /-- Whether the new line is run as a command, whose output takes its place. -/
  runs : Bool
  port : Option Port

inductive Condition where
  | always
  | replaced
  | unreplaced
deriving DecidableEq, Repr

inductive Action where
  | substitute (s : Substitution)
  | translate (pairs : List (Char × Char))
  | append (text : List Char)
  | insert (text : List Char)
  | change (text : List Char)
  | label (name : String)
  | jump (condition : Condition) (name : String)
  | openBlock
  | closeBlock
  | readFile (path : String)
  | readLine (path : String)
  | write (whole : Bool) (port : Port)
  | quit (status : Nat) (prints : Bool)
  | reveal (width : Option Nat)
  | execute (text : List Char)
  | delete
  | deleteLine
  | number
  | name
  | get
  | getMore
  | hold
  | holdMore
  | next
  | nextMore
  | print
  | printLine
  | exchange
  | clear
  | unknown (c : Char)

structure Command where
  first : Option Address
  second : Option Address
  negated : Bool
  action : Action

def Action.ofLetter? : Char → Option Action
  | 'd' => some .delete
  | 'D' => some .deleteLine
  | '=' => some .number
  | 'F' => some .name
  | 'g' => some .get
  | 'G' => some .getMore
  | 'h' => some .hold
  | 'H' => some .holdMore
  | 'n' => some .next
  | 'N' => some .nextMore
  | 'p' => some .print
  | 'P' => some .printLine
  | 'x' => some .exchange
  | 'z' => some .clear
  | _ => none

def Command.target? (c : Command) : Option String :=
  match c.action with
  | .jump _ name => if name = "" then none else some name
  | _ => none

def Command.isLabel (name : String) (c : Command) : Bool :=
  match c.action with
  | .label own => own == name
  | _ => false

def missingLabel? (cs : List Command) : Option String :=
  (cs.filterMap Command.target?).reverse.find? fun name => !cs.any (Command.isLabel name)

/-!
## The line that is edited

A line is kept without its end, together with whether it has one. Matches in it
are replaced from left to right; a match of nothing right behind another match
does not count.
-/

structure Space where
  text : List Char
  isEnded : Bool

namespace Space

def empty : Space := ⟨[], true⟩

def join (a : Space) (stop : Char) (b : Space) : Space := ⟨a.text ++ stop :: b.text, b.isEnded⟩

end Space

def capital (c : Char) : Char :=
  match Text.upperChar c with
  | [d] => d
  | _ => c

def smallLetter (c : Char) : Char :=
  if c.toNat < 0x80 then c.toLower
  else
    let found := Text.caseRuns.findSome? fun r =>
      let small := (c.toNat : Int) - r.shift
      if decide (0 < small) && r.holds small.toNat then some (Char.ofNat small.toNat) else none
    found.getD c

def Letters.apply : Letters → Char → Char
  | .large, c => capital c
  | .small, c => smallLetter c

def written (letters first : Option Letters) (text : List Char) : List Char :=
  let all := match letters with
    | some l => text.map l.apply
    | none => text
  match first, text, all with
  | some f, c :: _, _ :: rest => f.apply c :: rest
  | _, _, _ => all

/-- What pieces yield for a match. The way of writing the first letter goes on to the next
piece if the group it was meant for is empty; `carried` has come from the piece before. -/
def filled (group : Nat → List Char) : Option Letters → List Piece → List Char
  | _, [] => []
  | carried, p :: rest =>
    let first := p.first.or carried
    let head := written p.letters first p.text
    let first := if p.text.isEmpty then first else none
    match p.group with
    | none => head ++ filled group none rest
    | some n =>
      let body := group n
      if body.isEmpty then head ++ filled group (if p.first.isSome then first else none) rest
      else head ++ written p.letters first body ++ filled group none rest

def between (input : Array Char) (start stop : Nat) : List Char :=
  (input.extract start stop).toList

/-- Replaces matches from a place on, with fuel for each of them. So many have been passed,
and `behind` tells that one of them ends here. Tells whether anything has been replaced. -/
def Substitution.replaceFrom (s : Substitution) (r : Regex) (input : Array Char) :
    Nat → Nat → Nat → Bool → List Char × Bool
  | 0, start, _, _ => (between input start input.size, false)
  | fuel + 1, start, passed, behind =>
    match if input.size < start then none else r.search input start with
    | none => (between input start input.size, false)
    | some f =>
      let isEmpty := f.stop == f.start
      let before := between input start f.start
      -- The character behind a match of nothing is passed over.
      let beyond := if isEmpty then between input f.start (f.start + 1) else []
      let next := if isEmpty then f.start + 1 else f.stop
      if isEmpty && behind && f.start == start then
        let (rest, any) := s.replaceFrom r input fuel next passed false
        (before ++ beyond ++ rest, any)
      else if passed + 1 < s.nth then
        let (rest, any) := s.replaceFrom r input fuel next (passed + 1) (!isEmpty)
        (before ++ between input f.start f.stop ++ beyond ++ rest, any)
      else
        let text := filled (fun n => ((f.group? input n).getD "").toList) none s.pieces
        if s.everywhere then
          let (rest, _) := s.replaceFrom r input fuel next (passed + 1) (!isEmpty)
          (before ++ text ++ beyond ++ rest, true)
        else (before ++ text ++ between input f.stop input.size, true)

def Substitution.replace (s : Substitution) (r : Regex) (text : List Char) : Option (List Char) :=
  let input := text.toArray
  match s.replaceFrom r input (input.size + 2) 0 0 false with
  | (text, true) => some text
  | _ => none

def revealed (c : Char) : List Char :=
  match c with
  | '\\' => ['\\', '\\']
  | '\x07' => ['\\', 'a']
  | '\x08' => ['\\', 'b']
  | '\x0c' => ['\\', 'f']
  | '\n' => ['\\', 'n']
  | '\x0d' => ['\\', 'r']
  | '\t' => ['\\', 't']
  | '\x0b' => ['\\', 'v']
  | c =>
    if 31 < c.toNat ∧ c.toNat < 127 then [c]
    else
      let digits := Nat.toDigits 8 c.toNat
      '\\' :: (List.replicate (3 - digits.length) '0' ++ digits)

/-- Octets with everything in them visible, in lines that are shorter than a width, which
may be none. -/
def revealAll (width : Nat) (cs : List Char) : List Char :=
  (cs.foldl (fun (out : List Char × Nat) c =>
    let shown := revealed c
    let breaks := decide (0 < width) && decide (width ≤ out.2 + shown.length)
    let column := if breaks then 0 else out.2
    (shown.reverse ++ (if breaks then ['\n', '\\'] else []) ++ out.1, column + shown.length))
    (([], 0) : List Char × Nat)).1.reverse ++ ['$']

def translated (pairs : List (Char × Char)) (c : Char) : Char := (pairs.lookup c).getD c

/-!
## Escapes in scripts

A backslash lets a letter stand for a character that cannot be seen, or for one
that is given by its code. Where a character of that kind would mean something
else, it keeps a backslash.
-/

inductive Role where
  | expression
  | replacement
  | added
  | characters
deriving DecidableEq, Repr

def digit? (base : Nat) (c : Char) : Option Nat :=
  let n :=
    if c.isDigit then c.toNat - '0'.toNat
    else if 'a' ≤ c ∧ c ≤ 'f' then c.toNat - 'a'.toNat + 10
    else if 'A' ≤ c ∧ c ≤ 'F' then c.toNat - 'A'.toNat + 10
    else base
  if n < base then some n else none

/-- The octet whose code is written in at most so many digits, and what follows; `none` if
there is no digit. -/
def coded (base count : Nat) (cs : List Char) : Option (Char × List Char) :=
  let digits := (cs.take count).map (digit? base) |>.takeWhile Option.isSome |>.filterMap id
  if digits.isEmpty then none
  else
    let code := digits.foldl (fun n d => n * base + d) 0
    some (Char.ofNat (code % 256), cs.drop digits.length)

/-- The base that a letter stands for, and how many digits may follow it. -/
def base? : Char → Option (Nat × Nat)
  | 'd' => some (10, 3)
  | 'x' => some (16, 2)
  | 'o' => some (8, 3)
  | _ => none

def invisible? : Char → Option Char
  | 'a' => some '\x07'
  | 'f' => some '\x0c'
  | 'n' | '\n' => some '\n'
  | 'r' => some '\x0d'
  | 't' => some '\t'
  | 'v' => some '\x0b'
  | _ => none

def controlOf (c : Char) : Char :=
  Char.ofNat ((if 'a' ≤ c ∧ c ≤ 'z' then c.toUpper else c).toNat ^^^ 0x40)

def Role.literal (r : Role) (c : Char) : List Char :=
  match r with
  | .replacement => if c = '&' ∨ c = '\\' then ['\\', c] else [c]
  | .characters => if c = '\\' then ['\\', c] else [c]
  | _ => [c]

/-- An escape that is none of those for single characters. -/
def Role.other (r : Role) (c : Char) : List Char := if r = .added then [c] else ['\\', c]

def Role.resolveFrom (r : Role) : Nat → List Char → Except String (List Char)
  | 0, cs => .ok cs
  | _, [] => .ok []
  | fuel + 1, '\\' :: c :: cs =>
    match invisible? c, base? c with
    | some d, _ => (r.resolveFrom fuel cs).map (d :: ·)
    | none, some (base, count) =>
      match coded base count cs with
      | some (d, rest) => (r.resolveFrom fuel rest).map (r.literal d ++ ·)
      | none => (r.resolveFrom fuel cs).map (c :: ·)
    | none, none =>
      if c = 'c' then
        match cs with
        | [] => .ok ['\\']
        | '\\' :: '\\' :: rest => (r.resolveFrom fuel rest).map ('\x1c' :: ·)
        | '\\' :: _ => .error "recursive escaping after \\c not allowed"
        | d :: rest => (r.resolveFrom fuel rest).map (controlOf d :: ·)
      else (r.resolveFrom fuel cs).map (r.other c ++ ·)
  | fuel + 1, c :: cs => (r.resolveFrom fuel cs).map (c :: ·)

def Role.resolve (r : Role) (cs : List Char) : Except String (List Char) :=
  r.resolveFrom (cs.length + 1) cs

def listed : List Char → List Char
  | '\\' :: 'n' :: cs => '\n' :: listed cs
  | '\\' :: c :: cs => c :: listed cs
  | ['\\'] => []
  | c :: cs => c :: listed cs
  | [] => []

structure Pieces where
  done : List Piece
  text : List Char
  letters : Option Letters
  first : Option Letters

namespace Pieces

def close (p : Pieces) (group : Option Nat) : Pieces :=
  ⟨⟨p.text.reverse, group, p.letters, p.first⟩ :: p.done, [], p.letters, none⟩

def add (p : Pieces) (c : Char) : Pieces := { p with text := c :: p.text }

def turn (p : Pieces) (c : Char) : Option Pieces :=
  let p := p.close none
  match c with
  | 'L' => some { p with letters := some .small }
  | 'U' => some { p with letters := some .large }
  | 'E' => some { p with letters := none }
  | 'l' => some { p with first := some .small }
  | 'u' => some { p with first := some .large }
  | _ => none

def read : Pieces → List Char → Pieces
  | p, [] => p
  | p, ['\\'] => p.add '\\'
  | p, '\\' :: c :: cs =>
    if c.isDigit then read (p.close (some (c.toNat - '0'.toNat))) cs
    else
      match p.turn c with
      | some p => read p cs
      | none => read (p.add c) cs
  | p, '&' :: cs => read (p.close (some 0)) cs
  | p, c :: cs => read (p.add c) cs

end Pieces

def piecesOf (cs : List Char) : List Piece :=
  ((Pieces.read ⟨[], [], none, none⟩ cs).close none).done.reverse

def highestGroup (pieces : List Piece) : Nat :=
  pieces.foldl (fun n p => max n (p.group.getD 0)) 0

end Assay.Utility.Sed
