import Assay.Shell.Format
import Assay.Utility.Regex

/-!
# Written expressions

An expression is written in one of several flavours, which differ in the
characters that are special without a backslash, and in what is wrong. It is
read token by token; a caret and a dollar sign are anchors only where one may
stand.
-/

set_option autoImplicit false

namespace Assay.Utility

open Shell (SetItem)

namespace Regex

structure Flavour where
  extended : Bool
  ignoreCase : Bool
  strictBounds : Bool := false
  strictRepeats : Bool := false
  looseBounds : Bool := false
  emptyRanges : Bool := false
  looseClose : Bool := false
  /-- Whether a caret and a dollar sign stand for the ends of inner lines, beyond which neither
  a point nor a set goes that leaves characters out. -/
  innerLines : Bool := false
  /-- Whether a backslash in front of a `d` stands for digits, and in front of other letters
  for characters that cannot be seen. -/
  moreEscapes : Bool := false
  /-- Whether plus and question mark repeat without a backslash, although groups need one. -/
  plainSigns : Bool := false

inductive Token where
  | char (c : Char)
  | alternative
  | openGroup
  | closeGroup
  | star
  | plus
  | optional
  | openBound
  | closeBound
  | set
  | any
  | anchor (r : Regex)
  | kind (r : Regex)
  | same (n : Nat)
  | loneBackslash
  | stop

/-- What a letter behind a backslash stands for in every flavour. -/
def Token.ofEscape (c : Char) : Token :=
  match c with
  | 'w' => .kind (.oneOf false [.kind "alnum", .range '_' '_'])
  | 'W' => .kind (.oneOf true [.kind "alnum", .range '_' '_'])
  | 's' => .kind (.oneOf false [.kind "space"])
  | 'S' => .kind (.oneOf true [.kind "space"])
  | 'b' => .anchor (.wordEdge true)
  | 'B' => .anchor (.wordEdge false)
  | '<' => .anchor .wordStart
  | '>' => .anchor .wordEnd
  | '\x60' => .anchor .textStart
  | '\'' => .anchor .textEnd
  | _ => if c.isDigit && c != '0' then .same (c.toNat - '0'.toNat) else .char c

/-- What a character stands for that needs a backslash in some flavours. -/
def Token.sign? : Char → Option Token
  | '(' => some .openGroup
  | ')' => some .closeGroup
  | '\x7b' => some .openBound
  | '\x7d' => some .closeBound
  | '|' => some .alternative
  | '+' => some .plus
  | '?' => some .optional
  | _ => none

def Flavour.isBare (x : Flavour) (c : Char) : Bool :=
  if c = '+' || c = '?' then x.extended || x.plainSigns else x.extended

/-- Whether a dollar sign is an anchor in front of what is left. -/
def Flavour.endsBefore (x : Flavour) (cs : List Char) : Bool :=
  x.extended || cs.isEmpty ||
    match cs with
    | '\\' :: c :: _ => c == '|' || c == ')'
    | _ => false

/-- The next token, and what follows it; `caret` tells that an anchor may stand here. -/
def Flavour.token (x : Flavour) (caret : Bool) : List Char → Token × List Char
  | [] => (.stop, [])
  | ['\\'] => (.loneBackslash, [])
  | '\\' :: c :: cs =>
    match Token.sign? c with
    | some t => (if x.isBare c then .char c else t, cs)
    | none =>
      if x.moreEscapes && (c == 'd' || c == 'D') then
        (.kind (.oneOf (c == 'D') [.kind "digit"]), cs)
      else
        match if x.moreEscapes && "aefnrt".contains c then Shell.escaped? c else none with
        | some d => (.char d, cs)
        | none => (Token.ofEscape c, cs)
  | c :: cs =>
    match c with
    | '*' => (.star, cs)
    | '[' => (.set, cs)
    | '.' => (.any, cs)
    | '^' =>
      (if x.extended || caret then .anchor (if x.innerLines then .lineStart else .textStart)
        else .char c, cs)
    | '$' =>
      (if x.endsBefore cs then .anchor (if x.innerLines then .lineEnd else .textEnd)
        else .char c, cs)
    | _ =>
      match Token.sign? c with
      | some t => (if x.isBare c then t else .char c, cs)
      | none => (.char c, cs)

/-- The current token and what is left behind it, with the groups that have been opened, and
those that are closed and may be referred to. -/
structure Scan where
  token : Token
  rest : List Char
  groups : Nat
  closed : List Nat

abbrev Scanning := StateT Scan (Except String)

def advance (x : Flavour) (caret : Bool) : Scanning Unit :=
  modify fun s =>
    let (t, rest) := x.token caret s.rest
    { s with token := t, rest := rest }

def unmatchedSet : String := "Unmatched [, [^, [:, [., or [="

def badBound : String := "Invalid content of \\\x7b\\\x7d"

def badRepeat : String := "Invalid preceding regular expression"

inductive Member where
  | char (c : Char)
  | kind (name : String)
  | equivalent (name : List Char)
  | collated (name : List Char)

def named (delimiter : Char) : Nat → List Char → Except String (List Char × List Char)
  | 0, _ => .error unmatchedSet
  | fuel + 1, c :: d :: cs =>
    if c = delimiter && d = ']' then .ok ([], cs)
    else (named delimiter fuel (d :: cs)).map fun (name, rest) => (c :: name, rest)
  | _, _ => .error unmatchedSet

def isDash : List Char → Bool
  | '-' :: '-' :: '-' :: _ => false
  | '-' :: _ => true
  | _ => false

/-- Reads a member of a set; `admitsDash` tells that it may be a dash that stands for a range
elsewhere. -/
def member (admitsDash : Bool) (cs : List Char) : Except String (Member × List Char) :=
  match cs with
  | '[' :: d :: rest =>
    if d = ':' ∨ d = '=' ∨ d = '.' then do
      let (name, rest) ← named d 33 rest
      return (if d = ':' then .kind (String.ofList name)
        else if d = '=' then .equivalent name else .collated name, rest)
    else .ok (.char '[', d :: rest)
  | '-' :: rest =>
    if !isDash cs then .ok (.char '-', rest.drop 2)
    else if admitsDash || rest.head? == some ']' then .ok (.char '-', rest)
    else .error "Invalid range end"
  | c :: rest => .ok (.char c, rest)
  | [] => .error unmatchedSet

def Member.bound (m : Member) : Except String Char :=
  match m with
  | .char c => .ok c
  | .collated [c] => .ok c
  | .collated _ => .error "Invalid collation character"
  | _ => .error "Invalid range end"

def Member.item (m : Member) : Except String SetItem :=
  match m with
  | .char c => .ok (.range c c)
  | .kind name =>
    if (Shell.kind? name).isSome then .ok (.kind name) else .error "Invalid character class name"
  | .equivalent [c] | .collated [c] => .ok (.range c c)
  | _ => .error "Invalid collation character"

def Member.mayBegin : Member → Bool
  | .char _ | .collated _ => true
  | _ => false

def members (x : Flavour) : Nat → Bool → List Char → Except String (List SetItem × List Char)
  | 0, _, _ => .error unmatchedSet
  | fuel + 1, first, cs => do
    let (m, rest) ← member first cs
    let ranged := m.mayBegin && isDash rest && rest.drop 1 != [] && rest[1]? != some ']'
    if m.mayBegin && isDash rest && (rest.drop 1).isEmpty then throw unmatchedSet
    let (items, rest) ←
      if ranged then do
        let (n, rest) ← member true (rest.drop 1)
        let low ← m.bound
        let high ← n.bound
        if low ≤ high then pure ([SetItem.range low high], rest)
        else if x.emptyRanges then pure ([], rest)
        else throw "Invalid range end"
      else do
        let item ← m.item
        pure ([item], rest)
    match rest with
    | [] => throw unmatchedSet
    | ']' :: rest => return (items, rest)
    | _ =>
      -- A dash that ends the set is plain.
      match rest with
      | '-' :: ']' :: rest => return (items ++ [.range '-' '-'], rest)
      | _ =>
        let (more, rest) ← members x fuel false rest
        return (items ++ more, rest)

def otherCases (c : Char) : List Char :=
  if c.toNat < 0x80 then [if c.isUpper then c.toLower else c.toUpper].filter (· != c)
  else
    let capital := match Text.upperChar c with
      | [d] => if d = c then [] else [d]
      | _ => []
    capital ++ Text.caseRuns.filterMap fun r =>
      let small := (c.toNat : Int) - r.shift
      if r.shift != 0 && decide (0 ≤ small) && r.holds small.toNat
      then some (Char.ofNat small.toNat) else none

def bothCases (items : List SetItem) : List SetItem :=
  items ++ items.filterMap fun i =>
    match i with
    | .range a b =>
      if a.isAlpha && b.isAlpha then
        some (if a.isUpper then .range a.toLower b.toLower else .range a.toUpper b.toUpper)
      else if a = b then (otherCases a).head?.map fun c => .range c c
      else none
    | .kind name => if name = "upper" ∨ name = "lower" then some (.kind "alpha") else none

def readSet (x : Flavour) (cs : List Char) : Except String (Regex × List Char) := do
  let (negated, body) := match cs with
    | '^' :: cs => (true, cs)
    | _ => (false, cs)
  if body.isEmpty then throw "Invalid regular expression"
  let (items, rest) ← members x (body.length + 1) true body
  let items := if x.ignoreCase then bothCases items else items
  return (.oneOf negated (if negated && x.innerLines then .range '\n' '\n' :: items else items), rest)

def plainChar (x : Flavour) (c : Char) : Regex :=
  match if x.ignoreCase then otherCases c else [] with
  | [] => .char c
  | others => .oneOf false ((c :: others).map fun d => .range d d)

def boundLimit : Nat := 32767

inductive BoundNumber where
  | missing
  | malformed
  | some (n : Nat)

def boundNumber (x : Flavour) : Nat → BoundNumber → Scanning BoundNumber
  | 0, n => return n
  | fuel + 1, n => do
    advance x false
    match (← get).token with
    | .stop => return .malformed
    | .closeBound | .char ',' => return n
    | .char c =>
      if c.isDigit then
        let d := c.toNat - '0'.toNat
        boundNumber x fuel (match n with
          | .missing => .some d
          | .malformed => .malformed
          | .some m => .some (min (boundLimit + 1) (m * 10 + d)))
      else boundNumber x fuel .malformed
    | _ => boundNumber x fuel .malformed

def joined (a b : Regex) : Regex :=
  match a, b with
  | .empty, b => b
  | a, .empty => a
  | a, b => .both a b

/-- Repeats something as a bound asks for; a brace that begins no bound may be plain. -/
def bounded (x : Flavour) (r : Regex) : Scanning Regex := do
  let start ← get
  let fuel := start.rest.length + 2
  let low ← boundNumber x fuel .missing
  let isComma := fun (t : Token) => match t with
    | .char ',' => true
    | _ => false
  let isClose := fun (t : Token) => match t with
    | .closeBound => true
    | _ => false
  let low ← match low with
    | .missing => if isComma (← get).token then pure (BoundNumber.some 0) else throw badBound
    | n => pure n
  let high ← match low with
    | .malformed => pure BoundNumber.malformed
    | _ =>
      if isClose (← get).token then pure low
      else if isComma (← get).token then boundNumber x fuel .missing
      else pure .malformed
  let s ← get
  let malformed := match low, high with
    | .malformed, _ | _, .malformed => true
    | _, _ => false
  if malformed then
    if x.looseBounds then
      set { start with token := .char '\x7b' }
      return r
    match s.token with
    | .stop => throw "Unmatched \\\x7b"
    | _ => throw badBound
  let least := match low with
    | .some n => n
    | _ => 0
  let most := match high with
    | .some n => some n
    | _ => none
  if most.any (fun m => decide (m < least)) || !isClose s.token then throw badBound
  if boundLimit < most.getD least then throw "Regular expression too big"
  advance x false
  match r, most with
  | .empty, _ => return .empty
  | _, some 0 => return .empty
  | _, _ => return .times r least most

def repetitions (x : Flavour) : Nat → Regex → Scanning Regex
  | 0, r => return r
  | fuel + 1, r => do
    let times := fun (least : Nat) (most : Option Nat) => do
      advance x false
      return match r with
        | .empty => Regex.empty
        | _ => .times r least most
    let repeated? : Option (Scanning Regex) := match (← get).token with
      | .star => some (times 0 none)
      | .plus => some (times 1 none)
      | .optional => some (times 0 (some 1))
      | .openBound => some (bounded x r)
      | _ => none
    match repeated? with
    | none => return r
    | some next =>
      let r ← next
      match (← get).token with
      | .star | .openBound => if x.strictBounds then throw badRepeat
      | _ => pure ()
      repetitions x fuel r

def opensBound : Token → Bool
  | .openBound => true
  | _ => false

def endsBranch (depth : Nat) : Token → Bool
  | .alternative | .stop => true
  | .closeGroup => depth != 0
  | _ => false

mutual

def alternatives (x : Flavour) : Nat → Nat → Scanning Regex
  | 0, _ => throw "Regular expression too big"
  | fuel + 1, depth => do
    let before := (← get).closed
    let a ← branch x fuel depth
    otherAlternatives x fuel depth before a

def otherAlternatives (x : Flavour) : Nat → Nat → List Nat → Regex → Scanning Regex
  | 0, _, _, _ => throw "Regular expression too big"
  | fuel + 1, depth, before, a => do
    match (← get).token with
    | .alternative =>
      advance x true
      let s ← get
      if endsBranch depth s.token then
        otherAlternatives x fuel depth before (.either a .empty)
      else
        set { s with closed := before }
        let b ← branch x fuel depth
        modify fun t => { t with closed := t.closed ++ s.closed }
        otherAlternatives x fuel depth before (.either a b)
    | _ => return a

def branch (x : Flavour) : Nat → Nat → Scanning Regex
  | 0, _ => throw "Regular expression too big"
  | fuel + 1, depth => do
    let a ← single x fuel depth
    otherSingles x fuel depth a

def otherSingles (x : Flavour) : Nat → Nat → Regex → Scanning Regex
  | 0, _, _ => throw "Regular expression too big"
  | fuel + 1, depth, a => do
    if endsBranch depth (← get).token then return a
    let b ← single x fuel depth
    otherSingles x fuel depth (joined a b)

def single (x : Flavour) : Nat → Nat → Scanning Regex
  | 0, _ => throw "Regular expression too big"
  | fuel + 1, depth => do
    let s ← get
    let repeats := fun (r : Regex) => do
      advance x false
      repetitions x (s.rest.length + 1) r
    let misplaced := fun (c : Char) => do
      if x.strictBounds && opensBound s.token then throw badRepeat
      if x.strictRepeats && !x.strictBounds then throw badRepeat
      if x.extended then
        if opensBound s.token then
          let _ ← bounded x .empty
        else advance x false
        single x fuel depth
      else repeats (plainChar x c)
    match s.token with
    | .char c => repeats (plainChar x c)
    | .any => repeats (if x.innerLines then .oneOf true [.range '\n' '\n'] else .any)
    | .kind r => repeats r
    | .set =>
      let (r, rest) ← readSet x s.rest
      set { s with rest := rest }
      repeats r
    | .same n =>
      if !s.closed.contains n then throw "Invalid back reference"
      repeats (.same n)
    | .anchor r =>
      advance x true
      return r
    | .openGroup =>
      let r ← grouped x fuel depth
      repeats r
    | .star => misplaced '*'
    | .plus => misplaced '+'
    | .optional => misplaced '?'
    | .openBound => misplaced '\x7b'
    | .closeGroup =>
      if x.looseClose then repeats (plainChar x ')') else throw "Unmatched ) or \\)"
    | .closeBound => repeats (plainChar x '\x7d')
    | .loneBackslash => throw "Trailing backslash"
    | .alternative | .stop => return .empty

def grouped (x : Flavour) : Nat → Nat → Scanning Regex
  | 0, _ => throw "Regular expression too big"
  | fuel + 1, depth => do
    let number := (← get).groups + 1
    modify fun s => { s with groups := number }
    advance x true
    let isClose := fun (t : Token) => match t with
      | .closeGroup => true
      | _ => false
    let r ← if isClose (← get).token then pure .empty else alternatives x fuel (depth + 1)
    if !isClose (← get).token then throw "Unmatched ( or \\("
    modify fun s => { s with closed := number :: s.closed }
    return .group number r

end

def parse (x : Flavour) (text : String) : Except String (Regex × Nat) := do
  let (token, rest) := x.token true text.toList
  let (r, s) ← (alternatives x (6 * text.length + 12) 0).run ⟨token, rest, 0, []⟩
  match s.token with
  | .stop => return (r, s.groups)
  | _ => throw "Unmatched ) or \\)"

def literal (x : Flavour) (text : String) : Regex :=
  text.toList.foldl (fun r c => joined r (plainChar x c)) .empty

end Regex

end Assay.Utility
