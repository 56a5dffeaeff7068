import Assay.Toml.Quoted
import Assay.Toml.Scalar

/-!
# Reading TOML

A text is a sequence of lines: keys with values, headers that open tables, and
comments. Reading gives the table of the whole text, or nothing if any line of
it is wrong.
-/

set_option autoImplicit false

namespace Assay.Toml

def skipWs (cs : List Char) : List Char := cs.dropWhile isWs

def skipComment? (cs : List Char) : Option (List Char) :=
  match cs with
  | '#' :: rest =>
    let tail := rest.dropWhile isPrintable
    match tail with
    | [] => some []
    | '\n' :: _ => some tail
    | '\r' :: '\n' :: _ => some tail
    | _ => none
  | _ => some cs

def skipLines? : Nat → List Char → Option (List Char)
  | 0, cs => some cs
  | fuel + 1, cs =>
    match skipWs cs with
    | '\n' :: rest => skipLines? fuel rest
    | '\r' :: '\n' :: rest => skipLines? fuel rest
    | '#' :: rest =>
      match skipComment? ('#' :: rest) with
      | some tail => skipLines? fuel tail
      | none => none
    | other => some other

def skipAll? (cs : List Char) : Option (List Char) := skipLines? (2 * cs.length + 1) cs

def endLine? (cs : List Char) : Option (List Char) :=
  match skipComment? (skipWs cs) with
  | some [] => some []
  | some ('\n' :: rest) => some rest
  | some ('\r' :: '\n' :: rest) => some rest
  | _ => none

def isKeyChar (c : Char) : Bool := c.isAlphanum || c == '_' || c == '-'

def keyPart? (cs : List Char) : Option (String × List Char) :=
  match cs with
  | '"' :: '"' :: '"' :: _ => none
  | '\'' :: '\'' :: '\'' :: _ => none
  | '"' :: _ => (lineString? cs).map fun (k, rest) => (String.ofList k, rest)
  | '\'' :: _ => (lineString? cs).map fun (k, rest) => (String.ofList k, rest)
  | _ =>
    match cs.span isKeyChar with
    | ([], _) => none
    | (k, rest) => some (String.ofList k, rest)

/-- A key of so many parts at most, joined by dots, with the text after it and its
blanks. -/
def keyPath? : Nat → List Char → Option (List String × List Char)
  | 0, _ => none
  | limit + 1, cs => do
    let (k, rest) ← keyPart? (skipWs cs)
    match skipWs rest with
    | '.' :: more =>
      let (ks, tail) ← keyPath? limit more
      return (k :: ks, tail)
    | other => return ([k], other)

def pathLimit : Nat := 80

def key? (cs : List Char) : Option (List String × List Char) := keyPath? pathLimit cs

def splitLast (path : List String) : List String × String :=
  (path.dropLast, path.getLastD "")

def addPath? (path : List String) (item : Item) (entries : Entries) : Option Entries :=
  let (front, last) := splitLast path
  addDotted? last item front entries

/-- Reads a scalar without quotes. A date may be followed by a blank and a time. -/
def bare? (cs : List Char) : Option (Item × List Char) :=
  let (run, rest) := cs.span isScalarChar
  match isDate run, rest with
  | true, ' ' :: d :: more =>
    if d.isDigit then
      let (time, tail) := (d :: more).span isScalarChar
      (scalar? (run ++ ' ' :: time)).map (·, tail)
    else (scalar? run).map (·, rest)
  | _, _ => (scalar? run).map (·, rest)

def depthLimit : Nat := 80

mutual

/-- Reads a value that starts here; the first number says how many arrays and inline
tables may still be entered. -/
def value? : Nat → Nat → List Char → Option (Item × List Char)
  | _, 0, _ => none
  | depth, fuel + 1, cs =>
    match cs with
    | '"' :: _ => (string? cs).map fun (s, rest) => (.string (String.ofList s), rest)
    | '\'' :: _ => (string? cs).map fun (s, rest) => (.string (String.ofList s), rest)
    | '[' :: rest =>
      match depth with
      | 0 => none
      | inner + 1 => (items? inner fuel rest).map fun (is, tail) => (.array is, tail)
    | '\x7b' :: rest =>
      match depth with
      | 0 => none
      | inner + 1 => (members? inner fuel [] rest).map fun (es, tail) => (.table .inline es, tail)
    | _ => bare? cs

def items? : Nat → Nat → List Char → Option (List Item × List Char)
  | _, 0, _ => none
  | depth, fuel + 1, cs => do
    match ← skipAll? cs with
    | ']' :: rest => return ([], rest)
    | start =>
      let (item, rest) ← value? depth fuel start
      match ← skipAll? rest with
      | ']' :: tail => return ([item], tail)
      | ',' :: tail =>
        let (more, tail) ← items? depth fuel tail
        return (item :: more, tail)
      | _ => none

/-- Reads the members of an inline table up to its closing brace. Lines may end around
its commas and equals signs. -/
def members? : Nat → Nat → Entries → List Char → Option (Entries × List Char)
  | _, 0, _, _ => none
  | depth, fuel + 1, entries, cs => do
    match ← skipAll? cs with
    | '\x7d' :: rest => return (entries, rest)
    | start =>
      let (path, rest) ← key? start
      match ← skipAll? rest with
      | '=' :: more =>
        let (item, rest) ← value? depth fuel (← skipAll? more)
        let entries ← addPath? path item entries
        match ← skipAll? rest with
        | '\x7d' :: tail => return (entries, tail)
        | ',' :: tail => members? depth fuel entries tail
        | _ => none
      | _ => none

end

/-- A text read so far: the root table, and the path of the table that is open. -/
structure Progress where
  root : Entries
  current : List String

def line? (p : Progress) (cs : List Char) : Option (Progress × List Char) := do
  match cs with
  | '[' :: '[' :: more =>
    let (path, rest) ← key? more
    match rest with
    | ']' :: ']' :: tail =>
      let (front, last) := splitLast path
      let root ← changeAt? (openElement? last) front p.root
      return (⟨root, path⟩, ← endLine? tail)
    | _ => none
  | '[' :: more =>
    let (path, rest) ← key? more
    match rest with
    | ']' :: tail =>
      let (front, last) := splitLast path
      let root ← changeAt? (openTable? last) front p.root
      return (⟨root, path⟩, ← endLine? tail)
    | _ => none
  | _ =>
    let (path, rest) ← key? cs
    match rest with
    | '=' :: more =>
      let (item, rest) ← value? depthLimit (2 * more.length + 2) (skipWs more)
      let root ← changeAt? (addPath? path item) p.current p.root
      return (⟨root, p.current⟩, ← endLine? rest)
    | _ => none

def lines? : Nat → Progress → List Char → Option Entries
  | 0, _, _ => none
  | fuel + 1, p, cs => do
    match ← skipAll? cs with
    | [] => return p.root
    | start =>
      let (p, rest) ← line? p start
      lines? fuel p rest

/-- Reads a text; a byte order mark may stand before it. -/
def parse? (text : String) : Option Entries :=
  let cs := match text.toList with
    | '\ufeff' :: rest => rest
    | cs => cs
  lines? (cs.length + 1) ⟨[], []⟩ cs

end Assay.Toml
