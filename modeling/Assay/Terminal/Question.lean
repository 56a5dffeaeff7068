import Assay.CommandLine.Reader
import Assay.Text.Word
import Assay.Text.Utf8

/-!
# Questions at a terminal

Keys insert characters into a line and erase them, and move the place at which
they do. A question is answered by keys: by a single one, or by a line. Keys that are used
up are a terminal that has gone.
-/

set_option autoImplicit false

namespace Assay

/-!
## Keys

What is typed arrives as bytes. A key is a character, or a sequence that starts
with an escape. A sequence that means nothing is used up as far as it was read.
-/

inductive Key where
  | char (c : Char)
  | enter
  | backspace
  | left
  | right
  | wordLeft
  | wordRight
  | other
deriving DecidableEq, Repr

namespace Key

def escape : UInt8 := 0x1b

def followers (b : UInt8) : Nat :=
  if 0xc0 ≤ b ∧ b < 0xe0 then 1
  else if 0xe0 ≤ b ∧ b < 0xf0 then 2
  else if 0xf0 ≤ b ∧ b < 0xf8 then 3
  else 0

def ofByte (b : UInt8) : Key :=
  if b = 0x0a ∨ b = 0x0d then enter
  else if b = 0x08 ∨ b = 0x7f then backspace
  else if b < 0x20 then other
  else char (Char.ofNat b.toNat)

def ofBytes (bs : List UInt8) : Key :=
  match Text.decode? bs with
  | some (c :: _) => char c
  | _ => other

def ofLetter? (b : UInt8) : Option Key :=
  if b = 0x43 then some right
  else if b = 0x44 then some left
  else if b = 0x41 ∨ b = 0x42 ∨ b = 0x46 ∨ b = 0x48 ∨ b = 0x5a then some other
  else none

def takeEscaped : List UInt8 → Key × List UInt8
  | [] => (other, [])
  | 0x5b :: b :: rest =>
    match ofLetter? b with
    | some k => (k, rest)
    | none => (other, rest.tail)
  | 0x62 :: rest => (wordLeft, rest)
  | 0x66 :: rest => (wordRight, rest)
  | _ :: rest => (other, rest)

/-- Reads a key; there is none left where the bytes end within it. -/
def take? : List UInt8 → Option (Key × List UInt8)
  | [] => none
  | b :: rest =>
    if b = escape then some (takeEscaped rest)
    else
      let n := followers b
      if n = 0 then some (ofByte b, rest)
      else if rest.length < n then none
      else some (ofBytes (b :: rest.take n), rest.drop n)

theorem takeEscaped_length (bs : List UInt8) : (takeEscaped bs).2.length ≤ bs.length := by
  unfold takeEscaped
  split <;> simp only [List.length_nil, List.length_cons, Nat.le_refl, Nat.le_add_right]
  split <;> simp only [List.length_tail] <;> omega

theorem take?_length {bs rest : List UInt8} {k : Key} (h : take? bs = some (k, rest)) :
    rest.length < bs.length := by
  unfold take? at h
  split at h
  · cases h
  · next b bs =>
    dsimp only at h
    split at h
    · have := takeEscaped_length bs
      simp only [Option.some.injEq] at h
      rw [h] at this
      simp only [List.length_cons]
      exact Nat.lt_succ_of_le this
    · split at h
      · simp only [Option.some.injEq, Prod.mk.injEq] at h
        rw [← h.2]
        exact Nat.lt_succ_self _
      · split at h
        · cases h
        · simp only [Option.some.injEq, Prod.mk.injEq] at h
          rw [← h.2]
          simp only [List.length_drop, List.length_cons]
          omega

def all (bs : List UInt8) : List Key :=
  match _h : take? bs with
  | some (k, rest) => k :: all rest
  | none => []
termination_by bs.length
decreasing_by exact take?_length (by assumption)

end Key

/-!
## Lines that are typed

A line has a cursor between the characters that stand before it, the nearest
first, and those behind it. Keys insert and erase at the cursor, and move it.
-/

structure TypedLine where
  before : List Char
  after : List Char
deriving DecidableEq, Repr

namespace TypedLine

def empty : TypedLine := ⟨[], []⟩

def text (l : TypedLine) : String := String.ofList (l.before.reverse ++ l.after)

def insert (l : TypedLine) (c : Char) : TypedLine := { l with before := c :: l.before }

def erase (l : TypedLine) : TypedLine := { l with before := l.before.tail }

def left (l : TypedLine) : TypedLine :=
  match l.before with
  | c :: cs => ⟨cs, c :: l.after⟩
  | [] => l

def right (l : TypedLine) : TypedLine :=
  match l.after with
  | c :: cs => ⟨c :: l.before, cs⟩
  | [] => l

def leftWhile (p : Char → Bool) (l : TypedLine) : TypedLine :=
  let (passed, rest) := l.before.span p
  ⟨rest, passed.reverse ++ l.after⟩

def rightWhile (p : Char → Bool) (l : TypedLine) : TypedLine :=
  let (passed, rest) := l.after.span p
  ⟨passed.reverse ++ l.before, rest⟩

def wordLeft (l : TypedLine) : TypedLine :=
  (l.leftWhile Text.isBlank).leftWhile fun c => !Text.isBlank c

def wordRight (l : TypedLine) : TypedLine :=
  (l.rightWhile fun c => !Text.isBlank c).rightWhile Text.isBlank

def press (l : TypedLine) : Key → TypedLine
  | .char c => l.insert c
  | .backspace => l.erase
  | .left => l.left
  | .right => l.right
  | .wordLeft => l.wordLeft
  | .wordRight => l.wordRight
  | .enter => l
  | .other => l

end TypedLine

/-! ## Questions -/

/-- Keys that wait to be read; `none` where there is no terminal. -/
abbrev Keyboard := Option (List Key)

inductive Answer (α : Type) where
  | given (a : α) (rest : List Key)
  | unreadable
deriving DecidableEq, Repr

namespace Keyboard

def typed (text : String) : Keyboard := some (Key.all (Text.encode text))

def readYesNo : List Key → Answer Bool
  | [] => .unreadable
  | k :: ks =>
    if k = .char 'y' ∨ k = .char 'Y' then .given true ks
    else if k = .char 'n' ∨ k = .char 'N' ∨ k = .enter then .given false ks
    else readYesNo ks

def readLineFrom (line : TypedLine) : List Key → Answer String
  | [] => .unreadable
  | k :: ks => if k = .enter then .given line.text ks else readLineFrom (line.press k) ks

def readLine (keys : List Key) : Answer String := readLineFrom .empty keys

def readText (offered : String) (keys : List Key) : Answer String :=
  match readLine keys with
  | .given "" rest => .given offered rest
  | a => a

def readPositive (offered : UInt64) : Nat → List Key → Answer UInt64
  | 0, _ => .unreadable
  | fuel + 1, keys =>
    match readLine keys with
    | .unreadable => .unreadable
    | .given text rest =>
      match if text = "" then some offered else CommandLine.readWord? text with
      | some n => if n = 0 then readPositive offered fuel rest else .given n rest
      | none => readPositive offered fuel rest

end Keyboard

end Assay
