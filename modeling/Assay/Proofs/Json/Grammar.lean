import Assay.Json.Decode
import Assay.Proofs.Binary64.Written

/-!
# The grammar of JSON text

Each relation says that a text starts with a spelling of something and names the
text that is left behind it. A numeral may be left in the middle of its digits;
what has to follow a value is what rules that out. Beside the grammar stands what
it means for a tree to have no broken part.
-/

set_option autoImplicit false

namespace Assay.Json

open Decimal (AllDigits)

def blanks : List Char := [' ', '\t', '\n', '\r']

/-- Letters of the short escapes, with the characters they name. -/
def shortEscapes : List (Char × Char) :=
  [('"', '"'), ('\\', '\\'), ('/', '/'), ('b', '\x08'), ('f', '\x0c'), ('n', '\n'),
    ('r', '\r'), ('t', '\t')]

def HexDigit (c : Char) (d : Nat) : Prop :=
  d < 16 ∧ (c = Nat.digitChar d ∨ c = (Nat.digitChar d).toUpper)

inductive AfterBlanks : List Char → List Char → Prop where
  | here (cs : List Char) : AfterBlanks cs cs
  | blank {c : Char} {cs rest : List Char} (hc : c ∈ blanks) (h : AfterBlanks cs rest) :
      AfterBlanks (c :: cs) rest

/-- Signs of an exponent, with whether they make it negative. -/
def signs : List (List Char × Bool) := [([], false), (['+'], false), (['-'], true)]

inductive FractionAt : List Char → List Char → List Char → Prop where
  | absent (rest : List Char) : FractionAt rest [] rest
  | digits {ds : List Char} (rest : List Char) (hd : AllDigits ds) (hne : ds ≠ []) :
      FractionAt ('.' :: (ds ++ rest)) ds rest

inductive ExponentAt : List Char → Option Exponent → List Char → Prop where
  | absent (rest : List Char) : ExponentAt rest none rest
  | marked {mark : Char} {sign ds : List Char} {negative : Bool} (rest : List Char)
      (hmark : mark = 'e' ∨ mark = 'E')
      (hsign : (sign, negative) ∈ signs) (hd : AllDigits ds) (hne : ds ≠ []) :
      ExponentAt (mark :: (sign ++ (ds ++ rest))) (some ⟨negative, ds⟩) rest

/-- A numeral whose sign stands before it. Only zero itself starts with a zero. -/
inductive NumeralAt (negative : Bool) : List Char → Numeral → List Char → Prop where
  | intro {whole fraction after mid rest : List Char} {exponent : Option Exponent}
      (hd : AllDigits whole) (hne : whole ≠ [])
      (hzero : whole.head? = some '0' → whole = ['0'])
      (hfraction : FractionAt after fraction mid) (hexponent : ExponentAt mid exponent rest) :
      NumeralAt negative (whole ++ after) ⟨negative, whole, fraction, exponent⟩ rest

/-- A string whose opening quote stands before it. -/
inductive StringAt : List Char → List StringUnit → List Char → Prop where
  | close (rest : List Char) : StringAt ('"' :: rest) [] rest
  | char {c : Char} {cs : List Char} {units : List StringUnit} {rest : List Char}
      (hlow : 0x20 ≤ c.toNat) (hquote : c ≠ '"') (hescape : c ≠ '\\')
      (h : StringAt cs units rest) : StringAt (c :: cs) (.char c :: units) rest
  | escape {e c : Char} {cs : List Char} {units : List StringUnit} {rest : List Char}
      (he : (e, c) ∈ shortEscapes) (h : StringAt cs units rest) :
      StringAt ('\\' :: e :: cs) (.char c :: units) rest
  | code {c₁ c₂ c₃ c₄ : Char} {d₁ d₂ d₃ d₄ : Nat} {cs : List Char} {units : List StringUnit}
      {rest : List Char} (h₁ : HexDigit c₁ d₁) (h₂ : HexDigit c₂ d₂) (h₃ : HexDigit c₃ d₃)
      (h₄ : HexDigit c₄ d₄) (h : StringAt cs units rest) :
      StringAt ('\\' :: 'u' :: c₁ :: c₂ :: c₃ :: c₄ :: cs)
        (.code (16 * (16 * (16 * d₁ + d₂) + d₃) + d₄) :: units) rest

/-- What stands before an item or member: blanks, with a comma unless it is the first. -/
inductive Separates : Bool → List Char → List Char → Prop where
  | first {cs start : List Char} (h : AfterBlanks cs start) : Separates true cs start
  | comma {cs mid start : List Char} (h : AfterBlanks cs (',' :: mid))
      (hstart : AfterBlanks mid start) : Separates false cs start

mutual

inductive ValueAt : List Char → Node → List Char → Prop where
  | null (rest : List Char) : ValueAt ('n' :: 'u' :: 'l' :: 'l' :: rest) .null rest
  | yes (rest : List Char) : ValueAt ('t' :: 'r' :: 'u' :: 'e' :: rest) (.bool true) rest
  | no (rest : List Char) :
      ValueAt ('f' :: 'a' :: 'l' :: 's' :: 'e' :: rest) (.bool false) rest
  | plain {cs rest : List Char} {n : Numeral} (h : NumeralAt false cs n rest) :
      ValueAt cs (.number n) rest
  | negative {cs rest : List Char} {n : Numeral} (h : NumeralAt true cs n rest) :
      ValueAt ('-' :: cs) (.number n) rest
  | string {cs rest : List Char} {units : List StringUnit} (h : StringAt cs units rest) :
      ValueAt ('"' :: cs) (.string units) rest
  | array {cs rest : List Char} {items : Items} (h : ItemsAt true cs items rest) :
      ValueAt ('[' :: cs) (.array items) rest
  | object {cs rest : List Char} {members : Members} (h : MembersAt true cs members rest) :
      ValueAt ('\x7b' :: cs) (.object members) rest

/-- The rest of an array, with whether no item stands before it. -/
inductive ItemsAt : Bool → List Char → Items → List Char → Prop where
  | close {first : Bool} {cs rest : List Char} (h : AfterBlanks cs (']' :: rest)) :
      ItemsAt first cs .closed rest
  | item {first : Bool} {cs start mid rest : List Char} {node : Node} {items : Items}
      (hsep : Separates first cs start) (hvalue : ValueAt start node mid)
      (hitems : ItemsAt false mid items rest) : ItemsAt first cs (.item node items) rest

/-- The rest of an object, with whether no member stands before it. -/
inductive MembersAt : Bool → List Char → Members → List Char → Prop where
  | close {first : Bool} {cs rest : List Char} (h : AfterBlanks cs ('\x7d' :: rest)) :
      MembersAt first cs .closed rest
  | member {first : Bool} {cs start colon mid value after rest : List Char}
      {key : List StringUnit} {node : Node} {members : Members}
      (hsep : Separates first cs ('"' :: start)) (hkey : StringAt start key colon)
      (hcolon : AfterBlanks colon (':' :: mid)) (hblanks : AfterBlanks mid value)
      (hvalue : ValueAt value node after) (hmembers : MembersAt false after members rest) :
      MembersAt first cs (.member key node members) rest

end

def Spells (text : List Char) (node : Node) : Prop :=
  ∃ start rest, AfterBlanks text start ∧ ValueAt start node rest ∧ AfterBlanks rest []

mutual

def Node.WellFormed : Node → Prop
  | .array items => items.WellFormed
  | .object members => members.WellFormed
  | .broken _ => False
  | .cutNumber => False
  | .cutString _ => False
  | .null => True
  | .bool _ => True
  | .number _ => True
  | .string _ => True

def Items.WellFormed : Items → Prop
  | .closed => True
  | .broken _ => False
  | .item node rest => node.WellFormed ∧ rest.WellFormed

def Members.WellFormed : Members → Prop
  | .closed => True
  | .broken _ => False
  | .cutKey _ => False
  | .member _ value rest => value.WellFormed ∧ rest.WellFormed

end

mutual

theorem Node.skip_eq_ok_iff : ∀ node : Node, node.skip = .ok () ↔ node.WellFormed
  | .null => by simp [Node.skip, Node.WellFormed]
  | .bool b => by simp [Node.skip, Node.WellFormed]
  | .number n => by simp [Node.skip, Node.WellFormed]
  | .string units => by simp [Node.skip, Node.WellFormed]
  | .array items => by
    rw [Node.skip, Node.WellFormed]
    exact Items.skip_eq_ok_iff items
  | .object members => by
    rw [Node.skip, Node.WellFormed]
    exact Members.skip_eq_ok_iff members
  | .broken f => by simp [Node.skip, Node.WellFormed]
  | .cutNumber => by simp [Node.skip, Node.WellFormed]
  | .cutString units => by simp [Node.skip, Node.WellFormed]

theorem Items.skip_eq_ok_iff : ∀ items : Items, items.skip = .ok () ↔ items.WellFormed
  | .closed => by simp [Items.skip, Items.WellFormed]
  | .broken f => by simp [Items.skip, Items.WellFormed]
  | .item node rest => by
    rw [Items.skip, Items.WellFormed, ← Node.skip_eq_ok_iff node, ← Items.skip_eq_ok_iff rest]
    cases node.skip <;> simp

theorem Members.skip_eq_ok_iff : ∀ members : Members,
    members.skip = .ok () ↔ members.WellFormed
  | .closed => by simp [Members.skip, Members.WellFormed]
  | .broken f => by simp [Members.skip, Members.WellFormed]
  | .cutKey units => by simp [Members.skip, Members.WellFormed]
  | .member key value rest => by
    rw [Members.skip, Members.WellFormed, ← Node.skip_eq_ok_iff value,
      ← Members.skip_eq_ok_iff rest]
    cases value.skip <;> simp

end

end Assay.Json
