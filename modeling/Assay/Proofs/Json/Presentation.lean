import Mathlib.Data.List.Forall2
import Assay.Proofs.Json.Grammar

/-!
# What trees present

A string presents the text that its units denote, an array the list that its
items present, and a record the fields that its members name or its items fill.
A tree that presents something has no broken part.
-/

set_option autoImplicit false

namespace Assay.Json

/-- Units denote a text: two halves of a pair together, and no half alone. -/
inductive UnitsText : List StringUnit → List Char → Prop where
  | nil : UnitsText [] []
  | char (c : Char) {units : List StringUnit} {cs : List Char} (h : UnitsText units cs) :
      UnitsText (.char c :: units) (c :: cs)
  | code {n : Nat} {units : List StringUnit} {cs : List Char}
      (hn : n < 0xd800 ∨ 0xdfff < n) (h : UnitsText units cs) :
      UnitsText (.code n :: units) (Char.ofNat n :: cs)
  | pair {high low : Nat} {units : List StringUnit} {cs : List Char}
      (hhigh : 0xd800 ≤ high ∧ high ≤ 0xdbff) (hlow : 0xdc00 ≤ low ∧ low ≤ 0xdfff)
      (h : UnitsText units cs) :
      UnitsText (.code high :: .code low :: units)
        (Char.ofNat (0x10000 + (high - 0xd800) * 0x400 + (low - 0xdc00)) :: cs)

/-- The tree is a string that denotes the text. -/
inductive Node.IsText : Node → String → Prop where
  | intro {units : List StringUnit} {s : String} (h : UnitsText units s.toList) :
      IsText (.string units) s

/-- The tree is a numeral within range, read as a binary number. -/
inductive Node.IsNumber : Node → Binary64 → Prop where
  | intro {n : Numeral} {v : Number} (h : n.value? = some v) :
      IsNumber (.number n) v.toBinary64

/-- The tree is a number, or a null in place of one. -/
inductive Node.IsOptional : Node → Option Binary64 → Prop where
  | null : IsOptional .null none
  | number {node : Node} {x : Binary64} (h : node.IsNumber x) : IsOptional node (some x)

inductive Items.Lists : Items → List Node → Prop where
  | closed : Lists .closed []
  | item (node : Node) {rest : Items} {nodes : List Node} (h : Lists rest nodes) :
      Lists (.item node rest) (node :: nodes)

/-- The members of an object that closes, in their order, with the names their keys denote. -/
inductive Members.Names : Members → List (String × Node) → Prop where
  | closed : Names .closed []
  | member {key : List StringUnit} {name : String} (value : Node) {rest : Members}
      {pairs : List (String × Node)} (hkey : UnitsText key name.toList) (h : Names rest pairs) :
      Names (.member key value rest) ((name, value) :: pairs)

def AtMostOnce (name : String) (pairs : List (String × Node)) : Prop :=
  (pairs.map Prod.fst).count name ≤ 1

section

variable {α : Type}

/-- An absent field is left out, and a present one stands for something. -/
def Taken (R : Node → α → Prop) : Option Node → Option α → Prop
  | none, o => o = none
  | some node, o => ∃ a, R node a ∧ o = some a

/-- An absent field stands for a default. -/
def OrDefault (R : Node → α → Prop) (default : α) : Option Node → α → Prop
  | none, a => a = default
  | some node, a => R node a

def Required (R : Node → α → Prop) (field : Option Node) (a : α) : Prop :=
  ∃ node, field = some node ∧ R node a

theorem orDefault_iff (R : Node → α → Prop) (default : α) (field : Option Node) (a : α) :
    OrDefault R default field a ↔ ∃ o, Taken R field o ∧ o.getD default = a := by
  cases field with
  | none => simp [OrDefault, Taken, eq_comm]
  | some node =>
    constructor
    · exact fun h => ⟨some a, ⟨a, h, rfl⟩, rfl⟩
    · rintro ⟨o, ⟨b, hb, rfl⟩, rfl⟩
      exact hb

theorem required_iff (R : Node → α → Prop) (field : Option Node) (a : α) :
    Required R field a ↔ Taken R field (some a) := by
  cases field <;> simp [Required, Taken]

end

/-- The tree is an array whose items present the elements of a list, in order. -/
inductive Node.IsList {α : Type} (R : Node → α → Prop) : Node → List α → Prop where
  | intro {items : Items} {nodes : List Node} {xs : List α} (h : items.Lists nodes)
      (hall : List.Forall₂ R nodes xs) : IsList R (.array items) xs

/-- How a record is written: an object with any other members beside the declared
ones, or an array of the declared fields in order, the last of which may be left off. -/
inductive Node.IsRecord (declared : List String) : Node → (String → Option Node) → Prop where
  | object {members : Members} {pairs : List (String × Node)} (h : members.Names pairs)
      (honce : ∀ name ∈ declared, AtMostOnce name pairs)
      (hother : ∀ p ∈ pairs, p.1 ∉ declared → p.2.WellFormed) :
      IsRecord declared (.object members) fun name => pairs.lookup name
  | array {items : Items} {nodes : List Node} (h : items.Lists nodes)
      (hlength : nodes.length ≤ declared.length) :
      IsRecord declared (.array items) fun name => nodes[declared.idxOf name]?

theorem Items.Lists.wellFormed {items : Items} {nodes : List Node} (h : items.Lists nodes)
    (hall : ∀ node ∈ nodes, node.WellFormed) : items.WellFormed := by
  induction h with
  | closed => trivial
  | item node h ih =>
    rw [List.forall_mem_cons] at hall
    exact ⟨hall.1, ih hall.2⟩

theorem Members.Names.wellFormed {members : Members} {pairs : List (String × Node)}
    (h : members.Names pairs) (hall : ∀ p ∈ pairs, p.2.WellFormed) : members.WellFormed := by
  induction h with
  | closed => trivial
  | member value hkey h ih =>
    rw [List.forall_mem_cons] at hall
    exact ⟨hall.1, ih hall.2⟩

theorem lookup_eq_of_mem {name : String} {node : Node} {pairs : List (String × Node)}
    (honce : AtMostOnce name pairs) (hmem : (name, node) ∈ pairs) :
    pairs.lookup name = some node := by
  unfold AtMostOnce at honce
  induction pairs with
  | nil => simp at hmem
  | cons p pairs ih =>
    obtain ⟨key, value⟩ := p
    by_cases hkey : name = key
    · subst hkey
      rw [List.map_cons, List.count_cons_self] at honce
      have hnot : name ∉ pairs.map Prod.fst := by
        rw [← List.count_eq_zero]
        omega
      rcases List.mem_cons.mp hmem with heq | htail
      · rw [List.lookup_cons_self, (Prod.mk.inj heq).2]
      · exact absurd (List.mem_map_of_mem htail) hnot
    · have hbeq : (name == key) = false := by simpa using hkey
      rw [List.map_cons, List.count_cons_of_ne (Ne.symm hkey)] at honce
      rw [List.lookup_cons, hbeq]
      refine ih honce ?_
      rcases List.mem_cons.mp hmem with heq | htail
      · exact absurd (Prod.mk.inj heq).1 hkey
      · exact htail

theorem Node.IsList.wellFormed {α : Type} {R : Node → α → Prop} {node : Node} {xs : List α}
    (h : node.IsList R xs) (hR : ∀ node x, R node x → node.WellFormed) : node.WellFormed := by
  cases h with
  | intro hlists hall =>
    refine hlists.wellFormed ?_
    clear hlists
    induction hall with
    | nil => simp
    | cons hnode hall ih => exact List.forall_mem_cons.mpr ⟨hR _ _ hnode, ih⟩

theorem Node.IsRecord.wellFormed {declared : List String} {node : Node}
    {fields : String → Option Node} (h : node.IsRecord declared fields)
    (hdistinct : declared.Nodup)
    (hfields : ∀ name ∈ declared, ∀ field, fields name = some field → field.WellFormed) :
    node.WellFormed := by
  cases h with
  | object hnames honce hother =>
    refine hnames.wellFormed ?_
    rintro ⟨name, value⟩ hmem
    by_cases hname : name ∈ declared
    · exact hfields name hname value (lookup_eq_of_mem (honce name hname) hmem)
    · exact hother _ hmem hname
  | @array items nodes hlists hlength =>
    refine hlists.wellFormed ?_
    intro node hmem
    obtain ⟨i, hi, rfl⟩ := List.getElem_of_mem hmem
    have hlt : i < declared.length := Nat.lt_of_lt_of_le hi hlength
    refine hfields declared[i] (List.getElem_mem hlt) _ ?_
    dsimp only
    rw [hdistinct.idxOf_getElem i hlt]
    exact List.getElem?_eq_getElem hi

theorem OrDefault.wellFormed {α : Type} {R : Node → α → Prop} {default a : α}
    {field : Option Node} {node : Node} (h : OrDefault R default field a)
    (hnode : field = some node) (hR : ∀ node a, R node a → node.WellFormed) : node.WellFormed := by
  subst hnode
  exact hR node a h

theorem Required.wellFormed {α : Type} {R : Node → α → Prop} {a : α} {field : Option Node}
    {node : Node} (h : Required R field a) (hnode : field = some node)
    (hR : ∀ node a, R node a → node.WellFormed) : node.WellFormed := by
  obtain ⟨inner, hinner, ha⟩ := h
  obtain rfl : inner = node := Option.some.inj (hinner.symm.trans hnode)
  exact hR inner a ha

theorem Node.IsText.wellFormed {node : Node} {s : String} (h : node.IsText s) :
    node.WellFormed := by
  cases h
  trivial

theorem Node.IsOptional.wellFormed {node : Node} {o : Option Binary64}
    (h : node.IsOptional o) : node.WellFormed := by
  cases h with
  | null => trivial
  | number h =>
    cases h
    trivial

end Assay.Json
