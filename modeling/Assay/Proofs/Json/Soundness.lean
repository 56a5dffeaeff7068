import Assay.Proofs.Json.Scan

/-!
# The reader takes nothing but the grammar

What the reader takes from a text spells the tree that it returns, and a tree
that breaks off is never well formed. One lemma for each part of the reader
goes from one step of fuel to the next; the induction over the fuel joins them.
-/

set_option autoImplicit false

namespace Assay.Json

/-- What was read spells the text up to what is left; what broke off is not good. -/
def Faithful {α : Type} (At : α → List Char → Prop) (Good : α → Prop) : Reading α → Prop
  | (a, some rest) => At a rest
  | (a, none) => ¬Good a

theorem Faithful.map {α β : Type} {P : α → List Char → Prop} {Q : β → List Char → Prop}
    {Good : α → Prop} {Good' : β → Prop} {r : Reading α} (f : α → β) (h : Faithful P Good r)
    (hat : ∀ a rest, P a rest → Q (f a) rest) (hgood : ∀ a, Good' (f a) → Good a) :
    Faithful Q Good' (f r.1, r.2) := by
  obtain ⟨a, _ | rest⟩ := r
  · exact fun hf => h (hgood a hf)
  · exact hat a rest h

theorem Faithful.imp {α : Type} {P Q : α → List Char → Prop} {Good : α → Prop} {r : Reading α}
    (h : Faithful P Good r) (hat : ∀ a rest, P a rest → Q a rest) : Faithful Q Good r :=
  h.map id hat fun _ => id

theorem wordNode_faithful (node : Node) (word : String) (cs : List Char) :
    Faithful (fun found rest => found = node ∧ cs = word.toList ++ rest) Node.WellFormed
      (wordNode node word cs) := by
  unfold wordNode
  split
  · rename_i rest h
    exact ⟨rfl, (scanWord_eq_done_iff _ _ _).mp h⟩
  · simp [Faithful, Node.WellFormed]

theorem numberNode_faithful (negative : Bool) (cs : List Char) :
    Faithful (fun found rest => ∃ n, found = .number n ∧ NumeralAt negative cs n rest)
      Node.WellFormed (numberNode negative cs) := by
  unfold numberNode
  split
  · rename_i n rest h
    exact ⟨n, rfl, of_scanNumeral h⟩
  · simp [Faithful, Node.WellFormed]
  · simp [Faithful, Node.WellFormed]

theorem stringNode_faithful (cs : List Char) :
    Faithful (fun found rest => ∃ units, found = .string units ∧ StringAt cs units rest)
      Node.WellFormed (stringNode cs) := by
  unfold stringNode
  split
  · rename_i units rest h
    exact ⟨units, rfl, at_of_scanString h⟩
  · simp [Faithful, Node.WellFormed]
  · simp [Faithful, Node.WellFormed]

/-- With this fuel the reader takes nothing that the grammar does not allow. -/
structure Sound (fuel : Nat) : Prop where
  value : ∀ cs, Faithful (fun node rest => ∃ start, AfterBlanks cs start ∧ ValueAt start node rest)
    Node.WellFormed (readValue fuel cs)
  items : ∀ first cs, Faithful (ItemsAt first cs) Items.WellFormed (readItems fuel first cs)
  item : ∀ start, Faithful
    (fun items rest => ∀ first cs, Separates first cs start → ItemsAt first cs items rest)
    Items.WellFormed (readItem fuel start)
  members : ∀ first cs, Faithful (MembersAt first cs) Members.WellFormed (readMembers fuel first cs)
  member : ∀ start, Faithful
    (fun members rest => ∀ first cs, Separates first cs ('"' :: start) →
      MembersAt first cs members rest)
    Members.WellFormed (readMember fuel start)

theorem sound_zero : Sound 0 := by
  constructor
  · intro cs
    simp [readValue, Faithful, Node.WellFormed]
  · intro first cs
    simp [readItems, Faithful, Items.WellFormed]
  · intro start
    simp [readItem, Faithful, Items.WellFormed]
  · intro first cs
    simp [readMembers, Faithful, Members.WellFormed]
  · intro start
    simp [readMember, Faithful, Members.WellFormed]

theorem Sound.value_succ {fuel : Nat} (h : Sound fuel) (cs : List Char) :
    Faithful (fun node rest => ∃ start, AfterBlanks cs start ∧ ValueAt start node rest)
      Node.WellFormed (readValue (fuel + 1) cs) := by
  have hblanks := afterBlanks_skipSpace cs
  rw [readValue]
  cases hs : skipSpace cs with
  | nil => simp [Faithful, Node.WellFormed]
  | cons c rest =>
    rw [hs] at hblanks
    suffices hvalue : Faithful (ValueAt (c :: rest)) Node.WellFormed _ from
      hvalue.imp fun node rest hat => ⟨_, hblanks, hat⟩
    dsimp only
    split
    · rename_i hc
      subst hc
      refine (wordNode_faithful _ _ _).imp ?_
      rintro node rest ⟨rfl, rfl⟩
      exact .null rest
    split
    · rename_i hc
      subst hc
      refine (wordNode_faithful _ _ _).imp ?_
      rintro node rest ⟨rfl, rfl⟩
      exact .yes rest
    split
    · rename_i hc
      subst hc
      refine (wordNode_faithful _ _ _).imp ?_
      rintro node rest ⟨rfl, rfl⟩
      exact .no rest
    split
    · rename_i hc
      subst hc
      refine (stringNode_faithful _).imp ?_
      rintro node rest ⟨units, rfl, hat⟩
      exact .string hat
    split
    · rename_i hc
      subst hc
      refine (numberNode_faithful _ _).imp ?_
      rintro node rest ⟨n, rfl, hat⟩
      exact .negative hat
    split
    · refine (numberNode_faithful _ _).imp ?_
      rintro node rest ⟨n, rfl, hat⟩
      exact .plain hat
    split
    · rename_i hc
      subst hc
      refine (h.items true rest).map Node.array ?_ ?_
      · exact fun items rest hat => .array hat
      · intro items hgood
        rwa [Node.WellFormed] at hgood
    split
    · rename_i hc
      subst hc
      refine (h.members true rest).map Node.object ?_ ?_
      · exact fun members rest hat => .object hat
      · intro members hgood
        rwa [Node.WellFormed] at hgood
    · simp [Faithful, Node.WellFormed]

theorem Sound.items_succ {fuel : Nat} (h : Sound fuel) (first : Bool) (cs : List Char) :
    Faithful (ItemsAt first cs) Items.WellFormed (readItems (fuel + 1) first cs) := by
  have hblanks := afterBlanks_skipSpace cs
  rw [readItems]
  cases hs : skipSpace cs with
  | nil => simp [Faithful, Items.WellFormed]
  | cons c rest =>
    rw [hs] at hblanks
    dsimp only
    split
    · rename_i hc
      subst hc
      exact .close hblanks
    split
    · rename_i hfirst
      subst hfirst
      exact (h.item (c :: rest)).imp fun items rest hat => hat true cs (.first hblanks)
    split
    · rename_i hfirst hc
      subst hc
      obtain rfl : first = false := by simpa using hfirst
      have hnext := afterBlanks_skipSpace rest
      cases hr : skipSpace rest with
      | nil => simp [Faithful, Items.WellFormed, Node.WellFormed]
      | cons d tail =>
        rw [hr] at hnext
        dsimp only
        split
        · simp [Faithful, Items.WellFormed]
        · exact (h.item (d :: tail)).imp fun items rest hat =>
            hat false cs (.comma hblanks hnext)
    · simp [Faithful, Items.WellFormed]

theorem Separates.blanks {first : Bool} {cs mid start : List Char} (h : Separates first cs mid)
    (hstart : AfterBlanks mid start) : Separates first cs start := by
  cases h with
  | first h => exact .first (h.trans hstart)
  | comma h hmid => exact .comma h (hmid.trans hstart)

theorem Sound.item_succ {fuel : Nat} (h : Sound fuel) (start : List Char) :
    Faithful (fun items rest => ∀ first cs, Separates first cs start → ItemsAt first cs items rest)
      Items.WellFormed (readItem (fuel + 1) start) := by
  have hvalue := h.value start
  rw [readItem]
  split
  · rename_i node heq
    rw [heq] at hvalue
    exact fun hgood => hvalue hgood.1
  · rename_i node mid heq
    rw [heq] at hvalue
    obtain ⟨inner, hblanks, hat⟩ := hvalue
    refine (h.items false mid).map (Items.item node) ?_ fun items hgood => hgood.2
    intro items rest hitems first cs hsep
    exact .item (hsep.blanks hblanks) hat hitems

theorem Sound.members_succ {fuel : Nat} (h : Sound fuel) (first : Bool) (cs : List Char) :
    Faithful (MembersAt first cs) Members.WellFormed (readMembers (fuel + 1) first cs) := by
  have hblanks := afterBlanks_skipSpace cs
  rw [readMembers]
  cases hs : skipSpace cs with
  | nil => simp [Faithful, Members.WellFormed]
  | cons c rest =>
    rw [hs] at hblanks
    dsimp only
    split
    · rename_i hc
      subst hc
      exact .close hblanks
    split
    · rename_i hfirst
      subst hfirst
      split
      · rename_i hc
        subst hc
        exact (h.member rest).imp fun members rest hat => hat true cs (.first hblanks)
      · simp [Faithful, Members.WellFormed]
    split
    · rename_i hfirst hc
      subst hc
      obtain rfl : first = false := by simpa using hfirst
      have hnext := afterBlanks_skipSpace rest
      cases hr : skipSpace rest with
      | nil => simp [Faithful, Members.WellFormed]
      | cons d tail =>
        rw [hr] at hnext
        dsimp only
        split
        · rename_i hd
          subst hd
          exact (h.member tail).imp fun members rest hat =>
            hat false cs (.comma hblanks hnext)
        · simp [Faithful, Members.WellFormed]
    · simp [Faithful, Members.WellFormed]

theorem Sound.member_succ {fuel : Nat} (h : Sound fuel) (start : List Char) :
    Faithful
      (fun members rest => ∀ first cs, Separates first cs ('"' :: start) →
        MembersAt first cs members rest)
      Members.WellFormed (readMember (fuel + 1) start) := by
  rw [readMember]
  split
  · simp [Faithful, Members.WellFormed]
  · simp [Faithful, Members.WellFormed]
  · rename_i key colon hkey
    have hcolon := afterBlanks_skipSpace colon
    cases hs : skipSpace colon with
    | nil => simp [Faithful, Members.WellFormed]
    | cons c mid =>
      rw [hs] at hcolon
      dsimp only
      split
      · rename_i hc
        subst hc
        have hvalue := h.value mid
        split
        · rename_i node heq
          rw [heq] at hvalue
          exact fun hgood => hvalue hgood.1
        · rename_i node after heq
          rw [heq] at hvalue
          obtain ⟨inner, hblanks, hat⟩ := hvalue
          refine (h.members false after).map (Members.member key node) ?_
            fun members hgood => hgood.2
          intro members rest hmembers first cs hsep
          exact .member hsep (at_of_scanString hkey) hcolon hblanks hat hmembers
      · simp [Faithful, Members.WellFormed]

theorem sound (fuel : Nat) : Sound fuel := by
  induction fuel with
  | zero => exact sound_zero
  | succ fuel ih =>
    exact ⟨ih.value_succ, ih.items_succ, ih.item_succ, ih.members_succ, ih.member_succ⟩

theorem spells_of_readText {text : List Char} (hgood : (readText text).root.WellFormed)
    (hend : (readText text).trailing = false) : Spells text (readText text).root := by
  have hvalue := (sound (3 * text.length + 3)).value text
  unfold readText at hgood hend ⊢
  generalize readValue (3 * text.length + 3) text = r at hgood hend hvalue ⊢
  obtain ⟨node, _ | rest⟩ := r
  · exact absurd hgood hvalue
  · obtain ⟨start, hblanks, hat⟩ := hvalue
    have hnone : skipSpace rest = [] := by simpa using hend
    have hrest := afterBlanks_skipSpace rest
    rw [hnone] at hrest
    exact ⟨start, rest, hblanks, hat, hrest⟩

end Assay.Json
