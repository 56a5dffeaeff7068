import Assay.Proofs.Json.Scan

/-!
# The reader takes all of the grammar

A spelled value is read as its tree, with the fuel that a whole text is given.
The texts that count are those behind which no numeral goes on, which holds of
everything that may follow a value.
-/

set_option autoImplicit false

namespace Assay.Json

theorem ne_of_isDigit {c d : Char} (hc : c.isDigit = true) (hd : d.isDigit = false) : c ≠ d := by
  rintro rfl
  simp [hc] at hd

theorem ValueAt.exists_cons {cs rest : List Char} {node : Node} (h : ValueAt cs node rest) :
    ∃ c tail, cs = c :: tail ∧ isSpace c = false ∧ c ≠ ']' := by
  cases h with
  | plain h =>
    obtain ⟨c, tail, rfl, hc⟩ := h.starts_with_digit
    have hspace : isSpace c = false := by
      simp [isSpace, ne_of_isDigit hc (show ' '.isDigit = false from rfl),
        ne_of_isDigit hc (show '\t'.isDigit = false from rfl),
        ne_of_isDigit hc (show '\n'.isDigit = false from rfl),
        ne_of_isDigit hc (show '\r'.isDigit = false from rfl)]
    exact ⟨c, tail, rfl, hspace, ne_of_isDigit hc rfl⟩
  | null => exact ⟨_, _, rfl, rfl, by decide⟩
  | yes => exact ⟨_, _, rfl, rfl, by decide⟩
  | no => exact ⟨_, _, rfl, rfl, by decide⟩
  | negative => exact ⟨_, _, rfl, rfl, by decide⟩
  | string => exact ⟨_, _, rfl, rfl, by decide⟩
  | array => exact ⟨_, _, rfl, rfl, by decide⟩
  | object => exact ⟨_, _, rfl, rfl, by decide⟩

theorem stops_cons {c : Char} (hc : c.isDigit = false ∧ c ≠ '.' ∧ c ≠ 'e' ∧ c ≠ 'E')
    (rest : List Char) : Stops (c :: rest) := by
  intro d hd
  obtain rfl : c = d := by simpa using hd
  exact hc

theorem Separates.stops {cs start : List Char} (h : Separates false cs start) : Stops cs := by
  cases h with
  | comma h => exact .of_blanks h (stops_cons (by decide) _)

theorem ItemsAt.stops {cs rest : List Char} {items : Items} (h : ItemsAt false cs items rest) :
    Stops cs := by
  cases h with
  | close h => exact .of_blanks h (stops_cons (by decide) _)
  | item hsep => exact hsep.stops

theorem MembersAt.stops {cs rest : List Char} {members : Members}
    (h : MembersAt false cs members rest) : Stops cs := by
  cases h with
  | close h => exact .of_blanks h (stops_cons (by decide) _)
  | member hsep => exact hsep.stops

theorem Separates.length_le {first : Bool} {cs start : List Char} (h : Separates first cs start) :
    start.length ≤ cs.length := by
  cases h with
  | first h => exact h.length_le
  | comma h hstart =>
    have hcomma := h.length_le
    have hle := hstart.length_le
    rw [List.length_cons] at hcomma
    omega

/-- With this fuel the reader takes every spelling that is short enough, and leaves less
text than it was given. -/
structure Complete (fuel : Nat) : Prop where
  -- from a value through its items to the value inside, three steps take one character
  value : ∀ {cs start node rest}, AfterBlanks cs start → ValueAt start node rest → Stops rest →
    3 * cs.length ≤ fuel + 2 →
    readValue fuel cs = (node, some rest) ∧ rest.length < cs.length
  items : ∀ {first cs items rest}, ItemsAt first cs items rest → 3 * cs.length ≤ fuel →
    readItems fuel first cs = (items, some rest) ∧ rest.length < cs.length
  item : ∀ {start node mid items rest}, ValueAt start node mid → ItemsAt false mid items rest →
    3 * start.length ≤ fuel + 1 →
    readItem fuel start = (.item node items, some rest) ∧ rest.length < start.length
  members : ∀ {first cs members rest}, MembersAt first cs members rest → 3 * cs.length ≤ fuel →
    readMembers fuel first cs = (members, some rest) ∧ rest.length < cs.length
  member : ∀ {start key colon mid value node after members rest}, StringAt start key colon →
    AfterBlanks colon (':' :: mid) → AfterBlanks mid value → ValueAt value node after →
    MembersAt false after members rest → 3 * start.length ≤ fuel + 1 →
    readMember fuel start = (.member key node members, some rest) ∧ rest.length < start.length

theorem ValueAt.length_pos {cs rest : List Char} {node : Node} (h : ValueAt cs node rest) :
    0 < cs.length := by
  obtain ⟨c, tail, rfl, -⟩ := h.exists_cons
  simp

theorem complete_zero : Complete 0 := by
  constructor
  · intro cs start node rest hblanks hvalue hstops hfuel
    have hpos := hvalue.length_pos
    have hle := hblanks.length_le
    omega
  · intro first cs items rest hitems hfuel
    cases hitems with
    | close h =>
      have hle := h.length_le
      rw [List.length_cons] at hle
      omega
    | item hsep hvalue =>
      have hpos := hvalue.length_pos
      have hle := hsep.length_le
      omega
  · intro start node mid items rest hvalue hitems hfuel
    have hpos := hvalue.length_pos
    omega
  · intro first cs members rest hmembers hfuel
    cases hmembers with
    | close h =>
      have hle := h.length_le
      rw [List.length_cons] at hle
      omega
    | member hsep =>
      have hle := hsep.length_le
      rw [List.length_cons] at hle
      omega
  · intro start key colon mid value node after members rest hkey _ _ _ _ hfuel
    have hlt := hkey.length_lt
    omega

theorem Complete.value_succ {fuel : Nat} (h : Complete fuel) {cs start rest : List Char}
    {node : Node} (hblanks : AfterBlanks cs start) (hvalue : ValueAt start node rest)
    (hstops : Stops rest) (hfuel : 3 * cs.length ≤ fuel + 1 + 2) :
    readValue (fuel + 1) cs = (node, some rest) ∧ rest.length < cs.length := by
  have hle := hblanks.length_le
  obtain ⟨c, tail, hcons, hspace, -⟩ := hvalue.exists_cons
  have hskip : skipSpace cs = start := by
    rw [hcons] at hblanks ⊢
    exact hblanks.skipSpace_cons hspace
  cases hvalue with
  | null rest =>
    simp only [List.length_cons] at hle
    refine ⟨?_, by omega⟩
    simp [readValue, hskip, wordNode, scanWord]
  | yes rest =>
    simp only [List.length_cons] at hle
    refine ⟨?_, by omega⟩
    simp [readValue, hskip, wordNode, scanWord]
  | no rest =>
    simp only [List.length_cons] at hle
    refine ⟨?_, by omega⟩
    simp [readValue, hskip, wordNode, scanWord]
  | plain hn =>
    have hlt := hn.length_lt
    refine ⟨?_, by omega⟩
    obtain ⟨d, more, rfl, hd⟩ := hn.starts_with_digit
    have hne (e : Char) (he : e.isDigit = false) : d ≠ e := ne_of_isDigit hd he
    simp [readValue, hskip, numberNode, scanNumeral_of_at hn hstops, hd, hne 'n' rfl, hne 't' rfl,
      hne 'f' rfl, hne '"' rfl, hne '-' rfl]
  | negative hn =>
    have hlt := hn.length_lt
    rw [List.length_cons] at hle
    refine ⟨?_, by omega⟩
    simp [readValue, hskip, numberNode, scanNumeral_of_at hn hstops]
  | string hs =>
    have hlt := hs.length_lt
    rw [List.length_cons] at hle
    refine ⟨?_, by omega⟩
    simp [readValue, hskip, stringNode, scanString_of_at hs]
  | array hitems =>
    rw [List.length_cons] at hle
    obtain ⟨hread, hlt⟩ := h.items hitems (by omega)
    refine ⟨?_, by omega⟩
    simp [readValue, hskip, hread]
  | object hmembers =>
    rw [List.length_cons] at hle
    obtain ⟨hread, hlt⟩ := h.members hmembers (by omega)
    refine ⟨?_, by omega⟩
    simp [readValue, hskip, hread]

theorem Complete.items_succ {fuel : Nat} (h : Complete fuel) {first : Bool} {cs rest : List Char}
    {items : Items} (hitems : ItemsAt first cs items rest) (hfuel : 3 * cs.length ≤ fuel + 1) :
    readItems (fuel + 1) first cs = (items, some rest) ∧ rest.length < cs.length := by
  cases hitems with
  | close hblanks =>
    have hle := hblanks.length_le
    rw [List.length_cons] at hle
    refine ⟨?_, by omega⟩
    simp [readItems, hblanks.skipSpace_cons rfl]
  | @item first cs start mid rest node items hsep hvalue hmore =>
    have hle := hsep.length_le
    obtain ⟨hread, hlt⟩ := h.item hvalue hmore (by omega)
    refine ⟨?_, by omega⟩
    obtain ⟨c, tail, rfl, hspace, hclose⟩ := hvalue.exists_cons
    cases hsep with
    | first hblanks => simp [readItems, hblanks.skipSpace_cons hspace, hclose, hread]
    | comma hblanks hstart =>
      simp [readItems, hblanks.skipSpace_cons rfl, hstart.skipSpace_cons hspace, hclose, hread]

theorem Complete.item_succ {fuel : Nat} (h : Complete fuel) {start mid rest : List Char}
    {node : Node} {items : Items} (hvalue : ValueAt start node mid)
    (hitems : ItemsAt false mid items rest) (hfuel : 3 * start.length ≤ fuel + 1 + 1) :
    readItem (fuel + 1) start = (.item node items, some rest) ∧ rest.length < start.length := by
  obtain ⟨hnode, hmid⟩ := h.value (.here start) hvalue hitems.stops (by omega)
  obtain ⟨hread, hlt⟩ := h.items hitems (by omega)
  refine ⟨?_, by omega⟩
  simp [readItem, hnode, hread]

theorem Complete.members_succ {fuel : Nat} (h : Complete fuel) {first : Bool}
    {cs rest : List Char} {members : Members} (hmembers : MembersAt first cs members rest)
    (hfuel : 3 * cs.length ≤ fuel + 1) :
    readMembers (fuel + 1) first cs = (members, some rest) ∧ rest.length < cs.length := by
  cases hmembers with
  | close hblanks =>
    have hle := hblanks.length_le
    rw [List.length_cons] at hle
    refine ⟨?_, by omega⟩
    simp [readMembers, hblanks.skipSpace_cons rfl]
  | member hsep hkey hcolon hvalue hnode hmore =>
    have hle := hsep.length_le
    rw [List.length_cons] at hle
    obtain ⟨hread, hlt⟩ := h.member hkey hcolon hvalue hnode hmore (by omega)
    refine ⟨?_, by omega⟩
    cases hsep with
    | first hblanks => simp [readMembers, hblanks.skipSpace_cons rfl, hread]
    | comma hblanks hstart =>
      simp [readMembers, hblanks.skipSpace_cons rfl, hstart.skipSpace_cons rfl, hread]

theorem Complete.member_succ {fuel : Nat} (h : Complete fuel)
    {start colon mid value after rest : List Char} {key : List StringUnit} {node : Node}
    {members : Members} (hkey : StringAt start key colon)
    (hcolon : AfterBlanks colon (':' :: mid)) (hblanks : AfterBlanks mid value)
    (hvalue : ValueAt value node after) (hmembers : MembersAt false after members rest)
    (hfuel : 3 * start.length ≤ fuel + 1 + 1) :
    readMember (fuel + 1) start = (.member key node members, some rest) ∧
      rest.length < start.length := by
  have hkey_lt := hkey.length_lt
  have hcolon_le := hcolon.length_le
  rw [List.length_cons] at hcolon_le
  obtain ⟨hnode, hafter⟩ := h.value hblanks hvalue hmembers.stops (by omega)
  obtain ⟨hread, hlt⟩ := h.members hmembers (by omega)
  refine ⟨?_, by omega⟩
  simp [readMember, scanString_of_at hkey, hcolon.skipSpace_cons rfl, hnode, hread]

theorem complete (fuel : Nat) : Complete fuel := by
  induction fuel with
  | zero => exact complete_zero
  | succ fuel ih =>
    exact ⟨ih.value_succ, ih.items_succ, ih.item_succ, ih.members_succ, ih.member_succ⟩

theorem readText_of_spells {text : List Char} {node : Node} (h : Spells text node) :
    readText text = ⟨node, false⟩ := by
  obtain ⟨start, rest, hblanks, hvalue, hrest⟩ := h
  have hread := ((complete (3 * text.length + 3)).value hblanks hvalue
    (.of_blanks hrest stops_nil) (by omega)).1
  have hnone : skipSpace rest = [] := hrest.skipSpace_eq
  simp [readText, hread, hnone]

end Assay.Json
