import Mathlib.Tactic.SplitIfs
import Assay.Proofs.Binary64.RoundTrip
import Assay.Proofs.Json.Presentation
import Assay.Value

/-!
# What is written is what is read

A value that is written as JSON spells a tree that shows it: texts with their
characters, whole numbers with their digits, other finite numbers by a numeral
that leads back to them, and arrays and objects item by item. This is so in every
layout whose spaces are blanks, with one comma between two items and one colon
behind a key.
-/

set_option autoImplicit false

namespace Assay

open Json

/-- A finite number is shown by a numeral that is nearest to it, and that is not spelled as
an integer. Other numbers are lost, with a null in their place. -/
def Binary64.ShownBy (x : Binary64) (node : Node) : Prop :=
  if x.isFinite then
    ∃ n : Numeral, node = .number n ∧ (n.fraction ≠ [] ∨ n.exponent ≠ none) ∧ n.nearest = x
  else node = .null

def Value.Writable (v : Value) : Prop := ∀ x, v = .float x → x.isFinite = true

namespace Json

mutual

def ShownBy : Json → Node → Prop
  | .null, node => node = .null
  | .bool b, node => node = .bool b
  | .integer z, node => ∃ n : Numeral, node = .number n ∧ n.IsWhole z
  | .float x, node => x.ShownBy node
  | .string s, node => node.IsText s
  | .array vs, node => ∃ items nodes, node = .array items ∧ items.Lists nodes ∧
      ItemsShownBy vs nodes
  | .object members, node => ∃ named pairs, node = .object named ∧ named.Names pairs ∧
      MembersShownBy members pairs

def ItemsShownBy : List Json → List Node → Prop
  | [], nodes => nodes = []
  | v :: vs, nodes => ∃ node more, nodes = node :: more ∧ ShownBy v node ∧ ItemsShownBy vs more

def MembersShownBy : List (String × Json) → List (String × Node) → Prop
  | [], pairs => pairs = []
  | (key, v) :: rest, pairs => ∃ node more, pairs = (key, node) :: more ∧ ShownBy v node ∧
      MembersShownBy rest more

end

/-! ## Strings -/

/-- A unit that stands for one character, and the text that spells it. -/
structure SpellsUnit (text : List Char) (unit : StringUnit) (c : Char) : Prop where
  spelled : ∀ {cs rest : List Char} {units : List StringUnit}, StringAt cs units rest →
    StringAt (text ++ cs) (unit :: units) rest
  denotes : ∀ {units : List StringUnit} {cs : List Char}, UnitsText units cs →
    UnitsText (unit :: units) (c :: cs)

theorem spellsUnit_escape {e c : Char} (h : (e, c) ∈ shortEscapes) :
    SpellsUnit ['\\', e] (.char c) c :=
  ⟨.escape h, .char c⟩

theorem spellsUnit_control {c : Char} (h : c.toNat < 0x20) :
    SpellsUnit (['\\', 'u', '0', '0'] ++ hexPair c.toNat) (.code c.toNat) c := by
  have hdigit {d : Nat} (hd : d < 16) : HexDigit (Nat.digitChar d) d := ⟨hd, .inl rfl⟩
  have hcode : 16 * (16 * (16 * 0 + 0) + c.toNat / 16) + c.toNat % 16 = c.toNat := by omega
  constructor
  · intro cs rest units hs
    have hat := StringAt.code (hdigit (d := 0) (by decide)) (hdigit (d := 0) (by decide))
      (hdigit (show c.toNat / 16 < 16 by omega)) (hdigit (show c.toNat % 16 < 16 by omega)) hs
    rw [hcode] at hat
    exact hat
  · intro units cs hs
    have hdenotes := UnitsText.code (.inl (show c.toNat < 0xd800 by omega)) hs
    rwa [Char.ofNat_toNat] at hdenotes

theorem escapeChar_spells (c : Char) : ∃ unit, SpellsUnit (escapeChar c) unit c := by
  unfold escapeChar
  split_ifs with hquote hbackslash hb hf hn hr ht hcontrol
  · subst hquote
    exact ⟨_, spellsUnit_escape (by decide)⟩
  · subst hbackslash
    exact ⟨_, spellsUnit_escape (by decide)⟩
  · subst hb
    exact ⟨_, spellsUnit_escape (by decide)⟩
  · subst hf
    exact ⟨_, spellsUnit_escape (by decide)⟩
  · subst hn
    exact ⟨_, spellsUnit_escape (by decide)⟩
  · subst hr
    exact ⟨_, spellsUnit_escape (by decide)⟩
  · subst ht
    exact ⟨_, spellsUnit_escape (by decide)⟩
  · exact ⟨_, spellsUnit_control hcontrol⟩
  · exact ⟨.char c, .char (Nat.le_of_not_lt hcontrol) hquote hbackslash, .char c⟩

theorem escaped_spells (s : String) : ∃ units, UnitsText units s.toList ∧
    ∀ rest, (escaped s).toList ++ rest = '"' :: (s.toList.flatMap escapeChar ++ '"' :: rest) ∧
      StringAt (s.toList.flatMap escapeChar ++ '"' :: rest) units rest := by
  have htext (rest : List Char) : (escaped s).toList ++ rest =
      '"' :: (s.toList.flatMap escapeChar ++ '"' :: rest) := by
    simp [escaped]
  suffices h : ∀ cs : List Char, ∃ units, UnitsText units cs ∧
      ∀ rest, StringAt (cs.flatMap escapeChar ++ '"' :: rest) units rest by
    obtain ⟨units, hdenotes, hat⟩ := h s.toList
    exact ⟨units, hdenotes, fun rest => ⟨htext rest, hat rest⟩⟩
  intro cs
  induction cs with
  | nil => exact ⟨[], .nil, .close⟩
  | cons c cs ih =>
    obtain ⟨units, hdenotes, hat⟩ := ih
    obtain ⟨unit, hunit⟩ := escapeChar_spells c
    refine ⟨unit :: units, hunit.denotes hdenotes, fun rest => ?_⟩
    rw [List.flatMap_cons, List.append_assoc]
    exact hunit.spelled (hat rest)

/-! ## Layouts -/

theorem AfterBlanks.of_blanks {bs : List Char} (h : ∀ c ∈ bs, c ∈ blanks) (rest : List Char) :
    AfterBlanks (bs ++ rest) rest := by
  induction bs with
  | nil => exact .here rest
  | cons b bs ih =>
    rw [List.forall_mem_cons] at h
    exact .blank h.1 (ih h.2)

/-- What a layout puts between the parts of a text means nothing to those who read it. -/
structure Spacing.Blank (sp : Spacing) : Prop where
  opening : ∀ c ∈ sp.opening.toList, c ∈ blanks
  between : ∃ more, sp.between.toList = ',' :: more ∧ ∀ c ∈ more, c ∈ blanks
  closing : ∀ c ∈ sp.closing.toList, c ∈ blanks
  afterKey : ∃ more, sp.afterKey.toList = ':' :: more ∧ ∀ c ∈ more, c ∈ blanks

theorem Spacing.indented_blank (depth : Nat) : (Spacing.indented depth).Blank := by
  have hpad (n : Nat) : ∀ c ∈ '\n' :: List.replicate n ' ', c ∈ blanks := by
    intro c hc
    rcases List.mem_cons.mp hc with rfl | hc
    · decide
    · rw [List.eq_of_mem_replicate hc]
      decide
  have hspace : ∀ c ∈ [' '], c ∈ blanks := List.forall_mem_singleton.mpr (by decide)
  refine ⟨?_, ⟨'\n' :: List.replicate (2 * (depth + 1)) ' ', ?_, hpad _⟩, ?_,
    ⟨[' '], ?_, hspace⟩⟩
  · simpa [indented] using hpad (2 * (depth + 1))
  · simp [indented]
  · simpa [indented] using hpad (2 * depth)
  · simp [indented]

def SpelledBy (node : Node) (text : String) : Prop :=
  ∀ rest, ValueAt (text.toList ++ rest) node rest

section Parts

variable {sp : Spacing} (hsp : sp.Blank)
include hsp

theorem items_spelled {node : Node} {nodes : List Node} {part : String} {parts : List String}
    (hnode : SpelledBy node part) (hparts : List.Forall₂ SpelledBy nodes parts) :
    ∃ items, items.Lists (node :: nodes) ∧ ∀ first cs rest, Separates first cs
      ((String.intercalate sp.between (part :: parts) ++ sp.closing).toList ++ ']' :: rest) →
        ItemsAt first cs items rest := by
  -- What stands before an item is left open: a comma, or nothing for the first one.
  induction hparts generalizing node part with
  | nil =>
    refine ⟨.item node .closed, .item node .closed, fun first cs rest hsep => ?_⟩
    rw [String.intercalate_singleton, String.toList_append, List.append_assoc] at hsep
    exact .item hsep (hnode _) (.close (.of_blanks hsp.closing _))
  | @cons next nextPart nodes parts hnext hparts ih =>
    obtain ⟨items, hlists, hitems⟩ := ih hnext
    refine ⟨.item node items, .item node hlists, fun first cs rest hsep => ?_⟩
    obtain ⟨more, hbetween, hmore⟩ := hsp.between
    simp only [String.intercalate_cons_cons, String.toList_append, List.append_assoc,
      hbetween, List.cons_append] at hsep
    refine .item hsep (hnode _) (hitems false _ rest (.comma (.here _) ?_))
    rw [String.toList_append, List.append_assoc]
    exact .of_blanks hmore _

theorem array_spelled {nodes : List Node} {parts : List String}
    (hparts : List.Forall₂ SpelledBy nodes parts) :
    ∃ items, items.Lists nodes ∧ SpelledBy (.array items) (enclose "[" "]" sp parts) := by
  cases hparts with
  | nil =>
    have hclose (rest : List Char) : ItemsAt true (']' :: rest) .closed rest := .close (.here _)
    exact ⟨.closed, .closed, fun rest => by simpa [enclose] using ValueAt.array (hclose rest)⟩
  | @cons node part nodes parts hnode hparts =>
    obtain ⟨items, hlists, hitems⟩ := items_spelled hsp hnode hparts
    refine ⟨items, hlists, fun rest => ?_⟩
    have hat := hitems true _ rest (.first (.of_blanks hsp.opening _))
    simpa [enclose] using ValueAt.array hat

def SpelledMember (member : String × Node) (part : String) : Prop :=
  ∃ units, UnitsText units member.1.toList ∧ ∀ first cs after rest members,
    Separates first cs (part.toList ++ after) → MembersAt false after members rest →
      MembersAt first cs (.member units member.2 members) rest

theorem spelledMember {key : String} {node : Node} {text : String} (h : SpelledBy node text) :
    SpelledMember (key, node) (escaped key ++ sp.afterKey ++ text) := by
  obtain ⟨units, hdenotes, hkey⟩ := escaped_spells key
  obtain ⟨more, hcolon, hmore⟩ := hsp.afterKey
  refine ⟨units, hdenotes, fun first cs after rest members hsep hmembers => ?_⟩
  have hsplit := hkey (sp.afterKey.toList ++ (text.toList ++ after))
  rw [String.toList_append, String.toList_append, List.append_assoc, List.append_assoc,
    hsplit.1] at hsep
  rw [hcolon] at hsep hsplit
  exact .member hsep hsplit.2 (.here _) (.of_blanks hmore _) (h after) hmembers

theorem members_spelled {pair : String × Node} {pairs : List (String × Node)} {part : String}
    {parts : List String} (hpair : SpelledMember pair part)
    (hparts : List.Forall₂ SpelledMember pairs parts) :
    ∃ members, members.Names (pair :: pairs) ∧ ∀ first cs rest, Separates first cs
      ((String.intercalate sp.between (part :: parts) ++ sp.closing).toList ++ '\x7d' :: rest) →
        MembersAt first cs members rest := by
  induction hparts generalizing pair part with
  | nil =>
    obtain ⟨units, hdenotes, hmember⟩ := hpair
    refine ⟨.member units pair.2 .closed, .member pair.2 hdenotes .closed,
      fun first cs rest hsep => ?_⟩
    rw [String.intercalate_singleton, String.toList_append, List.append_assoc] at hsep
    exact hmember first cs _ rest _ hsep (.close (.of_blanks hsp.closing _))
  | @cons next nextPart pairs parts hnext hparts ih =>
    obtain ⟨members, hnames, hmembers⟩ := ih hnext
    obtain ⟨units, hdenotes, hmember⟩ := hpair
    refine ⟨.member units pair.2 members, .member pair.2 hdenotes hnames,
      fun first cs rest hsep => ?_⟩
    obtain ⟨more, hbetween, hmore⟩ := hsp.between
    simp only [String.intercalate_cons_cons, String.toList_append, List.append_assoc,
      hbetween, List.cons_append] at hsep
    refine hmember first cs _ rest _ hsep (hmembers false _ rest (.comma (.here _) ?_))
    rw [String.toList_append, List.append_assoc]
    exact .of_blanks hmore _

theorem object_spelled {pairs : List (String × Node)} {parts : List String}
    (hparts : List.Forall₂ SpelledMember pairs parts) :
    ∃ members, members.Names pairs ∧
      SpelledBy (.object members) (enclose "\x7b" "\x7d" sp parts) := by
  cases hparts with
  | nil =>
    have hclose (rest : List Char) : MembersAt true ('\x7d' :: rest) .closed rest :=
      .close (.here _)
    exact ⟨.closed, .closed, fun rest => by simpa [enclose] using ValueAt.object (hclose rest)⟩
  | @cons pair part pairs parts hpair hparts =>
    obtain ⟨members, hnames, hmembers⟩ := members_spelled hsp hpair hparts
    refine ⟨members, hnames, fun rest => ?_⟩
    have hat := hmembers true _ rest (.first (.of_blanks hsp.opening _))
    simpa [enclose] using ValueAt.object hat

end Parts

/-! ## Values -/

theorem null_spelled : SpelledBy .null "null" := .null

theorem bool_spelled (b : Bool) : SpelledBy (.bool b) (if b then "true" else "false") := by
  cases b with
  | false => exact .no
  | true => exact .yes

theorem float_spelled (x : Binary64) :
    ∃ node, x.ShownBy node ∧ SpelledBy node (Layout.json.render x) := by
  cases x with
  | nan => exact ⟨.null, rfl, null_spelled⟩
  | inf s => exact ⟨.null, rfl, by cases s <;> exact null_spelled⟩
  | finite s r =>
    obtain ⟨cs, n, htext, hat, hmarked, hnearest⟩ :=
      Binary64.exists_numeral_render Layout.json_marked s r
    refine ⟨.number n, ⟨n, rfl, hmarked, hnearest⟩, fun rest => ?_⟩
    rw [htext]
    cases s with
    | false => exact .plain (hat.append rest)
    | true => exact .negative (hat.append rest)

theorem integer_spelled (z : Int) :
    ∃ n : Numeral, n.IsWhole z ∧ SpelledBy (.number n) (toString z) := by
  have hat := Binary64.decimalDigits_at (decide (z < 0)) z.natAbs
  have hvalue : (if decide (z < 0) then -(digitsValue (decimalDigits z.natAbs) : Int)
      else digitsValue (decimalDigits z.natAbs)) = z := by
    rw [digitsValue_decimalDigits]
    by_cases hneg : z < 0
    · rw [if_pos (decide_eq_true hneg)]
      omega
    · rw [if_neg (by simp [hneg])]
      omega
  refine ⟨⟨decide (z < 0), decimalDigits z.natAbs, [], none⟩, ⟨rfl, rfl, hvalue⟩, fun rest => ?_⟩
  rw [Binary64.toList_toString]
  cases hneg : decide (z < 0) with
  | false =>
    rw [hneg] at hat
    exact .plain (hat.append rest)
  | true =>
    rw [hneg] at hat
    exact .negative (hat.append rest)

mutual

theorem render_spelled {spacing : Nat → Spacing}
    (hspacing : ∀ depth, (spacing depth).Blank) : ∀ (v : Json) (depth : Nat),
    ∃ node, v.ShownBy node ∧ SpelledBy node (v.render spacing depth)
  | .null, _ => ⟨.null, rfl, null_spelled⟩
  | .bool b, _ => ⟨.bool b, rfl, bool_spelled b⟩
  | .integer z, _ => by
    obtain ⟨n, hn, hspelled⟩ := integer_spelled z
    exact ⟨.number n, ⟨n, rfl, hn⟩, hspelled⟩
  | .float x, _ => float_spelled x
  | .string s, _ => by
    obtain ⟨units, hdenotes, hat⟩ := escaped_spells s
    refine ⟨.string units, .intro hdenotes, fun rest => ?_⟩
    rw [render, (hat rest).1]
    exact .string (hat rest).2
  | .array vs, depth => by
    obtain ⟨nodes, hshown, hparts⟩ := renderItems_spelled hspacing vs (depth + 1)
    obtain ⟨items, hlists, hspelled⟩ := array_spelled (hspacing depth) hparts
    exact ⟨.array items, ⟨items, nodes, rfl, hlists, hshown⟩, hspelled⟩
  | .object members, depth => by
    obtain ⟨pairs, hshown, hparts⟩ := renderMembers_spelled hspacing members (depth + 1)
    obtain ⟨named, hnames, hspelled⟩ := object_spelled (hspacing depth) hparts
    exact ⟨.object named, ⟨named, pairs, rfl, hnames, hshown⟩, hspelled⟩

theorem renderItems_spelled {spacing : Nat → Spacing}
    (hspacing : ∀ depth, (spacing depth).Blank) : ∀ (vs : List Json) (depth : Nat),
    ∃ nodes, ItemsShownBy vs nodes ∧
      List.Forall₂ SpelledBy nodes (renderItems spacing depth vs)
  | [], _ => ⟨[], rfl, .nil⟩
  | v :: vs, depth => by
    obtain ⟨node, hshown, hspelled⟩ := render_spelled hspacing v depth
    obtain ⟨nodes, hshowns, hparts⟩ := renderItems_spelled hspacing vs depth
    exact ⟨node :: nodes, ⟨node, nodes, rfl, hshown, hshowns⟩, .cons hspelled hparts⟩

theorem renderMembers_spelled {spacing : Nat → Spacing}
    (hspacing : ∀ depth, (spacing depth).Blank) : ∀ (members : List (String × Json)) (depth : Nat),
    ∃ pairs, MembersShownBy members pairs ∧
      List.Forall₂ SpelledMember pairs (renderMembers spacing depth members)
  | [], _ => ⟨[], rfl, .nil⟩
  | (key, v) :: members, depth => by
    obtain ⟨node, hshown, hspelled⟩ := render_spelled hspacing v depth
    obtain ⟨pairs, hshowns, hparts⟩ := renderMembers_spelled hspacing members depth
    exact ⟨(key, node) :: pairs, ⟨node, pairs, rfl, hshown, hshowns⟩,
      .cons (spelledMember (hspacing depth) hspelled) hparts⟩

end

theorem pretty_spells (v : Json) : ∃ node, v.ShownBy node ∧ Spells v.pretty.toList node := by
  obtain ⟨node, hshown, hspelled⟩ := render_spelled Spacing.indented_blank v 0
  have hat := hspelled []
  rw [List.append_nil] at hat
  exact ⟨node, hshown, _, [], .here _, hat, .here _⟩

end Json

end Assay
