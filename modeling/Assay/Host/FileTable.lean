import Assay.Host.Entry

/-!
# File tables

A table gives places, lists of names from the root, the numbers of nodes. Several
places may share a node, and a node stays when its last place is gone. A table is
that of a tree where a folder stands at the root, and whatever stands elsewhere
stands in a folder, under a name that no other thing there has. Each change of a
table keeps it that of a tree under a condition that can be looked up before.

Names are texts, so that a file with a name that is no UTF-8 has no place here.
-/

set_option autoImplicit false

namespace Assay

structure FileTable where
  names : List (Place × Nat)
  nodes : Array Inode
deriving DecidableEq, Repr

def nameLimit : Nat := 255

namespace FileTable

/-- A part of a path that leads on to what is called so. -/
structure IsName (part : String) : Prop where
  named : ¬ (part = "" ∨ part = ".")
  below : part ≠ ".."
  short : ¬ nameLimit < part.utf8ByteSize

structure IsFileName (name : String) : Prop extends IsName name where
  undivided : '/' ∉ name.toList
  noNul : '\x00' ∉ name.toList

instance (name : String) : Decidable (IsFileName name) :=
  decidable_of_iff (((¬ (name = "" ∨ name = ".")) ∧ name ≠ ".." ∧
      ¬ nameLimit < name.utf8ByteSize) ∧ '/' ∉ name.toList ∧ '\x00' ∉ name.toList)
    ⟨fun ⟨⟨h₁, h₂, h₃⟩, h₄, h₅⟩ => ⟨⟨h₁, h₂, h₃⟩, h₄, h₅⟩,
      fun ⟨⟨h₁, h₂, h₃⟩, h₄, h₅⟩ => ⟨⟨h₁, h₂, h₃⟩, h₄, h₅⟩⟩

def number? (t : FileTable) (p : Place) : Option Nat :=
  (t.names.find? fun e => e.1 == p).map Prod.snd

def node? (t : FileTable) (p : Place) : Option Inode :=
  (t.number? p).bind fun n => t.nodes[n]?

def at? (t : FileTable) (p : Place) : Option Entry := (t.node? p).map Inode.entry

def entryOf? (t : FileTable) (number : Nat) : Option Entry := (t.nodes[number]?).map Inode.entry

structure IsTree (t : FileTable) : Prop where
  root : t.at? [] = some .folder
  distinct : (t.names.map Prod.fst).Nodup
  held : ∀ e ∈ t.names, e.2 < t.nodes.size
  grounded : ∀ e ∈ t.names, e.1 ≠ [] → t.at? e.1.dropLast = some .folder
  named : ∀ e ∈ t.names, ∀ name ∈ e.1, IsFileName name

structure Takes (t : FileTable) (p : Place) : Prop where
  parent : t.at? p.dropLast = some .folder
  named : ∀ name ∈ p, IsFileName name

instance (t : FileTable) (p : Place) : Decidable (t.Takes p) :=
  decidable_of_iff (t.at? p.dropLast = some .folder ∧ ∀ name ∈ p, IsFileName name)
    ⟨fun ⟨h₁, h₂⟩ => ⟨h₁, h₂⟩, fun ⟨h₁, h₂⟩ => ⟨h₁, h₂⟩⟩

structure Vacant (t : FileTable) (p : Place) : Prop extends t.Takes p where
  free : t.at? p = none

variable {t : FileTable} {p q : Place} {e : Entry}

/-! ## Looking up -/

theorem at?_eq (t : FileTable) (q : Place) : t.at? q = (t.number? q).bind t.entryOf? := by
  unfold at? node? entryOf?
  cases t.number? q <;> rfl

theorem at?_eq_some : t.at? q = some e ↔ ∃ n, t.number? q = some n ∧ t.entryOf? n = some e := by
  rw [at?_eq, Option.bind_eq_some_iff]

theorem mem_of_number? {n : Nat} (h : t.number? p = some n) : (p, n) ∈ t.names := by
  obtain ⟨e, he, rfl⟩ := Option.map_eq_some_iff.1 h
  have hplace : e.1 = p := by simpa using List.find?_some he
  have hmem := List.mem_of_find?_eq_some he
  rwa [← hplace]

theorem find?_of_mem {names : List (Place × Nat)} (hnames : (names.map Prod.fst).Nodup) {n : Nat}
    (h : (p, n) ∈ names) : (names.find? fun e => e.1 == p) = some (p, n) := by
  induction names with
  | nil => cases h
  | cons e names ih =>
    rw [List.map_cons, List.nodup_cons] at hnames
    rcases List.mem_cons.1 h with rfl | h
    · rw [List.find?_cons_of_pos (by simp)]
    · have hne : e.1 ≠ p := by
        rintro rfl
        exact hnames.1 (List.mem_map.2 ⟨_, h, rfl⟩)
      rw [List.find?_cons_of_neg (by simpa using hne)]
      exact ih hnames.2 h

theorem number?_of_mem (hnames : (t.names.map Prod.fst).Nodup) {n : Nat} (h : (p, n) ∈ t.names) :
    t.number? p = some n := by
  rw [number?, find?_of_mem hnames h]
  rfl

theorem entryOf?_isSome {n : Nat} (h : n < t.nodes.size) : ∃ e, t.entryOf? n = some e := by
  rw [entryOf?, Array.getElem?_eq_getElem h]
  exact ⟨_, rfl⟩

/-! ## Changes -/

def name (t : FileTable) (p : Place) (number : Nat) : FileTable :=
  { t with names := (t.names.filter fun e => e.1 != p) ++ [(p, number)] }

/-- Puts a new node at a place, instead of what stood there. -/
def put (t : FileTable) (p : Place) (n : Inode) : FileTable :=
  { t with nodes := t.nodes.push n }.name p t.nodes.size

def alter (t : FileTable) (number : Nat) (f : Inode → Inode) : FileTable :=
  { t with nodes := t.nodes.modify number f }

def restrict (t : FileTable) (keep : Place → Bool) : FileTable :=
  { t with names := t.names.filter fun e => keep e.1 }

def remove (t : FileTable) (p : Place) : FileTable :=
  t.restrict fun q => !p.isPrefixOf q

def relocate (t : FileTable) (f : Place → Place) : FileTable :=
  { t with names := t.names.map fun e => (f e.1, e.2) }

def moved (p q r : Place) : Place := if p.isPrefixOf r then q ++ r.drop p.length else r

/-- Moves what stands at a place, with everything below it, instead of what stood at
another place. -/
def rename (t : FileTable) (p q : Place) : FileTable :=
  (t.remove q).relocate (moved p q)

theorem number?_name (t : FileTable) (p q : Place) (n : Nat) :
    (t.name p n).number? q = if q = p then some n else t.number? q := by
  unfold number? name
  by_cases hq : q = p
  · subst hq
    rw [if_pos rfl, List.find?_append, List.find?_eq_none.2]
    · simp
    · intro e he
      simpa using (List.mem_filter.1 he).2
  · have hsame : ((t.names.filter fun e => e.1 != p).find? fun e => e.1 == q) =
        t.names.find? fun e => e.1 == q := by
      rw [List.find?_filter]
      congr 1
      funext e
      by_cases he : e.1 = q <;> simp [he, hq]
    rw [if_neg hq, List.find?_append, hsame]
    have hlast : ([(p, n)].find? fun e => e.1 == q) = none := by simp [Ne.symm hq]
    rw [hlast, Option.or_none]

theorem at?_name (t : FileTable) (p q : Place) (n : Nat) :
    (t.name p n).at? q = if q = p then t.entryOf? n else t.at? q := by
  rw [at?_eq, number?_name]
  split
  · rfl
  · rw [at?_eq]
    rfl

theorem number?_put (t : FileTable) (p q : Place) (n : Inode) :
    (t.put p n).number? q = if q = p then some t.nodes.size else t.number? q :=
  number?_name _ p q _

theorem entryOf?_put (t : FileTable) (p : Place) (n : Inode) (number : Nat) :
    (t.put p n).entryOf? number =
      if number = t.nodes.size then some n.entry else t.entryOf? number := by
  unfold entryOf? put name
  rw [Array.getElem?_push]
  split <;> rfl

theorem entryOf?_alter (t : FileTable) (number : Nat) (f : Inode → Inode) (other : Nat) :
    (t.alter number f).entryOf? other =
      if number = other then (t.nodes[other]?).map fun n => (f n).entry else t.entryOf? other := by
  unfold entryOf? alter
  rw [Array.getElem?_modify]
  split
  · rw [Option.map_map]
    rfl
  · rfl

/-! ## Moved places -/

theorem moved_append (p q r : Place) : moved p q (p ++ r) = q ++ r := by
  rw [moved, if_pos (List.isPrefixOf_iff_prefix.2 (List.prefix_append p r)), List.drop_left]

theorem moved_of_apart {r : Place} (h : ¬ p <+: r) : moved p q r = r := by
  rw [moved, if_neg (by rwa [List.isPrefixOf_iff_prefix])]

/-- What is moved comes to stand below the new place, where nothing is left. -/
theorem moved_injective {a b : Place} (ha : ¬ q <+: a) (hb : ¬ q <+: b)
    (h : moved p q a = moved p q b) : a = b := by
  by_cases hpa : p <+: a <;> by_cases hpb : p <+: b
  · obtain ⟨ra, rfl⟩ := hpa
    obtain ⟨rb, rfl⟩ := hpb
    rw [moved_append, moved_append] at h
    rw [List.append_cancel_left h]
  · obtain ⟨ra, rfl⟩ := hpa
    rw [moved_append, moved_of_apart hpb] at h
    exact absurd (h ▸ List.prefix_append q ra) hb
  · obtain ⟨rb, rfl⟩ := hpb
    rw [moved_of_apart hpa, moved_append] at h
    exact absurd (h ▸ List.prefix_append q rb) ha
  · rwa [moved_of_apart hpa, moved_of_apart hpb] at h

theorem mem_moved {r : Place} {name : String} (h : name ∈ moved p q r) : name ∈ q ∨ name ∈ r := by
  by_cases hpr : p <+: r
  · obtain ⟨rest, rfl⟩ := hpr
    rw [moved_append, List.mem_append] at h
    exact h.imp id (List.mem_append_right p)
  · rw [moved_of_apart hpr] at h
    exact .inr h

theorem not_prefix_of_mem_remove {e : Place × Nat} (he : e ∈ (t.remove p).names) :
    ¬ p <+: e.1 := by
  have hkeep := (List.mem_filter.1 he).2
  rwa [Bool.not_eq_true', ← Bool.not_eq_true, List.isPrefixOf_iff_prefix] at hkeep

theorem not_prefix_dropLast (hq : q ≠ []) : ¬ q <+: q.dropLast := by
  intro h
  have hlength := h.length_le
  have hpos := List.length_pos_iff.2 hq
  rw [List.length_dropLast] at hlength
  omega

/-! ## Changes keep trees -/

namespace IsTree

variable (ht : t.IsTree)
include ht

theorem lt_of_number? {n : Nat} (h : t.number? p = some n) : n < t.nodes.size :=
  ht.held _ (mem_of_number? h)

theorem name {n : Nat} (hp : t.Takes p) (hfree : t.at? p ≠ some .folder) (hn : n < t.nodes.size) :
    (t.name p n).IsTree := by
  have hfolder : ∀ {q}, t.at? q = some .folder → (t.name p n).at? q = some .folder := by
    intro q hq
    rw [at?_name, if_neg, hq]
    rintro rfl
    exact hfree hq
  have hmem : ∀ e ∈ (t.name p n).names, e ∈ t.names ∧ e.1 ≠ p ∨ e = (p, n) := by
    intro e he
    rcases List.mem_append.1 he with he | he
    · obtain ⟨he, hne⟩ := List.mem_filter.1 he
      exact .inl ⟨he, by simpa using hne⟩
    · exact .inr (List.mem_singleton.1 he)
  constructor
  · exact hfolder ht.root
  · have hrest : ((t.names.filter fun e => e.1 != p).map Prod.fst).Nodup :=
      ht.distinct.sublist (List.filter_sublist.map Prod.fst)
    rw [FileTable.name, List.map_append, List.nodup_append]
    refine ⟨hrest, by simp, ?_⟩
    rintro a ha b hb rfl
    obtain ⟨e, he, rfl⟩ := List.mem_map.1 ha
    have hne : e.1 ≠ p := by simpa using (List.mem_filter.1 he).2
    exact hne (by simpa using hb)
  · intro e he
    rcases hmem e he with ⟨he, -⟩ | rfl
    · exact ht.held e he
    · exact hn
  · intro e he hne
    rcases hmem e he with ⟨he, -⟩ | rfl
    · exact hfolder (ht.grounded e he hne)
    · exact hfolder hp.parent
  · intro e he
    rcases hmem e he with ⟨he, -⟩ | rfl
    · exact ht.named e he
    · exact hp.named

/-- A node that stands nowhere makes no difference. -/
theorem at?_push (n : Inode) (q : Place) :
    FileTable.at? { t with nodes := t.nodes.push n } q = t.at? q := by
  rw [at?_eq, at?_eq]
  have hnumber : FileTable.number? { t with nodes := t.nodes.push n } q = t.number? q := rfl
  rw [hnumber]
  cases hq : t.number? q with
  | none => rfl
  | some k =>
    have hlt := ht.lt_of_number? hq
    rw [Option.bind_some, Option.bind_some, entryOf?, entryOf?, Array.getElem?_push,
      if_neg (Nat.ne_of_lt hlt)]

theorem put (n : Inode) (hp : t.Takes p) (hfree : t.at? p ≠ some .folder) :
    (t.put p n).IsTree := by
  have hpushed : FileTable.IsTree { t with nodes := t.nodes.push n } := by
    refine ⟨?_, ht.distinct, ?_, ?_, ht.named⟩
    · rw [ht.at?_push, ht.root]
    · intro e he
      simpa using Nat.lt_succ_of_lt (ht.held e he)
    · intro e he hne
      rw [ht.at?_push, ht.grounded e he hne]
  apply hpushed.name
  · exact ⟨by rw [ht.at?_push, hp.parent], hp.named⟩
  · rwa [ht.at?_push]
  · simp

theorem alter {number : Nat} {f : Inode → Inode}
    (hf : ∀ n, n.entry = .folder → (f n).entry = .folder) : (t.alter number f).IsTree := by
  have hfolder : ∀ {q}, t.at? q = some .folder → (t.alter number f).at? q = some .folder := by
    intro q hq
    obtain ⟨n, hn, hentry⟩ := at?_eq_some.1 hq
    refine at?_eq_some.2 ⟨n, hn, ?_⟩
    rw [entryOf?_alter]
    split
    · obtain ⟨node, hnode, hentry⟩ := Option.map_eq_some_iff.1 hentry
      rw [hnode, Option.map_some, hf node hentry]
    · exact hentry
  refine ⟨hfolder ht.root, ht.distinct, ?_, fun e he hne => hfolder (ht.grounded e he hne),
    ht.named⟩
  intro e he
  simpa [FileTable.alter] using ht.held e he

theorem at?_restrict {keep : Place → Bool} (hq : keep q = true) (h : t.at? q = some e) :
    (t.restrict keep).at? q = some e := by
  obtain ⟨n, hn, hentry⟩ := at?_eq_some.1 h
  refine at?_eq_some.2 ⟨n, number?_of_mem ?_ ?_, hentry⟩
  · exact ht.distinct.sublist (List.filter_sublist.map Prod.fst)
  · exact List.mem_filter.2 ⟨mem_of_number? hn, hq⟩

theorem perm {names : List (Place × Nat)} (hp : names.Perm t.names) :
    FileTable.IsTree { t with names := names } := by
  have hdistinct : (names.map Prod.fst).Nodup := (hp.map Prod.fst).nodup_iff.2 ht.distinct
  have hfolder : ∀ {q}, t.at? q = some .folder →
      FileTable.at? { t with names := names } q = some .folder := by
    intro q hq
    obtain ⟨n, hn, hentry⟩ := at?_eq_some.1 hq
    have hmem : (q, n) ∈ names := hp.mem_iff.2 (mem_of_number? hn)
    exact at?_eq_some.2 ⟨n, number?_of_mem hdistinct hmem, hentry⟩
  refine ⟨hfolder ht.root, hdistinct, ?_, ?_, ?_⟩
  · exact fun e he => ht.held e (hp.mem_iff.1 he)
  · exact fun e he hne => hfolder (ht.grounded e (hp.mem_iff.1 he) hne)
  · exact fun e he => ht.named e (hp.mem_iff.1 he)

theorem restrict {keep : Place → Bool} (hroot : keep [] = true)
    (hparent : ∀ q, keep q = true → keep q.dropLast = true) :
    (t.restrict keep).IsTree := by
  refine ⟨ht.at?_restrict hroot ht.root, ?_, ?_, ?_, ?_⟩
  · exact ht.distinct.sublist (List.filter_sublist.map Prod.fst)
  · exact fun e he => ht.held e (List.mem_filter.1 he).1
  · intro e he hne
    obtain ⟨he, hkeep⟩ := List.mem_filter.1 he
    exact ht.at?_restrict (hparent _ hkeep) (ht.grounded e he hne)
  · exact fun e he => ht.named e (List.mem_filter.1 he).1

theorem at?_remove (hq : ¬ p <+: q) (h : t.at? q = some e) : (t.remove p).at? q = some e :=
  ht.at?_restrict (by rwa [Bool.not_eq_true', ← Bool.not_eq_true, List.isPrefixOf_iff_prefix]) h

theorem remove (hp : p ≠ []) : (t.remove p).IsTree := by
  refine ht.restrict ?_ ?_
  · cases p with
    | nil => exact absurd rfl hp
    | cons name p => rfl
  · intro q hq
    simp only [Bool.not_eq_true', ← Bool.not_eq_true, List.isPrefixOf_iff_prefix] at hq ⊢
    exact fun h => hq (h.trans <| List.dropLast_prefix q)

/-- Places are changed, so that none meet and each one's parent is still above it. -/
theorem relocate {f : Place → Place} (hroot : f [] = [])
    (hnames : (t.names.map fun e => f e.1).Nodup)
    (hparent : ∀ e ∈ t.names, f e.1 ≠ [] →
      ∃ parent, t.at? parent = some .folder ∧ f parent = (f e.1).dropLast)
    (hnamed : ∀ e ∈ t.names, ∀ name ∈ f e.1, IsFileName name) :
    (t.relocate f).IsTree := by
  have hfolder : ∀ {q}, t.at? q = some .folder → (t.relocate f).at? (f q) = some .folder := by
    intro q hq
    obtain ⟨n, hn, hentry⟩ := at?_eq_some.1 hq
    refine at?_eq_some.2 ⟨n, number?_of_mem (by simpa [FileTable.relocate, Function.comp_def] using hnames) ?_, hentry⟩
    exact List.mem_map.2 ⟨(q, n), mem_of_number? hn, rfl⟩
  refine ⟨?_, by simpa [FileTable.relocate, Function.comp_def] using hnames, ?_, ?_, ?_⟩
  · simpa [hroot] using hfolder ht.root
  · intro e he
    obtain ⟨old, hold, rfl⟩ := List.mem_map.1 he
    exact ht.held old hold
  · intro e he hne
    obtain ⟨old, hold, rfl⟩ := List.mem_map.1 he
    obtain ⟨parent, hat, habove⟩ := hparent old hold hne
    dsimp only
    rw [← habove]
    exact hfolder hat
  · intro e he
    obtain ⟨old, hold, rfl⟩ := List.mem_map.1 he
    exact hnamed old hold

/-- The parent of a place that is left is moved along with it, or is that of the new place. -/
theorem parent_moved (hq : t.Takes q) (hqne : q ≠ []) (hdown : ¬ p <+: q) {e : Place × Nat}
    (he : e ∈ (t.remove q).names) (hne : moved p q e.1 ≠ []) :
    ∃ parent, (t.remove q).at? parent = some .folder ∧
      moved p q parent = (moved p q e.1).dropLast := by
  obtain ⟨place, n⟩ := e
  by_cases hpe : p <+: place
  · obtain ⟨r, rfl⟩ := hpe
    rw [moved_append]
    by_cases hr : r = []
    · have habove : ¬ p <+: q.dropLast := fun h => hdown (h.trans <| List.dropLast_prefix q)
      refine ⟨q.dropLast, ht.at?_remove (not_prefix_dropLast hqne) hq.parent, ?_⟩
      rw [moved_of_apart habove, hr, List.append_nil]
    · refine ⟨p ++ r.dropLast, ?_, ?_⟩
      · rw [← List.dropLast_append_of_ne_nil hr]
        exact (ht.remove hqne).grounded _ he (by simp [hr])
      · rw [moved_append, List.dropLast_append_of_ne_nil hr]
  · have habove : ¬ p <+: place.dropLast := fun h => hpe (h.trans <| List.dropLast_prefix place)
    rw [moved_of_apart hpe] at hne ⊢
    exact ⟨place.dropLast, (ht.remove hqne).grounded _ he hne, moved_of_apart habove⟩

/-- Something is moved to a place in a folder, neither above nor below where it stood. -/
theorem rename (hq : t.Takes q) (hup : ¬ q <+: p) (hdown : ¬ p <+: q) : (t.rename p q).IsTree := by
  have hpne : p ≠ [] := by
    rintro rfl
    exact hdown List.nil_prefix
  have hqne : q ≠ [] := by
    rintro rfl
    exact hup List.nil_prefix
  have hcleared := ht.remove hqne
  apply hcleared.relocate
  · exact moved_of_apart (by simpa using hpne)
  · refine List.pairwise_map.2 ((List.pairwise_map.1 hcleared.distinct).imp_of_mem ?_)
    intro a b ha hb hne hsame
    exact hne (moved_injective (not_prefix_of_mem_remove ha) (not_prefix_of_mem_remove hb) hsame)
  · exact fun e he hne => ht.parent_moved hq hqne hdown he hne
  · intro e he name hname
    rcases mem_moved hname with hname | hname
    · exact hq.named name hname
    · exact hcleared.named e he name hname

end IsTree

end FileTable

end Assay
