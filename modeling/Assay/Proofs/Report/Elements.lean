import Assay.Proofs.Report.Pieces

/-!
# Elements among pieces

The elements of one name are sought among the pieces of a page: what stands
between an opening tag of that name and the next closing one. For the text of a
tree these are the elements of the tree, in order, as long as none of them stands
inside another. Its texts neither open nor close an element.
-/

set_option autoImplicit false

namespace Assay

namespace Piece

def opens (name : List Char) : Piece → Bool
  | tag cs => cs.takeWhile (· != ' ') == name
  | text _ => false

def closes (name : List Char) : Piece → Bool
  | tag cs => cs == '/' :: name
  | text _ => false

mutual

def seek (name : List Char) : List Piece → List (List Piece)
  | [] => []
  | p :: ps =>
    if p.opens name then (collect name ps).1 :: (collect name ps).2 else seek name ps

def collect (name : List Char) : List Piece → List Piece × List (List Piece)
  | [] => ([], [])
  | p :: ps =>
    if p.closes name then ([], seek name ps)
    else (p :: (collect name ps).1, (collect name ps).2)

end

def elements (name : String) (ps : List Piece) : List (List Piece) := seek name.toList ps

/-- The text among some pieces, with its escapes undone. -/
def textOf (ps : List Piece) : String := String.ofList (Markup.unescape (ps.flatMap chars))

def tags (ps : List Piece) : List (List Char) := ps.filterMap tag?

section Push

variable (name : List Char) (c : Char) (cs : List Char) (ps : List Piece)

theorem tags_push : tags (push c ps) = tags ps := by
  cases ps with
  | nil => rfl
  | cons p ps => cases p <;> rfl

theorem chars_push : (push c ps).flatMap chars = c :: ps.flatMap chars := by
  cases ps with
  | nil => rfl
  | cons p ps => cases p <;> rfl

theorem seek_push : seek name (push c ps) = seek name ps := by
  cases ps with
  | nil => rfl
  | cons p ps => cases p <;> rfl

theorem collect_push :
    collect name (push c ps) = (push c (collect name ps).1, (collect name ps).2) := by
  cases ps with
  | nil => rfl
  | cons p ps =>
    cases p with
    | text cs => rfl
    | tag cs =>
      have hpush : push c (tag cs :: ps) = text [c] :: tag cs :: ps := rfl
      rw [hpush, collect, collect]
      cases (tag cs).closes name <;> rfl

theorem tags_pushes : tags (cs.foldr push ps) = tags ps := by
  induction cs with
  | nil => rfl
  | cons c cs ih => rw [List.foldr_cons, tags_push, ih]

theorem chars_pushes : (cs.foldr push ps).flatMap chars = cs ++ ps.flatMap chars := by
  induction cs with
  | nil => rfl
  | cons c cs ih => rw [List.foldr_cons, chars_push, ih, List.cons_append]

theorem seek_pushes : seek name (cs.foldr push ps) = seek name ps := by
  induction cs with
  | nil => rfl
  | cons c cs ih => rw [List.foldr_cons, seek_push, ih]

theorem collect_pushes :
    collect name (cs.foldr push ps) = (cs.foldr push (collect name ps).1, (collect name ps).2) := by
  induction cs with
  | nil => rfl
  | cons c cs ih => rw [List.foldr_cons, collect_push, ih, List.foldr_cons]

end Push

end Piece

namespace Markup

open Piece (seek collect)

mutual

def found (name : String) : Markup → List (List Piece)
  | text _ => []
  | styleSheet _ => []
  | element tag _ children =>
    if tag = name then [scanAll children []] else foundAll name children
  | void _ _ => []

def foundAll (name : String) : List Markup → List (List Piece)
  | [] => []
  | m :: ms => found name m ++ foundAll name ms

end

mutual

def names : Markup → List String
  | text _ => []
  | styleSheet _ => []
  | element tag _ children => tag :: namesAll children
  | void tag _ => [tag]

def namesAll : List Markup → List String
  | [] => []
  | m :: ms => names m ++ namesAll ms

end

mutual

/-- No element of the name stands inside another one, and none of them is void. -/
def Flat (name : String) : Markup → Prop
  | text _ => True
  | styleSheet _ => True
  | element tag _ children =>
    if tag = name then name ∉ namesAll children else FlatAll name children
  | void tag _ => tag ≠ name

def FlatAll (name : String) : List Markup → Prop
  | [] => True
  | m :: ms => Flat name m ∧ FlatAll name ms

end

/-! ## Lists of trees -/

section Lists

variable (name : String) (ms : List Markup)

theorem foundAll_eq : foundAll name ms = ms.flatMap (found name) := by
  induction ms with
  | nil => rfl
  | cons m ms ih => rw [foundAll, ih, List.flatMap_cons]

theorem namesAll_eq : namesAll ms = ms.flatMap names := by
  induction ms with
  | nil => rfl
  | cons m ms ih => rw [namesAll, ih, List.flatMap_cons]

theorem tagsAll_eq : tagsAll ms = ms.flatMap tags := by
  induction ms with
  | nil => rfl
  | cons m ms ih => rw [tagsAll, ih, List.flatMap_cons]

theorem flatAll_iff : FlatAll name ms ↔ ∀ m ∈ ms, Flat name m := by
  induction ms with
  | nil => simp [FlatAll]
  | cons m ms ih => rw [FlatAll, ih, List.forall_mem_cons]

theorem soundAll_iff : SoundAll ms ↔ ∀ m ∈ ms, Sound m := by
  induction ms with
  | nil => simp [SoundAll]
  | cons m ms ih => rw [SoundAll, ih, List.forall_mem_cons]

theorem soundAll_append {ms ns : List Markup} (hm : SoundAll ms) (hn : SoundAll ns) :
    SoundAll (ms ++ ns) := by
  rw [soundAll_iff] at hm hn ⊢
  rw [List.forall_mem_append]
  exact ⟨hm, hn⟩

theorem flatAll_append {name : String} {ms ns : List Markup} (hm : FlatAll name ms)
    (hn : FlatAll name ns) : FlatAll name (ms ++ ns) := by
  rw [flatAll_iff] at hm hn ⊢
  rw [List.forall_mem_append]
  exact ⟨hm, hn⟩

end Lists

/-! ## Tags of one name -/

section Tags

variable {tag name : String} (attributes : List (String × String))

theorem opens_opening (h : IsName tag) :
    Piece.opens name.toList (.tag (Tag.opening tag attributes).chars) = (tag == name) := by
  have hplain : ∀ c ∈ tag.toList, (c != ' ') = true := by
    intro c hc
    simpa using (plain_of_isAlphanum (h.2 c hc)).2.2.1
  have hname : (Tag.opening tag attributes).chars.takeWhile (· != ' ') = tag.toList := by
    rw [Tag.chars, List.takeWhile_append_of_pos hplain]
    cases attributes with
    | nil => simp
    | cons a attributes => simp [renderAttribute]
  rw [Piece.opens, hname, Bool.eq_iff_iff, beq_iff_eq, beq_iff_eq]
  exact String.toList_inj

theorem closes_opening (h : IsName tag) :
    Piece.closes name.toList (.tag (Tag.opening tag attributes).chars) = false := by
  obtain ⟨c, cs, hcs⟩ := List.exists_cons_of_ne_nil h.1
  have hc := (plain_of_isAlphanum (h.2 c (by simp [hcs]))).2.2.2
  simp [Piece.closes, Tag.chars, hcs, hc]

theorem opens_closing (h : IsName name) :
    Piece.opens name.toList (.tag (Tag.closing tag).chars) = false := by
  obtain ⟨c, cs, hcs⟩ := List.exists_cons_of_ne_nil h.1
  have hc := (plain_of_isAlphanum (h.2 c (by simp [hcs]))).2.2.2
  simp [Piece.opens, Tag.chars, hcs, Ne.symm hc]

theorem closes_closing :
    Piece.closes name.toList (.tag (Tag.closing tag).chars) = (tag == name) := by
  rw [Piece.closes, Tag.chars, Bool.eq_iff_iff, beq_iff_eq, beq_iff_eq, List.cons_inj_right]
  exact String.toList_inj

end Tags

/-! ## Trees -/

mutual

theorem tags_scan : (m : Markup) → (ps : List Piece) →
    Piece.tags (m.scan ps) = m.tags.map Tag.chars ++ Piece.tags ps
  | text s, ps => by
    rw [scan, Piece.tags_pushes]
    rfl
  | styleSheet s, ps => by
    rw [scan, Piece.tags_pushes]
    rfl
  | element tag attributes children, ps => by
    have htag (cs : List Char) (ps : List Piece) :
        Piece.tags (.tag cs :: ps) = cs :: Piece.tags ps := rfl
    rw [scan, htag, tags_scanAll children, htag, tags]
    simp
  | void tag attributes, ps => rfl

theorem tags_scanAll : (ms : List Markup) → (ps : List Piece) →
    Piece.tags (scanAll ms ps) = (tagsAll ms).map Tag.chars ++ Piece.tags ps
  | [], ps => rfl
  | m :: ms, ps => by
    rw [scanAll, tags_scan m, tags_scanAll ms, tagsAll, List.map_append, List.append_assoc]

end

section Search

variable {name : String}

mutual

theorem collect_scan : (m : Markup) → m.Sound → name ∉ m.names → (ps : List Piece) →
    collect name.toList (m.scan ps) =
      (m.scan (collect name.toList ps).1, (collect name.toList ps).2)
  | text s, _, _, ps => by
    rw [scan, Piece.collect_pushes]
    rfl
  | styleSheet s, _, _, ps => by
    rw [scan, Piece.collect_pushes]
    rfl
  | element tag attributes children, h, hlacks, ps => by
    rw [names, List.mem_cons, not_or] at hlacks
    have hclosing : Piece.closes name.toList (.tag (Tag.closing tag).chars) = false := by
      rw [closes_closing]
      simpa using Ne.symm hlacks.1
    rw [scan, collect, closes_opening attributes h.1, collect_scanAll children h.2.2 hlacks.2,
      collect, hclosing]
    rfl
  | void tag attributes, h, _, ps => by
    rw [scan, collect, closes_opening attributes h.1]
    rfl

theorem collect_scanAll : (ms : List Markup) → SoundAll ms → name ∉ namesAll ms →
    (ps : List Piece) → collect name.toList (scanAll ms ps) =
      (scanAll ms (collect name.toList ps).1, (collect name.toList ps).2)
  | [], _, _, ps => rfl
  | m :: ms, h, hlacks, ps => by
    rw [namesAll, List.mem_append, not_or] at hlacks
    rw [scanAll, collect_scan m h.1 hlacks.1, collect_scanAll ms h.2 hlacks.2]
    rfl

end

mutual

theorem seek_scan (hname : IsName name) : (m : Markup) → m.Sound → m.Flat name → (ps : List Piece) →
    seek name.toList (m.scan ps) = m.found name ++ seek name.toList ps
  | text s, _, _, ps => by
    rw [scan, Piece.seek_pushes]
    rfl
  | styleSheet s, _, _, ps => by
    rw [scan, Piece.seek_pushes]
    rfl
  | element tag attributes children, h, hflat, ps => by
    rw [Flat] at hflat
    rw [scan, seek, opens_opening attributes h.1, found]
    by_cases htag : tag = name
    · subst htag
      have hclosing : Piece.closes tag.toList (.tag (Tag.closing tag).chars) = true := by
        rw [closes_closing, beq_self_eq_true]
      rw [if_pos rfl] at hflat
      rw [if_pos (beq_self_eq_true tag), if_pos rfl, collect_scanAll children h.2.2 hflat, collect,
        hclosing]
      rfl
    · have hopening : Piece.opens name.toList (.tag (Tag.closing tag).chars) = false :=
        opens_closing hname
      rw [if_neg htag] at hflat
      rw [if_neg (by simpa using htag), if_neg htag, seek_scanAll hname children h.2.2 hflat, seek,
        hopening]
      rfl
  | void tag attributes, h, hflat, ps => by
    rw [Flat] at hflat
    rw [scan, seek, opens_opening attributes h.1, if_neg (by simpa using hflat)]
    rfl

theorem seek_scanAll (hname : IsName name) : (ms : List Markup) → SoundAll ms →
    FlatAll name ms → (ps : List Piece) → seek name.toList (scanAll ms ps) =
      foundAll name ms ++ seek name.toList ps
  | [], _, _, ps => rfl
  | m :: ms, h, hflat, ps => by
    rw [scanAll, foundAll, seek_scan hname m h.1 hflat.1, seek_scanAll hname ms h.2 hflat.2,
      List.append_assoc]

end

end Search

end Markup

end Assay
