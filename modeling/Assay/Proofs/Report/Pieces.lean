import Mathlib.Data.List.Basic
import Mathlib.Tactic.SplitIfs
import Assay.Report.Page

/-!
# Markup read back

A text is read as pieces of text and tags, without knowledge of the tree that it
was written from. Reading the text of a tree gives its tags in their order, with
their attributes, and between them the escaped texts. No text of the tree can
bring in a tag, since none of them is written with an angle bracket, and each is
told from what it is written as.
-/

set_option autoImplicit false

namespace Assay

inductive Piece where
  | text (cs : List Char)
  | tag (cs : List Char)
deriving DecidableEq, Repr

namespace Piece

/-- Puts a character before the pieces of what follows it. -/
def push (c : Char) : List Piece → List Piece
  | .text cs :: ps => .text (c :: cs) :: ps
  | ps => .text [c] :: ps

mutual

def outside : List Char → List Piece
  | [] => []
  | c :: cs =>
    if c = '<' then .tag (inside false cs).1 :: (inside false cs).2 else push c (outside cs)

/-- Reads the rest of a tag, and the pieces behind it. A tag does not end between quotes. -/
def inside : Bool → List Char → List Char × List Piece
  | _, [] => ([], [])
  | quoted, c :: cs =>
    if c = '>' ∧ quoted = false then ([], outside cs)
    else
      let more := inside (if c = '"' then !quoted else quoted) cs
      (c :: more.1, more.2)

end

def ofPage (page : String) : List Piece := outside page.toList

def tag? : Piece → Option (List Char)
  | tag cs => some cs
  | text _ => none

def chars : Piece → List Char
  | text cs => cs
  | tag _ => []

/-! ## Plain text and tags -/

theorem outside_text {cs : List Char} (h : '<' ∉ cs) (rest : List Char) :
    outside (cs ++ rest) = cs.foldr push (outside rest) := by
  induction cs with
  | nil => rfl
  | cons c cs ih =>
    rw [List.mem_cons, not_or] at h
    rw [List.cons_append, outside, if_neg (Ne.symm h.1), ih h.2]
    rfl

/-- Characters of a tag that neither quote nor end it. -/
theorem inside_plain {quoted : Bool} {cs : List Char}
    (h : ∀ c ∈ cs, c ≠ '"' ∧ (c = '>' → quoted = true)) (rest : List Char) :
    inside quoted (cs ++ rest) = (cs ++ (inside quoted rest).1, (inside quoted rest).2) := by
  induction cs with
  | nil => rfl
  | cons c cs ih =>
    obtain ⟨hquote, hend⟩ := h c List.mem_cons_self
    have hopen : ¬ (c = '>' ∧ quoted = false) := by
      rintro ⟨hc, hfalse⟩
      rw [hend hc] at hfalse
      cases hfalse
    rw [List.cons_append, inside, if_neg hopen, if_neg hquote,
      ih fun d hd => h d (List.mem_cons_of_mem c hd)]
    rfl

theorem inside_quote (quoted : Bool) (rest : List Char) :
    inside quoted ('"' :: rest) =
      ('"' :: (inside (!quoted) rest).1, (inside (!quoted) rest).2) := by
  rw [inside, if_neg (by simp), if_pos rfl]

theorem inside_end (rest : List Char) : inside false ('>' :: rest) = ([], outside rest) := by
  rw [inside, if_pos ⟨rfl, rfl⟩]

end Piece

/-! ## Escaped texts -/

namespace Markup

def unescape : List Char → List Char
  | '&' :: 'a' :: 'm' :: 'p' :: ';' :: cs => '&' :: unescape cs
  | '&' :: 'l' :: 't' :: ';' :: cs => '<' :: unescape cs
  | '&' :: 'g' :: 't' :: ';' :: cs => '>' :: unescape cs
  | '&' :: 'q' :: 'u' :: 'o' :: 't' :: ';' :: cs => '"' :: unescape cs
  | c :: cs => c :: unescape cs
  | [] => []

theorem unescape_escapeChar (c : Char) (cs : List Char) :
    unescape (escapeChar c ++ cs) = c :: unescape cs := by
  unfold escapeChar
  split_ifs with hamp hlt hgt hquote
  · subst hamp
    rfl
  · subst hlt
    rfl
  · subst hgt
    rfl
  · subst hquote
    rfl
  · rw [List.singleton_append, unescape]
    all_goals simp [hamp]

theorem unescape_escape (cs : List Char) : unescape (cs.flatMap escapeChar) = cs := by
  induction cs with
  | nil => rfl
  | cons c cs ih => rw [List.flatMap_cons, unescape_escapeChar, ih]

theorem escaped_plain {cs : List Char} {d : Char} (h : d ∈ cs.flatMap escapeChar) :
    d ≠ '<' ∧ d ≠ '>' ∧ d ≠ '"' := by
  obtain ⟨c, -, hd⟩ := List.mem_flatMap.1 h
  have hentities : ∀ e ∈ ["&amp;", "&lt;", "&gt;", "&quot;"], ∀ d ∈ e.toList,
      d ≠ '<' ∧ d ≠ '>' ∧ d ≠ '"' := by simp
  unfold escapeChar at hd
  split_ifs at hd with _ hlt hgt hquote
  · exact hentities _ (by simp) d hd
  · exact hentities _ (by simp) d hd
  · exact hentities _ (by simp) d hd
  · exact hentities _ (by simp) d hd
  · rw [List.mem_singleton.1 hd]
    exact ⟨hlt, hgt, hquote⟩

/-! ## Trees -/

def IsName (name : String) : Prop := name.toList ≠ [] ∧ ∀ c ∈ name.toList, c.isAlphanum = true

instance (name : String) : Decidable (IsName name) :=
  have : Decidable (∀ c ∈ name.toList, c.isAlphanum = true) := List.decidableBAll _ _
  inferInstanceAs (Decidable (_ ∧ _))

mutual

/-- All names are plain, and a style sheet, which is not escaped, opens no tag. -/
def Sound : Markup → Prop
  | text _ => True
  | styleSheet s => '<' ∉ s.toList
  | element tag attributes children =>
    IsName tag ∧ (∀ a ∈ attributes, IsName a.1) ∧ SoundAll children
  | void tag attributes => IsName tag ∧ ∀ a ∈ attributes, IsName a.1

def SoundAll : List Markup → Prop
  | [] => True
  | m :: ms => Sound m ∧ SoundAll ms

end

def Tag.chars : Tag → List Char
  | .opening tag attributes =>
    tag.toList ++ attributes.flatMap fun a => (renderAttribute a).toList
  | .closing tag => '/' :: tag.toList

def escaped (s : String) : List Char := s.toList.flatMap escapeChar

mutual

/-- The pieces of a tree before those of what follows it. -/
def scan : Markup → List Piece → List Piece
  | text s, ps => (escaped s).foldr Piece.push ps
  | styleSheet s, ps => s.toList.foldr Piece.push ps
  | element tag attributes children, ps =>
    .tag (Tag.opening tag attributes).chars :: scanAll children (.tag (Tag.closing tag).chars :: ps)
  | void tag attributes, ps => .tag (Tag.opening tag attributes).chars :: ps

def scanAll : List Markup → List Piece → List Piece
  | [], ps => ps
  | m :: ms, ps => scan m (scanAll ms ps)

end

theorem plain_of_isAlphanum {c : Char} (h : c.isAlphanum = true) :
    c ≠ '"' ∧ c ≠ '>' ∧ c ≠ ' ' ∧ c ≠ '/' := by
  have hne {d : Char} (hd : d.isAlphanum = false) : c ≠ d := by
    rintro rfl
    rw [h] at hd
    cases hd
  exact ⟨hne rfl, hne rfl, hne rfl, hne rfl⟩

theorem IsName.inside {name : String} (h : IsName name) (rest : List Char) :
    Piece.inside false (name.toList ++ rest) =
      (name.toList ++ (Piece.inside false rest).1, (Piece.inside false rest).2) := by
  apply Piece.inside_plain
  intro c hc
  obtain ⟨hquote, hend, -, -⟩ := plain_of_isAlphanum (h.2 c hc)
  exact ⟨hquote, fun h => absurd h hend⟩

theorem inside_attribute {a : String × String} (h : IsName a.1) (rest : List Char) :
    Piece.inside false ((renderAttribute a).toList ++ rest) =
      ((renderAttribute a).toList ++ (Piece.inside false rest).1, (Piece.inside false rest).2) := by
  have htext : (renderAttribute a).toList =
      [' '] ++ (a.1.toList ++ (['='] ++ '"' :: (escaped a.2 ++ ['"']))) := by
    simp [renderAttribute, escape, escaped]
  have hvalue : ∀ c ∈ escaped a.2, c ≠ '"' ∧ (c = '>' → true = true) :=
    fun c hc => ⟨(escaped_plain hc).2.2, fun _ => rfl⟩
  have hmark (c : Char) (hc : c ≠ '"' ∧ c ≠ '>') (more : List Char) :
      Piece.inside false (c :: more) =
        (c :: (Piece.inside false more).1, (Piece.inside false more).2) := by
    have hplain : ∀ d ∈ [c], d ≠ '"' ∧ (d = '>' → false = true) := by simpa using hc
    exact Piece.inside_plain hplain more
  rw [htext]
  simp only [List.append_assoc, List.cons_append, List.nil_append]
  rw [hmark ' ' (by decide), h.inside, hmark '=' (by decide), Piece.inside_quote, Bool.not_false,
    Piece.inside_plain hvalue, Piece.inside_quote]
  simp

theorem outside_opening {tag : String} {attributes : List (String × String)} (htag : IsName tag)
    (hattributes : ∀ a ∈ attributes, IsName a.1) (rest : List Char) :
    Piece.outside ((openTag tag attributes).toList ++ rest) =
      .tag (Tag.opening tag attributes).chars :: Piece.outside rest := by
  have htext : (openTag tag attributes).toList ++ rest = '<' :: (tag.toList ++
      ((attributes.flatMap fun a => (renderAttribute a).toList) ++ '>' :: rest)) := by
    simp [openTag, String.toList_join, List.flatMap_map]
  have hread : Piece.inside false
      ((attributes.flatMap fun a => (renderAttribute a).toList) ++ '>' :: rest) =
      (attributes.flatMap fun a => (renderAttribute a).toList, Piece.outside rest) := by
    clear htext
    induction attributes with
    | nil => exact Piece.inside_end rest
    | cons a attributes ih =>
      rw [List.forall_mem_cons] at hattributes
      rw [List.flatMap_cons, List.append_assoc, inside_attribute hattributes.1, ih hattributes.2]
  rw [htext, Piece.outside, if_pos rfl, htag.inside, hread]
  rfl

theorem outside_closing {tag : String} (h : IsName tag) (rest : List Char) :
    Piece.outside (("</" ++ tag ++ ">").toList ++ rest) =
      .tag (Tag.closing tag).chars :: Piece.outside rest := by
  have htext : ("</" ++ tag ++ ">").toList ++ rest =
      '<' :: (['/'] ++ (tag.toList ++ '>' :: rest)) := by simp
  rw [htext, Piece.outside, if_pos rfl, Piece.inside_plain (by simp), h.inside, Piece.inside_end]
  simp [Tag.chars]

mutual

/-- The text of a tree is read as its pieces, whatever is written behind it. -/
theorem outside_render : (m : Markup) → m.Sound → (rest : List Char) →
    Piece.outside (m.render.toList ++ rest) = m.scan (Piece.outside rest)
  | text s, _, rest => by
    have hplain : '<' ∉ escaped s := fun h => (escaped_plain h).1 rfl
    have htext : (render (text s)).toList = escaped s := by simp [render, escape, escaped]
    rw [htext, Piece.outside_text hplain, scan]
  | styleSheet s, h, rest => by
    rw [render, scan]
    exact Piece.outside_text h rest
  | element tag attributes children, h, rest => by
    obtain ⟨htag, hattributes, hchildren⟩ := h
    rw [render, scan]
    simp only [String.toList_append, List.append_assoc]
    rw [outside_opening htag hattributes, outside_renderAll children hchildren]
    have hclosing := outside_closing htag rest
    simp only [String.toList_append, List.append_assoc] at hclosing
    rw [hclosing]
  | void tag attributes, h, rest => by
    rw [render, scan]
    exact outside_opening h.1 h.2 rest

theorem outside_renderAll : (ms : List Markup) → SoundAll ms → (rest : List Char) →
    Piece.outside ((renderAll ms).toList ++ rest) = scanAll ms (Piece.outside rest)
  | [], _, rest => by simp [renderAll, scanAll]
  | m :: ms, h, rest => by
    rw [renderAll, scanAll, String.toList_append, List.append_assoc, outside_render m h.1,
      outside_renderAll ms h.2]

end

end Markup

end Assay
