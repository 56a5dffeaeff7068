import Mathlib.Data.String.Basic
import Assay.Host.FileTree

/-!
# Parts of paths

A text that is cut at a character gives the pieces of its characters between those
places, none of which holds the character. A path is cut at its slashes, so what is
joined to a path is cut on its own.
-/

set_option autoImplicit false

namespace Assay

namespace Text

theorem of_mem_splitOn {a : Char} {cs piece : List Char} (h : piece ∈ cs.splitOn a) :
    a ∉ piece ∧ piece ⊆ cs := by
  induction cs generalizing piece with
  | nil =>
    obtain rfl : piece = [] := by simpa using h
    simp
  | cons c cs ih =>
    rw [List.splitOn_cons_eq_if_modifyHead] at h
    split at h
    · rcases List.mem_cons.1 h with rfl | h
      · simp
      · exact ⟨(ih h).1, fun x hx => List.mem_cons_of_mem _ ((ih h).2 hx)⟩
    · rename_i hc
      cases hsplit : cs.splitOn a with
      | nil => exact absurd hsplit (List.splitOn_ne_nil _ _)
      | cons p ps =>
        rw [hsplit, List.modifyHead_cons] at h
        rcases List.mem_cons.1 h with rfl | h
        · have hp := ih (hsplit ▸ List.mem_cons_self)
          refine ⟨?_, List.cons_subset_cons c hp.2⟩
          rw [List.mem_cons, not_or]
          exact ⟨fun hac => hc (by simp [hac]), hp.1⟩
        · have hpiece := ih (hsplit ▸ List.mem_cons_of_mem p h)
          exact ⟨hpiece.1, fun x hx => List.mem_cons_of_mem _ (hpiece.2 hx)⟩

theorem mem_splitOn {a c : Char} {cs : List Char} (h : c ∈ cs) :
    c = a ∨ ∃ piece ∈ cs.splitOn a, c ∈ piece := by
  induction cs with
  | nil => cases h
  | cons d cs ih =>
    rw [List.splitOn_cons_eq_if_modifyHead]
    by_cases hd : d = a
    · rw [if_pos (by simpa using hd)]
      rcases List.mem_cons.1 h with rfl | h
      · exact .inl hd
      · obtain hc | ⟨piece, hpiece, hc⟩ := ih h
        · exact .inl hc
        · exact .inr ⟨piece, List.mem_cons_of_mem _ hpiece, hc⟩
    · rw [if_neg (by simpa using hd)]
      cases hsplit : cs.splitOn a with
      | nil => exact absurd hsplit (List.splitOn_ne_nil _ _)
      | cons p ps =>
        rw [hsplit] at ih
        rw [List.modifyHead_cons]
        rcases List.mem_cons.1 h with rfl | h
        · exact .inr ⟨c :: p, List.mem_cons_self, List.mem_cons_self⟩
        · obtain hc | ⟨piece, hpiece, hc⟩ := ih h
          · exact .inl hc
          · rcases List.mem_cons.1 hpiece with rfl | hpiece
            · exact .inr ⟨d :: piece, List.mem_cons_self, List.mem_cons_of_mem _ hc⟩
            · exact .inr ⟨piece, List.mem_cons_of_mem _ hpiece, hc⟩

section Positions

open String

theorem atEnd_ofList (cs : List Char) (n : Nat) :
    Pos.Raw.atEnd (ofList cs) ⟨n⟩ = true ↔ utf8Len cs ≤ n := by
  rw [atEnd_iff, rawEndPos_ofList, Pos.Raw.mk_le_mk]

/-- What is cut off a text in three parts: the first has been cut off already, the second is the
piece that has been read so far, and the last is still to be read. -/
theorem splitOnAux_singleton (c : Char) (l m r : List Char) (found : List String) :
    splitOnAux (ofList (l ++ m ++ r)) (ofList [c]) ⟨utf8Len l⟩ ⟨utf8Len l + utf8Len m⟩ 0 found =
      found.reverse ++ (List.splitOnPPrepend (· == c) r m.reverse).map ofList := by
  have hget : Pos.Raw.get (ofList [c]) 0 = c := get_of_valid [] [c]
  have hnext : Pos.Raw.next (ofList [c]) 0 = ⟨c.utf8Size⟩ := by simpa using next_of_valid [] c []
  have hend : Pos.Raw.atEnd (ofList [c]) ⟨c.utf8Size⟩ = true := by
    rw [atEnd_ofList]
    simp
  induction r generalizing l m found with
  | nil =>
    have hover : Pos.Raw.atEnd (ofList (l ++ m ++ [])) ⟨utf8Len l + utf8Len m⟩ = true := by
      rw [atEnd_ofList]
      simp
    rw [splitOnAux, if_pos hover, extract_of_valid, List.splitOnPPrepend_nil]
    simp
  | cons d r ih =>
    have hmore : ¬ Pos.Raw.atEnd (ofList (l ++ m ++ d :: r)) ⟨utf8Len l + utf8Len m⟩ = true := by
      have hpos := d.utf8Size_pos
      rw [atEnd_ofList]
      simp only [utf8Len_append, utf8Len_cons]
      omega
    have hd : Pos.Raw.get (ofList (l ++ m ++ d :: r)) ⟨utf8Len l + utf8Len m⟩ = d := by
      rw [← utf8Len_append]
      exact get_of_valid (l ++ m) (d :: r)
    have hdnext : Pos.Raw.next (ofList (l ++ m ++ d :: r)) ⟨utf8Len l + utf8Len m⟩ =
        ⟨utf8Len l + utf8Len m + d.utf8Size⟩ := by
      rw [← utf8Len_append]
      exact next_of_valid (l ++ m) d r
    rw [splitOnAux, if_neg hmore, hd, hget]
    dsimp only
    by_cases hc : d = c
    · subst hc
      have hback : (⟨utf8Len l + utf8Len m + d.utf8Size⟩ : Pos.Raw).unoffsetBy ⟨d.utf8Size⟩ =
          ⟨utf8Len l + utf8Len m⟩ := by
        simp [Pos.Raw.unoffsetBy]
      have hrest := ih (l ++ m ++ [d]) [] (ofList m :: found)
      simp only [List.append_nil, utf8Len_nil, Nat.add_zero, List.append_assoc,
        List.singleton_append, utf8Len_append, utf8Len_cons, ← Nat.add_assoc] at hrest
      rw [if_pos (by simp), hdnext, hnext, if_pos hend, hback, extract_of_valid,
        List.append_assoc, hrest, List.splitOnPPrepend_cons_pos (by simp)]
      simp
    · have hstay : (⟨utf8Len l + utf8Len m⟩ : Pos.Raw).unoffsetBy 0 = ⟨utf8Len l + utf8Len m⟩ := by
        simp [Pos.Raw.unoffsetBy]
      have hrest := ih l (m ++ [d]) found
      simp only [List.append_assoc, List.singleton_append, utf8Len_append, utf8Len_cons,
        utf8Len_nil, Nat.zero_add, ← Nat.add_assoc] at hrest
      rw [if_neg (by simpa using hc), hstay, hdnext, List.append_assoc, hrest,
        List.splitOnPPrepend_cons_neg (by simpa using hc)]
      simp

theorem splitOn_singleton (s : String) (c : Char) :
    s.splitOn (ofList [c]) = (s.toList.splitOn c).map ofList := by
  have hne : ¬ (ofList [c] == "") = true := by simp
  have haux := splitOnAux_singleton c [] [] s.toList []
  rw [splitOn, if_neg hne, List.splitOn_eq_splitOnP, List.splitOnP_eq_splitOnPPrepend]
  simpa using haux

end Positions

end Text

namespace Path

theorem splitChars_eq (cs : List Char) : splitChars cs = cs.splitOn '/' := by
  induction cs with
  | nil => rfl
  | cons c cs ih =>
    rw [splitChars, List.splitOn_cons_eq_if_modifyHead, ih]
    by_cases hc : c = '/'
    · simp [hc]
    · rw [if_neg hc, if_neg (by simpa using hc)]
      cases hsplit : cs.splitOn '/' with
      | nil => exact absurd hsplit (List.splitOn_ne_nil _ _)
      | cons p ps => rfl

theorem toList_join_of_relative {base p : String} (hp : isAbsolute p = false) :
    (join base p).toList =
      if base.toList = [] ∨ base.toList.getLast? = some '/' then base.toList ++ p.toList
      else base.toList ++ '/' :: p.toList := by
  have hp' : isAbsoluteChars p.toList = false := hp
  rw [join, String.toList_ofList, joinChars, hp']
  rfl

theorem isAbsoluteChars_cons (c : Char) (cs : List Char) :
    isAbsoluteChars (c :: cs) = decide (c = '/') := by
  by_cases hc : c = '/'
  · subst hc
    rfl
  · simp [isAbsoluteChars, hc]

theorem isAbsolute_join_of_relative {base p : String} (hbase : base ≠ "")
    (hp : isAbsolute p = false) : isAbsolute (join base p) = isAbsolute base := by
  rw [isAbsolute, isAbsolute, toList_join_of_relative hp]
  cases hcs : base.toList with
  | nil => exact absurd (by simpa using hcs) hbase
  | cons c cs => split <;> simp [isAbsoluteChars_cons]

theorem isAbsolute_of_not_mem {p : String} (h : '/' ∉ p.toList) : isAbsolute p = false := by
  rw [isAbsolute]
  cases hp : p.toList with
  | nil => rfl
  | cons c cs =>
    have hc : c ≠ '/' := fun hc => h (by simp [hp, hc])
    simpa [isAbsoluteChars_cons] using hc

end Path

namespace FileTree

theorem parts_eq (path : String) : parts path = (path.toList.splitOn '/').map String.ofList := by
  rw [parts, Path.splitChars_eq]

theorem of_mem_parts {path part : String} (h : part ∈ parts path) :
    '/' ∉ part.toList ∧ part.toList ⊆ path.toList := by
  rw [parts_eq] at h
  obtain ⟨cs, hcs, rfl⟩ := List.mem_map.1 h
  rw [String.toList_ofList]
  exact Text.of_mem_splitOn hcs

theorem parts_of_not_mem {name : String} (h : '/' ∉ name.toList) : parts name = [name] := by
  rw [parts_eq, List.splitOn_eq_singleton h]
  simp

theorem parts_join {base p : String} (hbase : base ≠ "") (hp : Path.isAbsolute p = false) :
    ∃ front, (parts base = front ∨ parts base = front ++ [""]) ∧
      parts (Path.join base p) = front ++ parts p := by
  have hnil : base.toList ≠ [] := by simpa using hbase
  simp only [parts_eq, Path.toList_join_of_relative hp, hnil, false_or]
  split
  · rename_i hlast
    obtain ⟨cs, hcs⟩ := List.getLast?_eq_some_iff.1 hlast
    refine ⟨(cs.splitOn '/').map String.ofList, .inr ?_, ?_⟩
    · rw [hcs, List.splitOn_append_cons_self]
      simp
    · rw [hcs, List.append_assoc, List.singleton_append, List.splitOn_append_cons_self,
        List.map_append]
  · refine ⟨_, .inl rfl, ?_⟩
    rw [List.splitOn_append_cons_self, List.map_append]

theorem parts_suffix_join (base : String) {p : String} (hp : Path.isAbsolute p = false) :
    parts p <:+ parts (Path.join base p) := by
  by_cases hbase : base = ""
  · have hjoin : (Path.join base p).toList = p.toList := by
      rw [Path.toList_join_of_relative hp, hbase]
      simp
    exact ⟨[], by rw [String.toList_inj.1 hjoin, List.nil_append]⟩
  · obtain ⟨front, -, hparts⟩ := parts_join hbase hp
    exact ⟨front, hparts.symm⟩

theorem start_join {folder : Place} {base p : String} (hbase : base ≠ "")
    (hp : Path.isAbsolute p = false) : start folder (Path.join base p) = start folder base := by
  rw [start, start, Path.isAbsolute_join_of_relative hbase hp]

theorem holdsNul_eq_false_iff {path : String} :
    Path.holdsNul path = false ↔ ∀ part ∈ parts path, '\x00' ∉ part.toList := by
  have hnul : Path.holdsNul path = false ↔ '\x00' ∉ path.toList := by
    rw [Path.holdsNul, ← Bool.not_eq_true, List.contains_iff_mem]
  rw [hnul]
  constructor
  · exact fun h part hpart hmem => h ((of_mem_parts hpart).2 hmem)
  · intro h hmem
    obtain hslash | ⟨piece, hpiece, hc⟩ := Text.mem_splitOn (a := '/') hmem
    · cases hslash
    · refine h (String.ofList piece) ?_ (by rwa [String.toList_ofList])
      rw [parts_eq]
      exact List.mem_map_of_mem hpiece

/-! ## Paths of places -/

theorem parts_injective {a b : String} (h : parts a = parts b) : a = b := by
  have hpieces : ∀ s : String, List.intercalate ['/'] ((parts s).map String.toList) = s.toList := by
    intro s
    rw [parts_eq, List.map_map]
    simp [Function.comp_def, List.intercalate_splitOn]
  apply String.toList_inj.1
  rw [← hpieces, ← hpieces, h]

theorem toList_toPath (p : Place) :
    p.toPath.toList = '/' :: List.intercalate ['/'] (p.map String.toList) := by
  rw [Place.toPath, String.toList_append, String.toList_intercalate]
  rfl

theorem parts_toPath {p : Place} (hp : p ≠ []) (h : ∀ name ∈ p, '/' ∉ name.toList) :
    parts p.toPath = "" :: p := by
  have hnames : ∀ cs ∈ p.map String.toList, '/' ∉ cs := by
    intro cs hcs
    obtain ⟨name, hname, rfl⟩ := List.mem_map.1 hcs
    exact h name hname
  have hroot : (p.toPath.toList).splitOn '/' = [] :: p.map String.toList := by
    rw [toList_toPath, ← List.nil_append ('/' :: _), List.splitOn_append_cons_self,
      List.splitOn_intercalate '/' hnames (by simpa using hp), List.splitOn_nil]
    rfl
  rw [parts_eq, hroot, List.map_cons, List.map_map]
  simp [Function.comp_def]

theorem parts_join_toPath {p : Place} {rest : String} (h : ∀ name ∈ p, name ≠ "" ∧ '/' ∉ name.toList)
    (hrest : Path.isAbsolute rest = false) :
    parts (Path.join p.toPath rest) = "" :: (p ++ parts rest) := by
  by_cases hp : p = []
  · subst hp
    have hroot : (Place.toPath []).toList = ['/'] := by decide
    have hjoin : (Path.join (Place.toPath []) rest).toList = [] ++ '/' :: rest.toList := by
      rw [Path.toList_join_of_relative hrest, hroot]
      simp
    rw [parts_eq, hjoin, List.splitOn_append_cons_self, List.map_append, ← parts_eq]
    simp
  · have hpath : p.toPath ≠ "" := by
      rw [Place.toPath]
      simp
    obtain ⟨front, hfront, hparts⟩ := parts_join hpath hrest
    rw [parts_toPath hp fun name hname => (h name hname).2] at hfront
    rcases hfront with rfl | hclosed
    · rw [hparts, List.cons_append]
    · -- No name of the place is empty.
      have hlast : "" ∈ p := by
        obtain ⟨above, name, rfl⟩ : ∃ above name, p = above ++ [name] :=
          ⟨_, _, (List.dropLast_append_getLast hp).symm⟩
        rw [← List.cons_append] at hclosed
        simp [(List.append_inj' hclosed rfl).2]
      exact absurd rfl (h "" hlast).1

end FileTree

end Assay
