import Assay.Proofs.Report.Elements
import Assay.Proofs.Report.Figures

/-!
# Rows of the page

What an interpreter prints stays in the cell it belongs to. The tags of a page
depend on the statuses of the results alone, and each category has one row for
each of its results, whose cells give back the name, the expected value and what
was found, whatever characters are in them.
-/

set_option autoImplicit false

namespace Assay

namespace CaseResult

def IsRecorded (r : CaseResult) : Prop :=
  ∃ name expected outcome verdict, r = ofOutcome name expected outcome verdict

end CaseResult

namespace Page

open Markup

variable (locale : Locale)

/-! ## The tree of a page -/

def cells (r : CaseResult) : List String :=
  [(wordStatus r).label.wording locale, r.name, r.expected.toText, r.actualOrError]

theorem isName_of_page {name : String} (h : name ∈ ["html", "head", "meta", "charset", "title",
    "style", "body", "h1", "p", "class", "div", "span", "h2", "table", "thead", "tr", "th", "tbody",
    "td"]) : IsName name := by
  revert name
  decide +kernel

theorem sound_row (r : CaseResult) : (row locale r).Sound := by
  simp [row, classed, plain, Sound, SoundAll, isName_of_page]

theorem sound_block (c : CategoryResult) : SoundAll (block locale c) := by
  have hrows : SoundAll (c.results.toList.map (row locale)) := by
    rw [soundAll_iff, List.forall_mem_map]
    exact fun r _ => sound_row locale r
  simp [block, heading, table, classed, plain, Sound, SoundAll, hrows, isName_of_page]

theorem styleSheet_plain : '<' ∉ styleSheet.toList := by
  rw [styleSheet, String.toList_ofList]
  decide +kernel

theorem sound_ofSummary (time : String) (s : RunSummary) : (ofSummary locale time s).Sound := by
  have hblocks : SoundAll (s.categories.toList.flatMap (block locale)) := by
    rw [soundAll_iff]
    intro m hm
    obtain ⟨c, -, hm⟩ := List.mem_flatMap.1 hm
    exact (soundAll_iff _).1 (sound_block locale c) m hm
  have hbody (ms : List Markup) (h : SoundAll ms) := soundAll_append h hblocks
  simp only [ofSummary, Sound, SoundAll]
  refine ⟨isName_of_page (by simp), by simp, ?_, ⟨isName_of_page (by simp), by simp, hbody _ ?_⟩,
    trivial⟩
  · simp [plain, Sound, SoundAll, styleSheet_plain, isName_of_page]
  · simp [tile, classed, plain, Sound, SoundAll, isName_of_page]

theorem found_bodies (time : String) (s : RunSummary) :
    (ofSummary locale time s).found "tbody" =
      s.categories.toList.map fun c => scanAll (c.results.toList.map (row locale)) [] := by
  have hblock (c : CategoryResult) : (block locale c).flatMap (found "tbody") =
      [scanAll (c.results.toList.map (row locale)) []] := by
    simp [block, heading, table, classed, plain, found, foundAll]
  rw [List.map_eq_flatMap]
  simp [ofSummary, tile, classed, plain, found, foundAll, foundAll_eq, List.flatMap_assoc, hblock]

theorem names_row (r : CaseResult) : (row locale r).names = ["tr", "td", "td", "td", "td"] := rfl

theorem flat_bodies (time : String) (s : RunSummary) : (ofSummary locale time s).Flat "tbody" := by
  have hrows (c : CategoryResult) : "tbody" ∉ namesAll (c.results.toList.map (row locale)) := by
    rw [namesAll_eq, List.mem_flatMap]
    rintro ⟨m, hm, hname⟩
    obtain ⟨r, -, rfl⟩ := List.mem_map.1 hm
    rw [names_row] at hname
    exact absurd hname (by decide)
  have hblocks : FlatAll "tbody" (s.categories.toList.flatMap (block locale)) := by
    rw [flatAll_iff]
    intro m hm
    obtain ⟨c, -, hm⟩ := List.mem_flatMap.1 hm
    rw [block, List.mem_cons, List.mem_singleton] at hm
    rcases hm with rfl | rfl
    · simp [heading, classed, Flat, FlatAll]
    · simp [table, plain, Flat, FlatAll, hrows]
  have hbody (ms : List Markup) (h : FlatAll "tbody" ms) := flatAll_append h hblocks
  rw [ofSummary, Flat, if_neg (by decide)]
  refine ⟨?_, ?_, trivial⟩
  · simp [plain, Flat, FlatAll]
  · rw [Flat, if_neg (by decide)]
    refine hbody _ ?_
    simp [tile, classed, plain, Flat, FlatAll]

/-! ## Cells -/

def bodyRows (page : String) : List (List (List String)) :=
  (Piece.elements "tbody" (Piece.ofPage page)).map fun body =>
    (Piece.elements "tr" body).map fun row => (Piece.elements "td" row).map Piece.textOf

theorem textOf_text (s : String) : Piece.textOf (scanAll [.text s] []) = s := by
  rw [Piece.textOf, scanAll, scanAll, scan, Piece.chars_pushes, List.flatMap_nil, List.append_nil,
    escaped, unescape_escape, String.ofList_toList]

theorem outside_doctype (rest : List Char) :
    Piece.outside ("<!DOCTYPE html>".toList ++ rest) =
      .tag "!DOCTYPE html".toList :: Piece.outside rest := by
  have hplain : ∀ c ∈ "!DOCTYPE html".toList, c ≠ '"' ∧ (c = '>' → false = true) := by simp
  have hinside := Piece.inside_plain hplain ('>' :: rest)
  rw [Piece.inside_end, List.append_nil] at hinside
  have htext : "<!DOCTYPE html>".toList ++ rest =
      '<' :: ("!DOCTYPE html".toList ++ '>' :: rest) := rfl
  rw [htext, Piece.outside, if_pos rfl, hinside]

theorem ofPage_report (time : String) (s : RunSummary) :
    Piece.ofPage (report locale time s) =
      .tag "!DOCTYPE html".toList :: (ofSummary locale time s).scan [] := by
  have htext : (report locale time s).toList =
      "<!DOCTYPE html>".toList ++ ((ofSummary locale time s).render.toList ++ []) := by
    rw [List.append_nil]
    exact String.toList_append
  rw [Piece.ofPage, htext]
  exact (outside_doctype _).trans
    (congrArg _ (outside_render _ (sound_ofSummary locale time s) []))

def cellTrees (r : CaseResult) : List Markup :=
  classed "td" (colourStatus r).cssClass [.text ((wordStatus r).label.wording locale)] ::
    [r.name, r.expected.toText, r.actualOrError].map (plain "td")

theorem row_eq (r : CaseResult) : row locale r = .element "tr" [] (cellTrees locale r) := rfl

theorem elements_cells (r : CaseResult) :
    (Piece.elements "td" (scanAll (cellTrees locale r) [])).map Piece.textOf = cells locale r := by
  have hsound : SoundAll (cellTrees locale r) := by
    have hrow := sound_row locale r
    rw [row_eq, Sound] at hrow
    exact hrow.2.2
  have hflat : FlatAll "td" (cellTrees locale r) := by
    simp [cellTrees, classed, plain, Flat, FlatAll, namesAll, names]
  have hfound : foundAll "td" (cellTrees locale r) =
      (cells locale r).map fun s => scanAll [.text s] [] := by
    simp [cellTrees, cells, classed, plain, found, foundAll]
  rw [Piece.elements, seek_scanAll (isName_of_page (by simp)) _ hsound hflat, hfound, Piece.seek,
    List.append_nil, List.map_map]
  exact List.map_id'' textOf_text _

theorem elements_rows (rs : List CaseResult) :
    Piece.elements "tr" (scanAll (rs.map (row locale)) []) =
      rs.map fun r => scanAll (cellTrees locale r) [] := by
  have hsound : SoundAll (rs.map (row locale)) := by
    rw [soundAll_iff, List.forall_mem_map]
    exact fun r _ => sound_row locale r
  have hflat : FlatAll "tr" (rs.map (row locale)) := by
    rw [flatAll_iff, List.forall_mem_map]
    intro r _
    simp [row, classed, plain, Flat, namesAll, names]
  have hfound (r : CaseResult) : found "tr" (row locale r) = [scanAll (cellTrees locale r) []] :=
    rfl
  rw [Piece.elements, seek_scanAll (isName_of_page (by simp)) _ hsound hflat, foundAll_eq,
    Piece.seek, List.append_nil, List.flatMap_map, List.map_eq_flatMap]
  exact List.flatMap_congr fun r _ => hfound r

theorem bodyRows_report (time : String) (s : RunSummary) :
    bodyRows (report locale time s) =
      s.categories.toList.map fun c => c.results.toList.map (cells locale) := by
  have hbodies : Piece.elements "tbody" (Piece.ofPage (report locale time s)) =
      s.categories.toList.map fun c => scanAll (c.results.toList.map (row locale)) [] := by
    have hdoctype : Piece.opens "tbody".toList (.tag "!DOCTYPE html".toList) = false := by decide
    rw [ofPage_report, Piece.elements, Piece.seek, hdoctype,
      seek_scan (isName_of_page (by simp)) _ (sound_ofSummary locale time s)
        (flat_bodies locale time s), found_bodies, Piece.seek, List.append_nil]
    rfl
  rw [bodyRows, hbodies, List.map_map]
  apply List.map_congr_left
  intro c _
  rw [Function.comp_apply, elements_rows, List.map_map]
  apply List.map_congr_left
  intro r _
  rw [Function.comp_apply, elements_cells]

/-! ## Tags -/

def rowTags (s : Status) : List Markup.Tag :=
  .opening "tr" [] :: ([[("class", s.cssClass)], [], [], []].flatMap fun attributes =>
    [.opening "td" attributes, .closing "td"]) ++ [.closing "tr"]

theorem tags_row (r : CaseResult) : (row locale r).tags = rowTags (colourStatus r) := rfl

theorem tags_rows (rs : List CaseResult) :
    (rs.map (row locale)).flatMap tags = (rs.map colourStatus).flatMap rowTags := by
  rw [List.flatMap_map, List.flatMap_map]
  exact List.flatMap_congr fun r _ => tags_row locale r

/-- Two categories whose tables have the same colours. -/
structure LooksLike (c d : CategoryResult) : Prop where
  failed : c.failed = 0 ↔ d.failed = 0
  statuses : c.results.toList.map colourStatus = d.results.toList.map colourStatus

theorem LooksLike.tags_block {c d : CategoryResult} (h : LooksLike c d) :
    (block locale c).flatMap tags = (block locale d).flatMap tags := by
  simp [block, heading, table, classed, plain, tags, tagsAll, tagsAll_eq, tags_rows, h.failed,
    h.statuses]

theorem tags_blocks {cs ds : List CategoryResult} (h : List.Forall₂ LooksLike cs ds) :
    (cs.flatMap (block locale)).flatMap tags = (ds.flatMap (block locale)).flatMap tags := by
  induction h with
  | nil => rfl
  | cons hcd _ ih =>
    rw [List.flatMap_cons, List.flatMap_cons, List.flatMap_append, List.flatMap_append, ih,
      hcd.tags_block]

/-- The tags of a page depend on the colours of its tables alone. -/
theorem tags_ofSummary {s s' : RunSummary} (time time' : String)
    (h : List.Forall₂ LooksLike s.categories.toList s'.categories.toList) :
    (ofSummary locale time s).tags = (ofSummary locale time' s').tags := by
  simp only [ofSummary, tile, classed, plain, tags, tagsAll_eq, List.flatMap_cons,
    List.flatMap_append, tags_blocks locale h]

theorem tags_report (time : String) (s : RunSummary) :
    Piece.tags (Piece.ofPage (report locale time s)) =
      "!DOCTYPE html".toList :: (ofSummary locale time s).tags.map Tag.chars := by
  have hnil : Piece.tags [] = [] := rfl
  have hscan := tags_scan (ofSummary locale time s) []
  rw [hnil, List.append_nil] at hscan
  rw [ofPage_report]
  exact congrArg _ hscan

/-! ## Recorded results -/

theorem colourStatus_of_recorded {r : CaseResult} (h : r.IsRecorded) :
    colourStatus r = wordStatus r := by
  obtain ⟨name, expected, outcome, verdict, rfl⟩ := h
  cases outcome with
  | output actual => cases verdict <;> rfl
  | failed f => cases hf : f.reason <;>
      simp [colourStatus, wordStatus, CaseResult.ofOutcome, CaseResult.isTimeout, hf]

theorem passed_iff_wordStatus (r : CaseResult) : r.passed = true ↔ wordStatus r = .passed := by
  unfold wordStatus
  split_ifs <;> simp_all

theorem looksLike_of_statuses {t u : Ledger.Section} (ht : ∀ r ∈ t.results, r.IsRecorded)
    (hu : ∀ r ∈ u.results, r.IsRecorded)
    (h : t.results.map wordStatus = u.results.map wordStatus) :
    LooksLike t.category u.category := by
  have hcolours {v : Ledger.Section} (hv : ∀ r ∈ v.results, r.IsRecorded) :
      v.category.results.toList.map colourStatus = v.results.map wordStatus := by
    rw [v.tallies.results]
    exact List.map_congr_left fun r hr => colourStatus_of_recorded (hv r hr)
  have hfailed (v : Ledger.Section) :
      v.category.failed = 0 ↔ ∀ s ∈ v.results.map wordStatus, s = .passed := by
    rw [Ledger.Section.category, CategoryResult.failed_ofResults_eq_zero_iff, List.forall_mem_map]
    exact forall₂_congr fun r _ => passed_iff_wordStatus r
  exact ⟨by rw [hfailed, hfailed, h], by rw [hcolours ht, hcolours hu, h]⟩

theorem looksLike_of_sections {ts us : List Ledger.Section}
    (ht : ∀ t ∈ ts, ∀ r ∈ t.results, r.IsRecorded) (hu : ∀ u ∈ us, ∀ r ∈ u.results, r.IsRecorded)
    (h : List.Forall₂ (fun t u => t.results.map wordStatus = u.results.map wordStatus) ts us) :
    List.Forall₂ LooksLike (ts.map Ledger.Section.category) (us.map Ledger.Section.category) := by
  induction h with
  | nil => exact .nil
  | cons htu _ ih =>
    rw [List.forall_mem_cons] at ht hu
    exact .cons (looksLike_of_statuses ht.1 hu.1 htu) (ih ht.2 hu.2)

/-- Whatever is printed, expected or named on a page stays in its own cell. Two runs with the
same statuses have the same tags with the same attributes, in the same order, and each table has
one row for each result of its category, whose cells read as the status in words, the name, the
expected value and the actual output or the error. -/
theorem printed_text_stays_in_its_cell (time time' : String) (ts us : List Ledger.Section)
    (ht : ∀ t ∈ ts, ∀ r ∈ t.results, r.IsRecorded) (hu : ∀ u ∈ us, ∀ r ∈ u.results, r.IsRecorded)
    (h : List.Forall₂ (fun t u => t.results.map wordStatus = u.results.map wordStatus) ts us) :
    let page (time : String) (ts : List Ledger.Section) : String :=
      report locale time (.ofCategories (ts.map Ledger.Section.category))
    Piece.tags (Piece.ofPage (page time ts)) = Piece.tags (Piece.ofPage (page time' us)) ∧
      bodyRows (page time ts) = ts.map fun t => t.results.map fun r =>
        [(wordStatus r).label.wording locale, r.name, r.expected.toText, r.actualOrError] := by
  intro page
  constructor
  · have halike := looksLike_of_sections ht hu h
    rw [tags_report, tags_report, tags_ofSummary locale time time']
    simpa [RunSummary.ofCategories_eq] using halike
  · rw [bodyRows_report, RunSummary.ofCategories_eq]
    dsimp only
    rw [List.map_map]
    apply List.map_congr_left
    intro t _
    rw [Function.comp_apply, t.tallies.results]
    rfl

/-- An output that closes its cell and opens a script, under a name with quotes and entities, next
to a run that has failed without any output. -/
theorem closing_tags_are_printed_as_text :
    let page (t : Ledger.Section) : String := report .english "now" (.ofCategories [t.category])
    let hostile : Ledger.Section := ⟨"</table>", [.ofOutcome "\"&lt;" (.text "<b>")
      (.output "</td></tr></tbody><script>") false]⟩
    let silent : Ledger.Section := ⟨"", [.ofOutcome "" (.text "") (.output "") false]⟩
    Piece.tags (Piece.ofPage (page hostile)) = Piece.tags (Piece.ofPage (page silent)) ∧
      bodyRows (page hostile) =
        [[["Failed", "\"&lt;", "<b>", "</td></tr></tbody><script>"]]] := by
  intro page hostile silent
  have hrecorded {t : Ledger.Section} (h : t = hostile ∨ t = silent) :
      ∀ r ∈ t.results, r.IsRecorded := by
    rcases h with rfl | rfl
    all_goals
      intro r hr
      obtain rfl := List.mem_singleton.1 hr
      exact ⟨_, _, _, _, rfl⟩
  obtain ⟨htags, hrows⟩ := printed_text_stays_in_its_cell .english "now" "now" [hostile] [silent]
    (by simpa using hrecorded (.inl rfl)) (by simpa using hrecorded (.inr rfl)) (by simp; rfl)
  exact ⟨htags, hrows.trans rfl⟩

end Page

end Assay
