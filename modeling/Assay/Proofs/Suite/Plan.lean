import Assay.Proofs.Text.Printed
import Assay.Proofs.Host.Tree
import Assay.Suite.Plan

/-!
# Plans of a folder

A plan has each document of a folder once, by its name, and the names go up in the
order of their bytes. Nothing in that hangs on the order in which the folder gives
its names. A category that is asked for by its name is planned exactly where the
plan of the whole folder has it.
-/

set_option autoImplicit false

namespace Assay

namespace Plan

/-- The name of a document: the extension comes last and something stands before it. -/
def NamesDocument (name : String) : Prop := ∃ stem, stem ≠ "" ∧ name = stem ++ ".json"

theorem isDocumentName_iff (name : String) : isDocumentName name = true ↔ NamesDocument name := by
  have hextension : reversedExtension = (".json".toList).reverse := rfl
  rw [isDocumentName, Bool.and_eq_true, List.isPrefixOf_iff_prefix, decide_eq_true_iff,
    hextension, List.reverse_prefix]
  constructor
  · rintro ⟨⟨stem, hstem⟩, hlt⟩
    refine ⟨String.ofList stem, ?_, ?_⟩
    · intro hempty
      have hnil : stem = [] := by simpa using hempty
      rw [← String.length_toList, ← hstem, hnil] at hlt
      simp at hlt
    · apply String.toList_inj.1
      rw [String.toList_append, String.toList_ofList, hstem]
  · rintro ⟨stem, hne, rfl⟩
    have hpos : 0 < stem.toList.length := List.length_pos_iff.2 (by simpa using hne)
    refine ⟨⟨stem.toList, by simp⟩, ?_⟩
    rw [List.length_reverse, ← String.length_toList, String.toList_append, List.length_append]
    exact Nat.lt_add_of_pos_left hpos

theorem sorted_select (listing : List (String × Bool)) :
    (select listing).Pairwise fun a b => a ≤ b := by
  have hsorted := @List.pairwise_mergeSort _ (fun a b : String => decide (a ≤ b))
    (fun a b c hab hbc => decide_eq_true
      (String.le_trans (of_decide_eq_true hab) (of_decide_eq_true hbc)))
    (fun a b => by rcases String.le_total a b with h | h <;> simp [h])
    ((listing.filter fun e => e.2 && isDocumentName e.1).map Prod.fst)
  exact hsorted.imp of_decide_eq_true

theorem select_perm (listing : List (String × Bool)) :
    (select listing).Perm ((listing.filter fun e => e.2 && isDocumentName e.1).map Prod.fst) :=
  List.mergeSort_perm _ _

theorem select_eq_of_perm {listing listing' : List (String × Bool)} (h : listing'.Perm listing) :
    select listing' = select listing := by
  have hperm : (select listing').Perm (select listing) := (select_perm listing').trans
    (((h.filter _).map Prod.fst).trans (select_perm listing).symm)
  exact hperm.eq_of_pairwise (fun a b _ _ => String.le_antisymm)
    (sorted_select listing') (sorted_select listing)

theorem mem_select {listing : List (String × Bool)} {name : String} :
    name ∈ select listing ↔ (name, true) ∈ listing ∧ NamesDocument name := by
  rw [(select_perm listing).mem_iff, List.mem_map]
  constructor
  · rintro ⟨⟨name, isFile⟩, he, rfl⟩
    obtain ⟨hmem, hboth⟩ := List.mem_filter.1 he
    obtain ⟨rfl, hname⟩ := Bool.and_eq_true_iff.1 hboth
    exact ⟨hmem, (isDocumentName_iff _).1 hname⟩
  · rintro ⟨hmem, hname⟩
    exact ⟨_, List.mem_filter.2 ⟨hmem, by simpa using (isDocumentName_iff _).2 hname⟩, rfl⟩

theorem nodup_select {listing : List (String × Bool)} (h : (listing.map Prod.fst).Nodup) :
    (select listing).Nodup :=
  (select_perm listing).nodup_iff.2 (h.sublist (List.filter_sublist.map Prod.fst))

def documentNames (h : Host) (folder : String) (names : List String) : List String :=
  select (names.map fun n => (n, h.isFile (Path.join folder n)))

variable {h : Host} {folder : String} {names : List String}

theorem mem_documentNames {name : String} :
    name ∈ documentNames h folder names ↔
      name ∈ names ∧ h.isFile (Path.join folder name) = true ∧ NamesDocument name := by
  rw [documentNames, mem_select, List.mem_map]
  constructor
  · rintro ⟨⟨n, hn, he⟩, hname⟩
    obtain ⟨rfl, hfile⟩ := Prod.mk.inj he
    exact ⟨hn, hfile, hname⟩
  · rintro ⟨hn, hfile, hname⟩
    exact ⟨⟨name, hn, by rw [hfile]⟩, hname⟩

theorem make_of_list (hlist : h.files.list h.folder folder = .ok names) :
    make h folder none = .ok ⟨(documentNames h folder names).map (Path.join folder), false⟩ := by
  rw [make, ofFolder, hlist]
  rfl

theorem join_injective {a b : String} (ha : '/' ∉ a.toList) (hb : '/' ∉ b.toList)
    (h : Path.join folder a = Path.join folder b) : a = b := by
  have hlist := congrArg String.toList h
  rw [Path.toList_join_of_relative (Path.isAbsolute_of_not_mem ha),
    Path.toList_join_of_relative (Path.isAbsolute_of_not_mem hb)] at hlist
  apply String.toList_inj.1
  split at hlist
  · exact List.append_cancel_left hlist
  · exact (List.cons.inj (List.append_cancel_left hlist)).2

/-- In a tree whose names come in another order, the same plan is made. -/
theorem make_relist {places : List (Place × Nat)} (hp : places.Perm h.files.names) :
    make { h with files := h.files.relist hp } folder none = make h folder none := by
  have hfile (path : String) :
      ({ h with files := h.files.relist hp } : Host).isFile path = h.isFile path :=
    FileTree.isFile_congr (FileTree.node?_relist hp) _ _
  simp only [make, ofFolder, FileTree.list_relist hp, FileTree.list_eq]
  cases h.files.folderAt h.folder folder with
  | error e => rfl
  | ok p =>
    have hnames := FileTree.childNames_relist hp p
    simp only [Except.map, hfile, select_eq_of_perm (hnames.map _)]

/-- The plan of a folder that can be read has each document in it once: each name with
something before its extension, whose path leads to a file. The names go up in the order of
their bytes, and in whatever order the folder gives its names, the plan is the same. -/
theorem documents_are_planned_in_order_of_bytes
    (hlist : h.files.list h.folder folder = .ok names) :
    ∃ documents : List String,
      make h folder none = .ok ⟨documents.map (Path.join folder), false⟩ ∧
      (∀ name, name ∈ documents ↔ name ∈ names ∧ h.isFile (Path.join folder name) = true ∧
        ∃ stem, stem ≠ "" ∧ name = stem ++ ".json") ∧
      documents.Pairwise (fun a b => Text.encode a < Text.encode b) ∧
      (documents.map (Path.join folder)).Nodup ∧
      ∀ {places : List (Place × Nat)} (hp : places.Perm h.files.names),
        make { h with files := h.files.relist hp } folder none = make h folder none := by
  obtain ⟨p, -, hchildren⟩ := (Json.map_eq_ok_iff _ _ _).1 ((FileTree.list_eq ..).symm.trans hlist)
  have hnodup : names.Nodup := hchildren ▸ h.files.nodup_childNames p
  have hdocuments : (documentNames h folder names).Nodup :=
    nodup_select (by simpa [Function.comp_def] using hnodup)
  have hslash : ∀ name ∈ documentNames h folder names, '/' ∉ name.toList := by
    intro name hname
    have hmem : name ∈ h.files.childNames p := hchildren ▸ (mem_documentNames.1 hname).1
    obtain ⟨n, hn⟩ := FileTree.mem_childNames.1 hmem
    exact (h.files.isTree.named _ hn name (by simp)).undivided
  refine ⟨documentNames h folder names, make_of_list hlist, fun name => mem_documentNames, ?_, ?_,
    make_relist⟩
  · have hsorted := (sorted_select _).and hdocuments
    exact hsorted.imp fun ⟨hle, hne⟩ => Text.encode_lt (Std.lt_of_le_of_ne hle hne)
  · apply hdocuments.map_on
    intro a ha b hb hab
    exact join_injective (hslash a ha) (hslash b hb) hab

/-- A folder with a link to a document, a name that is nothing but an extension, a folder that
is called like a document and one in capitals, listed in two orders. -/
theorem link_is_planned_and_bare_extension_is_not :
    let file : Inode := ⟨.file [], 0o644, 0⟩
    let folder : Inode := ⟨.folder, 0o755, 0⟩
    let h : Host := ⟨(((((((FileTree.empty.put ["t"] folder).put ["t", "é.json"]
      ⟨.link "b.json", 0o777, 0⟩).put ["t", "b.json"] file).put ["t", ".json"] file).put
      ["t", "x.json"] folder).put ["t", "..json"] file).put ["t", "B.JSON"] file), [], ⟨[]⟩, 0⟩
    let h' : Host := { h with files := h.files.relist h.files.names.reverse_perm }
    h.files.list h.folder "t" =
        .ok ["é.json", "b.json", ".json", "x.json", "..json", "B.JSON"] ∧
      make h' "t" none = make h "t" none ∧
      ∃ documents : List String,
        make h "t" none = .ok ⟨documents.map (Path.join "t"), false⟩ ∧
        documents.Pairwise (fun a b => Text.encode a < Text.encode b) ∧
        ∀ name, name ∈ documents ↔ name ∈ ["é.json", "b.json", "..json"] := by
  intro file folder h h'
  have hlist : h.files.list h.folder "t" =
    .ok ["é.json", "b.json", ".json", "x.json", "..json", "B.JSON"] := by decide +kernel
  obtain ⟨documents, hmake, hmem, hsorted, -, hrelist⟩ :=
    documents_are_planned_in_order_of_bytes hlist
  refine ⟨hlist, hrelist _, documents, hmake, hsorted, fun name => ?_⟩
  have hkept : ["é.json", "b.json", ".json", "x.json", "..json", "B.JSON"].filter
      (fun name => h.isFile (Path.join "t" name) && isDocumentName name) =
        ["é.json", "b.json", "..json"] := by decide +kernel
  have hboth : name ∈ ["é.json", "b.json", ".json", "x.json", "..json", "B.JSON"] ∧
      h.isFile (Path.join "t" name) = true ∧ NamesDocument name ↔
        name ∈ ["é.json", "b.json", "..json"] := by
    rw [← hkept, List.mem_filter, Bool.and_eq_true, isDocumentName_iff]
  exact (hmem name).trans hboth

theorem mem_documentNames_of_isFile {name : String} (hne : name ≠ "") (hslash : '/' ∉ name.toList)
    (hlist : h.files.list h.folder folder = .ok names)
    (hfile : h.isFile (Path.join folder (name ++ ".json")) = true) :
    name ++ ".json" ∈ documentNames h folder names := by
  obtain ⟨p, hp, hchildren⟩ :=
    (Json.map_eq_ok_iff _ _ _).1 ((FileTree.list_eq ..).symm.trans hlist)
  obtain ⟨hresolve, hfolder⟩ := FileTree.folderAt_eq_ok hp
  obtain ⟨e, hstat, -⟩ := FileTree.isFile_iff.1 hfile
  have hlong : 5 ≤ (name ++ ".json").length := by
    rw [String.length_append]
    exact Nat.le_add_left _ _
  have hother {s : String} (hs : s.length < 5) : name ++ ".json" ≠ s := by
    rintro rfl
    omega
  obtain ⟨e', he'⟩ := FileTree.stands_of_stat hresolve hfolder (by simpa using hslash)
    (not_or.2 ⟨hother (by decide), hother (by decide)⟩) (hother (by decide)) hstat
  obtain ⟨n, hn, -⟩ := FileTable.at?_eq_some.1 he'
  rw [mem_documentNames, ← hchildren, FileTree.mem_childNames]
  exact ⟨⟨n, FileTable.mem_of_number? hn⟩, hfile, name, hne, rfl⟩

/-- A category with a name that is no path is planned exactly where the plan of the whole
folder has its document, and alone. -/
theorem category_is_planned_where_folder_has_it {name : String}
    (hlist : h.files.list h.folder folder = .ok names) (hne : name ≠ "")
    (hslash : '/' ∉ name.toList) :
    ∃ whole, make h folder none = .ok whole ∧
      make h folder (some name) =
        if Path.join folder (name ++ ".json") ∈ whole.files then
          .ok ⟨[Path.join folder (name ++ ".json")], true⟩
        else .error (.categoryNotFound name) := by
  refine ⟨_, make_of_list hlist, ?_⟩
  have hiff : Path.join folder (name ++ ".json") ∈
      (documentNames h folder names).map (Path.join folder) ↔
        h.isFile (Path.join folder (name ++ ".json")) = true := by
    constructor
    · intro hmem
      obtain ⟨n, hn, hpath⟩ := List.mem_map.1 hmem
      rw [← hpath]
      exact (mem_documentNames.1 hn).2.1
    · intro hfile
      exact List.mem_map_of_mem (mem_documentNames_of_isFile hne hslash hlist hfile)
  simp only [make, ofCategory, hiff]

/-- A category whose name starts with a dot and ends like a document, next to a folder that is
called like the document of another one. -/
theorem dotted_category_is_planned_alone :
    let h : Host := ⟨((FileTree.empty.put ["t"] ⟨.folder, 0o755, 0⟩).put ["t", ".a.json.json"]
      ⟨.file [], 0o644, 0⟩).put ["t", "b.json"] ⟨.folder, 0o755, 0⟩, [], ⟨[]⟩, 0⟩
    make h "t/" (some ".a.json") = .ok ⟨["t/.a.json.json"], true⟩ ∧
      make h "t/" (some "b") = .error (.categoryNotFound "b") ∧
      ∃ whole, make h "t/" none = .ok whole ∧ "t/.a.json.json" ∈ whole.files ∧
        "t/b.json" ∉ whole.files := by
  intro h
  have hlist : h.files.list h.folder "t/" = .ok [".a.json.json", "b.json"] := by decide +kernel
  have hdotted : make h "t/" (some ".a.json") = .ok ⟨["t/.a.json.json"], true⟩ := by
    decide +kernel
  have hfolder : make h "t/" (some "b") = .error (.categoryNotFound "b") := by decide +kernel
  obtain ⟨whole, hwhole, hiff⟩ :=
    @category_is_planned_where_folder_has_it h "t/" _ ".a.json" hlist (by decide) (by decide)
  obtain ⟨whole', hwhole', hiff'⟩ :=
    @category_is_planned_where_folder_has_it h "t/" _ "b" hlist (by decide) (by decide)
  obtain rfl : whole = whole' := Except.ok.inj (hwhole.symm.trans hwhole')
  have hpath : Path.join "t/" (".a.json" ++ ".json") = "t/.a.json.json" := by decide +kernel
  have hpath' : Path.join "t/" ("b" ++ ".json") = "t/b.json" := by decide +kernel
  refine ⟨hdotted, hfolder, whole, hwhole, ?_, ?_⟩
  · by_contra hnot
    rw [hdotted, hpath, if_neg hnot] at hiff
    cases hiff
  · intro hmem
    rw [hfolder, hpath', if_pos hmem] at hiff'
    cases hiff'

end Plan

end Assay
