import Mathlib.Data.List.Find
import Assay.Proofs.Host.Tree
import Assay.Host.Interpreter

/-!
# The interpreter is the first file of its candidates

Without a choice the candidates are those of the build folders and then those of
the search path. A choice has candidates of its own: with a slash in it there is
one, the path itself, and without a slash there is one in each folder of the search
path. A choice that looks like a name but ends in a slash may be looked up as a
name, which finds no more than the path would, as neither can lead to a file.
-/

set_option autoImplicit false

namespace Assay

namespace Path

theorem not_isCompound_of_not_mem {p : String} (h : '/' ∉ p.toList) : isCompound p = false := by
  have hsplit : splitChars p.toList = [p.toList] := by
    rw [splitChars_eq, List.splitOn_eq_singleton h]
  rw [isCompound, componentCount, hsplit, isAbsolute_of_not_mem h]
  by_cases hp : p.toList = [] <;> simp [hp]

theorem ends_where_it_is {p : String} (hslash : '/' ∈ p.toList) (habsolute : isAbsolute p = false)
    (hone : isCompound p = false) :
    ∃ front part, FileTree.parts p = front ++ [part] ∧ (part = "" ∨ part = ".") := by
  obtain ⟨first, rest, hp, hfirst⟩ := List.eq_append_cons_of_mem hslash
  have hne : first ≠ [] := by
    rintro rfl
    rw [isAbsolute, hp, List.nil_append, isAbsoluteChars_cons] at habsolute
    cases habsolute
  have hsplit : splitChars p.toList = first :: rest.splitOn '/' := by
    rw [splitChars_eq, hp, List.splitOn_append_cons_self_of_not_mem hfirst]
  rw [isCompound, componentCount, hsplit, habsolute] at hone
  simp only [if_neg hne, Bool.false_eq_true, if_false, decide_eq_false_iff_not] at hone
  have hstays : ∀ cs ∈ rest.splitOn '/', cs = [] ∨ cs = ['.'] := by
    have hnone := List.eq_nil_of_length_eq_zero (Nat.le_zero.1 (by omega : ((rest.splitOn '/').filter
      fun s => s != [] && s != ['.']).length ≤ 0))
    intro cs hcs
    simpa [or_iff_not_imp_left] using List.filter_eq_nil_iff.1 hnone cs hcs
  have hsome := List.splitOn_ne_nil '/' rest
  refine ⟨(first :: (rest.splitOn '/').dropLast).map String.ofList,
    String.ofList ((rest.splitOn '/').getLast hsome), ?_, ?_⟩
  · rw [FileTree.parts, hsplit, ← List.map_singleton, ← List.map_append, List.cons_append,
      List.dropLast_append_getLast]
  · rcases hstays _ (List.getLast_mem hsome) with hlast | hlast
    · exact .inl (by rw [hlast])
    · exact .inr (by rw [hlast])

end Path

namespace FileTree

theorem isFile_eq_false_of_parts {t : FileTree} {folder : Place} {path part : String}
    (hparts : [part] <:+ parts path) (hdot : part = "" ∨ part = ".") :
    t.isFile folder path = false := by
  rw [← Bool.not_eq_true, isFile_iff]
  rintro ⟨e, hstat, he⟩
  obtain ⟨front, hfront⟩ := hparts
  obtain ⟨-, -, -, p, hw, hat⟩ := stat_eq_ok_iff.1 hstat
  rw [← hfront] at hw
  obtain ⟨q, k, -, hlast⟩ := of_walk_append hw
  obtain ⟨-, hfolder⟩ := of_walk_stay hlast hdot
  rw [hat] at hfolder
  cases hfolder
  cases he

end FileTree

namespace Host

def IsFirstFile (h : Host) (candidates : List String) (path : String) : Prop :=
  ∃ before after, candidates = before ++ path :: after ∧ h.isFile path = true ∧
    ∀ other ∈ before, h.isFile other = false

/-- What a choice may stand for: with a slash in it, the path that it is, below the root unless it
is absolute; without one, what is called so in a folder of the search path. -/
def choiceCandidates (h : Host) (root choice : String) : List String :=
  if '/' ∈ choice.toList then
    [if Path.isAbsolute choice then choice else Path.join root choice]
  else h.searchFolders.map fun folder => Path.join folder choice

variable {h : Host} {candidates : List String} {root choice raw : String}

theorem find?_isFile_eq_some {path : String} :
    candidates.find? h.isFile = some path ↔ h.IsFirstFile candidates path := by
  rw [List.find?_eq_some_iff_append, IsFirstFile]
  simp only [Bool.not_eq_true', exists_and_right]
  constructor
  · rintro ⟨hfile, before, ⟨after, hsplit⟩, hbefore⟩
    exact ⟨before, ⟨after, hsplit⟩, hfile, hbefore⟩
  · rintro ⟨before, ⟨after, hsplit⟩, hfile, hbefore⟩
    exact ⟨hfile, before, ⟨after, hsplit⟩, hbefore⟩

theorem find?_isFile_eq_none :
    candidates.find? h.isFile = none ↔ ∀ path ∈ candidates, h.isFile path = false := by
  simp only [List.find?_eq_none, Bool.not_eq_true]

theorem searchFolders_eq {text : String} (hpath : h.environment.get? "PATH" = some text) :
    h.searchFolders = (text.toList.splitOn ':').map String.ofList := by
  rw [searchFolders, hpath]
  exact Text.splitOn_singleton text ':'

theorem searchFolders_of_path {text : String} (hpath : h.environment.get? "PATH" = some text) :
    h.searchFolders ≠ [] ∧ (∀ folder ∈ h.searchFolders, ':' ∉ folder.toList) ∧
      String.intercalate ":" h.searchFolders = text := by
  rw [searchFolders_eq hpath]
  refine ⟨by simp, ?_, ?_⟩
  · intro folder hfolder
    obtain ⟨piece, hpiece, rfl⟩ := List.mem_map.1 hfolder
    rw [String.toList_ofList]
    exact (Text.of_mem_splitOn hpiece).1
  · apply String.toList_inj.1
    rw [String.toList_intercalate, List.map_map]
    simp [Function.comp_def]

theorem chosen?_eq (h : Host) (root choice : String) :
    h.chosen? root choice = (h.choiceCandidates root choice).find? h.isFile := by
  by_cases hslash : '/' ∈ choice.toList
  · have hanchored : (if Path.isAbsolute choice then choice else Path.join root choice) =
        Path.join root choice := by
      split
      · exact (Path.join_absolute _ _ ‹_›).symm
      · rfl
    rw [chosen?, choiceCandidates, if_pos hslash, hanchored, List.find?_singleton]
    split
    · rfl
    · -- The choice is looked up by a name that ends in a slash.
      rename_i hshort
      obtain ⟨hone, habsolute⟩ : Path.isCompound choice = false ∧ Path.isAbsolute choice = false := by
        simpa using hshort
      obtain ⟨front, part, hparts, hdot⟩ := Path.ends_where_it_is hslash habsolute hone
      have hnone (base : String) : h.isFile (Path.join base choice) = false :=
        FileTree.isFile_eq_false_of_parts
          (.trans ⟨front, hparts.symm⟩ (FileTree.parts_suffix_join base habsolute)) hdot
      rw [search?, if_neg (by simp [hnone]), find?_isFile_eq_none, searchCandidates]
      simp [hnone]
  · rw [chosen?, choiceCandidates, if_neg hslash, Path.not_isCompound_of_not_mem hslash,
      Path.isAbsolute_of_not_mem hslash]
    rfl

theorem locate_none (h : Host) (root name : String) :
    h.locate root none name =
      match (buildCandidates root name ++ h.searchCandidates name).find? h.isFile with
      | some path => .ok path
      | none => .error (.interpreterNotFound name) := by
  rfl

theorem locate_some (h : Host) (root raw name : String) :
    h.locate root (some raw) name =
      match expandPath h.environment raw with
      | .error missing => .error (.variableNotSet raw missing)
      | .ok choice =>
        match h.chosen? root choice with
        | some path => .ok path
        | none => .error (.chosenInterpreterNotFound raw) :=
  rfl

theorem locate_choice (name : String) (hchoice : expandPath h.environment raw = .ok choice) :
    h.locate root (some raw) name =
      match (h.choiceCandidates root choice).find? h.isFile with
      | some path => .ok path
      | none => .error (.chosenInterpreterNotFound raw) := by
  rw [locate_some, hchoice, ← chosen?_eq]

theorem found_eq_ok_iff {found : Option String} {problem : Problem} {path : String} :
    (match found with
      | some path => Except.ok path
      | none => Except.error problem) = .ok path ↔ found = some path := by
  cases found <;> simp

theorem found_eq_error_iff {found : Option String} {problem : Problem} :
    (match found with
      | some path => Except.ok path
      | none => Except.error problem) = .error problem ↔ found = none := by
  cases found <;> simp

/-- The interpreter is the first file of its candidates, and is missed exactly where none of them
is a file. Without a choice these are what is called so in the four build folders and then in the
folders of the search path, which are its pieces between colons. A choice that cannot be expanded
is refused; what another expands to has its own candidates, and nothing else of the host counts,
nor does the name that would be looked for without a choice. -/
theorem interpreter_is_first_file_of_candidates (h : Host) (root : String) :
    (h.environment.get? "PATH" = none → h.searchFolders = []) ∧
    (∀ text, h.environment.get? "PATH" = some text → h.searchFolders ≠ [] ∧
      (∀ folder ∈ h.searchFolders, ':' ∉ folder.toList) ∧
      String.intercalate ":" h.searchFolders = text) ∧
    (∀ name candidates, candidates =
        [Path.join (Path.join root "crates/target/release") name,
          Path.join (Path.join root "crates/target/debug") name,
          Path.join (Path.join root "target/release") name,
          Path.join (Path.join root "target/debug") name] ++
        h.searchFolders.map (fun folder => Path.join folder name) →
      (∀ path, h.locate root none name = .ok path ↔ h.IsFirstFile candidates path) ∧
      (h.locate root none name = .error (.interpreterNotFound name) ↔
        ∀ path ∈ candidates, h.isFile path = false)) ∧
    (∀ raw name missing, expandPath h.environment raw = .error missing →
      h.locate root (some raw) name = .error (.variableNotSet raw missing)) ∧
    ∀ raw choice candidates, expandPath h.environment raw = .ok choice →
      candidates = (if '/' ∈ choice.toList then
          [if Path.isAbsolute choice then choice else Path.join root choice]
        else h.searchFolders.map fun folder => Path.join folder choice) →
      ∀ name,
        (∀ path, h.locate root (some raw) name = .ok path ↔ h.IsFirstFile candidates path) ∧
        (h.locate root (some raw) name = .error (.chosenInterpreterNotFound raw) ↔
          ∀ path ∈ candidates, h.isFile path = false) ∧
        ∀ (h' : Host) (name' : String), expandPath h'.environment raw = .ok choice →
          h'.choiceCandidates root choice = candidates →
          (∀ path ∈ candidates, h'.isFile path = h.isFile path) →
          h'.locate root (some raw) name' = h.locate root (some raw) name := by
  refine ⟨?_, fun text => searchFolders_of_path, ?_, ?_, ?_⟩
  · intro hpath
    rw [searchFolders, hpath]
  · rintro name candidates rfl
    have hlocate : h.locate root none name =
        match (buildCandidates root name ++ h.searchCandidates name).find? h.isFile with
        | some path => .ok path
        | none => .error (.interpreterNotFound name) := rfl
    rw [hlocate]
    exact ⟨fun path => found_eq_ok_iff.trans find?_isFile_eq_some,
      found_eq_error_iff.trans find?_isFile_eq_none⟩
  · intro raw name missing hmissing
    rw [locate_some, hmissing]
  · rintro raw choice candidates hchoice hcandidates name
    obtain rfl : candidates = h.choiceCandidates root choice := hcandidates
    rw [locate_choice name hchoice]
    refine ⟨fun path => found_eq_ok_iff.trans find?_isFile_eq_some,
      found_eq_error_iff.trans find?_isFile_eq_none, ?_⟩
    intro h' name' hchoice' hsame hfiles
    rw [locate_choice name' hchoice', hsame, List.find?_congr hfiles]

/-- A build folder is before the search path, which is only for a choice without a slash. -/
theorem choice_with_slash_is_no_name :
    let file : Inode := ⟨.file [], 0o755, 0⟩
    let folder : Inode := ⟨.folder, 0o755, 0⟩
    let h : Host := ⟨((((((FileTree.empty.put ["p"] folder).put ["p", "target"] folder).put
      ["p", "target", "debug"] folder).put ["p", "target", "debug", "sh"] file).put
      ["bin"] folder).put ["bin", "sh"] file), ["p"], ⟨[("PATH", "/sbin::/bin")]⟩, 0⟩
    h.locate "/p" none "sh" = .ok "/p/target/debug/sh" ∧
      h.locate "/p" (some "sh") "sh" = .ok "/bin/sh" ∧
      h.locate "/p" (some "sh/") "sh" = .error (.chosenInterpreterNotFound "sh/") ∧
      h.locate "/p" (some "./target/debug/sh") "x" = .ok "/p/./target/debug/sh" := by
  intro file folder h
  have hfolders : h.searchFolders = ["/sbin", "", "/bin"] :=
    (searchFolders_eq rfl).trans (by decide +kernel)
  obtain ⟨-, -, hbuilt, -, hchosen⟩ := interpreter_is_first_file_of_candidates h "/p"
  have hslash (choice : String) (hmem : '/' ∈ choice.toList) :
      (if '/' ∈ choice.toList then
          [if Path.isAbsolute choice then choice else Path.join "/p" choice]
        else h.searchFolders.map fun folder => Path.join folder choice) =
        [if Path.isAbsolute choice then choice else Path.join "/p" choice] := if_pos hmem
  refine ⟨?_, ?_, ?_, ?_⟩
  · refine ((hbuilt "sh" _ rfl).1 _).2 ⟨["/p/crates/target/release/sh", "/p/crates/target/debug/sh",
      "/p/target/release/sh"], ["/sbin/sh", "sh", "/bin/sh"], ?_, by decide +kernel,
      by decide +kernel⟩
    rw [hfolders]
    decide +kernel
  · refine ((hchosen "sh" "sh" _ (by decide +kernel) rfl "sh").1 _).2
      ⟨["/sbin/sh", "sh"], [], ?_, by decide +kernel, by decide +kernel⟩
    rw [hfolders]
    decide +kernel
  · refine (hchosen "sh/" "sh/" _ (by decide +kernel) rfl "sh").2.1.2 ?_
    rw [hslash _ (by decide)]
    decide +kernel
  · refine ((hchosen "./target/debug/sh" "./target/debug/sh" _ (by decide +kernel) rfl "x").1 _).2
      ⟨[], [], ?_, by decide +kernel, by simp⟩
    rw [hslash _ (by decide)]
    decide +kernel

end Host

end Assay
