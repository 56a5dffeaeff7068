import Assay.Host.Load
import Assay.Proofs.Host.Interpreter
import Assay.Proofs.Host.Parts
import Assay.Suite.Plan

/-!
# Absolute paths

An absolute path is followed from the root, so it leads to the same thing from
every folder. Joining keeps a path absolute, whatever is joined to it. So what a
host finds below an absolute root does not depend on the folder it stands in, and
neither do settings, documents, plans and interpreters that are found there.
-/

set_option autoImplicit false

namespace Assay

namespace Path

theorem ne_empty_of_isAbsolute {p : String} (h : isAbsolute p = true) : p ≠ "" := by
  rintro rfl
  cases h

theorem isAbsolute_join {base : String} (h : isAbsolute base = true) (p : String) :
    isAbsolute (join base p) = true := by
  cases hp : isAbsolute p with
  | true => rw [join_absolute base p hp, hp]
  | false => rw [isAbsolute_join_of_relative (ne_empty_of_isAbsolute h) hp, h]

theorem isAbsolute_toPath (p : Place) : isAbsolute p.toPath = true := by
  rw [isAbsolute, FileTree.toList_toPath]
  rfl

end Path

namespace FileTree

variable (t : FileTree) {path : String} (h : Path.isAbsolute path = true) (folder other : Place)
include h

theorem follow_of_isAbsolute (last : Bool) :
    t.follow last folder path = t.follow last other path := by
  have hstart (f : Place) : start f path = [] := if_pos h
  rw [follow, follow, hstart, hstart]

theorem nodeAt_of_isAbsolute (last : Bool) :
    t.nodeAt last folder path = t.nodeAt last other path := by
  rw [nodeAt, nodeAt, t.follow_of_isAbsolute h folder other]

theorem isFile_of_isAbsolute : t.isFile folder path = t.isFile other path := by
  rw [isFile, isFile, stat, stat, t.nodeAt_of_isAbsolute h folder other]

theorem exists?_of_isAbsolute : t.exists? folder path = t.exists? other path := by
  rw [exists?, exists?, stat, stat, t.nodeAt_of_isAbsolute h folder other]

theorem readText_of_isAbsolute : t.readText folder path = t.readText other path := by
  rw [readText, readText, readBytes, readBytes, stat, stat, t.nodeAt_of_isAbsolute h folder other]

theorem list_of_isAbsolute : t.list folder path = t.list other path := by
  rw [list, list, resolve, resolve, t.follow_of_isAbsolute h folder other]

end FileTree

namespace Host

def seenFrom (h : Host) (folder : Place) : Host := { h with folder := folder }

variable (h : Host) (folder : Place) {path root : String}

section Reading

variable (hpath : Path.isAbsolute path = true)
include hpath

theorem isFile_seenFrom : (h.seenFrom folder).isFile path = h.isFile path :=
  h.files.isFile_of_isAbsolute hpath _ _

theorem exists?_seenFrom : (h.seenFrom folder).exists? path = h.exists? path :=
  h.files.exists?_of_isAbsolute hpath _ _

theorem readText_seenFrom : (h.seenFrom folder).readText path = h.readText path :=
  h.files.readText_of_isAbsolute hpath _ _

end Reading

theorem isAbsolute_of_projectRoot (h : Host) (hroot : h.projectRoot path = .ok root) :
    Path.isAbsolute root = true := by
  unfold projectRoot canonical at hroot
  cases hplace : h.files.resolve h.folder path with
  | error e =>
    rw [hplace] at hroot
    cases hroot
  | ok p =>
    rw [hplace] at hroot
    cases hroot
    exact Path.isAbsolute_toPath p

def SearchesAbsolute (h : Host) : Prop :=
  ∀ folder ∈ h.searchFolders, Path.isAbsolute folder = true

theorem find?_seenFrom {candidates : List String}
    (hall : ∀ path ∈ candidates, Path.isAbsolute path = true) :
    candidates.find? (h.seenFrom folder).isFile = candidates.find? h.isFile :=
  List.find?_congr fun path hmem => h.isFile_seenFrom folder (hall path hmem)

section Locating

variable {h} (hsearch : h.SearchesAbsolute) (hroot : Path.isAbsolute root = true)
include hsearch

theorem isAbsolute_searchCandidates (name : String) :
    ∀ path ∈ h.searchCandidates name, Path.isAbsolute path = true := by
  intro path hmem
  obtain ⟨folder, hfolder, rfl⟩ := List.mem_map.1 hmem
  exact Path.isAbsolute_join (hsearch folder hfolder) name

include hroot

theorem isAbsolute_choiceCandidates (choice : String) :
    ∀ path ∈ h.choiceCandidates root choice, Path.isAbsolute path = true := by
  intro path hmem
  rw [choiceCandidates] at hmem
  split at hmem
  · rw [List.mem_singleton] at hmem
    rw [hmem]
    split
    · assumption
    · exact Path.isAbsolute_join hroot choice
  · exact isAbsolute_searchCandidates hsearch choice path hmem

theorem isAbsolute_ownCandidates (name : String) :
    ∀ path ∈ buildCandidates root name ++ h.searchCandidates name,
      Path.isAbsolute path = true := by
  intro path hmem
  rcases List.mem_append.1 hmem with hbuilt | hfound
  · obtain ⟨folder, -, rfl⟩ := List.mem_map.1 hbuilt
    exact Path.isAbsolute_join (Path.isAbsolute_join hroot folder) name
  · exact isAbsolute_searchCandidates hsearch name path hfound

theorem chosen?_seenFrom (folder : Place) (choice : String) :
    (h.seenFrom folder).chosen? root choice = h.chosen? root choice := by
  rw [chosen?_eq, chosen?_eq]
  exact h.find?_seenFrom folder (isAbsolute_choiceCandidates hsearch hroot choice)

theorem locate_seenFrom (folder : Place) (explicit : Option String) (name : String) :
    (h.seenFrom folder).locate root explicit name = h.locate root explicit name := by
  cases explicit with
  | none =>
    have hfound := h.find?_seenFrom folder (isAbsolute_ownCandidates hsearch hroot name)
    rw [locate_none, locate_none, ← hfound]
    rfl
  | some raw =>
    rw [locate_some, locate_some]
    simp only [chosen?_seenFrom hsearch hroot]
    rfl

theorem isAbsolute_of_locate {explicit : Option String} {name : String}
    (hlocate : h.locate root explicit name = .ok path) : Path.isAbsolute path = true := by
  cases explicit with
  | none =>
    have hfound := found_eq_ok_iff.1 hlocate
    exact isAbsolute_ownCandidates hsearch hroot name path (List.mem_of_find?_eq_some hfound)
  | some raw =>
    cases hchoice : expandPath h.environment raw with
    | error missing =>
      rw [locate_some, hchoice] at hlocate
      cases hlocate
    | ok choice =>
      rw [locate_choice name hchoice] at hlocate
      have hfound := found_eq_ok_iff.1 hlocate
      exact isAbsolute_choiceCandidates hsearch hroot choice path
        (List.mem_of_find?_eq_some hfound)

end Locating

end Host

/-! ## What is read below the root -/

def Settings.place (root : String) (explicit : Option String) : String :=
  Path.join root (explicit.getD fileName)

theorem Settings.load_eq (h : Host) (root : String) (explicit : Option String) :
    load h root explicit =
      if explicit = none ∧ h.exists? (place root explicit) = false then .ok default
      else loadFrom h (place root explicit) := by
  cases explicit with
  | none => cases hfile : h.exists? (place root none) <;> simp_all [load, place]
  | some path => simp [load, place]

section Seen

variable (h : Host) (folder : Place) {path root : String}

theorem Settings.load_seenFrom (hroot : Path.isAbsolute root = true) (explicit : Option String) :
    load (h.seenFrom folder) root explicit = load h root explicit := by
  have hplace : Path.isAbsolute (place root explicit) = true := Path.isAbsolute_join hroot _
  rw [load_eq, load_eq, h.exists?_seenFrom folder hplace, loadFrom, loadFrom,
    h.readText_seenFrom folder hplace]

theorem Document.load_seenFrom (hpath : Path.isAbsolute path = true) :
    load (h.seenFrom folder) path = load h path := by
  rw [load, load, h.readText_seenFrom folder hpath]

theorem Plan.make_seenFrom (hpath : Path.isAbsolute path = true) (category : Option String) :
    make (h.seenFrom folder) path category = make h path category := by
  have hfile (name : String) := h.isFile_seenFrom folder (Path.isAbsolute_join hpath name)
  cases category with
  | some name => rw [make, make, ofCategory, ofCategory, hfile]
  | none =>
    have hlist : (h.seenFrom folder).files.list (h.seenFrom folder).folder path =
        h.files.list h.folder path := h.files.list_of_isAbsolute hpath _ _
    simp only [make, ofFolder, hlist, hfile]

theorem Plan.isAbsolute_of_make {plan : Plan} {category : Option String}
    (hpath : Path.isAbsolute path = true) (hplan : make h path category = .ok plan) :
    ∀ file ∈ plan.files, Path.isAbsolute file = true := by
  have hbelow : ∀ file ∈ plan.files, ∃ name, file = Path.join path name := by
    cases category with
    | some name =>
      rw [make, ofCategory] at hplan
      split at hplan
      · cases hplan
        intro file hfile
        exact ⟨_, List.mem_singleton.1 hfile⟩
      · cases hplan
    | none =>
      rw [make, ofFolder] at hplan
      split at hplan
      · cases hplan
      · cases hplan
        intro file hfile
        obtain ⟨name, -, rfl⟩ := List.mem_map.1 hfile
        exact ⟨name, rfl⟩
  intro file hfile
  obtain ⟨name, rfl⟩ := hbelow file hfile
  exact Path.isAbsolute_join hpath name

end Seen

end Assay
