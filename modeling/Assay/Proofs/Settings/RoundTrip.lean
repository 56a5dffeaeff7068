import Mathlib.Data.List.Nodup
import Assay.Proofs.Host.Written
import Assay.Proofs.Toml.Line
import Assay.Command.Init

/-!
# Settings are read back

The text that settings are written as binds each of their keys once, and a key
that is not set is left out. Reading sorts the bindings by their keys and takes
them in over the default settings. The keys that are left out are those that are
unset by default, so the settings come back as they were.
-/

set_option autoImplicit false

namespace Assay

open Toml

/-! ## Order of the keys -/

theorem sorted_eq {entries target : Entries} (hp : entries.Perm target)
    (hs : target.Pairwise fun a b => a.1 < b.1) : Settings.sorted entries = target := by
  have hsorted : (Settings.sorted entries).Pairwise fun a b => decide (a.1 ≤ b.1) = true := by
    apply List.pairwise_mergeSort
    · intro a b c hab hbc
      exact decide_eq_true (String.le_trans (of_decide_eq_true hab) (of_decide_eq_true hbc))
    · intro a b
      rcases String.le_total a.1 b.1 with h | h
      · simp [h]
      · simp [h]
  have hperm : (Settings.sorted entries).Perm target := (List.mergeSort_perm _ _).trans hp
  have hnodup : (target.map Prod.fst).Nodup := by
    rw [List.Nodup, List.pairwise_map]
    exact hs.imp fun h => String.ne_of_lt h
  apply hperm.eq_of_pairwise _ hsorted (hs.imp fun h => decide_eq_true (Std.le_of_lt h))
  intro a b ha hb hab hba
  have hkey : a.1 = b.1 :=
    String.le_antisymm (of_decide_eq_true hab) (of_decide_eq_true hba)
  exact List.inj_on_of_nodup_map hnodup (hperm.mem_iff.1 ha) hb hkey

namespace Toml.Binding

def ofText (key value : String) : Binding := ⟨key, quote value, .string value⟩

def ofNumber (key : String) (n : Nat) : Binding := ⟨key, toString n, .integer n⟩

theorem reads_ofText {key : String} (h : IsBare key) (value : String) : (ofText key value).Reads :=
  ⟨h, quote_writes value⟩

theorem reads_ofNumber {key : String} (h : IsBare key) (n : Nat) : (ofNumber key n).Reads := by
  refine ⟨h, ?_⟩
  have htext : (toString n).toList = decimalDigits n := String.toList_ofList
  rw [ofNumber, htext]
  exact decimalDigits_writes n

end Toml.Binding

theorem Toml.Item.toWord_toNat (expected : String) (n : UInt64) :
    Item.toWord expected (.integer n.toNat) = .ok n := by
  have hlt : (n.toNat : Int) < UInt64.size := by exact_mod_cast n.toNat_lt_size
  rw [Item.toWord, if_pos ⟨by omega, hlt⟩]
  simp

namespace Settings

def bindings (s : Settings) : List Binding :=
  s.language.toList.map (.ofText "language") ++
    [.ofText "tests_dir" s.testsDir, .ofText "binary_name" s.binaryName] ++
    s.binary.toList.map (.ofText "binary") ++
    [.ofNumber "timeout_secs" s.timeoutSecs.toNat, .ofNumber "jobs" s.jobs.toNat]

theorem toList_toToml (s : Settings) : s.toToml.toList = s.bindings.flatMap Binding.chars := by
  have hoptional (key : String) (value : Option String) : (optionalLine key value).toList =
      (value.toList.map (Binding.ofText key)).flatMap Binding.chars := by
    cases value with
    | none => rfl
    | some v => simp [optionalLine, stringLine, Binding.chars, Binding.ofText]
  simp [toToml, bindings, hoptional, stringLine, Binding.chars, Binding.ofText, Binding.ofNumber]

theorem reads_bindings (s : Settings) : ∀ b ∈ s.bindings, b.Reads := by
  have hbare : ∀ key ∈ ["language", "tests_dir", "binary_name", "binary", "timeout_secs", "jobs"],
      IsBare key := by
    simp [IsBare, isKeyChar]
  intro b hb
  simp only [bindings, List.mem_append, List.mem_map, List.mem_cons, List.not_mem_nil,
    or_false] at hb
  rcases hb with ((⟨v, -, rfl⟩ | rfl | rfl) | ⟨v, -, rfl⟩) | rfl | rfl
  all_goals first
    | exact Binding.reads_ofText (hbare _ (by simp)) _
    | exact Binding.reads_ofNumber (hbare _ (by simp)) _

theorem nodup_keys (s : Settings) : (s.bindings.map Binding.key).Nodup := by
  obtain ⟨_ | v, testsDir, name, _ | w, timeout, jobs⟩ := s <;>
    simp [bindings, Binding.ofText, Binding.ofNumber]

def ordered (s : Settings) : Entries :=
  s.binary.toList.map (fun v => ("binary", .string v)) ++
    [("binary_name", .string s.binaryName), ("jobs", .integer s.jobs.toNat)] ++
    s.language.toList.map (fun v => ("language", .string v)) ++
    [("tests_dir", .string s.testsDir), ("timeout_secs", .integer s.timeoutSecs.toNat)]

theorem ordered_lt (s : Settings) : s.ordered.Pairwise fun a b => a.1 < b.1 := by
  obtain ⟨_ | v, testsDir, name, _ | w, timeout, jobs⟩ := s
  all_goals
    apply List.pairwise_map.1
    simp only [ordered, Option.toList, List.map_nil, List.map_cons, List.nil_append,
      List.cons_append]
    decide

theorem perm_ordered (s : Settings) : (s.bindings.map Binding.entry).Perm s.ordered := by
  have hkeys : (s.bindings.map Binding.entry).Nodup := by
    apply List.Nodup.of_map Prod.fst
    rw [List.map_map]
    exact s.nodup_keys
  have hordered : s.ordered.Nodup := by
    apply s.ordered_lt.imp
    rintro a b h rfl
    exact String.lt_irrefl _ h
  rw [List.perm_ext_iff_of_nodup hkeys hordered]
  intro e
  simp only [bindings, ordered, Binding.ofText, Binding.ofNumber, Binding.entry, List.map_append,
    List.map_map, List.map_cons, List.map_nil, List.mem_append, List.mem_cons, List.not_mem_nil,
    or_false, Function.comp_def]
  tauto

theorem sorted_bindings (s : Settings) : sorted (s.bindings.map Binding.entry) = s.ordered :=
  sorted_eq s.perm_ordered s.ordered_lt

theorem takeEntries_ordered (s : Settings) : takeEntries default s.ordered = .ok s := by
  obtain ⟨_ | v, testsDir, name, _ | w, timeout, jobs⟩ := s
  all_goals
    simp only [ordered, Option.toList, List.map_nil, List.map_cons, List.nil_append,
      List.cons_append, takeEntries, takeEntry, Item.toText, Item.toWord_toNat]
    rfl

theorem ofToml_toToml (s : Settings) : ofToml s.toToml = .ok s := by
  rw [ofToml, parse?_bindings s.reads_bindings s.nodup_keys s.toList_toToml]
  dsimp only
  rw [s.sorted_bindings, s.takeEntries_ordered]

/-! ## Files -/

theorem loadFrom_of_readText {h : Host} {path : String} {s : Settings}
    (hread : h.readText path = .ok s.toToml) : loadFrom h path = .ok s := by
  rw [loadFrom, hread]
  dsimp only
  rw [s.ofToml_toToml]

/-- Settings that a project was set up with are those that a run in it starts from. -/
theorem load_writeSettings {st st' : SetupState} {look : Look} {root : String} {s : Settings}
    (hw : st.writeSettings look (Path.join root fileName) s = (st', none))
    (hfile : st.host.NamesFile (Path.join root fileName)) : load st'.host root none = .ok s := by
  unfold SetupState.writeSettings at hw
  cases hwrite : st.host.writeText (Path.join root fileName) s.toToml with
  | error e => simp [hwrite] at hw
  | ok h =>
    have hhost : st'.host = h := by
      simp only [hwrite, Prod.mk.injEq] at hw
      rw [← hw.1]
      rfl
    have hread := Host.readText_writeText hwrite hfile
    rw [hhost, load, if_pos (Host.exists?_of_readText hread), loadFrom_of_readText hread]

/-- Every settings survive being written and read, whatever is in their texts: as a text, and as
the file of a project, whose path led to a file or named nothing before. -/
theorem settings_are_read_as_written (s : Settings) :
    ofToml s.toToml = .ok s ∧
      ∀ (st st' : SetupState) (look : Look) (root : String),
        st.host.NamesFile (Path.join root fileName) →
        st.writeSettings look (Path.join root fileName) s = (st', none) →
        load st'.host root none = .ok s :=
  ⟨s.ofToml_toToml, fun _ _ _ _ hfile hw => load_writeSettings hw hfile⟩

/-- Texts with every kind of quote, a line end and a control character, in a new project. -/
theorem quotes_and_controls_are_read_as_written :
    let s : Settings := ⟨some "'\"\"\"\\", "a\nb''", "\x00\x7f", none, 0, 18446744073709551615⟩
    let st : SetupState := ⟨⟨FileTree.empty, [], ⟨[]⟩, 0⟩, ""⟩
    let st' := (st.writeSettings ⟨.english, false⟩ "/Harness.toml" s).1
    ofToml s.toToml = .ok s ∧ load st'.host "/" none = .ok s := by
  intro s st st'
  obtain ⟨htext, hfile⟩ := settings_are_read_as_written s
  have htarget : st.host.files.target st.host.folder "/Harness.toml" = .ok ["Harness.toml"] := by
    rfl
  have hvacant : st.host.files.at? ["Harness.toml"] = none := by decide
  have hdone : (st.writeSettings ⟨.english, false⟩ "/Harness.toml" s).2.isNone = true := by
    decide +kernel
  refine ⟨htext, hfile st st' ⟨.english, false⟩ "/" ?_ ?_⟩
  · refine .inr fun p hp => ?_
    obtain rfl : ["Harness.toml"] = p := Except.ok.inj (htarget.symm.trans hp)
    exact hvacant
  · exact Prod.ext rfl (Option.isNone_iff_eq_none.1 hdone)

end Settings

end Assay
