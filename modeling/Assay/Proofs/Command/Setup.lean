import Assay.Command.Init
import Assay.Proofs.Host.Changes
import Assay.Proofs.Settings.RoundTrip

/-!
# Setting up a project keeps what is there

Setting up without asking writes two files, and between them two folders are
created where they are missing. Each of these may fail, and what has been done by
then stays. Nothing else comes of it: what stands stays where it is, and of the
files that were there only those that are written may change, and only if that is
asked for.
-/

set_option autoImplicit false

namespace Assay

open Json (bind_eq_ok_iff map_eq_ok_iff)

namespace InitRequest

/-- The paths that setting up goes through: its two files and the two folders of the second. -/
def settingsPath (root : String) : String := Path.join root "Harness.toml"

def upperPath (root : String) : String := Path.join root "benchmark"

def samplesPath (root : String) : String := Path.join root "benchmark/tests"

def samplePath (root : String) : String := Path.join (samplesPath root) "example.json"

/-- How setting up without asking ends, stage by stage: what has become of the host, and the
result. -/
inductive SetsUp (h : Host) (r : InitRequest) (root : String) : Host → Except Problem Bool → Prop
  | refused (hthere : h.exists? (settingsPath root) = true) (hforce : r.force = false) :
      SetsUp h r root h (.error (.settingsExist (settingsPath root)))
  | unwritten {e : FileError} (hfree : r.force = true ∨ h.exists? (settingsPath root) = false)
      (hw : h.writeText (settingsPath root) r.startSettings.toToml = .error e) :
      SetsUp h r root h (.error (.fileUnwritable (settingsPath root) e))
  | kept {h₁ : Host} (hfree : r.force = true ∨ h.exists? (settingsPath root) = false)
      (hw : h.writeText (settingsPath root) r.startSettings.toToml = .ok h₁)
      (hthere : h₁.exists? (samplePath root) = true) (hforce : r.force = false) :
      SetsUp h r root h₁ (.ok true)
  | uncreated {h₁ h₂ : Host} {e : FileError}
      (hfree : r.force = true ∨ h.exists? (settingsPath root) = false)
      (hw : h.writeText (settingsPath root) r.startSettings.toToml = .ok h₁)
      (hmissing : r.force = true ∨ h₁.exists? (samplePath root) = false)
      (hfolders : h₁.createFolders (samplesPath root) = (h₂, some e)) :
      SetsUp h r root h₂ (.error (.folderUncreatable (samplesPath root) e))
  | sampleless {h₁ h₂ : Host} {e : FileError}
      (hfree : r.force = true ∨ h.exists? (settingsPath root) = false)
      (hw : h.writeText (settingsPath root) r.startSettings.toToml = .ok h₁)
      (hmissing : r.force = true ∨ h₁.exists? (samplePath root) = false)
      (hfolders : h₁.createFolders (samplesPath root) = (h₂, none))
      (hw' : h₂.writeText (samplePath root) sampleText = .error e) :
      SetsUp h r root h₂ (.error (.fileUnwritable (samplePath root) e))
  | done {h₁ h₂ h₃ : Host} (hfree : r.force = true ∨ h.exists? (settingsPath root) = false)
      (hw : h.writeText (settingsPath root) r.startSettings.toToml = .ok h₁)
      (hmissing : r.force = true ∨ h₁.exists? (samplePath root) = false)
      (hfolders : h₁.createFolders (samplesPath root) = (h₂, none))
      (hw' : h₂.writeText (samplePath root) sampleText = .ok h₃) :
      SetsUp h r root h₃ (.ok true)

variable {h : Host} {r : InitRequest} {root : String}

open FileTree

open FileTable (IsFileName at? at?_eq at?_eq_some mem_of_number? node?)

section Stages

variable {t t' t₁ t₂ t₃ : FileTree} {folder p q : Place} {force : Bool} {c c' : Bytes}

/-- What may stand at a place anew: one of the two files, or one of the two folders. -/
def MayStand (root : String) (folder : Place) (t' : FileTree) (q : Place) : Prop :=
  (t'.resolve folder (settingsPath root) = .ok q ∨ t'.resolve folder (samplePath root) = .ok q) ∨
    t'.at? q = some .folder ∧
      (t'.resolve folder (upperPath root) = .ok q ∨ t'.resolve folder (samplesPath root) = .ok q)

theorem MayStand.keeps (h : MayStand root folder t q) (hkeeps : Keeps t t₁) :
    MayStand root folder t₁ q :=
  h.imp (.imp hkeeps.resolve hkeeps.resolve)
    (.imp (hkeeps.folder q) (.imp hkeeps.resolve hkeeps.resolve))

/-- What has come of a tree where a project is set up. Only the two files may have been changed,
and only by force. -/
def Spares (force : Bool) (root : String) (folder : Place) (t t' : FileTree) : Prop :=
  Grows t t' (fun n => force = true ∧ (t.numberAt? folder (settingsPath root) = some n ∨
    t.numberAt? folder (samplePath root) = some n)) (MayStand root folder t')

namespace Spares

theorem there (h : Spares force root folder t t') {n : Nat}
    (hq : t.number? q = some n) : t'.number? q = some n ∧ (t'.node? q = t.node? q ∨ force = true ∧
      (t.numberAt? folder (settingsPath root) = some n ∨
        t.numberAt? folder (samplePath root) = some n)) := by
  refine ⟨h.stands q n hq, ?_⟩
  by_cases htouched : force = true ∧ (t.numberAt? folder (settingsPath root) = some n ∨
      t.numberAt? folder (samplePath root) = some n)
  · exact .inr htouched
  · exact .inl (h.node?_eq hq htouched)

theorem unforced (h : Spares force root folder t t') (hforce : force = false)
    (hq : t.at? q ≠ none) : t'.node? q = t.node? q := by
  obtain ⟨e, he⟩ := Option.ne_none_iff_exists'.1 hq
  obtain ⟨n, hn, -⟩ := at?_eq_some.1 he
  refine (h.there hn).2.resolve_right ?_
  rintro ⟨hforced, -⟩
  rw [hforce] at hforced
  cases hforced

theorem new (h : Spares force root folder t t') (hq : t.at? q = none)
    (hq' : t'.at? q ≠ none) : MayStand root folder t' q := by
  obtain ⟨e, he⟩ := Option.ne_none_iff_exists'.1 hq'
  obtain ⟨n, hn, -⟩ := at?_eq_some.1 he
  exact (h.fresh q n (number?_eq_none hq) hn).1

theorem refl (t : FileTree) : Spares force root folder t t :=
  (Grows.refl t).imp (fun _ _ => False.elim) fun _ => False.elim

theorem settings (hw : Wrote t t₁ folder (settingsPath root) c p)
    (hfree : force = true ∨ t.exists? folder (settingsPath root) = false) :
    Spares force root folder t t₁ := by
  refine hw.grows.imp ?_ ?_
  · intro n _ hn
    obtain ⟨hthere, hnumber⟩ := hw.was_there hn
    exact ⟨hfree.resolve_right (by simp [hthere]), .inl hnumber⟩
  · rintro q rfl
    exact .inl (.inl hw.leads)

theorem folders (h : Spares force root folder t t₁)
    (ho : Opens t₁ t₂ folder [upperPath root, samplesPath root]) :
    Spares force root folder t t₂ := by
  refine (Grows.trans h ho).imp (fun n _ hn => hn.resolve_right id) ?_
  rintro q (hq | ⟨hfolder, path, hpath, hq⟩)
  · exact hq.keeps ho.keeps
  · refine .inr ⟨hfolder, ?_⟩
    rcases List.mem_cons.1 hpath with rfl | hpath
    · exact .inl hq
    · exact .inr (List.mem_singleton.1 hpath ▸ hq)

theorem sample (h : Spares force root folder t t₂)
    (hw : Wrote t₂ t₃ folder (samplePath root) c p)
    (htouched : ∀ n < t.nodes.size, t₂.number? p = some n →
      force = true ∧ t.numberAt? folder (samplePath root) = some n) :
    Spares force root folder t t₃ := by
  refine (Grows.trans h hw.grows).imp ?_ ?_
  · rintro n hn (hforced | hnumber)
    · exact hforced
    · exact (htouched n hn hnumber).imp id .inr
  · rintro q (hq | rfl)
    · exact hq.keeps hw.grows.keeps
    · exact .inl (.inr hw.leads)

end Spares

/-- A sample that is written over was found at its path from the start: what has been done before
changes no way to what was there. -/
theorem sample_touched (hw : Wrote t t₁ folder (settingsPath root) c p)
    (hfolders : t₂ = t₁ ∨ t₂.LeadsToEmpty folder (samplesPath root))
    (hmissing : force = true ∨ t₁.exists? folder (samplePath root) = false)
    (hw' : Wrote t₂ t₃ folder (samplePath root) c' q) {n : Nat} (hn : n < t.nodes.size)
    (hnumber : t₂.number? q = some n) :
    force = true ∧ t.numberAt? folder (samplePath root) = some n := by
  obtain ⟨hthere, hfound⟩ := hw'.was_there hnumber
  rcases hfolders with rfl | hempty
  · refine ⟨hmissing.resolve_right (by simp [hthere]), ?_⟩
    obtain ⟨r, hr, hrn⟩ := numberAt?_eq_some.1 hfound
    have hold := hw.grows.number?_back hn hrn
    rcases hw.back _ _ _ hr with hr | ⟨hnone, rfl⟩
    · exact numberAt?_eq_some.2 ⟨r, hr, hold⟩
    · rw [number?_eq_none hnone] at hold
      cases hold
  · obtain ⟨e, he⟩ := exists?_iff.1 hthere
    exact absurd he (hempty.stat_ne_ok (by decide))

end Stages

section Places

variable {p : Place} (hnames : ∀ name ∈ p, IsFileName name)
include hnames

theorem parts_below {rest : String} (hrest : Path.isAbsolute rest = false) :
    parts (Path.join p.toPath rest) = "" :: (p ++ parts rest) :=
  parts_join_toPath (fun name hname =>
    ⟨fun h => (hnames name hname).named (.inl h), (hnames name hname).undivided⟩) hrest

theorem parts_settingsPath : parts (settingsPath p.toPath) = "" :: (p ++ ["Harness.toml"]) := by
  rw [settingsPath, parts_below hnames (by decide)]
  rfl

theorem parts_upperPath : parts (upperPath p.toPath) = "" :: (p ++ ["benchmark"]) := by
  rw [upperPath, parts_below hnames (by decide)]
  rfl

theorem parts_samplesPath : parts (samplesPath p.toPath) = "" :: (p ++ ["benchmark", "tests"]) := by
  rw [samplesPath, parts_below hnames (by decide)]
  rfl

theorem isFileName_samples : ∀ name ∈ p ++ ["benchmark", "tests"], IsFileName name := by
  rw [List.forall_mem_append]
  exact ⟨hnames, by decide⟩

theorem parts_samplePath :
    parts (samplePath p.toPath) = "" :: (p ++ ["benchmark", "tests", "example.json"]) := by
  rw [samplePath, eq_toPath (parts_samplesPath hnames) (by simp) (isFileName_samples hnames),
    parts_below (isFileName_samples hnames) (by decide)]
  simp [parts_of_not_mem]

theorem samplesPath_eq : samplesPath p.toPath = Path.join (upperPath p.toPath) "tests" := by
  have hupper := isFileName_concat hnames (by decide : IsFileName "benchmark")
  apply parts_injective
  rw [parts_samplesPath hnames, eq_toPath (parts_upperPath hnames) (by simp) hupper,
    parts_below hupper (by decide)]
  simp [parts_of_not_mem]

end Places

section Runs

variable {h₁ h₂ h₃ : Host} {p q : Place} {e : Entry} {problem : Option FileError}

theorem writeText_eq_ok {path text : String} (hw : h.writeText path text = .ok h₁) :
    ∃ t, h.files.writeFile h.making h.folder path (Text.encode text) = .ok t ∧
      h₁ = { h with files := t } := by
  obtain ⟨t, ht, rfl⟩ := (map_eq_ok_iff _ _ _).1 hw
  exact ⟨t, ht, rfl⟩

theorem createFolders_eq {path : String} (hf : h.createFolders path = (h₁, problem)) :
    ∃ t, h.files.createFolders h.making h.folder path = (t, problem) ∧
      h₁ = { h with files := t } := by
  rw [Host.createFolders] at hf
  rcases hfolders : h.files.createFolders h.making h.folder path with ⟨t, problem'⟩
  rw [hfolders] at hf
  cases hf
  exact ⟨t, rfl, rfl⟩

theorem settings_stage (hfree : r.force = true ∨ h.exists? (settingsPath root) = false)
    (hw : h.writeText (settingsPath root) r.startSettings.toToml = .ok h₁) :
    ∃ t₁ q, h₁ = { h with files := t₁ } ∧
      Wrote h.files t₁ h.folder (settingsPath root) (Text.encode r.startSettings.toToml) q ∧
      Spares r.force root h.folder h.files t₁ := by
  obtain ⟨t₁, hwrite, rfl⟩ := writeText_eq_ok hw
  obtain ⟨q, hwrote⟩ := wrote_of_writeFile hwrite
  exact ⟨t₁, q, rfl, hwrote, .settings hwrote hfree⟩

theorem folders_stage {t₁ : FileTree} (hp : h.files.at? p = some e) (hlink : e.isLink = false)
    (hspares : Spares r.force p.toPath h.folder h.files t₁)
    (hf : Host.createFolders { h with files := t₁ } (samplesPath p.toPath) = (h₂, problem)) :
    ∃ t₂, h₂ = { h with files := t₂ } ∧ Spares r.force p.toPath h.folder h.files t₂ ∧
      Opens t₁ t₂ h.folder [upperPath p.toPath, samplesPath p.toPath] ∧
      (problem = none → t₂ = t₁ ∨ t₂.LeadsToEmpty h.folder (samplesPath p.toPath)) := by
  have hnames := isFileName hp
  obtain ⟨t₂, hfolders, rfl⟩ := createFolders_eq hf
  obtain ⟨e', hp', hlink'⟩ := hspares.keeps.other p e hp hlink
  rw [samplesPath_eq hnames] at hfolders
  obtain ⟨hopens, hdone⟩ := createFolders_opens hp' hlink'
    (by decide : IsFileName "benchmark") (by decide : IsFileName "tests")
    (parts_upperPath hnames) hfolders
  rw [← samplesPath_eq hnames] at hopens hdone
  exact ⟨t₂, rfl, hspares.folders hopens, hopens, hdone⟩

theorem sample_stage {t₁ t₂ : FileTree} {c : Bytes}
    (hwrote : Wrote h.files t₁ h.folder (settingsPath root) c q)
    (hspares : Spares r.force root h.folder h.files t₂)
    (hfolders : t₂ = t₁ ∨ t₂.LeadsToEmpty h.folder (samplesPath root))
    (hmissing : r.force = true ∨ t₁.exists? h.folder (samplePath root) = false)
    (hw : Host.writeText { h with files := t₂ } (samplePath root) sampleText = .ok h₃) :
    ∃ t₃ q', h₃ = { h with files := t₃ } ∧
      Wrote t₂ t₃ h.folder (samplePath root) (Text.encode sampleText) q' ∧
      Spares r.force root h.folder h.files t₃ := by
  obtain ⟨t₃, hwrite, rfl⟩ := writeText_eq_ok hw
  obtain ⟨q', hwrote'⟩ := wrote_of_writeFile hwrite
  exact ⟨t₃, q', rfl, hwrote', hspares.sample hwrote' fun n hn hnumber =>
    sample_touched hwrote hfolders hmissing hwrote' hn hnumber⟩

/-- What has been done where setting up has succeeded: the settings are written, and the sample
too unless it was kept. -/
inductive Succeeds (h : Host) (r : InitRequest) (root : String) : FileTree → Prop
  | kept {t₁ : FileTree} {q : Place} (hfree : r.force = true ∨ h.exists? (settingsPath root) = false)
      (hw : Wrote h.files t₁ h.folder (settingsPath root) (Text.encode r.startSettings.toToml) q)
      (hthere : t₁.exists? h.folder (samplePath root) = true) (hforce : r.force = false) :
      Succeeds h r root t₁
  | done {t₁ t₂ t₃ : FileTree} {q q' : Place}
      (hfree : r.force = true ∨ h.exists? (settingsPath root) = false)
      (hw : Wrote h.files t₁ h.folder (settingsPath root) (Text.encode r.startSettings.toToml) q)
      (hopens : Opens t₁ t₂ h.folder [upperPath root, samplesPath root])
      (hw' : Wrote t₂ t₃ h.folder (samplePath root) (Text.encode sampleText) q') :
      Succeeds h r root t₃

theorem SetsUp.succeeds (hp : h.files.at? p = some e) (hlink : e.isLink = false) {t' : FileTree}
    {done : Bool} (hs : SetsUp h r p.toPath { h with files := t' } (.ok done)) :
    Succeeds h r p.toPath t' := by
  generalize hh : ({ h with files := t' } : Host) = h' at hs
  generalize hresult : (Except.ok done : Except Problem Bool) = result at hs
  cases hs with
  | refused | unwritten | uncreated | sampleless => cases hresult
  | kept hfree hw hthere hforce =>
    obtain ⟨t₁, q, rfl, hwrote, -⟩ := settings_stage hfree hw
    obtain rfl : t' = t₁ := congrArg Host.files hh
    exact .kept hfree hwrote hthere hforce
  | done hfree hw hmissing hfolders hw' =>
    obtain ⟨t₁, q, rfl, hwrote, hspares⟩ := settings_stage hfree hw
    obtain ⟨t₂, rfl, hspares, hopens, hempty⟩ := folders_stage hp hlink hspares hfolders
    obtain ⟨t₃, q', rfl, hwrote', -⟩ := sample_stage hwrote hspares (hempty rfl) hmissing hw'
    obtain rfl : t' = t₃ := congrArg Host.files hh
    exact .done hfree hwrote hopens hwrote'

end Runs

/-! ## What is loaded then -/

theorem decodes_of_chars {text category : String} {cs : List Char} (htext : text = String.ofList cs)
    (hend : (Json.readText cs).trailing = false)
    (hroot : (Document.ofNode Json.depthLimit (Json.readText cs).root).toOption.map
      Document.category = some category) :
    ∃ d, Document.ofText text = .ok d ∧ d.category = category := by
  have hchars : text.toList = cs := by rw [htext, String.toList_ofList]
  rw [Document.ofText, Json.decodeText, hchars]
  cases hd : Document.ofNode Json.depthLimit (Json.readText cs).root with
  | error e => simp [hd, Except.toOption] at hroot
  | ok d =>
    refine ⟨d, ?_, by simpa [hd, Except.toOption] using hroot⟩
    simp only [hend]
    rfl

set_option maxRecDepth 4000 in
theorem sample_decodes : ∃ d, Document.ofText sampleText = .ok d ∧ d.category = "example" :=
  decodes_of_chars rfl (by decide +kernel) (by decide +kernel)

theorem load_of_readText {path text : String} {d : Document} (hread : h.readText path = .ok text)
    (hd : Document.ofText text = .ok d) : Document.load h path = .ok d := by
  rw [Document.load, hread]
  simp only [hd]

namespace Succeeds

variable {t' : FileTree} (hs : Succeeds h r root t')
  (hapart : t'.numberAt? h.folder (settingsPath root) ≠ t'.numberAt? h.folder (samplePath root))
include hs hapart

theorem settings_written : ∃ (t₁ : FileTree) (q : Place) (touched : Nat → Prop) (made : Place → Prop),
    Wrote h.files t₁ h.folder (settingsPath root) (Text.encode r.startSettings.toToml) q ∧
      Grows t₁ t' touched made ∧ ∀ n, t₁.number? q = some n → ¬ touched n := by
  cases hs with
  | kept hfree hw => exact ⟨_, _, _, _, hw, .refl _, fun _ _ => id⟩
  | done hfree hw hopens hw' =>
    refine ⟨_, _, _, _, hw, Grows.trans hopens hw'.grows, fun n hn => ?_⟩
    rintro (hfalse | hn')
    · exact hfalse
    · -- The node would be that of both files.
      apply hapart
      have hkeeps := hopens.keeps.trans hw'.grows.keeps
      rw [numberAt?_of_resolve (hkeeps.resolve hw.leads), numberAt?_of_resolve hw'.leads,
        hw'.grows.stands _ n (hopens.stands _ n hn), hw'.grows.stands _ n hn']

theorem settings_load (hfile : t'.isFile h.folder (settingsPath root) = true) :
    Settings.load { h with files := t' } root none = .ok r.startSettings := by
  obtain ⟨t₁, q, touched, made, hw, hgrows, halone⟩ := hs.settings_written hapart
  have hread : Host.readText { h with files := t' } (Path.join root Settings.fileName) =
      .ok r.startSettings.toToml := hw.readText hgrows halone hfile
  rw [Settings.load, if_pos (Host.exists?_of_readText hread), Settings.loadFrom_of_readText hread]

theorem sample_written (hmissing : r.force = true ∨ h.exists? (samplePath root) = false) :
    ∃ (t₁ t₂ : FileTree) (q q' : Place),
      Wrote h.files t₁ h.folder (settingsPath root) (Text.encode r.startSettings.toToml) q ∧
        Opens t₁ t₂ h.folder [upperPath root, samplesPath root] ∧
        Wrote t₂ t' h.folder (samplePath root) (Text.encode sampleText) q' := by
  cases hs with
  | kept hfree hw hthere hforce =>
    -- What is kept was there from the start, or is the file of the settings.
    exfalso
    obtain ⟨e, hstat⟩ := exists?_iff.1 hthere
    obtain ⟨hlength, q', hq', hat⟩ := stat_eq_ok_iff_resolve.1 hstat
    rcases hw.back _ _ _ hq' with hold | ⟨-, rfl⟩
    · have hexists : h.exists? (samplePath root) = true := by
        obtain ⟨e', hat', -⟩ := resolve_arrives hold
        exact exists?_iff.2 ⟨e', stat_eq_ok_iff_resolve.2 ⟨hlength, q', hold, hat'⟩⟩
      rcases hmissing with hforced | hnone
      · rw [hforce] at hforced
        cases hforced
      · rw [hexists] at hnone
        cases hnone
    · apply hapart
      rw [numberAt?_of_resolve hw.leads, numberAt?_of_resolve hq']
  | done hfree hw hopens hw' => exact ⟨_, _, _, _, hw, hopens, hw'⟩

theorem sample_load (hfile : t'.isFile h.folder (samplePath root) = true)
    (hmissing : r.force = true ∨ h.exists? (samplePath root) = false) :
    ∃ d, Document.load { h with files := t' } (samplePath root) = .ok d ∧
      d.category = "example" := by
  obtain ⟨t₁, t₂, q, q', -, -, hw⟩ := hs.sample_written hapart hmissing
  obtain ⟨d, hd, hcategory⟩ := sample_decodes
  have hread : Host.readText { h with files := t' } (samplePath root) = .ok sampleText :=
    hw.readText (.refl _) (fun _ _ => id) hfile
  exact ⟨d, load_of_readText hread hd, hcategory⟩

end Succeeds

/-! ## Plain places -/

/-- At a place stands nothing, or else a folder or a file that stands nowhere else. -/
def Plain (t : FileTree) (p : Place) : Prop :=
  ∀ entry ∈ t.names, entry.1 = p →
    (t.entryOf? entry.2).any (fun e => e.isFolder || e.isRegular) = true ∧
      ∀ other ∈ t.names, other.2 = entry.2 → other.1 = p

instance (t : FileTree) (p : Place) : Decidable (Plain t p) :=
  inferInstanceAs (Decidable (∀ entry ∈ t.names, entry.1 = p →
    (t.entryOf? entry.2).any (fun e => e.isFolder || e.isRegular) = true ∧
      ∀ other ∈ t.names, other.2 = entry.2 → other.1 = p))

def PlainPlaces (t : FileTree) (p : Place) : Prop :=
  ∀ names ∈ [["Harness.toml"], ["benchmark"], ["benchmark", "tests"],
    ["benchmark", "tests", "example.json"]], Plain t (p ++ names)

instance (t : FileTree) (p : Place) : Decidable (PlainPlaces t p) :=
  inferInstanceAs (Decidable (∀ names ∈ [["Harness.toml"], ["benchmark"], ["benchmark", "tests"],
    ["benchmark", "tests", "example.json"]], Plain t (p ++ names)))

/-- Each of the paths leads nowhere but to the place that it names. -/
structure Straight (t : FileTree) (folder p : Place) : Prop where
  settings : ∀ q, t.resolve folder (settingsPath p.toPath) = .ok q → q = p ++ ["Harness.toml"]
  upper : ∀ q, t.resolve folder (upperPath p.toPath) = .ok q → q = p ++ ["benchmark"]
  samples : ∀ q, t.resolve folder (samplesPath p.toPath) = .ok q → q = p ++ ["benchmark", "tests"]
  sample : ∀ q, t.resolve folder (samplePath p.toPath) = .ok q →
    q = p ++ ["benchmark", "tests", "example.json"]

theorem Plain.alone {t : FileTree} {p q : Place} {n : Nat} (h : Plain t p)
    (hp : t.number? p = some n) (hq : t.number? q = some n) : q = p :=
  (h _ (mem_of_number? hp) rfl).2 _ (mem_of_number? hq) rfl

theorem Plain.kind {t : FileTree} {p : Place} {e : Entry} (h : Plain t p) (hp : t.at? p = some e) :
    e.isFolder = true ∨ e.isRegular = true := by
  obtain ⟨n, hn, he⟩ := at?_eq_some.1 hp
  simpa [he] using (h _ (mem_of_number? hn) rfl).1

theorem Plain.not_link {t : FileTree} {p : Place} (h : Plain t p) (target : String) :
    t.at? p ≠ some (.link target) := by
  intro hlink
  rcases h.kind hlink with hkind | hkind <;> cases hkind

section PlainPlaces

variable {t t' : FileTree} {folder p q : Place} {e : Entry} {force : Bool}
  (hp : t.at? p = some e) (hlink : e.isLink = false) (hplain : PlainPlaces t p)

theorem straight_of_linkFree (hnames : ∀ name ∈ p, IsFileName name)
    (hsettings : t.LinkFree (p ++ ["Harness.toml"]))
    (hsample : t.LinkFree (p ++ ["benchmark", "tests", "example.json"])) :
    Straight t folder p := by
  have hbelow {names : List String} (h : ∀ name ∈ names, IsFileName name) :
      ∀ name ∈ p ++ names, IsFileName name := List.forall_mem_append.2 ⟨hnames, h⟩
  have hfront {names : List String} (h : names <+: ["benchmark", "tests", "example.json"]) :
      t.LinkFree (p ++ names) := fun front hfront =>
    hsample front (hfront.trans ((List.prefix_append_right_inj p).2 h))
  exact {
    settings := fun q => place_of_resolve hsettings (hbelow (by decide))
      (parts_settingsPath hnames) (by simp)
    upper := fun q => place_of_resolve (hfront (by decide)) (hbelow (by decide))
      (parts_upperPath hnames) (by simp)
    samples := fun q => place_of_resolve (hfront (by decide)) (hbelow (by decide))
      (parts_samplesPath hnames) (by simp)
    sample := fun q => place_of_resolve hsample (hbelow (by decide))
      (parts_samplePath hnames) (by simp) }

include hp hlink hplain

theorem linkFree_of_plain : t.LinkFree (p ++ ["Harness.toml"]) ∧
    t.LinkFree (p ++ ["benchmark", "tests", "example.json"]) := by
  have hroot := linkFree hp hlink
  have hupper : t.LinkFree (p ++ ["benchmark"]) :=
    linkFree_concat.2 ⟨hroot, (hplain _ (by simp)).not_link⟩
  have hsamples : t.LinkFree (p ++ ["benchmark"] ++ ["tests"]) :=
    linkFree_concat.2 ⟨hupper, by simpa using (hplain ["benchmark", "tests"] (by simp)).not_link⟩
  have hsample : t.LinkFree (p ++ ["benchmark"] ++ ["tests"] ++ ["example.json"]) :=
    linkFree_concat.2 ⟨hsamples,
      by simpa using (hplain ["benchmark", "tests", "example.json"] (by simp)).not_link⟩
  exact ⟨linkFree_concat.2 ⟨hroot, (hplain _ (by simp)).not_link⟩, by simpa using hsample⟩

theorem straight : Straight t folder p := by
  obtain ⟨hsettings, hsample⟩ := linkFree_of_plain hp hlink hplain
  exact straight_of_linkFree (isFileName hp) hsettings hsample

theorem Spares.straight (hspares : Spares force p.toPath folder t t') : Straight t' folder p := by
  obtain ⟨hsettings, hsample⟩ := linkFree_of_plain hp hlink hplain
  exact straight_of_linkFree (isFileName hp) (hspares.linkFree hsettings)
    (hspares.linkFree hsample)

/-- Only what stands at the places of the two files can have changed, and only the two folders
can be new besides. -/
theorem Spares.plain (hspares : Spares force p.toPath folder t t') (hq : q ≠ p ++ ["Harness.toml"])
    (hq' : q ≠ p ++ ["benchmark", "tests", "example.json"]) :
    t'.node? q = t.node? q ∨ (q = p ++ ["benchmark"] ∨ q = p ++ ["benchmark", "tests"]) ∧
      t.at? q = none ∧ t'.at? q = some .folder := by
  have hstraight : Straight t folder p := InitRequest.straight hp hlink hplain
  have hstraight' := hspares.straight hp hlink hplain
  cases hn : t.number? q with
  | some n =>
    refine .inl (hspares.node?_eq hn ?_)
    rintro ⟨-, hfound | hfound⟩
    · obtain ⟨s, hs, hsn⟩ := numberAt?_eq_some.1 hfound
      obtain rfl := hstraight.settings s hs
      exact hq ((hplain _ (by simp)).alone hsn hn)
    · obtain ⟨s, hs, hsn⟩ := numberAt?_eq_some.1 hfound
      obtain rfl := hstraight.sample s hs
      exact hq' ((hplain _ (by simp)).alone hsn hn)
  | none =>
    cases hn' : t'.number? q with
    | none =>
      left
      rw [node?, node?, hn, hn', Option.bind_none, Option.bind_none]
    | some n =>
      obtain ⟨(hs | hs) | ⟨hfolder, hs⟩, -⟩ := hspares.fresh q n hn hn'
      · exact absurd (hstraight'.settings q hs) hq
      · exact absurd (hstraight'.sample q hs) hq'
      · refine .inr ⟨hs.imp (hstraight'.upper q) (hstraight'.samples q), ?_, hfolder⟩
        rw [at?_eq, hn]
        rfl

theorem Spares.apart (hspares : Spares force p.toPath folder t t')
    (hq : t'.resolve folder (settingsPath p.toPath) = .ok q) :
    t'.numberAt? folder (settingsPath p.toPath) ≠ t'.numberAt? folder (samplePath p.toPath) := by
  have hstraight : Straight t' folder p := hspares.straight hp hlink hplain
  intro hsame
  obtain ⟨e', hat, -⟩ := resolve_arrives hq
  obtain ⟨n, hn, -⟩ := at?_eq_some.1 hat
  rw [numberAt?_of_resolve hq, hn] at hsame
  obtain ⟨q', hq', hn'⟩ := numberAt?_eq_some.1 hsame.symm
  obtain rfl := hstraight.settings q hq
  obtain rfl := hstraight.sample q' hq'
  have hplace : p ++ ["benchmark", "tests", "example.json"] = p ++ ["Harness.toml"] := by
    by_cases hlt : n < t.nodes.size
    · exact (hplain _ (by simp)).alone (hspares.number?_back hlt hn)
        (hspares.number?_back hlt hn')
    · exact hspares.alone _ _ n hn' hn (Nat.le_of_not_lt hlt)
  simpa using List.append_cancel_left hplace

end PlainPlaces

theorem exists?_of_plain {p : Place} {path : String} (hne : p ≠ [])
    (hpath : parts path = "" :: p) (hlength : checkLength path = .ok ()) (hat : h.files.at? p ≠ none)
    (hplain : Plain h.files p) : h.exists? path = true := by
  obtain ⟨e, he⟩ := Option.ne_none_iff_exists'.1 hat
  have hlink : e.isLink = false := by
    cases e with
    | link target => exact absurd he (hplain.not_link target)
    | _ => rfl
  have hresolve := (resolve_names (linkFree he hlink) (isFileName he) hpath hne
    h.folder).resolve_right (by simp [he])
  exact exists?_iff.2 ⟨e, stat_eq_ok_iff_resolve.2 ⟨hlength, _, hresolve, he⟩⟩

section PlainRuns

variable {p : Place} {e : Entry} {t' : FileTree}
  (hp : h.files.at? p = some e) (hlink : e.isLink = false)
  (hplain : PlainPlaces h.files p)
include hp hplain

theorem SetsUp.refuses {h' : Host} {result : Except Problem Bool}
    (hs : SetsUp h r p.toPath h' result) (hthere : h.files.at? (p ++ ["Harness.toml"]) ≠ none)
    (hforce : r.force = false) : h' = h ∧ ∃ problem, result = .error problem := by
  have hfound (hlength : checkLength (settingsPath p.toPath) = .ok ()) :
      h.exists? (settingsPath p.toPath) = true :=
    exists?_of_plain (by simp) (parts_settingsPath (isFileName hp)) hlength hthere
      (hplain _ (by simp))
  have written {h₁ : Host} (hfree : r.force = true ∨ h.exists? (settingsPath p.toPath) = false)
      (hw : h.writeText (settingsPath p.toPath) r.startSettings.toToml = .ok h₁) : False := by
    obtain ⟨t₁, q, -, hwrote, -⟩ := settings_stage hfree hw
    rw [hfound hwrote.length, hforce] at hfree
    simp at hfree
  cases hs with
  | refused | unwritten => exact ⟨rfl, _, rfl⟩
  | kept hfree hw | uncreated hfree hw | sampleless hfree hw | done hfree hw =>
    exact (written hfree hw).elim

include hlink

theorem sample_missing
    (hnone : h.files.at? (p ++ ["benchmark", "tests", "example.json"]) = none) :
    h.exists? (samplePath p.toPath) = false := by
  rw [← Bool.not_eq_true]
  intro hthere
  obtain ⟨e', hstat⟩ := exists?_iff.1 hthere
  obtain ⟨-, q, hq, hat⟩ := stat_eq_ok_iff_resolve.1 hstat
  obtain rfl := (straight hp hlink hplain).sample q hq
  rw [hnone] at hat
  cases hat

variable (hspares : Spares r.force p.toPath h.folder h.files t') (hs : Succeeds h r p.toPath t')
include hspares hs

theorem Succeeds.apart : t'.numberAt? h.folder (settingsPath p.toPath) ≠
    t'.numberAt? h.folder (samplePath p.toPath) := by
  have hleads : ∃ q, t'.resolve h.folder (settingsPath p.toPath) = .ok q := by
    cases hs with
    | kept hfree hw => exact ⟨_, hw.leads⟩
    | done hfree hw hopens hw' =>
      exact ⟨_, (hopens.keeps.trans hw'.grows.keeps).resolve hw.leads⟩
  obtain ⟨q, hq⟩ := hleads
  exact hspares.apart hp hlink hplain hq

theorem Succeeds.settings_isFile : t'.isFile h.folder (settingsPath p.toPath) = true := by
  obtain ⟨t₁, q, touched, made, hw, hgrows, halone⟩ :=
    hs.settings_written (hs.apart hp hlink hplain hspares)
  have hleads := hgrows.keeps.resolve hw.leads
  obtain rfl := (hspares.straight hp hlink hplain).settings q hleads
  have hwritten : t₁.at? (p ++ ["Harness.toml"]) = some (.file (Text.encode r.startSettings.toToml)) := by
    rcases hw.written with hwritten | ⟨e', he', hother, hfolder, -⟩
    · exact hwritten
    · have hkind := (hplain _ (by simp)).kind he'
      simp [hfolder, hother] at hkind
  rw [← hw.at?_after hgrows halone] at hwritten
  exact isFile_iff.2 ⟨_, stat_eq_ok_iff_resolve.2 ⟨hw.length, _, hleads, hwritten⟩, rfl⟩

theorem Succeeds.sample_isFile
    (hmissing : r.force = true ∨ h.exists? (samplePath p.toPath) = false) :
    t'.isFile h.folder (samplePath p.toPath) = true := by
  obtain ⟨t₁, t₂, q, q', hw, hopens, hw'⟩ :=
    hs.sample_written (hs.apart hp hlink hplain hspares) hmissing
  obtain rfl := (hspares.straight hp hlink hplain).sample q' hw'.leads
  refine isFile_iff.2 ⟨.file (Text.encode sampleText),
    stat_eq_ok_iff_resolve.2 ⟨hw'.length, _, hw'.leads, ?_⟩, rfl⟩
  rcases hw'.written with hwritten | ⟨e', he', hother, hfolder, -⟩
  · exact hwritten
  · -- A device would have been there from the start.
    exfalso
    have hkind : e'.isFolder = true ∨ e'.isRegular = true := by
      rcases hopens.ordinary _ _ he' with he' | hkind
      · rcases hw.grows.ordinary _ _ he' with he' | hkind
        · exact (hplain _ (by simp)).kind he'
        · exact hkind
      · exact hkind
    simp [hfolder, hother] at hkind

end PlainRuns

/-! ## Setting up as a whole -/

theorem SetsUp.refused_eq {h' : Host} {result : Except Problem Bool}
    (hs : SetsUp h r root h' result) (hthere : h.exists? (settingsPath root) = true)
    (hforce : r.force = false) : h' = h ∧ result = .error (.settingsExist (settingsPath root)) := by
  cases hs with
  | refused => exact ⟨rfl, rfl⟩
  | unwritten hfree | kept hfree | uncreated hfree | sampleless hfree | done hfree =>
    rw [hthere, hforce] at hfree
    simp at hfree

section Outcome

variable (h : Host) (r : InitRequest) (p : Place) (t' : FileTree) (result : Except Problem Bool)

/-- Whatever stands somewhere stays there, and is as it was but for the two files that the paths
of the settings and of the sample lead to; these change only by force. What is new is one of
these files or of the two folders on the way. -/
structure Frame : Prop where
  stands : ∀ q n, h.files.number? q = some n → t'.number? q = some n ∧
    (t'.node? q = h.files.node? q ∨ r.force = true ∧
      (h.files.numberAt? h.folder (settingsPath p.toPath) = some n ∨
        h.files.numberAt? h.folder (samplePath p.toPath) = some n))
  unforced : r.force = false → ∀ q, h.files.at? q ≠ none → t'.node? q = h.files.node? q
  new : ∀ q, h.files.at? q = none → t'.at? q ≠ none → MayStand p.toPath h.folder t' q

structure Refusal : Prop where
  unchanged : h.exists? (settingsPath p.toPath) = true → r.force = false → t' = h.files
  told : h.exists? (settingsPath p.toPath) = true → r.force = false →
    result = .error (.settingsExist (settingsPath p.toPath))

/-- The settings that are loaded next are the default ones with the language, and the sample is
a document unless one was kept, each where its path leads to a file. -/
structure Success : Prop where
  settings : t'.isFile h.folder (settingsPath p.toPath) = true →
    Settings.load { h with files := t' } p.toPath none =
      .ok { Settings.default with language := some r.language }
  sample : t'.isFile h.folder (samplePath p.toPath) = true →
    r.force = true ∨ h.exists? (samplePath p.toPath) = false →
    ∃ d, Document.load { h with files := t' } (samplePath p.toPath) = .ok d ∧
      d.category = "example"

/-- The same of plain places, to which the paths lead straight, so that it can be said with places
only and there is a file at each of the two paths. -/
structure PlainOutcome : Prop where
  frame : ∀ q, q ≠ p ++ ["Harness.toml"] → q ≠ p ++ ["benchmark", "tests", "example.json"] →
    t'.node? q = h.files.node? q ∨
      (q = p ++ ["benchmark"] ∨ q = p ++ ["benchmark", "tests"]) ∧
        h.files.at? q = none ∧ t'.at? q = some .folder
  refusal : h.files.at? (p ++ ["Harness.toml"]) ≠ none → r.force = false →
    t' = h.files ∧ ∃ problem, result = .error problem
  settings : ∀ done, result = .ok done → Settings.load { h with files := t' } p.toPath none =
    .ok { Settings.default with language := some r.language }
  sample : ∀ done, result = .ok done →
    r.force = true ∨ h.files.at? (p ++ ["benchmark", "tests", "example.json"]) = none →
    ∃ d, Document.load { h with files := t' } (samplePath p.toPath) = .ok d ∧
      d.category = "example"

/-- What comes of setting up at a place. Success says something only where the two paths lead to
two files. -/
structure Outcome : Prop where
  frame : Frame h r p t'
  refusal : Refusal h r p t' result
  success : ∀ done, result = .ok done → t'.numberAt? h.folder (settingsPath p.toPath) ≠
    t'.numberAt? h.folder (samplePath p.toPath) → Success h r p t'
  plain : PlainPlaces h.files p → PlainOutcome h r p t' result

end Outcome

section Whole

variable {p : Place} {e : Entry} {t' : FileTree} {result : Except Problem Bool}
  (hp : h.files.at? p = some e) (hlink : e.isLink = false)
  (hspares : Spares r.force p.toPath h.folder h.files t')
  (hs : SetsUp h r p.toPath { h with files := t' } result)

theorem Spares.frame (hspares : Spares r.force p.toPath h.folder h.files t') :
    Frame h r p t' where
  stands _ _ := hspares.there
  unforced hforce _ := hspares.unforced hforce
  new _ := hspares.new

include hs

theorem SetsUp.refusal : Refusal h r p t' result where
  unchanged hthere hforce := congrArg Host.files (hs.refused_eq hthere hforce).1
  told hthere hforce := (hs.refused_eq hthere hforce).2

include hp hlink

theorem SetsUp.success {done : Bool} (hresult : result = .ok done)
    (hapart : t'.numberAt? h.folder (settingsPath p.toPath) ≠
      t'.numberAt? h.folder (samplePath p.toPath)) : Success h r p t' where
  settings := by
    subst hresult
    exact (hs.succeeds hp hlink).settings_load hapart
  sample := by
    subst hresult
    exact (hs.succeeds hp hlink).sample_load hapart

include hspares

theorem SetsUp.plainOutcome (hplain : PlainPlaces h.files p) : PlainOutcome h r p t' result where
  frame _ := hspares.plain hp hlink hplain
  refusal hthere hforce := by
    obtain ⟨hsame, hrefused⟩ := hs.refuses hp hplain hthere hforce
    exact ⟨congrArg Host.files hsame, hrefused⟩
  settings done hresult := by
    subst hresult
    have hsucceeds := hs.succeeds hp hlink
    exact hsucceeds.settings_load (hsucceeds.apart hp hlink hplain hspares)
      (hsucceeds.settings_isFile hp hlink hplain hspares)
  sample done hresult hmissing := by
    subst hresult
    have hsucceeds := hs.succeeds hp hlink
    have hmissing' := hmissing.imp id (sample_missing hp hlink hplain)
    exact hsucceeds.sample_load (hsucceeds.apart hp hlink hplain hspares)
      (hsucceeds.sample_isFile hp hlink hplain hspares hmissing') hmissing'

theorem SetsUp.outcome : Outcome h r p t' result where
  frame := hspares.frame
  refusal := hs.refusal
  success _ hresult := hs.success hp hlink hresult
  plain := hs.plainOutcome hp hlink hspares

end Whole

/-- Where the settings are a link to a device that keeps nothing, setting up succeeds by force,
and the settings that are loaded next are without the language. -/
example :
    let folder : Inode := ⟨.folder, 0o755, 0⟩
    let h : Host := ⟨(((FileTree.empty.put ["p"] folder).put ["null"] ⟨.device .null, 0o666, 0⟩).put
      ["p", "Harness.toml"] ⟨.link "/null", 0o777, 0⟩), [], ⟨[]⟩, 0⟩
    let run := carryOut ⟨"p", true, true, "zh-CN"⟩ h none ⟨.english, false⟩
    run.result.toOption = some true ∧
      (Settings.load run.host "/p" none).toOption = some Settings.default := by
  decide +kernel

end InitRequest

end Assay
