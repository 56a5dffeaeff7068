import Assay.Proofs.Command.Stages
import Assay.Proofs.Host.Absolute
import Assay.Proofs.Settings.Fields

/-!
# Precedence of settings

A run goes by one value for each setting: what the request gives, else what the
text of settings gives, else the default. The three layers are looked at one
setting at a time, so what is given for one setting has no part in the value of
another. A project without a file of settings is run as if the file was there and
empty, but a file that is named has to exist.
-/

set_option autoImplicit false

namespace Assay

/-- What a request gives for a setting. The name of the interpreter cannot be asked for. -/
def RunRequest.get? (r : RunRequest) : (k : Setting) → Option k.Content
  | .language => r.language
  | .testsDir => r.testsDir
  | .binaryName => none
  | .binary => r.interpreter
  | .timeoutSecs => r.timeoutSecs
  | .jobs => r.jobs

def Setting.layered? (r : RunRequest) (text : String) (k : Setting) : Option k.Content :=
  (r.get? k).or ((k.inText? text).or (Settings.default.get? k))

namespace Settings

variable {s : Settings} {h : Host} {root text : String} {explicit : Option String}

/-- The text that settings are read from. A project without a file of its own goes by the
empty text. -/
def SourceText (h : Host) (root : String) (explicit : Option String) (text : String) : Prop :=
  explicit = none ∧ h.exists? (place root none) = false ∧ text = "" ∨
    h.readText (place root explicit) = .ok text

theorem get?_override (s : Settings) (r : RunRequest) (k : Setting) :
    (s.override r).get? k = (r.get? k).or (s.get? k) := by
  cases k with
  | language | binary => rfl
  | binaryName => exact Option.none_or.symm
  | testsDir | timeoutSecs | jobs => exact Option.or_some.symm

theorem get?_override_ofToml (hs : ofToml text = .ok s) (r : RunRequest) (k : Setting) :
    (s.override r).get? k = k.layered? r text := by
  rw [get?_override, get?_ofToml hs, Setting.layered?]

theorem ofToml_empty : ofToml "" = .ok default := by
  have hparse : Toml.parse? "" = some [] := rfl
  rw [ofToml, hparse]
  simp [sorted, takeEntries]

theorem readText_of_missing {path : String} (hmissing : h.exists? path = false) :
    ∃ e, h.readText path = .error e := by
  cases hread : h.readText path with
  | error e => exact ⟨e, rfl⟩
  | ok text =>
    rw [Host.exists?_of_readText hread] at hmissing
    cases hmissing

theorem SourceText.unique {text' : String} (hs : SourceText h root explicit text)
    (hs' : SourceText h root explicit text') : text = text' := by
  rcases hs with ⟨rfl, hmissing, rfl⟩ | hread
  · obtain ⟨e, he⟩ := readText_of_missing hmissing
    rcases hs' with ⟨-, -, rfl⟩ | hread'
    · rfl
    · rw [he] at hread'
      cases hread'
  · rcases hs' with ⟨rfl, hmissing, rfl⟩ | hread'
    · obtain ⟨e, he⟩ := readText_of_missing hmissing
      rw [he] at hread
      cases hread
    · rw [hread] at hread'
      exact Except.ok.inj hread'

theorem loadFrom_eq_ok_iff {path : String} :
    loadFrom h path = .ok s ↔ ∃ text, h.readText path = .ok text ∧ ofToml text = .ok s := by
  rw [loadFrom]
  cases h.readText path with
  | error e => simp
  | ok text => cases htext : ofToml text <;> simp [htext]

theorem load_eq_ok_iff : load h root explicit = .ok s ↔
    ∃ text, SourceText h root explicit text ∧ ofToml text = .ok s := by
  rw [load_eq]
  constructor
  · intro hload
    split at hload
    · rename_i hnone
      obtain ⟨rfl, hmissing⟩ := hnone
      cases hload
      exact ⟨"", .inl ⟨rfl, hmissing, rfl⟩, ofToml_empty⟩
    · obtain ⟨text, hread, htext⟩ := loadFrom_eq_ok_iff.1 hload
      exact ⟨text, .inr hread, htext⟩
  · rintro ⟨text, ⟨rfl, hmissing, rfl⟩ | hread, htext⟩
    · rw [ofToml_empty] at htext
      cases htext
      exact if_pos ⟨rfl, hmissing⟩
    · rw [if_neg fun hnone => ?_, loadFrom_eq_ok_iff.2 ⟨text, hread, htext⟩]
      rw [Host.exists?_of_readText hread] at hnone
      cases hnone.2

theorem load_of_missing {path : String} (hmissing : h.exists? (place root (some path)) = false) :
    ∃ e, load h root (some path) = .error (.settingsUnreadable (place root (some path)) e) := by
  obtain ⟨e, he⟩ := readText_of_missing hmissing
  exact ⟨e, by rw [load_eq, if_neg (by simp), loadFrom, he]⟩

end Settings

/-- A run goes by given values of the settings. -/
structure Preparation.GoesBy (p : Preparation) (h : Host) (r : RunRequest)
    (value : (k : Setting) → Option k.Content) : Prop where
  settings : ∀ k, p.settings.get? k = value k
  language : p.locale = Locale.resolve (value .language) h.environment
  testsDir : ∃ dir : String, value .testsDir = some dir ∧
    Plan.make h (Path.join p.root dir) r.category = .ok p.plan
  interpreter : ∃ name : String, value .binaryName = some name ∧
    h.locate p.root (value .binary) name = .ok p.interpreter
  timeout : ∃ secs : UInt64, value .timeoutSecs = some secs ∧
    ∀ c, (p.process.request c).timeoutMillis = secs.toNat * 1000
  jobs : ∀ m look, value .jobs = some (p.options m look r).jobs

namespace RunRequest

variable {r : RunRequest} {h : Host} {p : Preparation} {text : String}

theorem Prepares.goesBy (hp : r.Prepares h p)
    (htext : Settings.SourceText h p.root r.settings text) :
    Settings.IsText text ∧ p.GoesBy h r (Setting.layered? r text) := by
  obtain ⟨loaded, hload, hsettings⟩ := hp.settings
  obtain ⟨text', htext', hs⟩ := Settings.load_eq_ok_iff.1 hload
  obtain rfl := htext.unique htext'
  have hvalue (k : Setting) : p.settings.get? k = k.layered? r text := by
    rw [hsettings, Settings.get?_override_ofToml hs]
  refine ⟨(Settings.ofToml_iff text).1 ⟨loaded, hs⟩, hvalue, ?_, ?_, ?_, ?_, ?_⟩
  · rw [hp.locale, ← hvalue]
    rfl
  · have hplan := hp.plan
    rw [hp.testsDir] at hplan
    exact ⟨_, (hvalue .testsDir).symm, hplan⟩
  · exact ⟨_, (hvalue .binaryName).symm, hvalue .binary ▸ hp.interpreter⟩
  · exact ⟨_, (hvalue .timeoutSecs).symm, fun c => rfl⟩
  · exact fun m look => (hvalue .jobs).symm

/-- A file of settings that is named and does not exist ends the run before anything else. -/
theorem carryOut_of_missing {root path : String} (hroot : h.projectRoot r.projectRoot = .ok root)
    (hpath : r.settings = some path)
    (hmissing : h.exists? (Settings.place root (some path)) = false) :
    ∃ e, ∀ m look, r.carryOut h m look = ⟨h, #[], "", look.locale,
      .error (.settingsUnreadable (Settings.place root (some path)) e)⟩ := by
  obtain ⟨e, he⟩ := Settings.load_of_missing hmissing
  refine ⟨e, fun m look => ?_⟩
  simp [carryOut, Preparation.make, Preparation.blame, bind, Except.bind, hroot, hpath, he]

end RunRequest

open Settings in
/-- Every text in which each entry can be taken in is one of settings, and every choice of values
is that of such a text. A run goes, for each setting by itself, by what its request gives, else by
what the text gives, else by the default. Without a file the settings are those of an empty one,
and a named file that does not exist is an error. -/
theorem settings_are_layered (h : Host) (r : RunRequest) :
    (∀ text, ((∃ s, ofToml text = .ok s) ↔ IsText text) ∧
      ∀ s, ofToml text = .ok s → ∀ k, (s.override r).get? k = k.layered? r text) ∧
    (∀ choice : (k : Setting) → Option k.Content,
      ∃ text, IsText text ∧ ∀ k : Setting, k.inText? text = choice k) ∧
    (∀ root text, SourceText h root r.settings text →
      ((∃ s, load h root r.settings = .ok s) ↔ IsText text)) ∧
    (∀ p, r.Prepares h p → ∃ text, SourceText h p.root r.settings text ∧
      p.GoesBy h r (Setting.layered? r text) ∧
      ∀ (h' : Host) (r' : RunRequest) (p' : Preparation) (text' : String),
        r'.Prepares h' p' → SourceText h' p'.root r'.settings text' →
        ∀ k : Setting, r'.get? k = r.get? k → k.inText? text' = k.inText? text →
          p'.settings.get? k = p.settings.get? k) ∧
    (∀ root, h.exists? (place root none) = false → load h root none = .ok Settings.default ∧
      ∀ h', h'.readText (place root none) = .ok "" → load h' root none = load h root none) ∧
    ∀ root path, h.projectRoot r.projectRoot = .ok root → r.settings = some path →
      h.exists? (place root (some path)) = false →
      ∃ e, ∀ m look, r.carryOut h m look = ⟨h, #[], "", look.locale,
        .error (.settingsUnreadable (place root (some path)) e)⟩ := by
  refine ⟨fun text => ⟨ofToml_iff text, fun s hs => get?_override_ofToml hs r⟩,
    Setting.exists_text, fun root text htext => ?_, fun p hp => ?_, fun root hmissing => ?_,
    fun root path => RunRequest.carryOut_of_missing⟩
  · rw [← ofToml_iff]
    constructor
    · rintro ⟨s, hload⟩
      obtain ⟨text', htext', hs⟩ := load_eq_ok_iff.1 hload
      exact ⟨s, htext.unique htext' ▸ hs⟩
    · rintro ⟨s, hs⟩
      exact ⟨s, load_eq_ok_iff.2 ⟨text, htext, hs⟩⟩
  · obtain ⟨loaded, hload, -⟩ := hp.settings
    obtain ⟨text, htext, -⟩ := load_eq_ok_iff.1 hload
    obtain ⟨-, hgoes⟩ := hp.goesBy htext
    refine ⟨text, htext, hgoes, fun h' r' p' text' hp' htext' k hrequest hgiven => ?_⟩
    obtain ⟨-, hgoes'⟩ := hp'.goesBy htext'
    rw [hgoes.settings, hgoes'.settings, Setting.layered?, hrequest, hgiven, Setting.layered?]
  · have hload : load h root none = .ok Settings.default :=
      load_eq_ok_iff.2 ⟨"", .inl ⟨rfl, hmissing, rfl⟩, ofToml_empty⟩
    refine ⟨hload, fun h' hempty => ?_⟩
    rw [hload]
    exact load_eq_ok_iff.2 ⟨"", .inr hempty, ofToml_empty⟩

/-- Two requests for a project whose file gives some of the settings, and the key of one of them
once more in a table of its own. -/
theorem project_goes_by_request_file_and_defaults :
    let text := "jobs = 3\nbinary = './goth'\ntests_dir = 'tests'\n[extra]\njobs = 7\n"
    let file (text : String) : Inode := ⟨.file (Text.encode text), 0o755, 0⟩
    let h : Host := ⟨(((FileTree.empty.put ["p"] ⟨.folder, 0o755, 0⟩).put ["p", "goth"]
      (file "#!/bin/sh\n")).put ["p", "tests"] ⟨.folder, 0o755, 0⟩).put ["p", "Harness.toml"]
      (file text), [], ⟨[]⟩, 0⟩
    let request (settings : Option String) (jobs : Option UInt64) : RunRequest :=
      ⟨none, false, false, none, "/p", settings, none, jobs, some 5, none, none⟩
    (∃ p p', (request none none).Prepares h p ∧ (request none (some 9)).Prepares h p' ∧
      p.settings = ⟨none, "tests", "goth", some "./goth", 5, 3⟩ ∧
      p'.settings.jobs = 9 ∧ ∀ k ≠ Setting.jobs, p'.settings.get? k = p.settings.get? k) ∧
    Settings.load h "/" none = .ok Settings.default ∧
    ∃ e, ∀ m look, (request (some "other.toml") none).carryOut h m look =
      ⟨h, #[], "", look.locale, .error (.settingsUnreadable "/p/other.toml" e)⟩ := by
  intro text file h request
  obtain ⟨-, -, hloads, hruns, hmissing, -⟩ := settings_are_layered h (request none none)
  obtain ⟨-, -, -, -, -, hnamed⟩ := settings_are_layered h (request (some "other.toml") none)
  refine ⟨?_, (hmissing "/" (by decide +kernel)).1,
    hnamed "/p" "other.toml" (by decide +kernel) rfl (by decide +kernel)⟩
  have hsource : Settings.SourceText h "/p" none text := .inr (by decide +kernel)
  obtain ⟨s, hload⟩ := (hloads "/p" text hsource).2 (by decide +kernel)
  let settings (jobs : UInt64) : Settings := ⟨none, "tests", "goth", some "./goth", 5, jobs⟩
  let p (jobs : UInt64) : Preparation :=
    ⟨"/p", settings jobs, .english, "/p/./goth", "/p/tests", ⟨[], false⟩⟩
  have hs : s = ⟨none, "tests", "goth", some "./goth", 10, 3⟩ := by
    obtain ⟨text', htext', hs⟩ := Settings.load_eq_ok_iff.1 hload
    obtain rfl := hsource.unique htext'
    apply Settings.ext_get?
    intro k
    rw [Settings.get?_ofToml hs]
    cases k <;> decide +kernel
  subst hs
  have hp : (request none none).Prepares h (p 3) :=
    ⟨by decide +kernel, ⟨_, hload, rfl⟩, by decide +kernel, by decide +kernel, by decide +kernel,
      by decide +kernel, by decide +kernel⟩
  have hp' : (request none (some 9)).Prepares h (p 9) :=
    ⟨by decide +kernel, ⟨_, hload, rfl⟩, by decide +kernel, by decide +kernel, by decide +kernel,
      by decide +kernel, by decide +kernel⟩
  obtain ⟨text', htext', -, hframe⟩ := hruns (p 3) hp
  obtain rfl := hsource.unique htext'
  refine ⟨p 3, p 9, hp, hp', rfl, rfl, fun k hk => ?_⟩
  refine hframe h (request none (some 9)) (p 9) text hp' hsource k ?_ rfl
  cases k <;> first | rfl | contradiction

end Assay
