import Assay.Proofs.Command.Reporting
import Assay.Proofs.Host.Absolute

/-!
# Runs from other folders

Whatever a run reads and starts is named by an absolute path that is worked out
from the root of the project, which is absolute once it has been resolved. So it
does not matter in which folder the program was called, as long as the same root
is meant: the run is prepared in the same way, it reads the same documents, and
it starts the same processes.
-/

set_option autoImplicit false

namespace Assay

/-- Nothing that a run reads or starts is named from the current folder. -/
structure Preparation.Anchored (p : Preparation) (h : Host) (r : RunRequest) : Prop where
  root : Path.isAbsolute p.root = true
  settings : Path.isAbsolute (Settings.place p.root r.settings) = true ∧ ∃ loaded,
    (r.settings = none ∧ h.exists? (Settings.place p.root r.settings) = false ∧
        loaded = Settings.default ∨
      Settings.loadFrom h (Settings.place p.root r.settings) = .ok loaded) ∧
    p.settings = loaded.override r
  testsDir : p.testsDir = Path.join p.root p.settings.testsDir ∧ Path.isAbsolute p.testsDir = true
  documents : ∀ file ∈ p.plan.files, Path.isAbsolute file = true ∧
    ∀ (now : Host) (folder : Place),
      Document.load (now.seenFrom folder) file = Document.load now file
  interpreter : Path.isAbsolute p.interpreter = true
  request : ∀ c, (p.process.request c).program = p.interpreter ∧
    (p.process.request c).arguments.head? = some (Path.join p.root c.1) ∧
    Path.isAbsolute (Path.join p.root c.1) = true

def Preparation.requests (p : Preparation) (ds : List Document) : List ProcessRequest :=
  ds.flatMap fun d => d.entries.map fun j => p.process.request (Job.call j)

theorem Document.leading_congr {h h' : Host} {files : List String}
    (hload : ∀ file ∈ files, Document.load h' file = Document.load h file) :
    leading h' files = leading h files ∧
      files.findSome? (problem? h') = files.findSome? (problem? h) := by
  induction files with
  | nil => exact ⟨rfl, rfl⟩
  | cons file files ih =>
    rw [List.forall_mem_cons] at hload
    obtain ⟨hfile, hrest⟩ := hload
    obtain ⟨hleading, hproblem⟩ := ih hrest
    simp only [leading, List.findSome?_cons, problem?, hfile, hleading, hproblem, and_self]

namespace RunRequest

variable {r r' : RunRequest} {h : Host} {m : Machine} {look look' : Look} {p : Preparation}
  {run run' : SuiteRun} {c c' : CommandRun} {folder : Place} {root : String}

theorem Prepares.anchored (hp : r.Prepares h p) (hsearch : h.SearchesAbsolute) :
    p.Anchored h r := by
  have hroot := h.isAbsolute_of_projectRoot hp.root
  have htests : p.testsDir = Path.join p.root p.settings.testsDir := hp.testsDir
  have habsolute : Path.isAbsolute p.testsDir = true := by
    rw [htests]
    exact Path.isAbsolute_join hroot _
  refine ⟨hroot, ⟨Path.isAbsolute_join hroot _, ?_⟩, ⟨htests, habsolute⟩,
    fun file hfile => ?_, Host.isAbsolute_of_locate hsearch hroot hp.interpreter,
    fun c => ⟨rfl, rfl, Path.isAbsolute_join hroot _⟩⟩
  · obtain ⟨loaded, hload, hsettings⟩ := hp.settings
    refine ⟨loaded, ?_, hsettings⟩
    rw [Settings.load_eq] at hload
    split at hload
    · rename_i hnone
      exact .inl ⟨hnone.1, hnone.2, (Except.ok.inj hload).symm⟩
    · exact .inr hload
  · have hfile := Plan.isAbsolute_of_make h habsolute hp.plan file hfile
    exact ⟨hfile, fun now folder => Document.load_seenFrom now folder hfile⟩

def SameButRoot (r r' : RunRequest) : Prop := r' = { r with projectRoot := r'.projectRoot }

/-- A request is made in two folders and means the same root in both. -/
structure SameRoot (r r' : RunRequest) (h : Host) (folder : Place) (root : String) : Prop where
  request : r.SameButRoot r'
  here : h.projectRoot r.projectRoot = .ok root
  there : (h.seenFrom folder).projectRoot r'.projectRoot = .ok root

namespace SameRoot

variable (hs : r.SameRoot r' h folder root)
include hs

theorem make_eq (hsearch : h.SearchesAbsolute) (locale : Locale) :
    Preparation.make (h.seenFrom folder) locale r' = Preparation.make h locale r := by
  have hroot := h.isAbsolute_of_projectRoot hs.here
  have hplan (s : Settings) : Plan.make (h.seenFrom folder) (s.testsDirIn root) r.category =
      Plan.make h (s.testsDirIn root) r.category :=
    Plan.make_seenFrom h folder (Path.isAbsolute_join hroot _) _
  have hover (s : Settings) : s.override { r with projectRoot := r'.projectRoot } = s.override r :=
    rfl
  have hthere := hs.there
  rw [hs.request] at hthere ⊢
  simp only [Preparation.make, hs.here, hthere, Preparation.blame, bind, Except.bind, hover,
    Settings.load_seenFrom h folder hroot, Host.locate_seenFrom hsearch hroot, hplan]
  rfl

theorem prepares_iff (hsearch : h.SearchesAbsolute) :
    r'.Prepares (h.seenFrom folder) p ↔ r.Prepares h p := by
  have hmake := hs.make_eq hsearch .english
  constructor
  · intro hp
    rw [Preparation.make_of_prepares hp] at hmake
    exact (Preparation.prepares_of_make hmake.symm).1
  · intro hp
    rw [Preparation.make_of_prepares hp] at hmake
    exact (Preparation.prepares_of_make hmake).1

theorem first?_eq (hsearch : h.SearchesAbsolute) :
    Stage.first? (h.seenFrom folder) r' = Stage.first? h r := by
  have hmake := hs.make_eq hsearch .english
  rcases Preparation.make_cases h .english r with ⟨p, hp, -, hnone⟩ | ⟨l, problem, hp, hsome⟩
  · rw [hp] at hmake
    rw [hnone, (Preparation.prepares_of_make hmake).2]
  · rw [hp] at hmake
    rw [hsome, Preparation.first?_of_make hmake]

end SameRoot

theorem Prepares.unique {q : Preparation} (hp : r.Prepares h p) (hq : r.Prepares h q) : p = q := by
  have hmake : Preparation.make h .english r = .ok p := Preparation.make_of_prepares hp
  rw [Preparation.make_of_prepares hq] at hmake
  exact (Except.ok.inj hmake).symm

theorem Executes.refusal {problem : Problem} (hc : r.Executes h m look c)
    (hfirst : Stage.first? h r = some problem) :
    c.result = .error problem ∧ c.calls = #[] := by
  cases hc with
  | @refused locale problem' hm =>
    rw [Preparation.first?_of_make hm] at hfirst
    cases hfirst
    exact ⟨rfl, rfl⟩
  | @ran p run hm hr =>
    rw [(Preparation.prepares_of_make hm).2] at hfirst
    cases hfirst

theorem Runs.requests (hr : r.Runs h m look p run c)
    (hk : ∀ file ∈ p.plan.files, m.spawn.Keeps fun h => Document.load h file) :
    run.problem = p.plan.files.findSome? (Document.problem? h) ∧
      c.calls.toList.map p.process.request = p.requests (Document.leading h p.plan.files) := by
  obtain ⟨hproblem, hcalls⟩ := hr.reaches.planned fun file hfile =>
    p.process.invoker_keeps (hk file hfile)
  refine ⟨hproblem, ?_⟩
  rw [hr.concludes, Preparation.calls_conclude, hcalls, Preparation.requests, List.map_flatMap]
  simp only [List.map_map, Function.comp_def]

end RunRequest

open RunRequest in
/-- Where the search path names its folders from the root, everything that a run reads and starts
is an absolute path that is worked out from the root of the project. Two requests that mean the
same root in different folders are prepared, or refused, in the same way; and where no process
changes the documents, they read the same documents and start the same processes. -/
theorem work_is_anchored_at_root (h : Host) (r : RunRequest) (hsearch : h.SearchesAbsolute) :
    (∀ p, r.Prepares h p → p.Anchored h r) ∧
    ∀ r' folder root, r.SameRoot r' h folder root →
      (∀ locale, Preparation.make (h.seenFrom folder) locale r' = Preparation.make h locale r) ∧
      ∀ m look look' c c', r.Executes h m look c → r'.Executes (h.seenFrom folder) m look' c' →
        match Stage.first? h r with
        | some problem => c.result = .error problem ∧ c'.result = .error problem ∧
            c.calls = #[] ∧ c'.calls = #[]
        | none => ∃ p run run', r.Runs h m look p run c ∧
            r'.Runs (h.seenFrom folder) m look' p run' c' ∧
            ((∀ file ∈ p.plan.files, m.spawn.Keeps fun h => Document.load h file) →
              run.problem = run'.problem ∧
              c.calls.toList.map p.process.request =
                p.requests (Document.leading h p.plan.files) ∧
              c'.calls.toList.map p.process.request = c.calls.toList.map p.process.request) := by
  refine ⟨fun p hp => hp.anchored hsearch, fun r' folder root hs => ⟨hs.make_eq hsearch, ?_⟩⟩
  intro m look look' c c' hc hc'
  have hfirst := hs.first?_eq hsearch
  split
  · rename_i problem hproblem
    rw [hproblem] at hfirst
    obtain ⟨hresult, hcalls⟩ := hc.refusal hproblem
    obtain ⟨hresult', hcalls'⟩ := hc'.refusal hfirst
    exact ⟨hresult, hresult', hcalls, hcalls'⟩
  · rename_i hnone
    rw [hnone] at hfirst
    obtain ⟨p, run, hr⟩ := hc.runs hnone
    obtain ⟨p', run', hr'⟩ := hc'.runs hfirst
    obtain rfl : p = p' := hr.prepares.unique ((hs.prepares_iff hsearch).1 hr'.prepares)
    refine ⟨p, run, run', hr, hr', fun hk => ?_⟩
    have hanchored := hr.prepares.anchored hsearch
    obtain ⟨hproblem, hrequests⟩ := hr.requests hk
    obtain ⟨hproblem', hrequests'⟩ := hr'.requests hk
    obtain ⟨hleading, hsame⟩ := Document.leading_congr fun file hfile =>
      (hanchored.documents file hfile).2 h folder
    exact ⟨by rw [hproblem, hproblem', hsame], hrequests, by rw [hrequests', hleading, hrequests]⟩

open RunRequest in
/-- A project that is run from the folder above it and from within. -/
theorem project_is_run_from_two_folders :
    let file (text : String) : Inode := ⟨.file (Text.encode text), 0o755, 0⟩
    let h : Host := ⟨(((FileTree.empty.put ["p"] ⟨.folder, 0o755, 0⟩).put ["p", "goth"]
      (file "#!/bin/sh\n")).put ["p", "tests"] ⟨.folder, 0o755, 0⟩).put ["p", "tests", "a.json"]
      (file "[\"a\", [[\"f\", \"src/1\", [[[7], \"x\"], [[8], \"8\"]]]]]"), [],
      ⟨[("PATH", "/bin:/usr/bin")]⟩, 0⟩
    let spawn : Spawner := fun _ h =>
      ([.streamEnd .stdout, .streamEnd .stderr, .exit ⟨0⟩], h)
    let m : Machine := ⟨spawn, 1, ""⟩
    let look : Look := ⟨.english, false⟩
    let request (root : String) : RunRequest :=
      ⟨none, false, false, some "./goth", root, none, some "tests", none, none, none, none⟩
    h.SearchesAbsolute ∧ (request "p").SameRoot (request ".") h ["p"] "/p" ∧
      ∃ p, (request "p").Prepares h p ∧ Path.isAbsolute p.interpreter = true ∧
        ((request "p").carryOut h m look).calls.toList.map p.process.request =
          [⟨"/p/./goth", ["/p/src/1", "7"], 10000⟩, ⟨"/p/./goth", ["/p/src/1", "8"], 10000⟩] ∧
        ((request ".").carryOut (h.seenFrom ["p"]) m look).calls.toList.map p.process.request =
          [⟨"/p/./goth", ["/p/src/1", "7"], 10000⟩, ⟨"/p/./goth", ["/p/src/1", "8"], 10000⟩] := by
  intro file h spawn m look request
  have hsearch : h.SearchesAbsolute := by
    have hfolders : h.searchFolders = ["/bin", "/usr/bin"] :=
      (Host.searchFolders_eq rfl).trans (by decide +kernel)
    rw [Host.SearchesAbsolute, hfolders]
    decide
  have hsame : (request "p").SameRoot (request ".") h ["p"] "/p" :=
    ⟨rfl, by decide +kernel, by decide +kernel⟩
  have hnone : Stage.first? h (request "p") = none := by decide +kernel
  have hmake : (Preparation.make h .english (request "p")).toOption.map
      (fun p => p.requests (Document.leading h p.plan.files)) =
      some [⟨"/p/./goth", ["/p/src/1", "7"], 10000⟩, ⟨"/p/./goth", ["/p/src/1", "8"], 10000⟩] := by
    decide +kernel
  obtain ⟨hanchored, htwo⟩ := work_is_anchored_at_root h (request "p") hsearch
  obtain ⟨-, hruns⟩ := htwo (request ".") ["p"] "/p" hsame
  have hruns := hruns m look look _ _ (carryOut_executes ..) (carryOut_executes ..)
  rw [hnone] at hruns
  obtain ⟨p, run, run', hr, -, hsuite⟩ := hruns
  obtain ⟨-, hrequests, hrequests'⟩ := hsuite fun _ _ _ _ => rfl
  rw [Preparation.make_of_prepares hr.prepares] at hmake
  have hall := Option.some.inj hmake
  refine ⟨hsearch, hsame, p, hr.prepares, (hanchored p hr.prepares).interpreter, ?_, ?_⟩
  · exact hrequests.trans hall
  · exact (hrequests'.trans hrequests).trans hall

end Assay
