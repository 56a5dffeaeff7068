import Assay.Command.Program
import Assay.Proofs.Suite.Run

/-!
# Stages of a run

A run is prepared in stages. What each of them needs is known without the other
ones, so a request is refused with the problem of the first stage that has one,
and then nothing has happened. A run that is prepared ends in one of three ways:
at a document that cannot be loaded, at a page that cannot be written, or with
its verdict.
-/

set_option autoImplicit false

namespace Assay

def failure? {ε α : Type} : Except ε α → Option ε
  | .ok _ => none
  | .error p => some p

inductive Stage where
  | root
  | settings
  | timeout
  | interpreter
  | plan
deriving DecidableEq, Repr

namespace Stage

def all : List Stage := [.root, .settings, .timeout, .interpreter, .plan]

def known? (h : Host) (r : RunRequest) : Option (String × Settings) :=
  match h.projectRoot r.projectRoot with
  | .error _ => none
  | .ok folder =>
    match Settings.load h folder r.settings with
    | .error _ => none
    | .ok s => some (folder, s)

/-- What is wrong at a stage. No stage looks at the outcome of another, but for the
root and the settings that it works on. -/
def problem? (h : Host) (r : RunRequest) : Stage → Option Problem
  | .root => failure? (h.projectRoot r.projectRoot)
  | .settings =>
    match h.projectRoot r.projectRoot with
    | .error _ => none
    | .ok folder => failure? (Settings.load h folder r.settings)
  | .timeout => (known? h r).bind fun (_, s) =>
    if r.timeoutSecs.getD s.timeoutSecs = 0 then some .timeoutTooShort else none
  | .interpreter => (known? h r).bind fun (folder, s) =>
    failure? (h.locate folder (r.interpreter.or s.binary) s.binaryName)
  | .plan => (known? h r).bind fun (folder, s) =>
    failure? (Plan.make h (Path.join folder (r.testsDir.getD s.testsDir)) r.category)

def first? (h : Host) (r : RunRequest) : Option Problem := all.findSome? (problem? h r)

theorem findSome?_cons_eq_or {α β : Type} (f : α → Option β) (a : α) (as : List α) :
    (a :: as).findSome? f = (f a).or (as.findSome? f) := by
  cases ha : f a <;> simp [ha]

theorem first?_of_known {h : Host} {r : RunRequest} {folder : String} {s : Settings}
    (hroot : h.projectRoot r.projectRoot = .ok folder)
    (hload : Settings.load h folder r.settings = .ok s) :
    first? h r = (if (s.override r).timeoutSecs = 0 then some .timeoutTooShort else none).or
      ((failure? (h.locate folder (s.override r).binary (s.override r).binaryName)).or
        (failure? (Plan.make h ((s.override r).testsDirIn folder) r.category))) := by
  have hknown : known? h r = some (folder, s) := by simp [known?, hroot, hload]
  simp only [first?, all, findSome?_cons_eq_or, List.findSome?_nil, Option.or_none, problem?,
    hroot, hload, hknown, failure?, Option.none_or, Option.bind_some]
  rfl

end Stage

structure RunRequest.Prepares (r : RunRequest) (h : Host) (p : Preparation) : Prop where
  root : h.projectRoot r.projectRoot = .ok p.root
  settings : ∃ loaded, Settings.load h p.root r.settings = .ok loaded ∧
    p.settings = loaded.override r
  locale : p.locale = Locale.resolve p.settings.language h.environment
  timeout : p.settings.timeoutSecs ≠ 0
  interpreter : h.locate p.root p.settings.binary p.settings.binaryName = .ok p.interpreter
  testsDir : p.testsDir = p.settings.testsDirIn p.root
  plan : Plan.make h p.testsDir r.category = .ok p.plan

namespace Preparation

variable {h : Host} {locale : Locale} {r : RunRequest}

theorem make_of_prepares {p : Preparation} (hp : r.Prepares h p) : make h locale r = .ok p := by
  obtain ⟨loaded, hload, hsettings⟩ := hp.settings
  simp [make, blame, bind, Except.bind, pure, Except.pure, hp.root, hload, ← hsettings,
    ← hp.locale, hp.timeout, hp.interpreter, ← hp.testsDir, hp.plan]

theorem make_cases (h : Host) (locale : Locale) (r : RunRequest) :
    (∃ p, make h locale r = .ok p ∧ r.Prepares h p ∧ Stage.first? h r = none) ∨
      ∃ l p, make h locale r = .error (l, p) ∧ Stage.first? h r = some p := by
  -- One case for each stage that may refuse, in the order in which they are passed.
  cases hroot : h.projectRoot r.projectRoot with
  | error p =>
    refine .inr ⟨locale, p, ?_, ?_⟩
    · simp [make, blame, bind, Except.bind, hroot]
    · simp [Stage.first?, Stage.all, Stage.problem?, hroot, failure?]
  | ok root =>
  cases hload : Settings.load h root r.settings with
  | error p =>
    refine .inr ⟨locale, p, ?_, ?_⟩
    · simp [make, blame, bind, Except.bind, hroot, hload]
    · simp [Stage.first?, Stage.all, Stage.problem?, hroot, hload, failure?]
  | ok s =>
  rw [Stage.first?_of_known hroot hload]
  by_cases htimeout : (s.override r).timeoutSecs = 0
  · refine .inr ⟨Locale.resolve (s.override r).language h.environment, .timeoutTooShort, ?_, ?_⟩
    · simp [make, blame, bind, Except.bind, hroot, hload, htimeout]
      rfl
    · simp [htimeout]
  cases hlocate : h.locate root (s.override r).binary (s.override r).binaryName with
  | error p =>
    refine .inr ⟨Locale.resolve (s.override r).language h.environment, p, ?_, ?_⟩
    · simp [make, blame, bind, Except.bind, hroot, hload, htimeout, hlocate]
    · simp [htimeout, failure?]
  | ok interpreter =>
  cases hplan : Plan.make h ((s.override r).testsDirIn root) r.category with
  | error p =>
    refine .inr ⟨Locale.resolve (s.override r).language h.environment, p, ?_, ?_⟩
    · simp [make, blame, bind, Except.bind, hroot, hload, htimeout, hlocate, hplan]
    · simp [htimeout, failure?]
  | ok plan =>
    let p : Preparation := ⟨root, s.override r,
      Locale.resolve (s.override r).language h.environment, interpreter,
      (s.override r).testsDirIn root, plan⟩
    have hp : r.Prepares h p := ⟨hroot, ⟨s, hload, rfl⟩, rfl, htimeout, hlocate, rfl, hplan⟩
    exact .inl ⟨p, make_of_prepares hp, hp, by simp [htimeout, failure?]⟩

theorem prepares_of_make {p : Preparation} (hm : make h locale r = .ok p) :
    r.Prepares h p ∧ Stage.first? h r = none := by
  rcases make_cases h locale r with ⟨p', hm', hp⟩ | ⟨l, problem, hm', -⟩
  · rw [hm'] at hm
    cases hm
    exact hp
  · rw [hm'] at hm
    cases hm

theorem first?_of_make {l : Locale} {problem : Problem}
    (hm : make h locale r = .error (l, problem)) : Stage.first? h r = some problem := by
  rcases make_cases h locale r with ⟨p, hm', -⟩ | ⟨l', problem', hm', hfirst⟩
  · rw [hm'] at hm
    cases hm
  · rw [hm'] at hm
    cases hm
    exact hfirst

end Preparation

/-! ## Executions -/

/-- How a request to run the benchmarks may be carried out, whatever order the
invocations of each document end in. -/
inductive RunRequest.Executes (r : RunRequest) (h : Host) (m : Machine) (look : Look) :
    CommandRun → Prop where
  | refused {locale : Locale} {problem : Problem} :
    Preparation.make h look.locale r = .error (locale, problem) →
    Executes r h m look ⟨h, #[], "", locale, .error problem⟩
  | ran {p : Preparation} {run : SuiteRun} :
    Preparation.make h look.locale r = .ok p →
    SuiteRun.Reaches (p.invoker m) (p.options m ⟨p.locale, look.colour⟩ r) (.start h)
      p.plan.files run →
    Executes r h m look (p.conclude m look.colour r run)

theorem RunRequest.carryOut_executes (r : RunRequest) (h : Host) (m : Machine) (look : Look) :
    r.Executes h m look (r.carryOut h m look) := by
  unfold carryOut
  split
  · rename_i locale problem hm
    exact .refused hm
  · rename_i p hm
    exact .ran hm (SuiteRun.runFilesFrom_reaches _ _ _ _)

theorem ProgramRun.stdout_ofCommandRun (c : CommandRun) : (ofCommandRun c).stdout = c.printed := by
  unfold ofCommandRun
  split <;> rfl

theorem ProgramRun.exitCode_ofCommandRun_eq_zero_iff (c : CommandRun) :
    (ofCommandRun c).exitCode = 0 ↔ c.result = .ok true := by
  cases hc : c.result with
  | error p => simp [ofCommandRun, hc]
  | ok success => cases success <;> simp [ofCommandRun, hc]

def Turn.summary (ts : List Turn) : RunSummary :=
  .ofCategories (ts.map fun t => t.schedule.category)

theorem Turns.isSuccess_iff {invoke : Invoker} {o : RunOptions} {h h' : Host}
    {files : List String} {ts : List Turn} (hts : Turns invoke o h files ts h') :
    (Turn.summary ts).isSuccess = true ↔
      ∀ t ∈ ts, ∀ x ∈ t.schedule.category.results.toList, x.passed = true := by
  rw [Turn.summary, RunSummary.isSuccess_ofCategories_iff, List.forall_mem_map]
  apply forall₂_congr
  intro t ht
  obtain ⟨h, hc⟩ := hts.covers t ht
  rw [hc.category, CategoryResult.failed_ofResults_eq_zero_iff, CategoryResult.results_ofResults]

namespace Preparation

/-- The ways in which a run that is prepared ends, by the files whose turn has not come:
the first of them cannot be loaded, or there are none. -/
inductive Ends (p : Preparation) (m : Machine) (look : Look) (r : RunRequest) (ts : List Turn)
    (host : Host) (c : CommandRun) : List String → Prop where
  | unloadable {file : String} {files : List String} {problem : Problem} :
    Document.load host file = .error problem → c.result = .error problem → c.host = host →
    Ends p m look r ts host c (file :: files)
  | unwritable {path : String} {e : FileError} : r.page = some path →
    host.writeText path (Page.report look.locale m.time (Turn.summary ts)) = .error e →
    c.result = .error (.pageUnwritable path e) →
    (∃ before, c.printed = before ++ resultText look r (Turn.summary ts)) → c.host = host →
    Ends p m look r ts host c []
  | judged {success : Bool} :
    (∀ path, r.page = some path → ∃ h,
      host.writeText path (Page.report look.locale m.time (Turn.summary ts)) = .ok h) →
    c.result = .ok success →
    (success = true ↔ ∀ t ∈ ts, ∀ x ∈ t.schedule.category.results.toList, x.passed = true) →
    (∃ before after, c.printed = before ++ resultText look r (Turn.summary ts) ++ after) →
    Ends p m look r ts host c []

theorem calls_conclude (p : Preparation) (m : Machine) (colour : Bool) (r : RunRequest)
    (run : SuiteRun) : (p.conclude m colour r run).calls = run.calls := by
  cases hp : run.problem with
  | some problem => simp [conclude, hp]
  | none =>
    cases hw : writePage run.host m ⟨p.locale, colour⟩ r run.summary <;> simp [conclude, hp, hw]

theorem conclude_ends (p : Preparation) (m : Machine) (colour : Bool) (r : RunRequest)
    {run : SuiteRun} {ts : List Turn} {rest : List String} (hs : run.summary = Turn.summary ts)
    (hsuccess : (Turn.summary ts).isSuccess = true ↔
      ∀ t ∈ ts, ∀ x ∈ t.schedule.category.results.toList, x.passed = true)
    (hend : rest = [] ∧ run.problem = none ∨ ∃ file back problem, rest = file :: back ∧
      Document.load run.host file = .error problem ∧ run.problem = some problem) :
    p.Ends m ⟨p.locale, colour⟩ r ts run.host (p.conclude m colour r run) rest := by
  rcases hend with ⟨rfl, hp⟩ | ⟨file, back, problem, rfl, hload, hp⟩
  · let before := (if r.json then "" else p.heading ⟨p.locale, colour⟩) ++ run.printed
    cases hpage : r.page with
    | none =>
      refine .judged (by simp [hpage]) ?_ hsuccess ⟨before, "", ?_⟩
      · simp [conclude, hp, writePage, hpage, hs]
      · simp [conclude, hp, writePage, hpage, hs, before]
    | some path =>
      cases hwrite : run.host.writeText path
        (Page.report p.locale m.time (Turn.summary ts)) with
      | error e =>
        refine .unwritable hpage hwrite ?_ ⟨before, ?_⟩ ?_
        all_goals simp [conclude, hp, writePage, hpage, hs, hwrite, before]
      | ok h =>
        refine .judged ?_ ?_ hsuccess ⟨before, if r.json then "" else Console.printed
          ((⟨p.locale, colour⟩ : Look).paint .green
            ((⟨p.locale, colour⟩ : Look).say (.pageWritten path))), ?_⟩
        · simp [hpage, hwrite]
        all_goals simp [conclude, hp, writePage, hpage, hs, hwrite, before]
  · exact .unloadable hload (by simp [conclude, hp]) (by simp [conclude, hp])

end Preparation

open CommandLine in
/-- A request is refused at the first stage that has a problem, before anything is done.
Without one, the planned documents take their turns, and the run ends with the first that
cannot be loaded, with a page that cannot be written, or with its verdict. The program
succeeds exactly when the verdict is that all cases have passed. -/
theorem first_problem_ends_run (r : RunRequest) (h : Host) (m : Machine) (look : Look) :
    r.Executes h m look (r.carryOut h m look) ∧
    (∀ c, r.Executes h m look c → match Stage.first? h r with
      | some problem => c.result = .error problem ∧ c.host = h ∧ c.calls = #[] ∧ c.printed = ""
      | none => ∃ p front rest ts host, r.Prepares h p ∧ p.plan.files = front ++ rest ∧
          Turns (p.invoker m) (p.options m ⟨p.locale, look.colour⟩ r) h front ts host ∧
          c.calls.toList = (ts.map Turn.document).flatMap (fun d => d.entries.map Job.call) ∧
          (∀ t ∈ ts, Job.AllGive (p.invoker m) t.document.entries
            t.schedule.category.results.toList) ∧
          p.Ends m ⟨p.locale, look.colour⟩ r ts host c rest) ∧
    (∀ c, (ProgramRun.ofCommandRun c).exitCode = 0 ↔ c.result = .ok true) ∧
    ∀ keyboard terminal argv parsed, parse argv = .ok parsed → parsed.command = .run →
      runProgram h m keyboard terminal argv = .ofCommandRun
        ((parsed.runRequest (spokenLanguage? argv)).carryOut h m
          ⟨Locale.resolve (spokenLanguage? argv) h.environment,
            wantsColour h.environment terminal⟩) := by
  refine ⟨r.carryOut_executes h m look, fun c hc => ?_,
    ProgramRun.exitCode_ofCommandRun_eq_zero_iff, ?_⟩
  · cases hc with
    | @refused locale problem hm => simp [Preparation.first?_of_make hm]
    | @ran p run hm hr =>
      obtain ⟨hp, hfirst⟩ := Preparation.prepares_of_make hm
      obtain ⟨front, rest, ts, hfiles, hts, hg, hend⟩ := hr.turns
      simp only [hfirst]
      refine ⟨p, front, rest, ts, run.host, hp, hfiles, hts, ?_, fun t ht => (hg.turns t ht).2, ?_⟩
      · rw [Preparation.calls_conclude, hg.calls]
      · exact p.conclude_ends m look.colour r hg.summary hts.isSuccess_iff hend
  · intro keyboard terminal argv parsed hparsed hcommand
    simp [runProgram, hparsed, hcommand]

/-- The settings of a project forbid every run, and it has no interpreter. A request that
brings its own limit gets past the first of these; with an interpreter that is named, a
project whose documents are still to be written succeeds. -/
theorem own_limit_passes_first_stages :
    let file (text : String) : Inode := ⟨.file (Text.encode text), 0o755, 0⟩
    let h : Host := ⟨(((FileTree.empty.put ["p"] ⟨.folder, 0o755, 0⟩).put ["p", "Harness.toml"]
      (file "timeout_secs = 0\n")).put ["p", "goth"] (file "#!/bin/sh\n")).put ["p", "tests"]
      ⟨.folder, 0o755, 0⟩, [], ⟨[]⟩, 0⟩
    let m : Machine := ⟨fun _ h => ([], h), 1, ""⟩
    let look : Look := ⟨.english, false⟩
    let request (interpreter : Option String) (limit : Option UInt64) : RunRequest :=
      ⟨none, false, false, interpreter, "/p", none, some "tests", none, limit, none, none⟩
    let run (r : RunRequest) : CommandRun := r.carryOut h m look
    (run (request none none)).result = .error .timeoutTooShort ∧
      (run (request none none)).host = h ∧ (run (request none none)).printed = "" ∧
      (run (request none (some 5))).result = .error (.interpreterNotFound "goth") ∧
      (run (request (some "./goth") (some 5))).result = .ok true := by
  intro file h m look request run
  have refused {r : RunRequest} {problem : Problem} (hfirst : Stage.first? h r = some problem) :
      (run r).result = .error problem ∧ (run r).host = h ∧ (run r).calls = #[] ∧
        (run r).printed = "" := by
    obtain ⟨hrun, hall, -⟩ := first_problem_ends_run r h m look
    simpa only [hfirst] using hall _ hrun
  obtain ⟨hresult, hhost, -, hprinted⟩ := refused
    (show Stage.first? h (request none none) = some .timeoutTooShort by decide +kernel)
  obtain ⟨hresult', -⟩ := refused (show Stage.first? h (request none (some 5)) =
    some (.interpreterNotFound "goth") by decide +kernel)
  refine ⟨hresult, hhost, hprinted, hresult', ?_⟩
  obtain ⟨hrun, hall, -⟩ := first_problem_ends_run (request (some "./goth") (some 5)) h m look
  have hfirst : Stage.first? h (request (some "./goth") (some 5)) = none := by decide +kernel
  have hfiles : (Preparation.make h .english (request (some "./goth") (some 5))).toOption.map
      (fun p => p.plan.files) = some [] := by decide +kernel
  obtain ⟨p, front, rest, ts, host, hp, hplan, hts, -, -, hend⟩ := by
    simpa only [hfirst] using hall _ hrun
  have hempty : front ++ rest = [] := by
    rw [Preparation.make_of_prepares hp] at hfiles
    rw [← hplan]
    simpa [Except.toOption] using hfiles
  obtain ⟨rfl, rfl⟩ := List.append_eq_nil_iff.mp hempty
  cases hts
  cases hend with
  | unwritable hpage => cases hpage
  | judged _ hresult hsuccess _ =>
    rw [hresult, hsuccess.mpr (by simp)]

end Assay
