import Assay.Proofs.Command.Stages
import Assay.Proofs.Text.Printed

/-!
# Reports beside the work

How a run is reported, in which language and with how many cases at once has no
part in what is run and what comes of it. Two requests that differ in nothing
else start the same processes and end with the same summary and the same
verdict; and where the structured report is asked for, it is all that is
printed.
-/

set_option autoImplicit false

namespace Assay

/-! ## Processes -/

/-- What a process ends with depends on how it is started alone. -/
def Spawner.Answers (spawn : Spawner) (answer : ProcessRequest → Outcome) : Prop :=
  ∀ request h, Outcome.ofEvents (spawn request h).1 = answer request

/-- Something about a host that no process changes. -/
def Spawner.Keeps {α : Type} (spawn : Spawner) (view : Host → α) : Prop :=
  ∀ request h, view (spawn request h).2 = view h

namespace Interpreter

variable {spawn : Spawner}

theorem invoker_answers (i : Interpreter) {answer : ProcessRequest → Outcome}
    (ha : spawn.Answers answer) :
    (i.invoker spawn).Answers fun file inputs => answer (i.request (file, inputs)) :=
  fun file inputs h => ha (i.request (file, inputs)) h

theorem invoker_keeps (i : Interpreter) {α : Type} {view : Host → α} (hk : spawn.Keeps view) :
    (i.invoker spawn).Keeps view :=
  fun file inputs h => hk (i.request (file, inputs)) h

end Interpreter

/-! ## Pages -/

namespace FileTree

variable (m : Making) (t : FileTree)

theorem writeNode_failure (number : Nat) {c d : Bytes} (hc : c ≠ []) (hd : d ≠ []) :
    failure? (t.writeNode m number c) = failure? (t.writeNode m number d) := by
  unfold writeNode
  split
  · simp [hc, hd]
  · rfl
  · rfl

theorem writeFile_failure (folder : Place) (path : String) {c d : Bytes} (hc : c ≠ [])
    (hd : d ≠ []) :
    failure? (t.writeFile m folder path c) = failure? (t.writeFile m folder path d) := by
  unfold writeFile
  cases t.obtain m folder path with
  | error e => rfl
  | ok found => exact writeNode_failure m found.1 found.2 hc hd

end FileTree

namespace Host

def refusal? (h : Host) (path : String) : Option FileError := failure? (h.writeText path "page")

theorem writeText_failure (h : Host) (path : String) {text : String} (ht : text ≠ "") :
    failure? (h.writeText path text) = h.refusal? path := by
  have hpage : Text.encode "page" ≠ [] := Text.encode_ne_nil (by decide)
  have hfile := h.files.writeFile_failure h.making h.folder path (Text.encode_ne_nil ht) hpage
  unfold refusal? writeText
  generalize h.files.writeFile h.making h.folder path (Text.encode text) = x at *
  generalize h.files.writeFile h.making h.folder path (Text.encode "page") = y at *
  cases x <;> cases y <;> simp_all [failure?, Except.map]

end Host

theorem Page.report_ne_empty (locale : Locale) (time : String) (s : RunSummary) :
    report locale time s ≠ "" := by
  simp [report, Markup.renderPage]

namespace Preparation

variable (p : Preparation) (m : Machine) (colour : Bool) (r : RunRequest) (run : SuiteRun)

/-- The verdict of a run depends on its summary, on the document that has stopped it, and
on whether the page can be written. -/
theorem result_conclude : (p.conclude m colour r run).result =
    match run.problem with
    | some problem => .error problem
    | none =>
      match r.page.bind fun path => (run.host.refusal? path).map (Problem.pageUnwritable path) with
      | some problem => .error problem
      | none => .ok run.summary.isSuccess := by
  cases hp : run.problem with
  | some problem => simp [conclude, hp]
  | none =>
    cases hpage : r.page with
    | none => simp [conclude, hp, writePage, hpage]
    | some path =>
      have hwrite := run.host.writeText_failure path
        (Page.report_ne_empty p.locale m.time run.summary)
      cases hw : run.host.writeText path (Page.report p.locale m.time run.summary) with
      | error e =>
        rw [hw] at hwrite
        simp [conclude, hp, writePage, hpage, hw, ← hwrite, failure?]
      | ok h =>
        rw [hw] at hwrite
        simp [conclude, hp, writePage, hpage, hw, ← hwrite, failure?]

/-- Nothing is said of the page where the structured report is asked for. -/
theorem note_writePage {h h' : Host} {look : Look} {s : RunSummary} {note : String}
    (hjson : r.json = true) (hw : writePage h m look r s = .ok (h', note)) : note = "" := by
  unfold writePage at hw
  split at hw
  · cases hw
    rfl
  · split at hw
    · cases hw
    · simp only [hjson, if_pos] at hw
      cases hw
      rfl

theorem printed_conclude (hjson : r.json = true) (hp : run.problem = none)
    (hprinted : run.printed = "") :
    (p.conclude m colour r run).printed = run.summary.structuredReport ++ "\n" := by
  cases hw : writePage run.host m ⟨p.locale, colour⟩ r run.summary with
  | error problem => simp [conclude, hp, hw, hjson, hprinted, resultText, Console.printed]
  | ok done =>
    have hnote : done.2 = "" := note_writePage m r hjson hw
    simp [conclude, hp, hw, hjson, hprinted, resultText, Console.printed, hnote]

end Preparation

/-! ## Requests for the same work -/

namespace RunRequest

/-- Two requests differ at most in how the run is to be reported, and in how many cases
may be run at once. -/
def SameWork (r₁ r₂ : RunRequest) : Prop :=
  r₂ = { r₁ with
    verbose := r₂.verbose, json := r₂.json, language := r₂.language, jobs := r₂.jobs,
    page := r₂.page }

/-- An execution of a request that is prepared, with the run of its documents. -/
structure Runs (r : RunRequest) (h : Host) (m : Machine) (look : Look) (p : Preparation)
    (run : SuiteRun) (c : CommandRun) : Prop where
  prepares : r.Prepares h p
  reaches : SuiteRun.Reaches (p.invoker m) (p.options m ⟨p.locale, look.colour⟩ r) (.start h)
    p.plan.files run
  concludes : c = p.conclude m look.colour r run

variable {r r₁ r₂ : RunRequest} {h : Host} {m : Machine} {look : Look}
  {p p₁ p₂ : Preparation} {run : SuiteRun} {c : CommandRun}

theorem Executes.runs (hc : r.Executes h m look c) (hfirst : Stage.first? h r = none) :
    ∃ p run, r.Runs h m look p run c := by
  cases hc with
  | @refused locale problem hm =>
    rw [Preparation.first?_of_make hm] at hfirst
    cases hfirst
  | @ran p run hm hr => exact ⟨p, run, (Preparation.prepares_of_make hm).1, hr, rfl⟩

theorem SameWork.first?_eq (hs : r₁.SameWork r₂) (h : Host) :
    Stage.first? h r₁ = Stage.first? h r₂ := by
  rw [hs]
  rfl

theorem SameWork.prepares (hs : r₁.SameWork r₂) (h₁ : r₁.Prepares h p₁) (h₂ : r₂.Prepares h p₂) :
    p₁.process = p₂.process ∧ p₁.plan = p₂.plan := by
  rw [hs] at h₂
  have hroot : p₁.root = p₂.root := Except.ok.inj (h₁.root.symm.trans h₂.root)
  obtain ⟨s₁, hload₁, hs₁⟩ := h₁.settings
  obtain ⟨s₂, hload₂, hs₂⟩ := h₂.settings
  rw [hroot] at hload₁
  obtain rfl : s₁ = s₂ := Except.ok.inj (hload₁.symm.trans hload₂)
  have htimeout : p₁.settings.timeoutSecs = p₂.settings.timeoutSecs := by rw [hs₁, hs₂]; rfl
  have hbinary : p₁.settings.binary = p₂.settings.binary := by rw [hs₁, hs₂]; rfl
  have hname : p₁.settings.binaryName = p₂.settings.binaryName := by rw [hs₁, hs₂]; rfl
  have hfolder : p₁.settings.testsDir = p₂.settings.testsDir := by rw [hs₁, hs₂]; rfl
  have hinterpreter : p₁.interpreter = p₂.interpreter := by
    have h := h₁.interpreter
    rw [hroot, hbinary, hname] at h
    exact Except.ok.inj (h.symm.trans h₂.interpreter)
  have htestsDir : p₁.testsDir = p₂.testsDir := by
    rw [h₁.testsDir, h₂.testsDir, Settings.testsDirIn, Settings.testsDirIn, hroot, hfolder]
  refine ⟨?_, ?_⟩
  · rw [Preparation.process, Preparation.process, hinterpreter, hroot, htimeout]
  · have h := h₁.plan
    rw [htestsDir] at h
    exact Except.ok.inj (h.symm.trans h₂.plan)

/-- What a run prints of its cases is nothing where the structured report is asked for. -/
theorem Runs.printed_eq_empty (hr : r.Runs h m look p run c) (hjson : r.json = true) :
    run.printed = "" := by
  obtain ⟨_, _, ts, -, -, hg, -⟩ := hr.reaches.turns
  have hquiet (category : String) (rs : List CaseResult) :
      (p.options m ⟨p.locale, look.colour⟩ r).transcript category rs = "" := by
    simp [Preparation.options, RunOptions.transcript, hjson]
  have hjoin (ts : List Turn) : String.join (ts.map fun _ => "") = "" := by
    induction ts with
    | nil => rfl
    | cons t ts ih => simpa using ih
  rw [hg.printed]
  simp only [hquiet]
  exact hjoin ts

/-- What a run comes to where processes have fixed answers and leave the documents alone. -/
theorem Runs.answered (hr : r.Runs h m look p run c) {answer : ProcessRequest → Outcome}
    (ha : m.spawn.Answers answer)
    (hk : ∀ file ∈ p.plan.files, m.spawn.Keeps fun h => Document.load h file) :
    run.problem = p.plan.files.findSome? (Document.problem? h) ∧
      run.calls.toList =
        (Document.leading h p.plan.files).flatMap (fun d => d.entries.map Job.call) ∧
      run.summary = .ofCategories ((Document.leading h p.plan.files).map
        (Document.answered fun file inputs => answer (p.process.request (file, inputs)))) :=
  hr.reaches.answered (p.process.invoker_answers ha)
    fun file hf => p.process.invoker_keeps (hk file hf)

theorem Runs.keeps (hr : r.Runs h m look p run c) {α : Type} {view : Host → α}
    (hk : m.spawn.Keeps view) : view run.host = view h := by
  obtain ⟨_, _, ts, -, hts, -⟩ := hr.reaches.turns
  exact hts.keeps (p.process.invoker_keeps hk)

end RunRequest

open RunRequest in
/-- Requests that differ in how the run is reported get past the same stages, start the
same processes and end with the same summary, and with the same verdict if they ask for the
same page. Where the structured report is asked for, nothing else is printed. -/
theorem reporting_has_no_part_in_verdict (h : Host) (m₁ m₂ : Machine) (r₁ r₂ : RunRequest)
    (answer : ProcessRequest → Outcome) (hspawn : m₂.spawn = m₁.spawn)
    (ha : m₁.spawn.Answers answer) (hsame : r₁.SameWork r₂) :
    Stage.first? h r₁ = Stage.first? h r₂ ∧
    (∀ look₁ look₂ c₁ c₂, r₁.Executes h m₁ look₁ c₁ → r₂.Executes h m₂ look₂ c₂ →
      Stage.first? h r₁ = none → ∃ p₁ p₂ run₁ run₂,
        r₁.Runs h m₁ look₁ p₁ run₁ c₁ ∧ r₂.Runs h m₂ look₂ p₂ run₂ c₂ ∧
        ((∀ file ∈ p₁.plan.files, m₁.spawn.Keeps fun h => Document.load h file) →
          c₁.calls.toList.map p₁.process.request = c₂.calls.toList.map p₂.process.request ∧
          run₁.summary = run₂.summary ∧ run₁.problem = run₂.problem ∧
          (r₁.page = r₂.page →
            (∀ path, r₁.page = some path → m₁.spawn.Keeps fun h => h.refusal? path) →
            c₁.result = c₂.result) ∧
          (r₁.json = true → r₂.json = true → run₁.problem = none → c₁.printed = c₂.printed))) ∧
    ∀ m r look c, r.Executes h m look c → Stage.first? h r = none → r.json = true →
      ∃ p run, r.Runs h m look p run c ∧ (run.problem = none →
        (ProgramRun.ofCommandRun c).stdout = run.summary.structuredReport ++ "\n") := by
  have hreport {m : Machine} {r : RunRequest} {look : Look} {p : Preparation} {run : SuiteRun}
      {c : CommandRun} (hr : r.Runs h m look p run c) (hjson : r.json = true)
      (hp : run.problem = none) : c.printed = run.summary.structuredReport ++ "\n" := by
    rw [hr.concludes]
    exact p.printed_conclude m look.colour r run hjson hp (hr.printed_eq_empty hjson)
  refine ⟨hsame.first?_eq h, fun look₁ look₂ c₁ c₂ hc₁ hc₂ hfirst => ?_,
    fun m r look c hc hfirst hjson => ?_⟩
  · obtain ⟨p₁, run₁, hr₁⟩ := hc₁.runs hfirst
    obtain ⟨p₂, run₂, hr₂⟩ := hc₂.runs ((hsame.first?_eq h).symm.trans hfirst)
    obtain ⟨hprocess, hplan⟩ := hsame.prepares hr₁.prepares hr₂.prepares
    refine ⟨p₁, p₂, run₁, run₂, hr₁, hr₂, fun hk => ?_⟩
    -- Either run is told by the documents and the answers, in which no option occurs.
    obtain ⟨hproblem₁, hcalls₁, hsummary₁⟩ := hr₁.answered ha hk
    rw [hprocess] at hsummary₁
    rw [← hspawn] at ha
    obtain ⟨hproblem₂, hcalls₂, hsummary₂⟩ := hr₂.answered ha (by rwa [hspawn, ← hplan])
    rw [← hplan] at hproblem₂ hcalls₂ hsummary₂
    have hsummary : run₁.summary = run₂.summary := hsummary₁.trans hsummary₂.symm
    have hproblem : run₁.problem = run₂.problem := hproblem₁.trans hproblem₂.symm
    refine ⟨?_, hsummary, hproblem, fun hpage hkpage => ?_, fun hjson₁ hjson₂ hp => ?_⟩
    · rw [hr₁.concludes, hr₂.concludes, Preparation.calls_conclude, Preparation.calls_conclude,
        hcalls₁, hcalls₂, hprocess]
    · have hrefusal : r₁.page.bind (fun path =>
          (run₁.host.refusal? path).map (Problem.pageUnwritable path)) =
          r₂.page.bind fun path =>
            (run₂.host.refusal? path).map (Problem.pageUnwritable path) := by
        cases hp : r₁.page with
        | none => simp [← hpage, hp]
        | some path =>
          have hk₁ := hr₁.keeps (hkpage path hp)
          have hk₂ := hr₂.keeps (hspawn ▸ hkpage path hp)
          simp only [← hpage, hp, Option.bind_some]
          rw [hk₁, hk₂]
      rw [hr₁.concludes, hr₂.concludes, Preparation.result_conclude, Preparation.result_conclude,
        hproblem, hsummary, hrefusal]
    · rw [hreport hr₁ hjson₁ hp, hreport hr₂ hjson₂ (hproblem ▸ hp), hsummary]
  · obtain ⟨p, run, hr⟩ := hc.runs hfirst
    refine ⟨p, run, hr, fun hp => ?_⟩
    rw [ProgramRun.stdout_ofCommandRun]
    exact hreport hr hjson hp

open RunRequest in
/-- One suite, run one case at a time and with colour, as many at once as there are
processors and in Chinese, and twice with the structured report. -/
theorem suite_reported_in_four_ways :
    let file (text : String) : Inode := ⟨.file (Text.encode text), 0o755, 0⟩
    let h : Host := ⟨(((FileTree.empty.put ["p"] ⟨.folder, 0o755, 0⟩).put ["p", "goth"]
      (file "#!/bin/sh\n")).put ["p", "tests"] ⟨.folder, 0o755, 0⟩).put ["p", "tests", "a.json"]
      (file "[\"a\", [[\"f\", \"1\", [[[7], \"x\"], [[8], \"8\"]]]]]"), [], ⟨[]⟩, 0⟩
    let spawn : Spawner := fun request h =>
      ([.chunk .stdout (request.arguments.flatMap Text.encode), .streamEnd .stdout,
        .streamEnd .stderr, .exit ⟨0⟩], h)
    let request (verbose json : Bool) (language : String) (jobs : UInt64) : RunRequest :=
      ⟨none, verbose, json, some "./goth", "/p", none, some "tests", some jobs, none, none,
        some language⟩
    let run (r : RunRequest) (processors : Nat) (look : Look) : CommandRun :=
      r.carryOut h ⟨spawn, processors, ""⟩ look
    let one := run (request true false "en" 1) 1 ⟨.english, true⟩
    let many := run (request false false "zh-CN" 0) 8 ⟨.chinese, false⟩
    let report := run (request true true "en" 1) 1 ⟨.english, true⟩
    let same := run (request false true "zh-CN" 0) 8 ⟨.chinese, false⟩
    one.result = many.result ∧ one.result = report.result ∧ report.printed = same.printed := by
  intro file h spawn request run one many report same
  have ha : Spawner.Answers spawn fun request => Outcome.ofEvents (spawn request h).1 :=
    fun _ _ => rfl
  have hk {α : Type} (view : Host → α) : Spawner.Keeps spawn view := fun _ _ => rfl
  have hfirst : Stage.first? h (request false false "" 1) = none := by decide +kernel
  have hmake : (Preparation.make h .english (request false false "" 1)).toOption.map
      (fun p => p.plan.files) = some ["/p/tests/a.json"] := by decide +kernel
  have hfiles {v j : Bool} {l : String} {n : UInt64} {p : Preparation}
      (hp : (request v j l n).Prepares h p) : p.plan.files = ["/p/tests/a.json"] := by
    cases hm : Preparation.make h .english (request false false "" 1) with
    | error e => simp [hm, Except.toOption] at hmake
    | ok plain =>
      have hsame : (request v j l n).SameWork (request false false "" 1) := rfl
      obtain ⟨-, hplan⟩ := hsame.prepares hp (Preparation.prepares_of_make hm).1
      rw [hplan]
      simpa [hm, Except.toOption] using hmake
  have hnone : Document.problem? h "/p/tests/a.json" = none := by decide +kernel
  have agree (v₁ v₂ j₁ j₂ : Bool) (l₁ l₂ : String) (n₁ n₂ : UInt64) (k₁ k₂ : Nat)
      (look₁ look₂ : Look) :
      (run (request v₁ j₁ l₁ n₁) k₁ look₁).result = (run (request v₂ j₂ l₂ n₂) k₂ look₂).result ∧
        (j₁ = true → j₂ = true → (run (request v₁ j₁ l₁ n₁) k₁ look₁).printed =
          (run (request v₂ j₂ l₂ n₂) k₂ look₂).printed) := by
    obtain ⟨-, hall, -⟩ := reporting_has_no_part_in_verdict h ⟨spawn, k₁, ""⟩ ⟨spawn, k₂, ""⟩
      (request v₁ j₁ l₁ n₁) (request v₂ j₂ l₂ n₂) _ rfl ha rfl
    obtain ⟨p₁, p₂, run₁, run₂, hr₁, hr₂, hsame⟩ := hall look₁ look₂ _ _
      (carryOut_executes ..) (carryOut_executes ..) hfirst
    obtain ⟨-, -, -, hresult, hprinted⟩ := hsame fun _ _ => hk _
    refine ⟨hresult rfl fun _ _ => hk _, fun hj₁ hj₂ => hprinted hj₁ hj₂ ?_⟩
    obtain ⟨hproblem, -⟩ := hr₁.answered ha fun _ _ => hk _
    rw [hproblem, hfiles hr₁.prepares]
    simp [hnone]
  exact ⟨(agree ..).1, (agree ..).1, (agree ..).2 rfl rfl⟩

end Assay
