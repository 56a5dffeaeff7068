import Assay.Proofs.Command.Reporting

/-!
# The locale of a run

A locale is looked for among a few tags, and the first of them that is shipped
counts. A run looks twice: once before its command line is read, and once more
when its settings are known. From then on everything it tells is told in the one
locale that was found, in which the same run could have been asked for by name.
-/

set_option autoImplicit false

namespace Assay

namespace Locale

/-- The part of a tag in front of its first hyphen. -/
def languagePart (tag : String) : String := String.ofList (tag.toList.takeWhile (· != '-'))

/-- Tags in the order in which they count: the one that is asked for, or else that of the
settings; that of the system; its language alone; and English. -/
def wanted (asked settled : Option String) (system : String) : List String :=
  (asked.or settled).toList ++ [system, languagePart system, "en"]

/-- A shipped locale whose tag is met before that of any other one. -/
structure FirstShipped (tags : List String) (l : Locale) : Prop where
  isShipped : l ∈ shipped
  first : ∃ before after, tags = before ++ l.tag :: after ∧
    ∀ tag ∈ before, ∀ other ∈ shipped, other.tag ≠ tag

theorem ofTag?_eq_some_iff {tag : String} {l : Locale} : ofTag? tag = some l ↔ l.tag = tag := by
  constructor
  · exact tag_of_ofTag?
  · rintro rfl
    exact ofTag?_tag l

theorem ofTag?_eq_none_iff {tag : String} :
    ofTag? tag = none ↔ ∀ other ∈ shipped, other.tag ≠ tag := by
  simp [ofTag?]

theorem mem_shipped (l : Locale) : l ∈ shipped := by
  cases l <;> decide

theorem findSome?_ofTag?_iff {tags : List String} {l : Locale} :
    tags.findSome? ofTag? = some l ↔ FirstShipped tags l := by
  rw [List.findSome?_eq_some_iff]
  constructor
  · rintro ⟨before, tag, after, rfl, htag, hbefore⟩
    rw [ofTag?_eq_some_iff] at htag
    subst htag
    exact ⟨mem_shipped l, before, after, rfl, fun t ht => ofTag?_eq_none_iff.1 (hbefore t ht)⟩
  · rintro ⟨-, before, after, rfl, hbefore⟩
    exact ⟨before, l.tag, after, rfl, ofTag?_tag l, fun t ht =>
      ofTag?_eq_none_iff.2 (hbefore t ht)⟩

/-- English is shipped, so the search always ends at a locale. -/
theorem resolve_firstShipped (asked settled : Option String) (env : Environment) :
    FirstShipped (wanted asked settled ((system? env).getD "en"))
      (resolve (asked.or settled) env) := by
  rw [← findSome?_ofTag?_iff]
  have hwanted : wanted asked settled ((system? env).getD "en") =
      candidates (asked.or settled) env ++ ["en"] := by
    simp [wanted, candidates, languagePart]
  have henglish : ["en"].findSome? ofTag? = some english := by decide
  rw [hwanted, List.findSome?_append, henglish, resolve]
  cases (candidates (asked.or settled) env).findSome? ofTag? <;> rfl

end Locale

namespace RunRequest

/-- What the parts of a run that ends with its results tell, each of them in the given look:
the heading, the lines of the cases, the results, a note on the page, and the page. -/
structure TellsIn (r : RunRequest) (m : Machine) (p : Preparation) (run : SuiteRun) (look : Look)
    (c : CommandRun) : Prop where
  cases : ∃ ts : List Turn, run.summary = Turn.summary ts ∧ run.printed = String.join
    (ts.map fun t => (p.options m look r).transcript t.document.category
      t.schedule.category.results.toList)
  printed : ∃ note, c.printed = (if r.json then "" else p.heading look) ++ run.printed ++
      resultText look r run.summary ++ note ∧
    (note = "" ∨ ∃ path, r.page = some path ∧
      note = Console.printed (look.paint .green (look.say (.pageWritten path))))
  page : ∀ path, r.page = some path →
    let written := run.host.writeText path (Page.report look.locale m.time run.summary)
    written = .ok c.host ∨ ∃ e, written = .error e ∧ c.result = .error (.pageUnwritable path e)

def askedIn (r : RunRequest) (l : Locale) : RunRequest := { r with language := some l.tag }

variable {r : RunRequest} {h : Host} {m : Machine} {look : Look} {c : CommandRun}
  {p : Preparation}

theorem locale_conclude (p : Preparation) (m : Machine) (colour : Bool) (r : RunRequest)
    (run : SuiteRun) : (p.conclude m colour r run).locale = p.locale := by
  cases hp : run.problem with
  | some problem => simp [Preparation.conclude, hp]
  | none =>
    cases hw : writePage run.host m ⟨p.locale, colour⟩ r run.summary <;>
      simp [Preparation.conclude, hp, hw]

theorem conclude_tellsIn (m : Machine) (colour : Bool) {run : SuiteRun} {ts : List Turn}
    (hg : run.Gathers (p.invoker m) (p.options m ⟨p.locale, colour⟩ r) ts)
    (hp : run.problem = none) :
    r.TellsIn m p run ⟨p.locale, colour⟩ (p.conclude m colour r run) := by
  have hcases := And.intro hg.summary hg.printed
  cases hpage : r.page with
  | none =>
    refine ⟨⟨ts, hcases⟩, ⟨"", ?_, .inl rfl⟩, by simp [hpage]⟩
    simp [Preparation.conclude, hp, writePage, hpage]
  | some path =>
    cases hwrite : run.host.writeText path (Page.report p.locale m.time run.summary) with
    | error e =>
      refine ⟨⟨ts, hcases⟩, ⟨"", ?_, .inl rfl⟩, fun path' hpath' => .inr ⟨e, ?_⟩⟩
      · simp [Preparation.conclude, hp, writePage, hpage, hwrite]
      · obtain rfl : path = path' := Option.some.inj (hpage.symm.trans hpath')
        exact ⟨hwrite, by simp [Preparation.conclude, hp, writePage, hpage, hwrite]⟩
    | ok h =>
      refine ⟨⟨ts, hcases⟩, ?_, fun path' hpath' => .inl ?_⟩
      · cases hjson : r.json with
        | true =>
          exact ⟨"", by simp [Preparation.conclude, hp, writePage, hpage, hwrite, hjson], .inl rfl⟩
        | false =>
          refine ⟨_, ?_, .inr ⟨path, hpage, rfl⟩⟩
          simp [Preparation.conclude, hp, writePage, hpage, hwrite, hjson]
      · obtain rfl : path = path' := Option.some.inj (hpage.symm.trans hpath')
        simp [Preparation.conclude, hp, writePage, hpage, hwrite]

/-- Asking for the locale that a run has found leads to the same preparation but for the name
that the settings have for it. -/
theorem Prepares.askedIn (hp : r.Prepares h p) : (r.askedIn p.locale).Prepares h
    { p with settings := { p.settings with language := some p.locale.tag } } := by
  obtain ⟨loaded, hload, hsettings⟩ := hp.settings
  refine ⟨hp.root, ⟨loaded, hload, by rw [hsettings]; rfl⟩, ?_, hp.timeout, hp.interpreter,
    hp.testsDir, hp.plan⟩
  exact (Locale.resolve_tag p.locale h.environment).symm

theorem Executes.askedIn (hc : r.Executes h m look c) (hfirst : Stage.first? h r = none)
    (start : Locale) : (r.askedIn c.locale).Executes h m ⟨start, look.colour⟩ c := by
  cases hc with
  | refused hm =>
    rw [Preparation.first?_of_make hm] at hfirst
    cases hfirst
  | @ran p run hm hr =>
    rw [locale_conclude]
    let named : Preparation :=
      { p with settings := { p.settings with language := some p.locale.tag } }
    have hnamed : (r.askedIn p.locale).Prepares h named :=
      (Preparation.prepares_of_make hm).1.askedIn
    -- Nothing that is told names the language of the settings.
    have hsame : p.conclude m look.colour r run =
      named.conclude m look.colour (r.askedIn p.locale) run := rfl
    rw [hsame]
    exact .ran (Preparation.make_of_prepares hnamed) hr

end RunRequest

open CommandLine in
/-- A run tells its results in the first shipped locale among the one that is asked for, or else
that of the settings, that of the system, the language of the system, and English: on the console
and on the page alike, and as if it had been asked for by name. A locale that has been found is
found again, and the program starts in the same one wherever the settings have none. -/
theorem reports_speak_first_shipped (h : Host) (m : Machine) (r : RunRequest) :
    (∀ look c, r.Executes h m look c → Stage.first? h r = none →
      ∃ p run loaded, r.Runs h m look p run c ∧
        Settings.load h p.root r.settings = .ok loaded ∧
        Locale.FirstShipped (Locale.wanted r.language loaded.language
          ((Locale.system? h.environment).getD "en")) c.locale ∧
        (run.problem = none → r.TellsIn m p run ⟨c.locale, look.colour⟩ c) ∧
        (∀ start, (r.askedIn c.locale).Executes h m ⟨start, look.colour⟩ c) ∧
        (loaded.language = none → c.locale = Locale.resolve r.language h.environment)) ∧
    (∀ (asked : Option String) (env : Environment),
      Locale.resolve (some (Locale.resolve asked env).tag) h.environment =
        Locale.resolve asked env) ∧
    ∀ keyboard terminal argv parsed, parse argv = .ok parsed → parsed.command = .run →
      let request := parsed.runRequest (spokenLanguage? argv)
      runProgram h m keyboard terminal argv = .ofCommandRun (request.carryOut h m
        ⟨Locale.resolve request.language h.environment, wantsColour h.environment terminal⟩) := by
  refine ⟨fun look c hc hfirst => ?_, fun asked env => Locale.resolve_tag _ _, ?_⟩
  · obtain ⟨p, run, hr⟩ := hc.runs hfirst
    obtain ⟨loaded, hload, hsettings⟩ := hr.prepares.settings
    obtain ⟨_, _, ts, -, -, hg, -⟩ := hr.reaches.turns
    have hlocale : c.locale = p.locale := by
      rw [hr.concludes, RunRequest.locale_conclude]
    have hfound : p.locale = Locale.resolve (r.language.or loaded.language) h.environment := by
      rw [hr.prepares.locale, hsettings]
      rfl
    refine ⟨p, run, loaded, hr, hload, ?_, fun hp => ?_, hc.askedIn hfirst, fun hnone => ?_⟩
    · rw [hlocale, hfound]
      exact Locale.resolve_firstShipped r.language loaded.language h.environment
    · rw [hlocale, hr.concludes]
      exact RunRequest.conclude_tellsIn m look.colour hg hp
    · rw [hlocale, hfound, hnone, Option.or_none]
  · intro keyboard terminal argv parsed hparsed hcommand
    simp [runProgram, hparsed, hcommand, Parsed.runRequest]

open CommandLine in
/-- The settings ask for a language that is not shipped, so that of the system stands in for it,
while the program has started in the same one. -/
theorem system_locale_stands_in_for_unknown_language :
    let file (text : String) : Inode := ⟨.file (Text.encode text), 0o755, 0⟩
    let h : Host := ⟨(((FileTree.empty.put ["p"] ⟨.folder, 0o755, 0⟩).put ["p", "goth"]
      (file "#!/bin/sh\n")).put ["p", "tests"] ⟨.folder, 0o755, 0⟩).put ["p", "Harness.toml"]
      (file "language = 'de'\n"), [], ⟨[("LANG", "zh_CN.UTF-8")]⟩, 0⟩
    let m : Machine := ⟨fun _ h => ([], h), 1, ""⟩
    let argv := ["run", "--tests-dir=tests", "--binary", "./goth", "--project-root", "/p"]
    ∃ parsed, parse argv = .ok parsed ∧ parsed.command = .run ∧
      let r := parsed.runRequest (spokenLanguage? argv)
      Stage.first? h r = none ∧ ∃ c, r.Executes h m ⟨.chinese, false⟩ c ∧
        runProgram h m none false argv = .ofCommandRun c ∧ c.locale = .chinese := by
  intro file h m argv
  refine ⟨_, rfl, rfl, ?_⟩
  intro r
  have hfirst : Stage.first? h r = none := by decide +kernel
  obtain ⟨hruns, -, hprogram⟩ := reports_speak_first_shipped h m r
  have hc := r.carryOut_executes h m ⟨.chinese, false⟩
  obtain ⟨p, run, loaded, hr, hload, hspeaks, -⟩ := hruns _ _ hc hfirst
  refine ⟨hfirst, _, hc, hprogram none false argv _ rfl rfl, ?_⟩
  have hroot : h.projectRoot "/p" = .ok "/p" := by decide +kernel
  have hsettings : Settings.load h "/p" none =
      .ok { Settings.default with language := some "de" } := by decide +kernel
  have hp : "/p" = p.root := Except.ok.inj (hroot.symm.trans hr.prepares.root)
  rw [← hp] at hload
  obtain rfl := Except.ok.inj (hsettings.symm.trans hload)
  have htags : (Locale.wanted none (some "de") "zh-CN").findSome? Locale.ofTag? =
      some .chinese := by decide
  exact Option.some.inj ((Locale.findSome?_ofTag?_iff.2 hspeaks).symm.trans htags)

end Assay
