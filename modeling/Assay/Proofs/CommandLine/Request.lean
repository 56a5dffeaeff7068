import Assay.Proofs.CommandLine.Language
import Assay.Proofs.CommandLine.Uses

/-!
# Requests and the options they come from

A request to run says of each option what was written for it, wherever on the line
and in whatever spelling. It depends on nothing else, so that two lines that give
the same options ask for the same run. The one exception is the language, which is
looked up apart from the rest and is only sure where a single one is given. That
each field is taken from the option of its own, and as what that option holds, is
said by a conversion that looks both up in the table and may fail, and never does.
-/

set_option autoImplicit false

namespace Assay.CommandLine

section

variable {κ α : Type}

/-- The uses of an option give one value. -/
def Agree (given : List (κ × String)) (key : κ) : Prop :=
  ∀ v w, (key, v) ∈ given → (key, w) ∈ given → v = w

/-- A field follows an option: it is what the given value is read as, and `absent` if none
is given. -/
structure Follows (given : List (κ × String)) (key : κ) (read : String → α)
    (absent field : α) : Prop where
  present : ∀ v, (key, v) ∈ given → field = read v
  missing : (∀ v, (key, v) ∉ given) → field = absent

variable {given more : List (κ × String)} {key : κ} {read : String → α} {absent field field' : α}

theorem Follows.unique (h : Follows given key read absent field)
    (h' : Follows more key read absent field') (hperm : more.Perm given) : field' = field := by
  by_cases hm : ∃ v, (key, v) ∈ given
  · obtain ⟨v, hv⟩ := hm
    rw [h.present v hv, h'.present v (hperm.mem_iff.2 hv)]
  · have hm' : ∀ v, (key, v) ∉ given := fun v hv => hm ⟨v, hv⟩
    rw [h.missing hm', h'.missing fun v hv => hm' v (hperm.mem_iff.1 hv)]

theorem Agree.of_perm (h : Agree given key) (hperm : more.Perm given) : Agree more key :=
  fun v w hv hw => h v w (hperm.mem_iff.1 hv) (hperm.mem_iff.1 hw)

end

section

variable {uses : List OptionUse} {id : OptionId} {name : String}

theorem mem_named_iff (h : ∀ u ∈ uses, u.option.long = name ↔ u.option.id = id) (v : String) :
    (name, v) ∈ uses.map OptionUse.named ↔ (id, v) ∈ uses.map OptionUse.entry := by
  simp only [List.mem_map, OptionUse.named, OptionUse.entry, Prod.mk.injEq]
  constructor
  · rintro ⟨u, hu, hname, hv⟩
    exact ⟨u, hu, (h u hu).1 hname, hv⟩
  · rintro ⟨u, hu, hid, hv⟩
    exact ⟨u, hu, (h u hu).2 hid, hv⟩

theorem Follows.of_entries {α : Type} {read : String → α} {absent field : α}
    (hf : Follows (uses.map OptionUse.entry) id read absent field)
    (h : ∀ u ∈ uses, u.option.long = name ↔ u.option.id = id) :
    Follows (uses.map OptionUse.named) name read absent field where
  present := fun v hv => hf.present v ((mem_named_iff h v).1 hv)
  missing := fun hnone => hf.missing fun v hv => hnone v ((mem_named_iff h v).2 hv)

theorem Agree.to_entries (ha : Agree (uses.map OptionUse.named) name)
    (h : ∀ u ∈ uses, u.option.long = name ↔ u.option.id = id) :
    Agree (uses.map OptionUse.entry) id :=
  fun v w hv hw => ha v w ((mem_named_iff h v).2 hv) ((mem_named_iff h w).2 hw)

end

namespace Parsed

variable {p : Parsed} {key : OptionId} {v : String}

theorem mem_of_value? (h : p.value? key = some v) : (key, v) ∈ p.given := by
  obtain ⟨e, he, rfl⟩ := Option.map_eq_some_iff.1 h
  have hid : e.1 = key := by simpa using List.find?_some he
  rw [← hid]
  exact List.mem_of_find?_eq_some he

theorem follows_value? {α : Type} (h : Agree p.given key) (read : String → α) (absent : α) :
    Follows p.given key read absent ((p.value? key).elim absent read) := by
  cases hv : p.value? key with
  | none =>
    have hnone : ∀ v, (key, v) ∉ p.given := by
      intro v hm
      rw [value?, Option.map_eq_none_iff, List.find?_eq_none] at hv
      simpa using hv _ hm
    exact ⟨fun v hm => absurd hm (hnone v), fun _ => rfl⟩
  | some w =>
    have hw := mem_of_value? hv
    exact ⟨fun v hm => congrArg read (h w v hw hm), fun hnone => absurd hw (hnone w)⟩

theorem follows_text (h : Agree p.given key) : Follows p.given key some none (p.value? key) := by
  have hf := follows_value? h some none
  cases hv : p.value? key <;> rwa [hv] at hf

theorem follows_flag (h : Agree p.given key) :
    Follows p.given key (fun _ => true) false (p.isSet key) := by
  have hf := follows_value? h (fun _ => true) false
  unfold isSet
  cases hv : p.value? key <;> rwa [hv] at hf

theorem follows_word (h : Agree p.given key) :
    Follows p.given key readWord? none (p.word? key) := by
  have hf := follows_value? h readWord? none
  unfold word?
  cases hv : p.value? key <;> rwa [hv] at hf

theorem follows_projectRoot (h : Agree p.given .projectRoot) :
    Follows p.given .projectRoot id "." p.projectRoot := by
  have hf := follows_value? h id "."
  unfold projectRoot
  cases hv : p.value? .projectRoot <;> rwa [hv] at hf

theorem follows_language {argv : List String} (hp : parse argv = .ok p)
    (h : Agree p.given .language) :
    Follows p.given .language some none (spokenLanguage? argv) := by
  have hspoken : spokenLanguage? argv = p.value? .language := by
    apply spokenLanguage?_of_agree hp
    simp only [languages, List.mem_map, List.mem_filter, beq_iff_eq]
    rintro _ ⟨⟨_, v⟩, ⟨hv, rfl⟩, rfl⟩ _ ⟨⟨_, w⟩, ⟨hw, rfl⟩, rfl⟩
    exact h v w hv hw
  rw [hspoken]
  exact follows_text h

end Parsed

/-! ## A checked conversion -/

/-- What kinds of options a field may be taken from. -/
inductive Shape where
  | flag
  | text
  | path
  | number
deriving DecidableEq, Repr

def OptionKind.shape : OptionKind → Shape
  | .flag => .flag
  | .text => .text
  | .path => .path
  | .number _ => .number

namespace Parsed

/-- Fetches the value of an option, or the one that stands in for it. It fails if the command
has no such option, or one of another shape, or if the value cannot be read. -/
def fetch? {α : Type} (p : Parsed) (id : OptionId) (shape : Shape) (read : String → Option α) :
    Option (Option α) := do
  let o ← p.command.options.find? fun o => o.id == id
  if o.kind.shape = shape then
    match (p.value? id).or o.fallback with
    | none => some none
    | some v => (read v).map some
  else none

def checkedRunRequest? (p : Parsed) (language : Option String) : Option RunRequest := do
  let category ← p.fetch? .category .text some
  let verbose ← p.fetch? .verbose .flag some
  let json ← p.fetch? .json .flag some
  let interpreter ← p.fetch? .interpreter .text some
  let projectRoot ← p.fetch? .projectRoot .path some
  let settings ← p.fetch? .settings .path some
  let testsDir ← p.fetch? .testsDir .path some
  let jobs ← p.fetch? .jobs .number readWord?
  let timeoutSecs ← p.fetch? .timeout .number readWord?
  let page ← p.fetch? .page .path some
  return {
    category, verbose := verbose.isSome, json := json.isSome, interpreter,
    projectRoot := projectRoot.getD ".", settings, testsDir, jobs, timeoutSecs, page, language }

theorem fetch?_eq_some {α : Type} {p : Parsed} {id : OptionId} {shape : Shape}
    {fallback : Option String} (read : String → Option α)
    (ho : (p.command.options.find? fun o => o.id == id).map (fun o => (o.kind.shape, o.fallback)) =
      some (shape, fallback))
    (hread : ∀ v, (p.value? id).or fallback = some v → (read v).isSome) :
    p.fetch? id shape read = some (((p.value? id).or fallback).bind read) := by
  obtain ⟨o, hfind, hoption⟩ := Option.map_eq_some_iff.1 ho
  obtain ⟨hshape, hfallback⟩ := Prod.mk.inj hoption
  unfold fetch?
  rw [hfind]
  simp only [bind, Option.bind_some, hshape, hfallback, if_true]
  cases hv : (p.value? id).or fallback with
  | none => rfl
  | some v =>
    obtain ⟨a, ha⟩ := Option.isSome_iff_exists.1 (hread v hv)
    simp [ha]

theorem fetch?_text {p : Parsed} {id : OptionId} {shape : Shape} {fallback : Option String}
    (ho : (p.command.options.find? fun o => o.id == id).map (fun o => (o.kind.shape, o.fallback)) =
      some (shape, fallback)) :
    p.fetch? id shape some = some ((p.value? id).or fallback) := by
  rw [fetch?_eq_some some ho fun _ _ => rfl, Option.bind_fun_some]

end Parsed

/-! ## Lines that ask for a run -/

/-- Each field of a request follows the option of its name. The language does where one is
given. -/
structure Tells (r : RunRequest) (given : List (String × String)) : Prop where
  category : Follows given "category" some none r.category
  verbose : Follows given "verbose" (fun _ => true) false r.verbose
  json : Follows given "json" (fun _ => true) false r.json
  interpreter : Follows given "binary" some none r.interpreter
  projectRoot : Follows given "project-root" id "." r.projectRoot
  settings : Follows given "config" some none r.settings
  testsDir : Follows given "tests-dir" some none r.testsDir
  jobs : Follows given "jobs" readWord? none r.jobs
  timeoutSecs : Follows given "timeout" readWord? none r.timeoutSecs
  page : Follows given "html" some none r.page
  language : Agree given "lang" → Follows given "lang" some none r.language

theorem Fits.agree {uses : List OptionUse} (h : Fits uses) (id : OptionId) :
    Agree (uses.map OptionUse.entry) id := by
  intro v w hv hw
  obtain ⟨a, ha, hav⟩ := List.mem_map.1 hv
  obtain ⟨b, hb, hbw⟩ := List.mem_map.1 hw
  cases hav
  obtain ⟨hid, rfl⟩ := Prod.mk.inj hbw
  rw [List.inj_on_of_nodup_map h.once hb ha hid]

section

variable {argv : List String} {outer inner : List OptionUse} {id : OptionId} {v : String}

theorem Line.mem_options {c : Command} (h : Line c argv outer inner) :
    ∀ u ∈ inner ++ outer, u.option ∈ c.options ++ outerOptions := by
  obtain ⟨before, after, mark, -, -, hbefore, hafter⟩ := h
  intro u hu
  rcases List.mem_append.1 hu with hu | hu
  · exact List.mem_append_left _ (hafter.mem_options (by simp) u hu)
  · exact List.mem_append_right _ (hbefore.mem_options (by simp) u hu)

theorem Line.agree {c : Command} (h : Line c argv outer inner) (houter : Fits outer)
    (hinner : Fits inner) (hid : id ≠ .language) :
    Agree ((inner ++ outer).map OptionUse.entry) id := by
  obtain ⟨before, after, mark, -, -, hbefore, -⟩ := h
  have hnone : ∀ v, (id, v) ∉ outer.map OptionUse.entry := by
    intro v hv
    obtain ⟨u, hu, huv⟩ := List.mem_map.1 hv
    cases huv
    have hall : ∀ o ∈ outerOptions, o.id = .language ∨ o.id = .help ∨ o.id = .version := by decide
    rcases hall _ (hbefore.mem_options (by simp) u hu) with hl | hasks
    · exact hid hl
    · exact (houter.admitted u hu).asks_not hasks
  rw [List.map_append]
  intro v w hv hw
  apply hinner.agree id v w
  · simpa [hnone] using hv
  · simpa [hnone] using hw

theorem OptionUse.Admitted.number {u : OptionUse} {least : Nat} (h : u.Admitted)
    (ho : u.option.kind = .number least) : ∃ n, readWord? u.value = some n ∧ least ≤ n.toNat := by
  have hcheck := h.check
  simp only [OptionSpec.check, ho] at hcheck
  cases hn : readWord? u.value with
  | none => simp [hn] at hcheck
  | some n =>
    refine ⟨n, rfl, ?_⟩
    by_contra hlt
    simp [hn, hlt] at hcheck

theorem Line.number {c : Command} {least : Nat} (h : Line c argv outer inner)
    (houter : Fits outer) (hinner : Fits inner)
    (hkind : ∀ o ∈ c.options ++ outerOptions, o.id = id → o.kind = .number least)
    (hv : (id, v) ∈ (inner ++ outer).map OptionUse.entry) :
    ∃ n, readWord? v = some n ∧ least ≤ n.toNat := by
  obtain ⟨u, hu, huv⟩ := List.mem_map.1 hv
  cases huv
  have hadmitted : u.Admitted := by
    rcases List.mem_append.1 hu with hu | hu
    · exact hinner.admitted u hu
    · exact houter.admitted u hu
  exact hadmitted.number (hkind _ (h.mem_options u hu) rfl)

theorem Line.follows {c : Command} {α : Type} {given : List (OptionId × String)}
    {read : String → α} {absent field : α} {name : String} (h : Line c argv outer inner)
    (hgiven : given = (inner ++ outer).map OptionUse.entry)
    (hname : ∀ o ∈ c.options ++ outerOptions, o.long = name ↔ o.id = id)
    (hf : Follows given id read absent field) :
    Follows ((inner ++ outer).map OptionUse.named) name read absent field := by
  rw [hgiven] at hf
  exact hf.of_entries fun u hu => hname u.option (h.mem_options u hu)

theorem Line.tells (h : Line .run argv outer inner) (houter : Fits outer) (hinner : Fits inner)
    {p : Parsed} (hp : parse argv = .ok p)
    (hgiven : p.given = (inner ++ outer).map OptionUse.entry) :
    Tells (p.runRequest (spokenLanguage? argv)) ((inner ++ outer).map OptionUse.named) := by
  have hagree : ∀ id, id ≠ .language → Agree p.given id := by
    intro id hid
    rw [hgiven]
    exact h.agree houter hinner hid
  have htext : ∀ id, id ≠ .language → Follows p.given id some none (p.value? id) :=
    fun id hid => Parsed.follows_text (hagree id hid)
  have hflag : ∀ id, id ≠ .language → Follows p.given id (fun _ => true) false (p.isSet id) :=
    fun id hid => Parsed.follows_flag (hagree id hid)
  have hword : ∀ id, id ≠ .language → Follows p.given id readWord? none (p.word? id) :=
    fun id hid => Parsed.follows_word (hagree id hid)
  have hroot := Parsed.follows_projectRoot (hagree .projectRoot (by decide))
  have hlang : ∀ o ∈ Command.run.options ++ outerOptions, o.long = "lang" ↔ o.id = .language := by
    decide
  constructor
  case category => exact h.follows hgiven (by decide) (htext .category (by decide))
  case verbose => exact h.follows hgiven (by decide) (hflag .verbose (by decide))
  case json => exact h.follows hgiven (by decide) (hflag .json (by decide))
  case interpreter => exact h.follows hgiven (by decide) (htext .interpreter (by decide))
  case projectRoot => exact h.follows hgiven (by decide) hroot
  case settings => exact h.follows hgiven (by decide) (htext .settings (by decide))
  case testsDir => exact h.follows hgiven (by decide) (htext .testsDir (by decide))
  case jobs => exact h.follows hgiven (by decide) (hword .jobs (by decide))
  case timeoutSecs => exact h.follows hgiven (by decide) (hword .timeout (by decide))
  case page => exact h.follows hgiven (by decide) (htext .page (by decide))
  case language =>
    intro hone
    have hentries := hone.to_entries fun u hu => hlang u.option (h.mem_options u hu)
    rw [← hgiven] at hentries
    exact h.follows hgiven hlang (Parsed.follows_language hp hentries)

theorem Tells.unique {r r' : RunRequest} {given more : List (String × String)}
    (h : Tells r given) (h' : Tells r' more) (hperm : more.Perm given) :
    { r' with language := r.language } = r ∧ (Agree given "lang" → r' = r) := by
  have hrest : { r' with language := r.language } = r := by
    obtain ⟨category, verbose, json, interpreter, projectRoot, settings, testsDir, jobs,
      timeoutSecs, page, language⟩ := r
    simp only [RunRequest.mk.injEq, and_true]
    exact ⟨h.category.unique h'.category hperm, h.verbose.unique h'.verbose hperm,
      h.json.unique h'.json hperm, h.interpreter.unique h'.interpreter hperm,
      h.projectRoot.unique h'.projectRoot hperm, h.settings.unique h'.settings hperm,
      h.testsDir.unique h'.testsDir hperm, h.jobs.unique h'.jobs hperm,
      h.timeoutSecs.unique h'.timeoutSecs hperm, h.page.unique h'.page hperm⟩
  refine ⟨hrest, fun hone => ?_⟩
  have hlang : r'.language = r.language :=
    (h.language hone).unique (h'.language (hone.of_perm hperm)) hperm
  rw [← hrest, ← hlang]

/-- The checked conversion of a line that asks for a run does not fail, and agrees with the one
that is used. -/
theorem Line.checkedRunRequest?_eq (h : Line .run argv outer inner) (houter : Fits outer)
    (hinner : Fits inner) (language : Option String) :
    let p : Parsed := ⟨.run, (inner ++ outer).map OptionUse.entry⟩
    p.checkedRunRequest? language = some (p.runRequest language) := by
  intro p
  have hword : ∀ id least, (∀ o ∈ Command.run.options ++ outerOptions, o.id = id →
      o.kind = .number least) → ∀ v, (p.value? id).or none = some v → (readWord? v).isSome := by
    intro id least hkind v hv
    rw [Option.or_none] at hv
    obtain ⟨n, hn, -⟩ := h.number houter hinner hkind (Parsed.mem_of_value? hv)
    simp [hn]
  have hjobs : p.fetch? .jobs .number readWord? = some (((p.value? .jobs).or none).bind readWord?) :=
    Parsed.fetch?_eq_some readWord? rfl (hword .jobs 0 (by decide))
  have htimeout : p.fetch? .timeout .number readWord? =
      some (((p.value? .timeout).or none).bind readWord?) :=
    Parsed.fetch?_eq_some readWord? rfl (hword .timeout 1 (by decide))
  have hroot : p.fetch? .projectRoot .path some = some ((p.value? .projectRoot).or (some ".")) :=
    Parsed.fetch?_text rfl
  have hplain : ∀ id shape, (Command.run.options.find? fun o => o.id == id).map
      (fun o => (o.kind.shape, o.fallback)) = some (shape, none) →
      p.fetch? id shape some = some (p.value? id) := by
    intro id shape ho
    rw [Parsed.fetch?_text ho, Option.or_none]
  unfold Parsed.checkedRunRequest?
  rw [hplain .category .text rfl, hplain .verbose .flag rfl, hplain .json .flag rfl,
    hplain .interpreter .text rfl, hroot, hplain .settings .path rfl, hplain .testsDir .path rfl,
    hjobs, htimeout, hplain .page .path rfl]
  simp [Parsed.runRequest, Parsed.isSet, Parsed.word?, Parsed.projectRoot]

/-- Every line that is accepted is made up of options and a command. A line that asks for a run
is accepted exactly if its options fit together on either side of the command, so that it is
rejected if one of them stands twice on one side. Each field of the request then follows the
option of its own, a limit of time is at least one second, and the checked conversion gives the
same request. Another line that gives the same options, in whatever order and
spelling and on whatever side, asks for the same run, and in the same language where one
language is given. -/
theorem run_line_means_its_options (argv : List String) :
    (∀ p, parse argv = .ok p → ∃ outer inner, Line p.command argv outer inner) ∧
    ∀ outer inner, Line .run argv outer inner →
      let given := (inner ++ outer).map OptionUse.named
      ((∃ p, parse argv = .ok p) ↔ Fits outer ∧ Fits inner) ∧
      (¬ (outer.map fun u => u.option.id).Nodup ∨ ¬ (inner.map fun u => u.option.id).Nodup →
        ∃ stop, parse argv = .error stop) ∧
      ∀ p, parse argv = .ok p →
        let request := p.runRequest (spokenLanguage? argv)
        p.command = .run ∧ Tells request given ∧
        (∀ n ∈ request.timeoutSecs, 1 ≤ n.toNat) ∧
        p.checkedRunRequest? (spokenLanguage? argv) = some request ∧
        ∀ argv' p' outer' inner', Line .run argv' outer' inner' → parse argv' = .ok p' →
          ((inner' ++ outer').map OptionUse.named).Perm given →
          let request' := p'.runRequest (spokenLanguage? argv')
          { request' with language := request.language } = request ∧
            (Agree given "lang" → request' = request) := by
  refine ⟨fun p hp => line_of_parse hp, ?_⟩
  intro outer inner h given
  rcases h.parse_cases with ⟨houter, hinner, hparse⟩ | ⟨hfails, stop, hstop⟩
  · refine ⟨iff_of_true ⟨_, hparse⟩ ⟨houter, hinner⟩, ?_, ?_⟩
    · rintro (htwice | htwice)
      · exact absurd houter.once htwice
      · exact absurd hinner.once htwice
    · intro p hp request
      obtain rfl : (⟨.run, (inner ++ outer).map OptionUse.entry⟩ : Parsed) = p := by
        rw [hparse] at hp
        exact Except.ok.inj hp
      have htells := h.tells houter hinner hp rfl
      refine ⟨rfl, htells, ?_, h.checkedRunRequest?_eq houter hinner _, ?_⟩
      · intro n hn
        obtain ⟨v, hv, hread⟩ := Option.bind_eq_some_iff.1 hn
        have hleast : ∀ o ∈ Command.run.options ++ outerOptions, o.id = .timeout →
            o.kind = .number 1 := by decide
        obtain ⟨m, hm, hle⟩ := h.number houter hinner hleast (Parsed.mem_of_value? hv)
        rw [hm] at hread
        cases hread
        exact hle
      · intro argv' p' outer' inner' h' hp' hperm
        rcases h'.parse_cases with ⟨houter', hinner', hparse'⟩ | ⟨-, stop, hstop⟩
        · obtain rfl : (⟨.run, (inner' ++ outer').map OptionUse.entry⟩ : Parsed) = p' := by
            rw [hparse'] at hp'
            exact Except.ok.inj hp'
          exact htells.unique (h'.tells houter' hinner' hp' rfl) hperm
        · rw [hstop] at hp'
          cases hp'
  · have hnone : ∀ p, parse argv ≠ .ok p := by
      intro p hp
      rw [hstop] at hp
      cases hp
    refine ⟨iff_of_false (fun ⟨p, hp⟩ => hnone p hp) hfails, fun _ => ⟨stop, hstop⟩, ?_⟩
    intro p hp
    exact absurd hp (hnone p)

/-- Two lines with the same options in another order and other spellings, and with the language
on either side of the command. -/
theorem respelled_line_asks_for_same_run :
    let argv := ["--lang=en", "run", "-vc", "sums", "--goth", "shell"]
    let argv' := ["run", "--binary=shell", "--category", "sums", "--lang", "en", "-v"]
    ∃ p p', parse argv = .ok p ∧ parse argv' = .ok p' ∧
      p'.runRequest (spokenLanguage? argv') = p.runRequest (spokenLanguage? argv) := by
  intro argv argv'
  let verbose := flag .verbose (some 'v') "verbose" .helpVerbose
  let category := { valued .category "category" .text .helpCategory with short := some 'c' }
  let interpreter := { valued .interpreter "binary" .text .helpBinary with aliases := ["goth"] }
  let t := Table.ofCommand .run
  have hline : Line .run argv [⟨languageOption, "en"⟩]
      [⟨verbose, "true"⟩, ⟨category, "sums"⟩, ⟨interpreter, "shell"⟩] := by
    refine ⟨["--lang=en"], ["-vc", "sums", "--goth", "shell"], [], by simp [Table.endMarks], rfl,
      ?_, ?_⟩
    · exact .option (@Table.Spells.joined _ languageOption "lang" "en" (by decide) rfl rfl) .nil
    · have hletters : t.Spells "-vc" [⟨verbose, "true"⟩] (some category) :=
        .letters (.flag (by decide) rfl rfl (.apart (by decide) rfl rfl))
      have hname : t.Spells "--goth" [] (some interpreter) :=
        @Table.Spells.apart _ interpreter "goth" (by decide) (by decide) rfl
      exact .option hletters (.word (by simp [Table.IsWord])
        (.option hname (.word (by simp [Table.IsWord]) .nil)))
  have hline' : Line .run argv' []
      [⟨interpreter, "shell"⟩, ⟨category, "sums"⟩, ⟨languageOption, "en"⟩, ⟨verbose, "true"⟩] := by
    refine ⟨[], ["--binary=shell", "--category", "sums", "--lang", "en", "-v"], [],
      by simp [Table.endMarks], rfl, .nil, ?_⟩
    have hbinary : t.Spells "--binary=shell" [⟨interpreter, "shell"⟩] none :=
      @Table.Spells.joined _ interpreter "binary" "shell" (by decide) (by decide) rfl
    have hcategory : t.Spells "--category" [] (some category) :=
      @Table.Spells.apart _ category "category" (by decide) (by decide) rfl
    have hlang : t.Spells "--lang" [] (some languageOption) :=
      @Table.Spells.apart _ languageOption "lang" (by decide) (by decide) rfl
    have hverbose : t.Spells "-v" [⟨verbose, "true"⟩] none :=
      .letters (.flag (by decide) rfl rfl .nil)
    exact .option hbinary (.option hcategory (.word (by simp [Table.IsWord])
      (.option hlang (.word (by simp [Table.IsWord]) (.option hverbose .nil)))))
  obtain ⟨p, hp⟩ : ∃ p, parse argv = .ok p := ⟨_, rfl⟩
  obtain ⟨p', hp'⟩ : ∃ p', parse argv' = .ok p' := ⟨_, rfl⟩
  obtain ⟨-, -, hmeans⟩ := (run_line_means_its_options argv).2 _ _ hline
  obtain ⟨-, -, -, -, hsame⟩ := hmeans p hp
  obtain ⟨-, hlanguage⟩ := hsame argv' p' _ _ hline' hp' (by decide)
  refine ⟨p, p', hp, hp', hlanguage ?_⟩
  simp [Agree, OptionUse.named, verbose, category, interpreter, languageOption, flag, valued]

/-- A language may be given before the command and again behind it. Taking the later one apart
then changes which of the two the request names. -/
theorem language_given_twice_is_accepted :
    let argv := ["--lang", "en", "run", "--lang=zh-CN"]
    let argv' := ["--lang", "en", "run", "--lang", "zh-CN"]
    ∃ p p', parse argv = .ok p ∧ parse argv' = .ok p' ∧ p'.given = p.given ∧
      p.given = [(.language, "zh-CN"), (.language, "en")] ∧
      p.runRequest (spokenLanguage? argv) ≠ p'.runRequest (spokenLanguage? argv') := by
  refine ⟨_, _, rfl, rfl, by rfl, by rfl, ?_⟩
  intro h
  have hlang := congrArg RunRequest.language h
  have hne : spokenLanguage? ["--lang", "en", "run", "--lang=zh-CN"] ≠
      spokenLanguage? ["--lang", "en", "run", "--lang", "zh-CN"] := by decide
  exact hne hlang

end

end Assay.CommandLine
