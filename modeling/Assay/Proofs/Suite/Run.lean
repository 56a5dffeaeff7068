import Mathlib.Data.List.Forall2
import Assay.Proofs.Suite.Schedule
import Assay.Suite.Run

/-!
# Suites up to the first document that cannot be loaded

The documents of a suite take turns: each is loaded from the host that the cases
of those before it have left, and the next one has to wait until the last of its
cases has been recorded. The first document that cannot be loaded ends the
suite, so what a suite has done is what the documents before it have done. That
makes running one list of files after another the same as running both lists
as one.
-/

set_option autoImplicit false

namespace Assay

def Invoker.Keeps {α : Type} (invoke : Invoker) (view : Host → α) : Prop :=
  ∀ file inputs h, view (invoke file inputs h).2 = view h

theorem Job.runAll_keeps {α : Type} {invoke : Invoker} {view : Host → α}
    (hk : invoke.Keeps view) (js : List Job) (h : Host) :
    view (runAll invoke js h).2 = view h := by
  induction js generalizing h with
  | nil => rfl
  | cons j js ih =>
    calc view (runAll invoke (j :: js) h).2
      _ = view (j.run invoke h).2 := ih (j.run invoke h).2
      _ = view h := hk j.1.file j.2.inputs h

namespace Schedule

/-- A run of a document that is over, in some order of the ends of its invocations. -/
def Completes (invoke : Invoker) (o : RunOptions) (h : Host) (d : Document) (s : Schedule) :
    Prop :=
  ∃ ms, (initial o h d).after? invoke o ms = some s ∧ s.isOver = true

theorem runDocument_completes (invoke : Invoker) (o : RunOptions) (h : Host) (d : Document) :
    Completes invoke o h d (runDocument invoke o h d) := by
  obtain ⟨ms, hms, hend⟩ := after_advance invoke o (initial o h d).work (initial o h d)
  exact ⟨ms, hms, hend (Nat.le_refl _)⟩

/-- What is left of a document whose run is over: a result for each case, in document
order. -/
structure Covers (invoke : Invoker) (o : RunOptions) (h : Host) (d : Document) (s : Schedule) :
    Prop where
  results : Job.AllGive invoke d.entries s.category.results.toList
  category : s.category = .ofResults d.category s.category.results.toList
  calls : s.calls.toList = d.entries.map Job.call
  printed : s.printed = o.transcript d.category s.category.results.toList
  host : ∃ order : List Job, order.Perm d.entries ∧ s.host = (Job.runAll invoke order h).2

variable {invoke : Invoker} {o : RunOptions} {h : Host} {d : Document} {s : Schedule}

theorem Completes.covers (hs : Completes invoke o h d s) : Covers invoke o h d s := by
  obtain ⟨ms, hms, hover⟩ := hs
  obtain ⟨recorded, rs, hd⟩ := after_divides (divides_initial invoke o h d) ms hms
  obtain ⟨rfl, hended⟩ := splits_over hd hover
  obtain ⟨-, hwindow⟩ := isOver_iff.mp hover
  have hrs : s.category.results.toList = rs := by
    rw [hd.category, CategoryResult.results_ofResults]
  refine ⟨?_, ?_, ?_, ?_, ?_⟩
  · rw [hrs]
    exact hd.results
  · rw [hrs]
    exact hd.category
  · simpa [hwindow] using hd.calls
  · rw [hrs]
    exact hd.printed
  · simpa [hended] using hd.host

theorem Covers.name (hs : Covers invoke o h d s) : s.category.name = d.category := by
  rw [hs.category, CategoryResult.ofResults_eq]

theorem Covers.keeps {α : Type} {view : Host → α} (hs : Covers invoke o h d s)
    (hk : invoke.Keeps view) : view s.host = view h := by
  obtain ⟨order, -, hhost⟩ := hs.host
  rw [hhost]
  exact Job.runAll_keeps hk order h

end Schedule

def Document.answered (answer : String → List Value → Outcome) (d : Document) : CategoryResult :=
  .ofResults d.category (d.entries.map (Job.answered answer))

theorem Schedule.Covers.answered {invoke : Invoker} {answer : String → List Value → Outcome}
    {o : RunOptions} {h : Host} {d : Document} {s : Schedule} (hs : Covers invoke o h d s)
    (ha : invoke.Answers answer) : s.category = d.answered answer := by
  rw [hs.category, (Job.allGive_iff invoke answer ha _ _).mp hs.results]
  rfl

/-! ## Turns -/

structure Turn where
  document : Document
  schedule : Schedule

/-- Files whose documents are loaded and run in turn, and the host that is left. A
document is loaded when all cases of those before it have ended. -/
inductive Turns (invoke : Invoker) (o : RunOptions) :
    Host → List String → List Turn → Host → Prop where
  | nil (h : Host) : Turns invoke o h [] [] h
  | cons {h h' : Host} {file : String} {files : List String} {t : Turn} {ts : List Turn} :
    Document.load h file = .ok t.document →
    Schedule.Completes invoke o h t.document t.schedule →
    Turns invoke o t.schedule.host files ts h' →
    Turns invoke o h (file :: files) (t :: ts) h'

def Document.problem? (h : Host) (file : String) : Option Problem :=
  match load h file with
  | .error p => some p
  | .ok _ => none

def Document.leading (h : Host) : List String → List Document
  | [] => []
  | file :: files =>
    match load h file with
    | .error _ => []
    | .ok d => d :: leading h files

theorem Document.leading_append {h : Host} {xs : List String}
    (hxs : ∀ file ∈ xs, problem? h file = none) (ys : List String) :
    leading h (xs ++ ys) = leading h xs ++ leading h ys := by
  induction xs with
  | nil => rfl
  | cons file xs ih =>
    have hfile := hxs file (by simp)
    have hrest := ih fun f hf => hxs f (by simp [hf])
    cases hl : load h file with
    | error p => simp [problem?, hl] at hfile
    | ok d => simp [leading, hl, hrest]

namespace Turns

variable {invoke : Invoker} {o : RunOptions} {h h' : Host} {files : List String} {ts : List Turn}

theorem covers (hts : Turns invoke o h files ts h') :
    ∀ t ∈ ts, ∃ h, Schedule.Covers invoke o h t.document t.schedule := by
  induction hts with
  | nil h => simp
  | cons hl hs hts ih =>
    intro t ht
    rcases List.mem_cons.mp ht with rfl | ht
    · exact ⟨_, hs.covers⟩
    · exact ih t ht

theorem length_eq (hts : Turns invoke o h files ts h') : ts.length = files.length := by
  induction hts with
  | nil h => rfl
  | cons hl hs hts ih => simp [ih]

theorem keeps {α : Type} {view : Host → α} (hts : Turns invoke o h files ts h')
    (hk : invoke.Keeps view) : view h' = view h := by
  induction hts with
  | nil h => rfl
  | cons hl hs hts ih => rw [ih, hs.covers.keeps hk]

theorem leading_eq (hts : Turns invoke o h files ts h')
    (hk : ∀ file ∈ files, invoke.Keeps fun h => Document.load h file) (h₀ : Host)
    (hh : ∀ file ∈ files, Document.load h₀ file = Document.load h file) :
    Document.leading h₀ files = ts.map Turn.document ∧
      ∀ file ∈ files, Document.problem? h₀ file = none := by
  induction hts with
  | nil h => simp [Document.leading]
  | @cons h h' file files t ts hl hs hts ih =>
    have hload : Document.load h₀ file = .ok t.document := by rw [hh file (by simp), hl]
    obtain ⟨hd, hnone⟩ := ih (fun f hf => hk f (by simp [hf])) fun f hf => by
      rw [hh f (by simp [hf]), hs.covers.keeps (hk f (by simp [hf]))]
    refine ⟨by simp [Document.leading, hload, hd], fun f hf => ?_⟩
    rcases List.mem_cons.mp hf with rfl | hf
    · simp [Document.problem?, hload]
    · exact hnone f hf

end Turns

/-! ## Suites -/

namespace SuiteRun

/-- How a suite may go on with some files, whatever order the invocations of each
document end in. -/
inductive Reaches (invoke : Invoker) (o : RunOptions) :
    SuiteRun → List String → SuiteRun → Prop where
  | finished (r : SuiteRun) : Reaches invoke o r [] r
  | stopped {r : SuiteRun} {file : String} {p : Problem} (files : List String) :
    Document.load r.host file = .error p →
    Reaches invoke o r (file :: files) { r with problem := some p }
  | ran {r r' : SuiteRun} {file : String} {files : List String} {d : Document} {s : Schedule} :
    Document.load r.host file = .ok d → Schedule.Completes invoke o r.host d s →
    Reaches invoke o (r.absorb s) files r' → Reaches invoke o r (file :: files) r'

def followedBy (r r' : SuiteRun) : SuiteRun :=
  ⟨r.calls ++ r'.calls, r.printed ++ r'.printed, r.summary.append r'.summary, r'.problem, r'.host⟩

def absorbAll (r : SuiteRun) (ts : List Turn) : SuiteRun :=
  ts.foldl (fun r t => r.absorb t.schedule) r

theorem calls_absorbAll (r : SuiteRun) (ts : List Turn) :
    (r.absorbAll ts).calls.toList =
      r.calls.toList ++ ts.flatMap fun t => t.schedule.calls.toList := by
  induction ts generalizing r with
  | nil => simp [absorbAll]
  | cons t ts ih =>
    have := ih (r.absorb t.schedule)
    simpa [absorbAll, absorb] using this

theorem printed_absorbAll (r : SuiteRun) (ts : List Turn) :
    (r.absorbAll ts).printed =
      r.printed ++ String.join (ts.map fun t => t.schedule.printed) := by
  induction ts generalizing r with
  | nil => simp [absorbAll]
  | cons t ts ih =>
    have := ih (r.absorb t.schedule)
    simpa [absorbAll, absorb, String.append_assoc] using this

theorem summary_absorbAll (r : SuiteRun) (ts : List Turn) :
    (r.absorbAll ts).summary =
      (ts.map fun t => t.schedule.category).foldl RunSummary.absorb r.summary := by
  induction ts generalizing r with
  | nil => rfl
  | cons t ts ih => exact ih (r.absorb t.schedule)

structure Gathers (invoke : Invoker) (o : RunOptions) (r : SuiteRun) (ts : List Turn) : Prop where
  calls : r.calls.toList = (ts.map Turn.document).flatMap fun d => d.entries.map Job.call
  summary : r.summary = .ofCategories (ts.map fun t => t.schedule.category)
  printed : r.printed = String.join
    (ts.map fun t => o.transcript t.document.category t.schedule.category.results.toList)
  turns : ∀ t ∈ ts, t.schedule.category.name = t.document.category ∧
    Job.AllGive invoke t.document.entries t.schedule.category.results.toList

variable {invoke : Invoker} {o : RunOptions} {h : Host} {files xs ys : List String}
  {r r' : SuiteRun}

theorem runFilesFrom_reaches (invoke : Invoker) (o : RunOptions) (r : SuiteRun)
    (files : List String) : Reaches invoke o r files (runFilesFrom invoke o r files) := by
  induction files generalizing r with
  | nil => exact .finished r
  | cons file files ih =>
    unfold runFilesFrom
    split
    · rename_i p hl
      exact .stopped files hl
    · rename_i d hl
      exact .ran hl (Schedule.runDocument_completes invoke o r.host d) (ih _)

/-- The files that take their turns are followed by none, or by one that cannot be
loaded. -/
theorem Reaches.front (hr : Reaches invoke o r files r') :
    ∃ front rest ts, files = front ++ rest ∧ Turns invoke o r.host front ts r'.host ∧
      r' = { r.absorbAll ts with problem := r'.problem } ∧
      (rest = [] ∧ r'.problem = r.problem ∨ ∃ file back p, rest = file :: back ∧
        Document.load r'.host file = .error p ∧ r'.problem = some p) := by
  induction hr with
  | finished r => exact ⟨[], [], [], rfl, .nil _, rfl, .inl ⟨rfl, rfl⟩⟩
  | stopped files hl => exact ⟨[], _, [], rfl, .nil _, rfl, .inr ⟨_, files, _, rfl, hl, rfl⟩⟩
  | @ran r r' file files d s hl hs hr ih =>
    obtain ⟨front, rest, ts, rfl, hts, hr', hend⟩ := ih
    exact ⟨file :: front, rest, ⟨d, s⟩ :: ts, rfl, .cons hl hs hts, hr', hend⟩

theorem gathers_absorbAll {h' : Host} {ts : List Turn} (hts : Turns invoke o h files ts h')
    (p : Option Problem) :
    Gathers invoke o { (start h).absorbAll ts with problem := p } ts where
  calls := by
    rw [calls_absorbAll, List.flatMap_map]
    simp only [start, List.nil_append]
    apply List.flatMap_congr
    intro t ht
    obtain ⟨h, hc⟩ := hts.covers t ht
    exact hc.calls
  summary := summary_absorbAll (start h) ts
  printed := by
    rw [printed_absorbAll]
    simp only [start, String.empty_append]
    congr 1
    apply List.map_congr_left
    intro t ht
    obtain ⟨h, hc⟩ := hts.covers t ht
    exact hc.printed
  turns := by
    intro t ht
    obtain ⟨h, hc⟩ := hts.covers t ht
    exact ⟨hc.name, hc.results⟩

theorem Reaches.turns (hr : Reaches invoke o (start h) files r) :
    ∃ front rest ts, files = front ++ rest ∧ Turns invoke o h front ts r.host ∧
      r.Gathers invoke o ts ∧
      (rest = [] ∧ r.problem = none ∨ ∃ file back p, rest = file :: back ∧
        Document.load r.host file = .error p ∧ r.problem = some p) := by
  obtain ⟨front, rest, ts, hfiles, hts, heq, hend⟩ := hr.front
  have hg : Gathers invoke o { (start h).absorbAll ts with problem := r.problem } ts :=
    gathers_absorbAll hts r.problem
  rw [← heq] at hg
  exact ⟨front, rest, ts, hfiles, hts, hg, hend⟩

/-- A suite either ends among the files in front, or goes on with those behind. -/
theorem reaches_append_iff (hr : r.problem = none) :
    Reaches invoke o r (xs ++ ys) r' ↔
      (Reaches invoke o r xs r' ∧ r'.problem ≠ none) ∨
        ∃ rx, Reaches invoke o r xs rx ∧ rx.problem = none ∧ Reaches invoke o rx ys r' := by
  induction xs generalizing r with
  | nil =>
    constructor
    · intro h
      exact .inr ⟨r, .finished r, hr, h⟩
    · rintro (⟨h, hp⟩ | ⟨rx, h, -, hys⟩)
      · cases h
        exact absurd hr hp
      · cases h
        exact hys
  | cons file xs ih =>
    constructor
    · intro h
      cases h with
      | stopped _ hl => exact .inl ⟨.stopped xs hl, by simp⟩
      | @ran _ _ _ _ d s hl hs h =>
        have hr' : (r.absorb s).problem = none := hr
        rcases (ih hr').mp h with ⟨h, hp⟩ | ⟨rx, h, hp, hys⟩
        · exact .inl ⟨.ran hl hs h, hp⟩
        · exact .inr ⟨rx, .ran hl hs h, hp, hys⟩
    · rintro (⟨h, hp⟩ | ⟨rx, h, hp, hys⟩)
      · cases h with
        | stopped _ hl => exact .stopped (xs ++ ys) hl
        | @ran _ _ _ _ d s hl hs h =>
          have hr' : (r.absorb s).problem = none := hr
          exact .ran hl hs ((ih hr').mpr (.inl ⟨h, hp⟩))
      · cases h with
        | stopped _ hl => simp at hp
        | @ran _ _ _ _ d s hl hs h =>
          have hr' : (r.absorb s).problem = none := hr
          exact .ran hl hs ((ih hr').mpr (.inr ⟨rx, h, hp, hys⟩))

theorem followedBy_start (hr : r.problem = none) : r.followedBy (start r.host) = r := by
  cases r
  simp only at hr
  simp [followedBy, start, RunSummary.append, RunSummary.empty, hr]

theorem followedBy_absorb (a r : SuiteRun) (s : Schedule) :
    (a.followedBy r).absorb s = a.followedBy (r.absorb s) := by
  simp [followedBy, absorb, RunSummary.append, RunSummary.absorb, String.append_assoc,
    Nat.add_assoc]

theorem reaches_followedBy_iff (a : SuiteRun) :
    Reaches invoke o (a.followedBy r) files r' ↔
      ∃ t, Reaches invoke o r files t ∧ r' = a.followedBy t := by
  induction files generalizing r with
  | nil =>
    constructor
    · intro h
      cases h
      exact ⟨r, .finished r, rfl⟩
    · rintro ⟨t, h, rfl⟩
      cases h
      exact .finished _
  | cons file files ih =>
    constructor
    · intro h
      cases h with
      | stopped _ hl => exact ⟨_, .stopped files hl, rfl⟩
      | ran hl hs h =>
        rw [followedBy_absorb] at h
        obtain ⟨t, ht, rfl⟩ := ih.mp h
        exact ⟨t, .ran hl hs ht, rfl⟩
    · rintro ⟨t, h, rfl⟩
      cases h with
      | stopped _ hl => exact .stopped files hl
      | @ran _ _ _ _ d s hl hs h =>
        have hrest : Reaches invoke o ((a.followedBy r).absorb s) files (a.followedBy t) := by
          rw [followedBy_absorb]
          exact ih.mpr ⟨t, h, rfl⟩
        exact .ran hl hs hrest

/-- The run of two lists of files as one is that of the first list, followed by that of
the second on the host that is left. -/
theorem reaches_start_append_iff : Reaches invoke o (start h) (xs ++ ys) r ↔
    (Reaches invoke o (start h) xs r ∧ r.problem ≠ none) ∨
      ∃ rx ry, Reaches invoke o (start h) xs rx ∧ rx.problem = none ∧
        Reaches invoke o (start rx.host) ys ry ∧ r = rx.followedBy ry := by
  have hsecond (rx : SuiteRun) (hp : rx.problem = none) : Reaches invoke o rx ys r ↔
      ∃ ry, Reaches invoke o (start rx.host) ys ry ∧ r = rx.followedBy ry := by
    rw [← reaches_followedBy_iff, followedBy_start hp]
  rw [reaches_append_iff rfl]
  apply or_congr_right
  constructor
  · rintro ⟨rx, h, hp, hys⟩
    obtain ⟨ry, hry, hr⟩ := (hsecond rx hp).mp hys
    exact ⟨rx, ry, h, hp, hry, hr⟩
  · rintro ⟨rx, ry, h, hp, hry, hr⟩
    exact ⟨rx, h, hp, (hsecond rx hp).mpr ⟨ry, hry, hr⟩⟩

/-- Where no invocation changes the documents, those that are run and what stops them
can be told beforehand. -/
theorem foreseen {front rest : List String} {ts : List Turn}
    (hts : Turns invoke o h front ts r.host)
    (hend : rest = [] ∧ r.problem = none ∨ ∃ file back p, rest = file :: back ∧
      Document.load r.host file = .error p ∧ r.problem = some p)
    (hk : ∀ file ∈ front ++ rest, invoke.Keeps fun h => Document.load h file) :
    r.problem = (front ++ rest).findSome? (Document.problem? h) ∧
      ts.map Turn.document = Document.leading h (front ++ rest) := by
  obtain ⟨hd, hnone⟩ := hts.leading_eq (fun f hf => hk f (by simp [hf])) h fun _ _ => rfl
  rw [List.findSome?_append, List.findSome?_eq_none_iff.mpr hnone, Document.leading_append hnone,
    hd, Option.none_or]
  rcases hend with ⟨rfl, hp⟩ | ⟨file, back, p, rfl, hl, hp⟩
  · simp [hp, Document.leading]
  · have hload : Document.load h file = .error p := by rw [← hts.keeps (hk file (by simp)), hl]
    simp [hp, Document.problem?, Document.leading, hload]

theorem Reaches.planned (hr : Reaches invoke o (start h) files r)
    (hk : ∀ file ∈ files, invoke.Keeps fun h => Document.load h file) :
    r.problem = files.findSome? (Document.problem? h) ∧
      r.calls.toList = (Document.leading h files).flatMap fun d => d.entries.map Job.call := by
  obtain ⟨front, rest, ts, rfl, hts, hg, hend⟩ := hr.turns
  obtain ⟨hproblem, hdocuments⟩ := foreseen hts hend hk
  rw [← hdocuments]
  exact ⟨hproblem, hg.calls⟩

theorem Reaches.answered {answer : String → List Value → Outcome}
    (hr : Reaches invoke o (start h) files r) (ha : invoke.Answers answer)
    (hk : ∀ file ∈ files, invoke.Keeps fun h => Document.load h file) :
    r.problem = files.findSome? (Document.problem? h) ∧
      r.calls.toList = (Document.leading h files).flatMap (fun d => d.entries.map Job.call) ∧
      r.summary = .ofCategories ((Document.leading h files).map (Document.answered answer)) := by
  obtain ⟨hproblem, hcalls⟩ := hr.planned hk
  refine ⟨hproblem, hcalls, ?_⟩
  obtain ⟨front, rest, ts, rfl, hts, hg, hend⟩ := hr.turns
  obtain ⟨-, hdocuments⟩ := foreseen hts hend hk
  rw [← hdocuments, hg.summary, List.map_map]
  congr 1
  apply List.map_congr_left
  intro t ht
  obtain ⟨h, hc⟩ := hts.covers t ht
  exact hc.answered ha

end SuiteRun

open SuiteRun in
/-- A suite ends at the first document that cannot be loaded when its turn has come, and
at no other place; each case of the documents before it has been invoked once and in order,
and no other case at all. Running two lists of files as one adds up what they give. -/
theorem suite_ends_at_first_unloadable (invoke : Invoker) (o : RunOptions) (h : Host)
    (files : List String) :
    Reaches invoke o (start h) files (runFiles h invoke o files) ∧
    (∀ r, Reaches invoke o (start h) files r →
      ∃ front rest turns, files = front ++ rest ∧ Turns invoke o h front turns r.host ∧
        r.Gathers invoke o turns ∧ r.summary.categories.size = front.length ∧
        (r.problem = none ↔ rest = []) ∧
        (∀ p, r.problem = some p ↔
          ∃ file back, rest = file :: back ∧ Document.load r.host file = .error p) ∧
        ((∀ file ∈ files, invoke.Keeps fun h => Document.load h file) →
          r.problem = files.findSome? (Document.problem? h) ∧
          turns.map Turn.document = Document.leading h files)) ∧
    (∀ xs ys, files = xs ++ ys → ∀ r, Reaches invoke o (start h) files r ↔
      (Reaches invoke o (start h) xs r ∧ r.problem ≠ none) ∨
        ∃ rx ry, Reaches invoke o (start h) xs rx ∧ rx.problem = none ∧
          Reaches invoke o (start rx.host) ys ry ∧ r = rx.followedBy ry) ∧
    ∀ answer, invoke.Answers answer →
      (∀ file ∈ files, invoke.Keeps fun h => Document.load h file) →
      ∀ xs ys, files = xs ++ ys → ∀ rx ry r, Reaches invoke o (start h) xs rx →
        Reaches invoke o (start h) ys ry → Reaches invoke o (start h) files r →
        r.problem = none → r.summary = rx.summary.append ry.summary := by
  refine ⟨runFilesFrom_reaches invoke o (start h) files, fun r hr => ?_, ?_, ?_⟩
  · obtain ⟨front, rest, ts, rfl, hts, hg, hend⟩ := hr.turns
    refine ⟨front, rest, ts, rfl, hts, hg, ?_, ?_, ?_, foreseen hts hend⟩
    · simp [hg.summary, RunSummary.ofCategories_eq, hts.length_eq]
    · rcases hend with ⟨rfl, hp⟩ | ⟨file, back, p, rfl, -, hp⟩
      · simp [hp]
      · simp [hp]
    · intro p
      rcases hend with ⟨rfl, hp⟩ | ⟨file, back, p', rfl, hl, hp⟩
      · simp [hp]
      · simp [hp, hl]
  · rintro xs ys rfl r
    exact reaches_start_append_iff
  · rintro answer ha hk xs ys rfl rx ry r hrx hry hr hp
    obtain ⟨-, -, hsx⟩ := hrx.answered ha fun f hf => hk f (by simp [hf])
    obtain ⟨-, -, hsy⟩ := hry.answered ha fun f hf => hk f (by simp [hf])
    obtain ⟨hproblem, -, hs⟩ := hr.answered ha hk
    have hnone : ∀ file ∈ xs, Document.problem? h file = none := fun f hf =>
      List.findSome?_eq_none_iff.mp (hproblem.symm.trans hp) f (by simp [hf])
    rw [hs, hsx, hsy, Document.leading_append hnone, List.map_append,
      RunSummary.ofCategories_append]

open SuiteRun in
/-- The second of three documents is cut off. The case of the first one fails, which ends
nothing; without the second document the others are run as if each stood alone. -/
theorem cut_off_document_ends_suite :
    let file (text : String) : Inode := ⟨.file (Text.encode text), 0o644, 0⟩
    let h : Host := ⟨((FileTree.empty.put ["a.json"]
      (file "[\"a\", [[\"f\", \"1\", [[[7], \"x\"]]]]]")).put ["b.json"] (file "[\"b\", ")).put
      ["c.json"] (file "[\"c\", []]"), [], ⟨[]⟩, 0⟩
    let invoke : Invoker := .ofAnswers fun file _ => .output file
    let o : RunOptions := ⟨⟨.english, false⟩, false, 2, 1⟩
    let run (files : List String) : SuiteRun := runFiles h invoke o files
    (run ["/a.json", "/b.json", "/c.json"]).problem =
        some (.documentInvalid "/b.json" .endOfText) ∧
      (run ["/a.json", "/b.json", "/c.json"]).calls.toList = [("1", [.integer 7])] ∧
      (run ["/a.json", "/c.json"]).summary =
        (run ["/a.json"]).summary.append (run ["/c.json"]).summary := by
  intro file h invoke o run
  have hkeeps (files : List String) :
      ∀ f ∈ files, invoke.Keeps fun h => Document.load h f := fun _ _ _ _ _ => rfl
  obtain ⟨hrun, hall, -, -⟩ :=
    suite_ends_at_first_unloadable invoke o h ["/a.json", "/b.json", "/c.json"]
  obtain ⟨front, rest, turns, -, -, hg, -, -, -, hforeseen⟩ := hall _ hrun
  obtain ⟨hproblem, hdocuments⟩ := hforeseen (hkeeps _)
  obtain ⟨hrun', hall', -, hsplit⟩ :=
    suite_ends_at_first_unloadable invoke o h ["/a.json", "/c.json"]
  obtain ⟨_, _, _, -, -, -, -, -, -, hforeseen'⟩ := hall' _ hrun'
  obtain ⟨hproblem', -⟩ := hforeseen' (hkeeps _)
  refine ⟨?_, ?_, ?_⟩
  · rw [hproblem]
    decide +kernel
  · rw [hg.calls, hdocuments]
    decide +kernel
  · refine hsplit _ (fun _ _ _ => rfl) (hkeeps _) ["/a.json"] ["/c.json"] rfl _ _ _
      (suite_ends_at_first_unloadable invoke o h ["/a.json"]).1
      (suite_ends_at_first_unloadable invoke o h ["/c.json"]).1 hrun' ?_
    rw [hproblem']
    decide +kernel

end Assay
