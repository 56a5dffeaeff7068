import Mathlib.Algebra.GroupWithZero.Nat
import Mathlib.Data.List.Forall2
import Assay.Proofs.Suite.Counts
import Assay.Suite.Schedule

/-!
# Runs in any order

The invocations in flight may end in any order. The cases of a document always
divide into those recorded, those in the window and those waiting, in document
order, and every field of a schedule follows from that division. It is an
invariant of single moves, so it holds after every run. Where the outcome of an
invocation depends on its call alone, a run that is over has given what the
cases give when they are run one by one.
-/

set_option autoImplicit false

namespace Assay

/-- The outcome depends on the program file and the arguments alone. What an
invocation does to the host is left open. -/
def Invoker.Answers (invoke : Invoker) (answer : String → List Value → Outcome) : Prop :=
  ∀ file inputs h, (invoke file inputs h).1 = answer file inputs

namespace Job

def answered (answer : String → List Value → Outcome) (j : Job) : CaseResult :=
  j.result (answer j.1.file j.2.inputs)

def runAll (invoke : Invoker) : List Job → Host → List CaseResult × Host
  | [], h => ([], h)
  | j :: js, h =>
    let (r, h) := j.run invoke h
    let (rs, h) := runAll invoke js h
    (r :: rs, h)

theorem run_fst (invoke : Invoker) (answer : String → List Value → Outcome)
    (ha : invoke.Answers answer) (j : Job) (h : Host) : (j.run invoke h).1 = j.answered answer := by
  simp [run, answered, ha j.1.file j.2.inputs h]

def Gives (invoke : Invoker) (j : Job) (r : CaseResult) : Prop := ∃ h, r = (j.run invoke h).1

theorem gives_iff (invoke : Invoker) (answer : String → List Value → Outcome)
    (ha : invoke.Answers answer) (j : Job) (r : CaseResult) :
    j.Gives invoke r ↔ r = j.answered answer := by
  simp [Gives, run_fst invoke answer ha]

/-- Results that invocations of some cases lead to, in their order. -/
abbrev AllGive (invoke : Invoker) : List Job → List CaseResult → Prop :=
  List.Forall₂ (Gives invoke)

theorem allGive_iff (invoke : Invoker) (answer : String → List Value → Outcome)
    (ha : invoke.Answers answer) (js : List Job) (rs : List CaseResult) :
    AllGive invoke js rs ↔ rs = js.map (answered answer) := by
  induction js generalizing rs with
  | nil => simp
  | cons j js ih => cases rs <;> simp [gives_iff invoke answer ha, ih]

theorem runAll_fst (invoke : Invoker) (answer : String → List Value → Outcome)
    (ha : invoke.Answers answer) (js : List Job) (h : Host) :
    (runAll invoke js h).1 = js.map (answered answer) := by
  induction js generalizing h with
  | nil => rfl
  | cons j js ih => simp [runAll, run_fst invoke answer ha, ih]

theorem runAll_append_snd (invoke : Invoker) (js ks : List Job) (h : Host) :
    (runAll invoke (js ++ ks) h).2 = (runAll invoke ks (runAll invoke js h).2).2 := by
  induction js generalizing h with
  | nil => rfl
  | cons j js ih => simp [runAll, ih]

end Job

theorem Console.transcript_concat (look : Look) (category : String) (rs : List CaseResult)
    (r : CaseResult) : transcript look category (rs ++ [r]) =
      transcript look category rs ++ printed (caseLine look r) := by
  simp [transcript, String.append_assoc]

/-- What a run of a category prints: its transcript in verbose mode, else nothing. -/
def RunOptions.transcript (o : RunOptions) (category : String) (rs : List CaseResult) : String :=
  if o.verbose then Console.transcript o.look category rs else ""

namespace Schedule

/-- The cases of a window whose invocations have ended. -/
def ended (window : List Slot) : List Job :=
  (window.filter fun slot => slot.result.isSome).map Slot.job

structure Divides (invoke : Invoker) (o : RunOptions) (h : Host) (d : Document)
    (recorded : List Job) (rs : List CaseResult) (s : Schedule) : Prop where
  entries : d.entries = recorded ++ s.window.map Slot.job ++ s.waiting
  room : s.window.length ≤ o.width
  inFlight : ∀ slot ∈ s.window, ∀ r, slot.result = some r → slot.job.Gives invoke r
  results : Job.AllGive invoke recorded rs
  category : s.category = .ofResults d.category rs
  calls : s.calls.toList = (recorded ++ s.window.map Slot.job).map Job.call
  printed : s.printed = o.transcript d.category rs
  /-- The invocations up to now took place one by one in the order of their ends. -/
  host : ∃ order : List Job, order.Perm (recorded ++ ended s.window) ∧
    s.host = (Job.runAll invoke order h).2

/-- The division for an interpreter with fixed answers, which fix the results. -/
abbrev Splits (invoke : Invoker) (answer : String → List Value → Outcome) (o : RunOptions)
    (h : Host) (d : Document) (recorded : List Job) (s : Schedule) : Prop :=
  Divides invoke o h d recorded (recorded.map (Job.answered answer)) s

theorem splits_at {α : Type} {xs : List α} {i : Nat} {a : α} (h : xs[i]? = some a) :
    ∃ front back, xs = front ++ a :: back ∧ ∀ b, xs.set i b = front ++ b :: back := by
  induction xs generalizing i with
  | nil => simp at h
  | cons x xs ih =>
    cases i with
    | zero => exact ⟨[], xs, by simpa using h, by simp⟩
    | succ i =>
      obtain ⟨front, back, hxs, hset⟩ := ih (by simpa using h)
      exact ⟨x :: front, back, by simp [hxs], fun b => by simp [hset b]⟩

theorem ended_open (front back : List Slot) (j : Job) :
    ended (front ++ ⟨j, none⟩ :: back) = ended front ++ ended back := by
  simp [ended]

theorem ended_closed (front back : List Slot) (j : Job) (r : CaseResult) :
    ended (front ++ ⟨j, some r⟩ :: back) = ended front ++ j :: ended back := by
  simp [ended]

section Moves

open scoped List

variable {invoke : Invoker} {answer : String → List Value → Outcome} {o : RunOptions} {h : Host}
  {d : Document} {recorded : List Job} {rs : List CaseResult} {s s' : Schedule}

theorem step_start (hm : s.step invoke o .start = some s') :
    ∃ j rest, s.waiting = j :: rest ∧ s.window.length < o.width ∧
      s' = { s with
        waiting := rest
        window := s.window ++ [⟨j, none⟩]
        calls := s.calls.push j.call } := by
  simp only [step] at hm
  split at hm
  · cases hm
  · rename_i j rest hwaiting
    split at hm
    · rename_i hroom
      exact ⟨j, rest, hwaiting, hroom, (Option.some.inj hm).symm⟩
    · cases hm

theorem step_finish {i : Nat} (hm : s.step invoke o (.finish i) = some s') :
    ∃ front j back, s.window = front ++ ⟨j, none⟩ :: back ∧
      s' = { s with
        window := front ++ ⟨j, some (j.run invoke s.host).1⟩ :: back
        host := (j.run invoke s.host).2 } := by
  simp only [step] at hm
  split at hm
  · rename_i j hj
    obtain ⟨front, back, hwindow, hset⟩ := splits_at hj
    exact ⟨front, j, back, hwindow, by rw [← hset]; exact (Option.some.inj hm).symm⟩
  · cases hm

theorem step_record (hm : s.step invoke o .record = some s') :
    ∃ j r rest, s.window = ⟨j, some r⟩ :: rest ∧
      s' = { s with
        window := rest
        category := s.category.record r
        printed := s.printed ++
          if o.verbose then Console.printed (Console.caseLine o.look r) else "" } := by
  simp only [step] at hm
  split at hm
  · rename_i j r rest hwindow
    exact ⟨j, r, rest, hwindow, (Option.some.inj hm).symm⟩
  · cases hm

theorem divides_initial (invoke : Invoker) (o : RunOptions) (h : Host) (d : Document) :
    Divides invoke o h d [] [] (initial o h d) where
  entries := by simp [initial]
  room := by simp [initial]
  inFlight := by simp [initial]
  results := .nil
  category := by simp [initial, CategoryResult.ofResults]
  calls := by simp [initial]
  printed := by simp [initial, RunOptions.transcript, Console.transcript]
  host := ⟨[], by simp [initial, ended], rfl⟩

theorem start_divides (hs : Divides invoke o h d recorded rs s)
    (hm : s.step invoke o .start = some s') : Divides invoke o h d recorded rs s' := by
  obtain ⟨j, rest, hwaiting, hroom, rfl⟩ := step_start hm
  refine ⟨?_, ?_, ?_, hs.results, hs.category, ?_, hs.printed, ?_⟩
  · simpa [hwaiting] using hs.entries
  · simp only [List.length_append, List.length_singleton]
    omega
  · intro slot hslot r hr
    rcases List.mem_append.mp hslot with hold | hnew
    · exact hs.inFlight slot hold r hr
    · simp only [List.mem_singleton] at hnew
      simp [hnew] at hr
  · simp [hs.calls]
  · simpa [ended] using hs.host

theorem finish_divides (hs : Divides invoke o h d recorded rs s) {i : Nat}
    (hm : s.step invoke o (.finish i) = some s') : Divides invoke o h d recorded rs s' := by
  obtain ⟨front, j, back, hwindow, rfl⟩ := step_finish hm
  refine ⟨?_, ?_, ?_, hs.results, hs.category, ?_, hs.printed, ?_⟩
  · simpa [hwindow] using hs.entries
  · simpa [hwindow] using hs.room
  · intro slot hslot r hr
    rcases List.mem_append.mp hslot with hfront | hback
    · exact hs.inFlight slot (by simp [hwindow, hfront]) r hr
    · rcases List.mem_cons.mp hback with rfl | hback
      · exact ⟨s.host, (Option.some.inj hr).symm⟩
      · exact hs.inFlight slot (by simp [hwindow, hback]) r hr
  · simpa [hwindow] using hs.calls
  · obtain ⟨order, hperm, hhost⟩ := hs.host
    -- the case that has just ended comes last in the order
    refine ⟨order ++ [j], ?_, ?_⟩
    · rw [hwindow, ended_open] at hperm
      rw [ended_closed]
      calc order ++ [j]
        _ ~ recorded ++ (ended front ++ ended back) ++ [j] := hperm.append_right [j]
        _ ~ j :: (recorded ++ (ended front ++ ended back)) := List.perm_append_singleton ..
        _ = j :: (recorded ++ ended front ++ ended back) := by rw [List.append_assoc]
        _ ~ recorded ++ ended front ++ j :: ended back := List.perm_middle.symm
        _ = recorded ++ (ended front ++ j :: ended back) := List.append_assoc ..
    · rw [Job.runAll_append_snd, ← hhost]
      rfl

theorem record_divides (hs : Divides invoke o h d recorded rs s)
    (hm : s.step invoke o .record = some s') :
    ∃ j r, Divides invoke o h d (recorded ++ [j]) (rs ++ [r]) s' := by
  obtain ⟨j, r, rest, hwindow, rfl⟩ := step_record hm
  have hr : j.Gives invoke r := hs.inFlight ⟨j, some r⟩ (by simp [hwindow]) r rfl
  refine ⟨j, r, ?_, ?_, ?_, ?_, ?_, ?_, ?_, ?_⟩
  · simpa [hwindow] using hs.entries
  · have := hs.room
    simp only [hwindow, List.length_cons] at this
    exact Nat.le_of_succ_le this
  · exact fun slot hslot => hs.inFlight slot (by simp [hwindow, hslot])
  · exact List.rel_append hs.results (.cons hr .nil)
  · rw [CategoryResult.ofResults_concat, ← hs.category]
  · simpa [hwindow] using hs.calls
  · simp only [hs.printed, RunOptions.transcript, Console.transcript_concat]
    split <;> simp
  · simpa [hwindow, ended] using hs.host

theorem step_divides (hs : Divides invoke o h d recorded rs s) (m : Move)
    (hm : s.step invoke o m = some s') :
    ∃ recorded' rs', Divides invoke o h d recorded' rs' s' := by
  cases m with
  | start => exact ⟨_, _, start_divides hs hm⟩
  | finish i => exact ⟨_, _, finish_divides hs hm⟩
  | record =>
    obtain ⟨j, r, hj⟩ := record_divides hs hm
    exact ⟨_, _, hj⟩

theorem after_divides (hs : Divides invoke o h d recorded rs s) (ms : List Move)
    (hms : s.after? invoke o ms = some s') :
    ∃ recorded' rs', Divides invoke o h d recorded' rs' s' := by
  induction ms generalizing s recorded rs with
  | nil =>
    obtain rfl := Option.some.inj hms
    exact ⟨_, _, hs⟩
  | cons m ms ih =>
    obtain ⟨t, ht, hrest⟩ := Option.bind_eq_some_iff.mp hms
    obtain ⟨recorded', rs', hs'⟩ := step_divides hs m ht
    exact ih hs' hrest

theorem splits_initial (invoke : Invoker) (answer : String → List Value → Outcome)
    (o : RunOptions) (h : Host) (d : Document) :
    Splits invoke answer o h d [] (initial o h d) := divides_initial invoke o h d

theorem after_splits (ha : invoke.Answers answer) (hs : Splits invoke answer o h d recorded s)
    (ms : List Move) (hms : s.after? invoke o ms = some s') :
    ∃ recorded', Splits invoke answer o h d recorded' s' := by
  obtain ⟨recorded', rs', hs'⟩ := after_divides hs ms hms
  obtain rfl := (Job.allGive_iff invoke answer ha recorded' rs').mp hs'.results
  exact ⟨recorded', hs'⟩

theorem work_eq (s : Schedule) :
    s.work = (s.window.map slotWork).sum + 3 * s.waiting.length := by
  unfold work
  induction s.window with
  | nil => simp
  | cons slot rest ih =>
    simp only [List.foldr_cons, List.map_cons, List.sum_cons, ih]
    omega

theorem initial_work (o : RunOptions) (h : Host) (d : Document) :
    (initial o h d).work = 3 * d.caseCount := by
  simp [work_eq, initial, Document.length_entries]

theorem step_work (m : Move) (hm : s.step invoke o m = some s') : s'.work + 1 = s.work := by
  cases m with
  | start =>
    obtain ⟨j, rest, hwaiting, -, rfl⟩ := step_start hm
    simp only [work_eq, hwaiting, List.map_append, List.sum_append, List.length_cons, List.map_cons,
      List.map_nil, List.sum_cons, List.sum_nil, slotWork, Option.isSome_none, Bool.false_eq_true,
      if_false]
    omega
  | finish i =>
    obtain ⟨front, j, back, hwindow, rfl⟩ := step_finish hm
    simp only [work_eq, hwindow, List.map_append, List.map_cons, List.sum_append, List.sum_cons,
      slotWork, Option.isSome_none, Option.isSome_some, Bool.false_eq_true, if_false, if_true]
    omega
  | record =>
    obtain ⟨j, r, rest, hwindow, rfl⟩ := step_record hm
    simp only [work_eq, hwindow, List.map_cons, List.sum_cons, slotWork, Option.isSome_some,
      if_true]
    omega

theorem after_work (ms : List Move) (hms : s.after? invoke o ms = some s') :
    ms.length + s'.work = s.work := by
  induction ms generalizing s with
  | nil =>
    obtain rfl := Option.some.inj hms
    simp
  | cons m ms ih =>
    obtain ⟨t, ht, hrest⟩ := Option.bind_eq_some_iff.mp hms
    have h1 := step_work m ht
    have h2 := ih hrest
    simp only [List.length_cons]
    omega

theorem isOver_iff : s.isOver = true ↔ s.waiting = [] ∧ s.window = [] := by
  simp [isOver, List.isEmpty_iff]

theorem next?_of_isOver (hover : s.isOver = true) : s.next? o = none := by
  obtain ⟨hwaiting, hwindow⟩ := isOver_iff.mp hover
  simp [next?, hwaiting, hwindow]

/-- A run that is not over can go on: there is room for one more case when none is in
flight. -/
theorem step_next (invoke : Invoker) (o : RunOptions) (hover : ¬ s.isOver = true) :
    ∃ m s', s.next? o = some m ∧ s.step invoke o m = some s' := by
  have hwidth := o.width_pos
  rw [isOver_iff] at hover
  unfold next?
  split
  · rename_i hstart
    obtain ⟨hwaiting, hroom⟩ := Bool.and_eq_true_iff.mp hstart
    cases hw : s.waiting with
    | nil => simp [hw] at hwaiting
    | cons j rest =>
      exact ⟨.start, _, rfl, by rw [step, hw]; exact if_pos (of_decide_eq_true hroom)⟩
  · rename_i hstart
    split
    · rename_i hwindow
      have hwaiting : s.waiting ≠ [] := fun hw => hover ⟨hw, hwindow⟩
      simp [hwaiting, hwindow, hwidth] at hstart
    · rename_i j rest hwindow
      exact ⟨.finish 0, _, rfl, by simp only [step, hwindow, List.getElem?_cons_zero]; rfl⟩
    · rename_i j r rest hwindow
      exact ⟨.record, _, rfl, by simp only [step, hwindow]; rfl⟩

/-- Advancing makes moves, and as many as there is work bring the run to its end. -/
theorem after_advance (invoke : Invoker) (o : RunOptions) (n : Nat) (s : Schedule) :
    ∃ ms, s.after? invoke o ms = some (s.advance invoke o n) ∧
      (s.work ≤ n → (s.advance invoke o n).isOver = true) := by
  induction n generalizing s with
  | zero =>
    refine ⟨[], rfl, fun hwork => ?_⟩
    by_cases hover : s.isOver = true
    · exact hover
    · obtain ⟨m, s', -, hm⟩ := step_next invoke o hover
      have := step_work m hm
      omega
  | succ n ih =>
    by_cases hover : s.isOver = true
    · exact ⟨[], by simp [advance, next?_of_isOver hover, after?],
        by simp [advance, next?_of_isOver hover, hover]⟩
    · obtain ⟨m, s', hnext, hm⟩ := step_next invoke o hover
      obtain ⟨ms, hms, hend⟩ := ih s'
      have hadvance : s.advance invoke o (n + 1) = s'.advance invoke o n := by
        simp [advance, hnext, hm]
      refine ⟨m :: ms, ?_, fun hwork => ?_⟩
      · rw [hadvance, after?, hm]
        exact hms
      · have := step_work m hm
        rw [hadvance]
        exact hend (by omega)

theorem splits_over (hs : Divides invoke o h d recorded rs s) (hover : s.isOver = true) :
    recorded = d.entries ∧ ended s.window = [] := by
  obtain ⟨hwaiting, hwindow⟩ := isOver_iff.mp hover
  have hd := hs.entries
  simp only [hwaiting, hwindow, List.map_nil, List.append_nil] at hd
  exact ⟨hd.symm, by simp [hwindow, ended]⟩

end Moves

/-- Whatever order the invocations end in, a run goes on until each case has been
started, ended and recorded, and it leaves what the strictly sequential run leaves. -/
theorem any_order_gives_sequential_results (invoke : Invoker)
    (answer : String → List Value → Outcome) (ha : invoke.Answers answer) (o : RunOptions)
    (h : Host) (d : Document) :
    (∃ ms, (initial o h d).after? invoke o ms = some (runDocument invoke o h d) ∧
      (runDocument invoke o h d).isOver = true) ∧
    ∀ ms s, (initial o h d).after? invoke o ms = some s →
      ms.length + s.work = 3 * d.caseCount ∧
      (¬ s.isOver = true → ∃ m s', s.step invoke o m = some s') ∧
      (s.isOver = true →
        s.category = .ofResults d.category (Job.runAll invoke d.entries h).1 ∧
        s.category.results.toList =
          d.definitions.flatMap (fun f => f.cases.map fun c => Job.answered answer (f, c)) ∧
        s.category.results.size = d.caseCount ∧
        s.calls.toList = d.entries.map Job.call ∧
        (∃ order : List Job, order.Perm d.entries ∧ s.host = (Job.runAll invoke order h).2) ∧
        s.printed = if o.verbose then
          Console.transcript o.look d.category (Job.runAll invoke d.entries h).1 else "") := by
  refine ⟨?_, fun ms s hms => ⟨?_, ?_, fun hover => ?_⟩⟩
  · obtain ⟨ms, hms, hend⟩ := after_advance invoke o (initial o h d).work (initial o h d)
    exact ⟨ms, hms, hend (Nat.le_refl _)⟩
  · rw [after_work ms hms, initial_work]
  · intro hover
    obtain ⟨m, s', -, hm⟩ := step_next invoke o hover
    exact ⟨m, s', hm⟩
  · obtain ⟨recorded, hs⟩ := after_splits ha (splits_initial invoke answer o h d) ms hms
    obtain ⟨rfl, hended⟩ := splits_over hs hover
    obtain ⟨-, hwindow⟩ := isOver_iff.mp hover
    have hresults : s.category.results.toList = d.entries.map (Job.answered answer) := by
      rw [hs.category, CategoryResult.results_ofResults]
    rw [Job.runAll_fst invoke answer ha]
    refine ⟨hs.category, ?_, ?_, ?_, ?_, hs.printed⟩
    · simp [hresults, Document.entries, List.map_flatMap, Function.comp_def]
    · rw [← Array.length_toList, hresults, List.length_map, Document.length_entries]
    · simpa [hwindow] using hs.calls
    · simpa [hended] using hs.host

/-- Two cases that end in the opposite order, the first of which fails. -/
theorem reversed_ends_keep_document_order :
    let answer : String → List Value → Outcome := fun file _ => .output file
    let d : Document := ⟨"order", [⟨"f", "1", [⟨[], .text "a", .unset⟩]⟩,
      ⟨"g", "2", [⟨[.integer 7], .text "2", .unset⟩]⟩]⟩
    let o : RunOptions := ⟨⟨.english, false⟩, true, 2, 1⟩
    ∃ s, (initial o default d).after? (.ofAnswers answer) o
        [.start, .start, .finish 1, .finish 0, .record, .record] = some s ∧
      s.isOver = true ∧
      s.calls.toList = [("1", []), ("2", [.integer 7])] ∧
      s.category.results.toList = d.definitions.flatMap
        (fun f => f.cases.map fun c => Job.answered answer (f, c)) := by
  intro answer d o
  obtain ⟨s, hs, hover⟩ := Option.map_eq_some_iff.mp
    (show ((initial o default d).after? (.ofAnswers answer) o
      [.start, .start, .finish 1, .finish 0, .record, .record]).map isOver = some true from rfl)
  obtain ⟨-, hall⟩ := any_order_gives_sequential_results (.ofAnswers answer) answer
    (fun _ _ _ => rfl) o default d
  obtain ⟨-, hresults, -, hcalls, -⟩ := (hall _ s hs).2.2 hover
  exact ⟨s, hs, hover, hcalls, hresults⟩

end Schedule

end Assay
