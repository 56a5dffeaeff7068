import Assay.Proofs.Suite.Schedule

/-!
# Cases in flight

The moves of a run tell how far it has got: each start takes the next case of
the document, and each recording settles the oldest case that was started. So
the cases between the two counts are those in flight, and there are never more
of them than the width admits. Where the width is one, the cases are run one
after the other, and no other order of moves is left.
-/

set_option autoImplicit false

namespace Assay

theorem RunOptions.width_eq (o : RunOptions) (hprocessors : 0 < o.processors) :
    o.width = if o.jobs = 0 then o.processors else o.jobs.toNat := by
  rw [width, Nat.max_eq_right hprocessors]

namespace Schedule

def starts (ms : List Move) : Nat := ms.count .start

def records (ms : List Move) : Nat := ms.count .record

theorem starts_append (before after : List Move) :
    starts (before ++ after) = starts before + starts after := List.count_append

theorem records_append (before after : List Move) :
    records (before ++ after) = records before + records after := List.count_append

def started (d : Document) (ms : List Move) : List Job := d.entries.take (starts ms)

section Counts

variable {invoke : Invoker} {o : RunOptions} {h : Host} {d : Document} {s s' : Schedule}
  {ms : List Move}

theorem step_counts (m : Move) (hm : s.step invoke o m = some s') :
    s'.calls.size = s.calls.size + starts [m] ∧
      s'.category.results.size = s.category.results.size + records [m] := by
  cases m with
  | start =>
    obtain ⟨j, rest, -, -, rfl⟩ := step_start hm
    simp [starts, records]
  | finish i =>
    obtain ⟨front, j, back, -, rfl⟩ := step_finish hm
    simp [starts, records]
  | record =>
    obtain ⟨j, r, rest, -, rfl⟩ := step_record hm
    simp [starts, records, CategoryResult.results_record]

theorem after_counts (hms : s.after? invoke o ms = some s') :
    s'.calls.size = s.calls.size + starts ms ∧
      s'.category.results.size = s.category.results.size + records ms := by
  induction ms generalizing s with
  | nil =>
    obtain rfl := Option.some.inj hms
    simp [starts, records]
  | cons m ms ih =>
    obtain ⟨t, ht, hrest⟩ := Option.bind_eq_some_iff.mp hms
    obtain ⟨hcalls, hresults⟩ := step_counts m ht
    obtain ⟨hcalls', hresults'⟩ := ih hrest
    have hstarts : starts (m :: ms) = starts [m] + starts ms := starts_append [m] ms
    have hrecords : records (m :: ms) = records [m] + records ms := records_append [m] ms
    omega

/-- A schedule is where some moves have brought it: the cases that were started are the first
ones of the document, and those of them that were not recorded are in the window. -/
structure Follows (invoke : Invoker) (o : RunOptions) (d : Document) (ms : List Move)
    (s : Schedule) : Prop where
  known : starts ms ≤ d.caseCount
  waiting : s.waiting = d.entries.drop (starts ms)
  calls : s.calls.toList = (started d ms).map Job.call
  window : s.window.map Slot.job = (started d ms).drop (records ms)
  inFlight : starts ms = records ms + s.window.length
  results : Job.AllGive invoke (d.entries.take (records ms)) s.category.results.toList
  room : s.window.length ≤ o.width

theorem after_follows (hms : (initial o h d).after? invoke o ms = some s) :
    Follows invoke o d ms s := by
  obtain ⟨recorded, rs, hd⟩ := after_divides (divides_initial invoke o h d) ms hms
  obtain ⟨hcalls, hresults⟩ := after_counts hms
  have hrs : s.category.results.toList = rs := by
    rw [hd.category, CategoryResult.results_ofResults]
  -- The counts are the lengths of the parts into which the document divides.
  have hstarts : (recorded ++ s.window.map Slot.job).length = starts ms := by
    rw [← List.length_map Job.call, ← hd.calls, Array.length_toList, hcalls]
    simp [initial]
  have hrecords : recorded.length = records ms := by
    rw [hd.results.length_eq, ← hrs, Array.length_toList, hresults]
    simp [initial, CategoryResult.empty]
  have hstarted : started d ms = recorded ++ s.window.map Slot.job := by
    rw [started, hd.entries, ← hstarts, List.take_left]
  have hwaiting : s.waiting = d.entries.drop (starts ms) := by
    rw [hd.entries, ← hstarts, List.drop_left]
  have hinFlight : starts ms = records ms + s.window.length := by
    rw [← hstarts, ← hrecords, List.length_append, List.length_map]
  refine ⟨?_, hwaiting, ?_, ?_, hinFlight, ?_, hd.room⟩
  · rw [← Document.length_entries, hd.entries, ← hstarts]
    simp
  · rw [hstarted, hd.calls]
  · rw [hstarted, ← hrecords, List.drop_left]
  · rw [hd.entries, List.append_assoc, ← hrecords, List.take_left, hrs]
    exact hd.results

theorem Follows.not_over (hs : Follows invoke o d ms s) (hleft : records ms < d.caseCount) :
    ¬ s.isOver = true := by
  intro hover
  obtain ⟨hwaiting, hwindow⟩ := isOver_iff.mp hover
  have hinFlight := hs.inFlight
  have hnone := hs.waiting
  rw [hwaiting, eq_comm, List.drop_eq_nil_iff, Document.length_entries] at hnone
  rw [hwindow, List.length_nil] at hinFlight
  omega

theorem Follows.can_start (hs : Follows invoke o d ms s) (hleft : starts ms < d.caseCount)
    (hroom : starts ms < records ms + o.width) : ∃ s', s.step invoke o .start = some s' := by
  have hinFlight := hs.inFlight
  have hlength : s.waiting.length = d.caseCount - starts ms := by
    rw [hs.waiting, List.length_drop, Document.length_entries]
  cases hw : s.waiting with
  | nil =>
    rw [hw, List.length_nil] at hlength
    omega
  | cons j rest =>
    have hlt : s.window.length < o.width := by omega
    simp [step, hw, hlt]

theorem starts_lt_of_start {before after : List Move}
    (hms : (initial o h d).after? invoke o (before ++ .start :: after) = some s) :
    starts before < records before + o.width := by
  rw [after?_append] at hms
  obtain ⟨t, ht, hrest⟩ := Option.bind_eq_some_iff.mp hms
  obtain ⟨t', hm, -⟩ := Option.bind_eq_some_iff.mp hrest
  obtain ⟨j, rest, -, hroom, -⟩ := step_start hm
  have hinFlight := (after_follows ht).inFlight
  omega

end Counts

/-! ## One case at a time -/

def alone : List Move := [.start, .finish 0, .record]

def oneByOne (n : Nat) : List Move := (List.replicate n alone).flatten

theorem oneByOne_succ (n : Nat) : oneByOne (n + 1) = oneByOne n ++ alone := by
  rw [oneByOne, List.replicate_succ', List.flatten_concat, oneByOne]

theorem oneByOne_prefix_of_le {n k : Nat} (h : n ≤ k) : oneByOne n <+: oneByOne k := by
  obtain ⟨more, rfl⟩ := Nat.exists_eq_add_of_le h
  rw [oneByOne, oneByOne, List.replicate_add, List.flatten_append]
  exact List.prefix_append _ _

theorem starts_oneByOne (n : Nat) : starts (oneByOne n) = n := by
  induction n with
  | zero => rfl
  | succ n ih =>
    rw [oneByOne_succ, starts_append, ih]
    rfl

section Alone

variable {invoke : Invoker} {o : RunOptions} {h : Host} {d : Document} {s s' : Schedule}
  {ms : List Move}

/-- The window after some moves, where each case is run alone. -/
inductive Alone : List Move → List Slot → Prop where
  | between (n : Nat) : Alone (oneByOne n) []
  | running (n : Nat) (j : Job) : Alone (oneByOne n ++ [.start]) [⟨j, none⟩]
  | ended (n : Nat) (j : Job) (r : CaseResult) :
    Alone (oneByOne n ++ [.start, .finish 0]) [⟨j, some r⟩]

theorem step_alone (hw : o.width = 1) (hs : Alone ms s.window) (m : Move)
    (hm : s.step invoke o m = some s') : Alone (ms ++ [m]) s'.window := by
  cases m with
  | start =>
    obtain ⟨j, rest, -, hroom, rfl⟩ := step_start hm
    have hnone : s.window = [] := List.eq_nil_of_length_eq_zero (by omega)
    rw [hnone] at hs
    cases hs with
    | between n => simpa [hnone] using Alone.running n j
  | finish i =>
    generalize hwindow : s.window = window at hs
    cases hs with
    | between n => simp [step, hwindow] at hm
    | running n j =>
      cases i with
      | zero =>
        obtain rfl : _ = s' := by simpa [step, hwindow] using hm
        simpa [hwindow] using Alone.ended n j (j.run invoke s.host).1
      | succ i => simp [step, hwindow] at hm
    | ended n j r => cases i <;> simp [step, hwindow] at hm
  | record =>
    obtain ⟨j, r, rest, hwindow, rfl⟩ := step_record hm
    rw [hwindow] at hs
    cases hs with
    | ended n => simpa [oneByOne_succ, alone] using Alone.between (n + 1)

theorem after_alone (hw : o.width = 1) (hms : (initial o h d).after? invoke o ms = some s) :
    Alone ms s.window := by
  -- From the end, where the next move is made.
  induction ms using List.reverseRecOn generalizing s with
  | nil =>
    obtain rfl := Option.some.inj hms
    exact .between 0
  | append_singleton ms m ih =>
    rw [after?_append] at hms
    obtain ⟨t, ht, hm⟩ := Option.bind_eq_some_iff.mp hms
    have hstep : t.step invoke o m = some s := by simpa [after?] using hm
    exact step_alone hw (ih ht) m hstep

theorem prefix_oneByOne (hw : o.width = 1)
    (hms : (initial o h d).after? invoke o ms = some s) : ms <+: oneByOne d.caseCount := by
  have hknown := (after_follows hms).known
  have halone := after_alone hw hms
  generalize s.window = window at halone
  cases halone with
  | between n =>
    rw [starts_oneByOne] at hknown
    exact oneByOne_prefix_of_le hknown
  | running n j =>
    rw [starts_append, starts_oneByOne] at hknown
    refine .trans ?_ (oneByOne_prefix_of_le (n := n + 1) hknown)
    rw [oneByOne_succ, List.prefix_append_right_inj]
    exact ⟨[.finish 0, .record], rfl⟩
  | ended n j r =>
    rw [starts_append, starts_oneByOne] at hknown
    refine .trans ?_ (oneByOne_prefix_of_le (n := n + 1) hknown)
    rw [oneByOne_succ, List.prefix_append_right_inj]
    exact ⟨[.record], rfl⟩

end Alone

/-- Whatever order the invocations end in, the cases that were started are the first of the
document, and those that are not recorded yet are the last of these, no more than the width
admits. The width is the number that is asked for, or that of the processors; it is never zero, so
a run goes on while cases are left, and a case can be started where none is in flight. Where the
width is one, each case is started when the one before it has been recorded. -/
theorem starts_in_order_within_width (invoke : Invoker) (o : RunOptions) (h : Host)
    (d : Document) (hprocessors : 0 < o.processors) :
    (o.width = if o.jobs = 0 then o.processors else o.jobs.toNat) ∧ 0 < o.width ∧
    ∀ ms s, (initial o h d).after? invoke o ms = some s →
      (s.calls.toList = (d.entries.take (starts ms)).map Job.call ∧
        s.waiting = d.entries.drop (starts ms) ∧
        s.window.map Slot.job = (d.entries.take (starts ms)).drop (records ms) ∧
        Job.AllGive invoke (d.entries.take (records ms)) s.category.results.toList) ∧
      (starts ms = records ms + s.window.length ∧ s.window.length ≤ o.width) ∧
      (records ms < d.caseCount → ∃ m s', s.next? o = some m ∧ s.step invoke o m = some s') ∧
      (starts ms < d.caseCount → starts ms < records ms + o.width →
        ∃ s', s.step invoke o .start = some s') ∧
      (∀ before after, ms = before ++ .start :: after →
        starts before < records before + o.width) ∧
      (o.jobs = 1 → ms <+: oneByOne d.caseCount) := by
  refine ⟨o.width_eq hprocessors, o.width_pos, fun ms s hms => ?_⟩
  have hs := after_follows hms
  refine ⟨⟨hs.calls, hs.waiting, hs.window, hs.results⟩, ⟨hs.inFlight, hs.room⟩,
    fun hleft => step_next invoke o (hs.not_over hleft), hs.can_start, ?_, fun hone => ?_⟩
  · rintro before after rfl
    exact starts_lt_of_start hms
  · refine prefix_oneByOne ?_ hms
    rw [o.width_eq hprocessors, hone]
    rfl

/-- Two processors and three cases: the second case has ended, and the third has to wait for the
first to be recorded. Where one case is asked for at a time, the second one waits as well. -/
theorem slow_first_case_holds_back_third :
    let d : Document := ⟨"window", [⟨"f", "1", [⟨[], .text "1", .unset⟩,
      ⟨[.integer 2], .text "1", .unset⟩, ⟨[.integer 3], .text "1", .unset⟩]⟩]⟩
    let invoke : Invoker := .ofAnswers fun file _ => .output file
    let o (jobs : UInt64) : RunOptions := ⟨⟨.english, false⟩, false, jobs, 2⟩
    (∃ s, (initial (o 0) default d).after? invoke (o 0) [.start, .start, .finish 1] = some s ∧
      s.calls.toList = [("1", []), ("1", [.integer 2])] ∧ s.step invoke (o 0) .start = none ∧
      ∃ m s', s.next? (o 0) = some m ∧ s.step invoke (o 0) m = some s') ∧
    ∀ ms s, (initial (o 1) default d).after? invoke (o 1) ms = some s → ms <+: oneByOne 3 := by
  intro d invoke o
  obtain ⟨hwidth, -, hall⟩ :=
    starts_in_order_within_width invoke (o 0) default d (by decide : 0 < 2)
  obtain ⟨-, -, hone⟩ := starts_in_order_within_width invoke (o 1) default d (by decide : 0 < 2)
  constructor
  · obtain ⟨s, hs⟩ := Option.isSome_iff_exists.mp
      (show ((initial (o 0) default d).after? invoke (o 0)
        [.start, .start, .finish 1]).isSome = true from rfl)
    obtain ⟨⟨hcalls, -⟩, ⟨hinFlight, -⟩, hnext, -⟩ := hall _ s hs
    refine ⟨s, hs, hcalls, ?_, hnext (by decide)⟩
    cases hm : s.step invoke (o 0) .start with
    | none => rfl
    | some s' =>
      obtain ⟨j, rest, -, hroom, -⟩ := step_start hm
      rw [hwidth] at hroom
      have hfull : 2 = 0 + s.window.length := hinFlight
      have htwo : s.window.length < 2 := hroom
      omega
  · intro ms s hms
    exact (hone ms s hms).2.2.2.2.2 rfl

end Schedule

end Assay
