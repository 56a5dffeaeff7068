import Assay.Invocation.Interpreter
import Assay.Suite.Schedule

/-!
# Sources of a run

Three sources speak of a run until the deadline cuts them off: the process and
its two streams. What is captured can be read off each source alone, so the
order in which the sources speak makes no difference, and a case passes only on
the whole of an output that ended in time.
-/

set_option autoImplicit false

namespace Assay

namespace RunEvent

inductive Source where
  | process
  | stream (s : Stream)
  | clock
deriving DecidableEq, Repr

def source : RunEvent → Source
  | spawnError _ => .process
  | waitError _ => .process
  | exit _ => .process
  | chunk s _ => .stream s
  | streamEnd s => .stream s
  | streamError s _ => .stream s
  | deadline => .clock

def ending? : RunEvent → Option (Except String WaitStatus)
  | spawnError m => some (.error m)
  | waitError m => some (.error m)
  | exit w => some (.ok w)
  | _ => none

def closing? (s : Stream) : RunEvent → Option (Except String Unit)
  | streamEnd t => if t = s then some (.ok ()) else none
  | streamError t m => if t = s then some (.error m) else none
  | _ => none

def bytes (s : Stream) : RunEvent → Bytes
  | chunk t bs => if t = s then bs else []
  | _ => []

def onStream (s : Stream) (state : StreamState) : RunEvent → StreamState
  | chunk t bs => if t = s then state.take bs else state
  | streamEnd t => if t = s then state.finish else state
  | streamError t m => if t = s then state.fail m else state
  | _ => state

end RunEvent

def inTime (events : List RunEvent) : List RunEvent := events.takeWhile (· ≠ .deadline)

/-- How the process ended: it exited, or it could not be started or waited for. -/
def processEnd? (events : List RunEvent) : Option (Except String WaitStatus) :=
  events.findSome? RunEvent.ending?

/-- How a stream ended: well, or with a read error. -/
def streamEnd? (s : Stream) (events : List RunEvent) : Option (Except String Unit) :=
  events.findSome? (RunEvent.closing? s)

def delivered (s : Stream) (events : List RunEvent) : Bytes :=
  (events.takeWhile fun e => (e.closing? s).isNone).flatMap (RunEvent.bytes s)

def finding? (events : List RunEvent) : Option Captured :=
  match processEnd? events, streamEnd? .stdout events, streamEnd? .stderr events with
  | some (.error m), _, _ => some (.notRun m)
  | some (.ok _), some (.error m), some _ => some (.streamBroken .stdout m)
  | some (.ok _), some (.ok _), some (.error m) => some (.streamBroken .stderr m)
  | some (.ok w), some (.ok _), some (.ok _) =>
    some (.exited w (delivered .stdout events) (delivered .stderr events))
  | _, _, _ => none

def streamState (s : Stream) (events : List RunEvent) : StreamState :=
  match streamEnd? s events with
  | none => .reading (delivered s events)
  | some (.ok _) => .ended (delivered s events)
  | some (.error m) => .broken m

def Progress.after (events : List RunEvent) : Progress where
  status := (processEnd? events).bind fun e => e.toOption
  stdout := streamState .stdout events
  stderr := streamState .stderr events

/-! ## One more event -/

theorem processEnd?_append (es fs : List RunEvent) :
    processEnd? (es ++ fs) = (processEnd? es).or (processEnd? fs) :=
  List.findSome?_append

theorem processEnd?_concat (es : List RunEvent) (e : RunEvent) :
    processEnd? (es ++ [e]) = (processEnd? es).or e.ending? := by
  rw [processEnd?_append]
  simp [processEnd?]

theorem streamEnd?_append (s : Stream) (es fs : List RunEvent) :
    streamEnd? s (es ++ fs) = (streamEnd? s es).or (streamEnd? s fs) :=
  List.findSome?_append

theorem delivered_append (s : Stream) (es fs : List RunEvent) :
    delivered s (es ++ fs) =
      if (streamEnd? s es).isSome then delivered s es else delivered s es ++ delivered s fs := by
  unfold delivered streamEnd?
  induction es with
  | nil => simp
  | cons e es ih =>
    cases he : e.closing? s with
    | some x => simp [he]
    | none =>
      simp only [List.cons_append, List.takeWhile_cons, he, Option.isNone_none, if_true,
        List.flatMap_cons, List.findSome?_cons, ih]
      split <;> simp

theorem streamState_concat (s : Stream) (es : List RunEvent) (e : RunEvent) :
    streamState s (es ++ [e]) = e.onStream s (streamState s es) := by
  unfold streamState
  rw [streamEnd?_append, delivered_append]
  cases hs : streamEnd? s es with
  | some x =>
    -- the stream is over, and what an event does to it leaves it as it is
    cases x <;> cases e <;>
      simp [RunEvent.onStream, StreamState.take, StreamState.finish, StreamState.fail]
  | none =>
    cases e with
    | chunk t bs => by_cases ht : t = s <;>
        simp [streamEnd?, delivered, RunEvent.closing?, RunEvent.bytes, RunEvent.onStream,
          StreamState.take, ht]
    | streamEnd t => by_cases ht : t = s <;>
        simp [streamEnd?, delivered, RunEvent.closing?, RunEvent.bytes, RunEvent.onStream,
          StreamState.finish, ht]
    | streamError t m => by_cases ht : t = s <;>
        simp [streamEnd?, delivered, RunEvent.closing?, RunEvent.bytes, RunEvent.onStream,
          StreamState.fail, ht]
    | spawnError | waitError | exit | deadline =>
      simp [streamEnd?, delivered, RunEvent.closing?, RunEvent.bytes, RunEvent.onStream]

theorem after_concat (es : List RunEvent) (e : RunEvent) :
    Progress.after (es ++ [e]) =
      ⟨((processEnd? es).or e.ending?).bind fun x => x.toOption,
        e.onStream .stdout (streamState .stdout es),
        e.onStream .stderr (streamState .stderr es)⟩ := by
  simp [Progress.after, streamState_concat, processEnd?_concat]

/-- Unless the process was refused, what is captured is read off the progress made. -/
theorem finding?_eq_result? {es : List RunEvent} (h : ∀ m, processEnd? es ≠ some (.error m)) :
    finding? es = (Progress.after es).result? := by
  unfold finding? Progress.after Progress.result? streamState
  rcases hp : processEnd? es with _ | _ | w
  · rfl
  · exact absurd hp (h _)
  · rcases streamEnd? .stdout es with _ | _ | _ <;> rcases streamEnd? .stderr es with _ | _ | _ <;>
      rfl

theorem finding?_refused {es : List RunEvent} {m : String}
    (h : processEnd? es = some (.error m)) : finding? es = some (.notRun m) := by
  simp [finding?, h]

theorem open_of_finding? {es : List RunEvent} (h : finding? es = none) :
    ∀ m, processEnd? es ≠ some (.error m) := fun m hm => by
  simp [finding?_refused hm] at h

theorem refuse_after {es : List RunEvent} (h : finding? es = none) {e : RunEvent} {m : String}
    (he : e.ending? = some (.error m)) (hs : ∀ s state, e.onStream s state = state) :
    captureStep.refuse (Progress.after es) m =
      match finding? (es ++ [e]) with
      | some c => .inr c
      | none => .inl (Progress.after (es ++ [e])) := by
  have hopen := open_of_finding? h
  rcases hp : processEnd? es with _ | _ | w
  · have hrefused : processEnd? (es ++ [e]) = some (.error m) := by
      simp [processEnd?_concat, hp, he]
    simp [finding?_refused hrefused, captureStep.refuse, Progress.after, hp]
  · exact absurd hp (hopen _)
  · have hafter : Progress.after (es ++ [e]) = Progress.after es := by
      rw [after_concat, hs, hs, hp]
      simp [Progress.after, hp]
    have hnone : finding? (es ++ [e]) = none := by
      rw [finding?_eq_result? (by simp [processEnd?_concat, hp]), hafter,
        ← finding?_eq_result? hopen, h]
    rw [hnone, hafter]
    simp [captureStep.refuse, Progress.after, hp, Except.toOption]

/-- An event that is no refusal makes its mark on the progress, and what is captured shows
there. -/
theorem settle_after {es : List RunEvent} (h : finding? es = none) {e : RunEvent}
    (he : ∀ m, e.ending? ≠ some (.error m)) :
    captureStep.settle (Progress.after (es ++ [e])) =
      match finding? (es ++ [e]) with
      | some c => .inr c
      | none => .inl (Progress.after (es ++ [e])) := by
  have hopen : ∀ m, processEnd? (es ++ [e]) ≠ some (.error m) := fun m hm => by
    rcases hp : processEnd? es with _ | x
    · exact he m (by simpa [processEnd?_concat, hp] using hm)
    · exact open_of_finding? h m (by simpa [processEnd?_concat, hp] using hm)
  rw [finding?_eq_result? hopen]
  rfl

theorem finding?_chunk {es : List RunEvent} (h : finding? es = none) (s : Stream) (bs : Bytes) :
    finding? (es ++ [.chunk s bs]) = none := by
  have hend (t : Stream) : streamEnd? t (es ++ [.chunk s bs]) = streamEnd? t es := by
    simp [streamEnd?, RunEvent.closing?]
  have hprocess : processEnd? (es ++ [.chunk s bs]) = processEnd? es := by
    simp [processEnd?, RunEvent.ending?]
  unfold finding? at h ⊢
  rw [hend, hend, hprocess]
  split at h <;> simp_all

/-- One more event makes the next state of progress, or brings what is captured. -/
theorem captureStep_after {es : List RunEvent} (h : finding? es = none) {e : RunEvent}
    (he : e ≠ .deadline) : captureStep (Progress.after es) e =
      match finding? (es ++ [e]) with
      | some c => .inr c
      | none => .inl (Progress.after (es ++ [e])) := by
  cases e with
  | spawnError m => exact refuse_after h rfl fun _ _ => rfl
  | waitError m => exact refuse_after h rfl fun _ _ => rfl
  | deadline => exact absurd rfl he
  | chunk s bs =>
    rw [finding?_chunk h, after_concat]
    cases s <;> simp [captureStep, Progress.update, Progress.after, RunEvent.onStream,
      RunEvent.ending?]
  | streamEnd s =>
    rw [← settle_after h (by simp [RunEvent.ending?]), after_concat]
    cases s <;> simp [captureStep, Progress.update, Progress.after, RunEvent.onStream,
      RunEvent.ending?]
  | streamError s m =>
    rw [← settle_after h (by simp [RunEvent.ending?]), after_concat]
    cases s <;> simp [captureStep, Progress.update, Progress.after, RunEvent.onStream,
      RunEvent.ending?]
  | exit w =>
    rw [← settle_after h (by simp [RunEvent.ending?]), after_concat]
    have hopen := open_of_finding? h
    rcases hp : processEnd? es with _ | _ | v
    · simp [captureStep, Progress.after, RunEvent.onStream, RunEvent.ending?, hp, Except.toOption]
    · exact absurd hp (hopen _)
    · simp [captureStep, Progress.after, RunEvent.onStream, hp, Except.toOption]

theorem finding?_append {es : List RunEvent} {c : Captured} (h : finding? es = some c)
    (fs : List RunEvent) : finding? (es ++ fs) = some c := by
  unfold finding? at h ⊢
  rw [processEnd?_append, streamEnd?_append, streamEnd?_append]
  split at h <;> simp_all [delivered_append]

theorem captureFrom_after (es fs : List RunEvent) (h : finding? es = none) :
    captureFrom (Progress.after es) fs =
      match finding? (es ++ inTime fs) with
      | some c => some c
      | none => if .deadline ∈ fs then some .timedOut else none := by
  induction fs generalizing es with
  | nil => simp [captureFrom, inTime, h]
  | cons e fs ih =>
    by_cases he : e = .deadline
    · subst he
      simp [captureFrom, captureStep, inTime, h]
    · have hin : inTime (e :: fs) = e :: inTime fs := by simp [inTime, he]
      rw [captureFrom, captureStep_after h he, hin, List.append_cons es e (inTime fs)]
      rcases hc : finding? (es ++ [e]) with _ | c
      · simp only [ih _ hc, List.mem_cons, Ne.symm he, false_or]
      · simp only [finding?_append hc]

theorem ofEvents_eq (events : List RunEvent) :
    Outcome.ofEvents events =
      match finding? (inTime events) with
      | some c => Outcome.ofCaptured c
      | none => Outcome.timedOut := by
  have hinitial : Progress.initial = Progress.after [] := rfl
  rw [Outcome.ofEvents, capture, hinitial, captureFrom_after [] events rfl, List.nil_append]
  rcases finding? (inTime events) with _ | c
  · by_cases hd : .deadline ∈ events <;> simp [hd, Outcome.ofCaptured]
  · rfl

/-! ## Order -/

def SameSources (es fs : List RunEvent) : Prop :=
  ∀ source, es.filter (fun e => e.source = source) = fs.filter (fun e => e.source = source)

theorem findSome?_of_source {α : Type} (f : RunEvent → Option α) (source : RunEvent.Source)
    (hf : ∀ e, e.source ≠ source → f e = none) (es : List RunEvent) :
    (es.filter fun e => e.source = source).findSome? f = es.findSome? f := by
  induction es with
  | nil => rfl
  | cons e es ih =>
    by_cases he : e.source = source
    · simp [he, List.findSome?_cons, ih]
    · simp [he, hf e he, ih]

theorem processEnd?_of_source (es : List RunEvent) :
    processEnd? (es.filter fun e => e.source = .process) = processEnd? es :=
  findSome?_of_source _ _
    (fun e he => by cases e <;> simp_all [RunEvent.source, RunEvent.ending?]) es

theorem streamEnd?_of_source (s : Stream) (es : List RunEvent) :
    streamEnd? s (es.filter fun e => e.source = .stream s) = streamEnd? s es :=
  findSome?_of_source _ _
    (fun e he => by cases e <;> simp_all [RunEvent.source, RunEvent.closing?]) es

theorem delivered_of_source (s : Stream) (es : List RunEvent) :
    delivered s (es.filter fun e => e.source = .stream s) = delivered s es := by
  unfold delivered
  induction es with
  | nil => rfl
  | cons e es ih =>
    by_cases he : e.source = .stream s
    · simp only [he, decide_true, List.filter_cons_of_pos, List.takeWhile_cons]
      split
      · simp only [List.flatMap_cons, ih]
      · rfl
    · have hclosing : e.closing? s = none := by
        cases e <;> simp_all [RunEvent.source, RunEvent.closing?]
      have hbytes : e.bytes s = [] := by
        cases e <;> simp_all [RunEvent.source, RunEvent.bytes]
      simp [he, hclosing, hbytes, ih]

theorem finding?_of_sameSources {es fs : List RunEvent} (h : SameSources es fs) :
    finding? es = finding? fs := by
  unfold finding?
  rw [← processEnd?_of_source es, ← processEnd?_of_source fs, ← streamEnd?_of_source .stdout es,
    ← streamEnd?_of_source .stdout fs, ← streamEnd?_of_source .stderr es,
    ← streamEnd?_of_source .stderr fs, ← delivered_of_source .stdout es,
    ← delivered_of_source .stdout fs, ← delivered_of_source .stderr es,
    ← delivered_of_source .stderr fs, h .process, h (.stream .stdout), h (.stream .stderr)]

/-! ## Outcomes -/

/-- The process exited, and both its streams ended, one way or another. -/
def Closed (events : List RunEvent) (w : WaitStatus) (stdout stderr : Except String Unit) : Prop :=
  processEnd? events = some (.ok w) ∧ streamEnd? .stdout events = some stdout ∧
    streamEnd? .stderr events = some stderr

/-- The rules by which the sources of a run decide on its outcome. -/
inductive Decides (events : List RunEvent) : Outcome → Prop
  | refused {m : String} (h : processEnd? events = some (.error m)) :
      Decides events (.failed ⟨.spawn, m⟩)
  | running (h : processEnd? events = none) : Decides events (.failed ⟨.timeout, "Timeout"⟩)
  | reading {w : WaitStatus} (h : processEnd? events = some (.ok w))
      (hs : streamEnd? .stdout events = none ∨ streamEnd? .stderr events = none) :
      Decides events (.failed ⟨.timeout, "Timeout"⟩)
  | stdoutBroken {w : WaitStatus} {m : String} {stderr : Except String Unit}
      (h : Closed events w (.error m) stderr) :
      Decides events (.failed ⟨.capture, "Failed to read stdout: " ++ m⟩)
  | stderrBroken {w : WaitStatus} {m : String} (h : Closed events w (.ok ()) (.error m)) :
      Decides events (.failed ⟨.capture, "Failed to read stderr: " ++ m⟩)
  | failure {w : WaitStatus} {m : String} (h : Closed events w (.ok ()) (.ok ()))
      (hw : w.isSuccess = false)
      (hm : Outcome.ofExit w (delivered .stdout events) (delivered .stderr events) =
        .failed ⟨.nonZeroExit, m⟩) : Decides events (.failed ⟨.nonZeroExit, m⟩)
  | success {w : WaitStatus} (h : Closed events w (.ok ()) (.ok ())) (hw : w.isSuccess = true) :
      Decides events (.output (Outcome.lossyTrimmed (delivered .stdout events)))

theorem ofExit_decides {events : List RunEvent} {w : WaitStatus}
    (h : Closed events w (.ok ()) (.ok ())) :
    Decides events (Outcome.ofExit w (delivered .stdout events) (delivered .stderr events)) := by
  cases hw : w.isSuccess with
  | true => simpa [Outcome.ofExit, hw] using Decides.success h hw
  | false =>
    obtain ⟨m, hm⟩ : ∃ m, Outcome.ofExit w (delivered .stdout events) (delivered .stderr events) =
        .failed ⟨.nonZeroExit, m⟩ := ⟨_, by simp only [Outcome.ofExit, hw]; rfl⟩
    exact hm ▸ Decides.failure h hw hm

theorem ofEvents_decides (events : List RunEvent) :
    Decides (inTime events) (Outcome.ofEvents events) := by
  rw [ofEvents_eq, finding?]
  rcases hp : processEnd? (inTime events) with _ | m | w
  · exact .running hp
  · exact .refused hp
  · rcases hout : streamEnd? .stdout (inTime events) with _ | m | _
    · exact .reading hp (.inl hout)
    · rcases herr : streamEnd? .stderr (inTime events) with _ | e
      · exact .reading hp (.inr herr)
      · exact .stdoutBroken ⟨hp, hout, herr⟩
    · rcases herr : streamEnd? .stderr (inTime events) with _ | m | _
      · exact .reading hp (.inr herr)
      · exact .stderrBroken ⟨hp, hout, herr⟩
      · exact ofExit_decides ⟨hp, hout, herr⟩

theorem decides_unique {events : List RunEvent} {o o' : Outcome} (h : Decides events o)
    (h' : Decides events o') : o = o' := by
  cases h <;> cases h' <;> first | rfl | simp_all [Closed]

theorem ofEvents_eq_iff (events : List RunEvent) (o : Outcome) :
    Outcome.ofEvents events = o ↔ Decides (inTime events) o :=
  ⟨fun h => h ▸ ofEvents_decides events, decides_unique (ofEvents_decides events)⟩

/-! ## Cases -/

namespace CaseResult

/-- The class and the diagnostic of a failed invocation. -/
def failure? (r : CaseResult) : Option InvocationFailure :=
  r.reason.bind fun reason => r.error.map fun message => ⟨reason, message⟩

/-- What the result of a case says of the events that came in time. -/
structure Explains (r : CaseResult) (j : Job) (events : List RunEvent) : Prop where
  subject : r.name = j.1.caseName j.2 ∧ r.expected = j.2.expected
  /-- A case passes only on the whole of a standard output that is accepted. -/
  passed : r.passed = true ↔ ∃ w, Closed events w (.ok ()) (.ok ()) ∧ w.isSuccess = true ∧
    j.2.expected.judges j.2.tolerance
      (some (Outcome.lossyTrimmed (delivered .stdout events))) = true
  actual : ∀ text, r.actual = some text ↔ ∃ w, Closed events w (.ok ()) (.ok ()) ∧
    w.isSuccess = true ∧ text = Outcome.lossyTrimmed (delivered .stdout events)
  /-- What is no mismatch has no output, and a class and a diagnostic instead. -/
  failed : r.actual = none ↔
    ∃ f, r.failure? = some f ∧ r.error = some f.message ∧ r.reason = some f.reason
  spawn : ∀ m, r.failure? = some ⟨.spawn, m⟩ ↔ processEnd? events = some (.error m)
  timeout : ∀ m, r.failure? = some ⟨.timeout, m⟩ ↔ m = "Timeout" ∧
    (processEnd? events = none ∨ ∃ w, processEnd? events = some (.ok w) ∧
      (streamEnd? .stdout events = none ∨ streamEnd? .stderr events = none))
  capture : ∀ m, r.failure? = some ⟨.capture, m⟩ ↔
    (∃ w e stderr, Closed events w (.error e) stderr ∧ m = "Failed to read stdout: " ++ e) ∨
    (∃ w e, Closed events w (.ok ()) (.error e) ∧ m = "Failed to read stderr: " ++ e)
  exit : ∀ m, r.failure? = some ⟨.nonZeroExit, m⟩ ↔
    ∃ w, Closed events w (.ok ()) (.ok ()) ∧ w.isSuccess = false ∧
      Outcome.ofExit w (delivered .stdout events) (delivered .stderr events) =
        .failed ⟨.nonZeroExit, m⟩

end CaseResult

section Results

variable (j : Job) (o : Outcome)

theorem result_passed_iff : (j.result o).passed = true ↔
    ∃ text, o = .output text ∧ j.2.expected.judges j.2.tolerance (some text) = true := by
  cases o <;> simp [Job.result, CaseResult.ofOutcome, Outcome.output?]

theorem result_actual_iff (text : String) : (j.result o).actual = some text ↔ o = .output text := by
  cases o <;> simp [Job.result, CaseResult.ofOutcome]

theorem result_failure?_iff (f : InvocationFailure) :
    (j.result o).failure? = some f ↔ o = .failed f := by
  cases o <;> simp [Job.result, CaseResult.ofOutcome, CaseResult.failure?]

theorem result_failed_iff : (j.result o).actual = none ↔ ∃ f, (j.result o).failure? = some f ∧
    (j.result o).error = some f.message ∧ (j.result o).reason = some f.reason := by
  cases o <;> simp [Job.result, CaseResult.ofOutcome, CaseResult.failure?]

end Results

theorem result_explains (j : Job) (events : List RunEvent) :
    (j.result (Outcome.ofEvents events)).Explains j (inTime events) where
  subject := by
    cases Outcome.ofEvents events <;> exact ⟨rfl, rfl⟩
  passed := by
    simp only [result_passed_iff, ofEvents_eq_iff]
    constructor
    · rintro ⟨text, h, hj⟩
      cases h with
      | success h hw => exact ⟨_, h, hw, hj⟩
    · rintro ⟨w, h, hw, hj⟩
      exact ⟨_, .success h hw, hj⟩
  actual text := by
    rw [result_actual_iff, ofEvents_eq_iff]
    constructor
    · intro h
      cases h with
      | success h hw => exact ⟨_, h, hw, rfl⟩
    · rintro ⟨w, h, hw, rfl⟩
      exact .success h hw
  failed := result_failed_iff j _
  spawn m := by
    rw [result_failure?_iff, ofEvents_eq_iff]
    exact ⟨fun | .refused h => h, .refused⟩
  timeout m := by
    rw [result_failure?_iff, ofEvents_eq_iff]
    constructor
    · intro h
      cases h with
      | running h => exact ⟨rfl, .inl h⟩
      | reading h hs => exact ⟨rfl, .inr ⟨_, h, hs⟩⟩
    · rintro ⟨rfl, h | ⟨w, h, hs⟩⟩
      · exact .running h
      · exact .reading h hs
  capture m := by
    rw [result_failure?_iff, ofEvents_eq_iff]
    constructor
    · intro h
      cases h with
      | stdoutBroken h => exact .inl ⟨_, _, _, h, rfl⟩
      | stderrBroken h => exact .inr ⟨_, _, h, rfl⟩
    · rintro (⟨w, e, stderr, h, rfl⟩ | ⟨w, e, h, rfl⟩)
      · exact .stdoutBroken h
      · exact .stderrBroken h
  exit m := by
    rw [result_failure?_iff, ofEvents_eq_iff]
    constructor
    · intro h
      cases h with
      | failure h hw hm => exact ⟨_, h, hw, hm⟩
    · rintro ⟨w, h, hw, hm⟩
      exact .failure h hw hm

/-- Whatever events starting a process leads to, in whatever order: the result of the case
is what they say in time, and the order between their sources makes no difference to it. -/
theorem run_follows_sources (i : Interpreter) (spawn : Spawner) (j : Job) (h : Host) :
    let events := (spawn (i.request j.call) h).1
    let r := (j.run (i.invoker spawn) h).1
    r.Explains j (inTime events) ∧
    ∀ (spawn' : Spawner) (h' : Host),
      SameSources (inTime events) (inTime (spawn' (i.request j.call) h').1) →
        (j.run (i.invoker spawn') h').1 = r := by
  intro events r
  refine ⟨result_explains j events, fun spawn' h' hsame => ?_⟩
  change j.result (Outcome.ofEvents (spawn' (i.request j.call) h').1) =
    j.result (Outcome.ofEvents events)
  rw [ofEvents_eq, ofEvents_eq, finding?_of_sameSources hsame]

/-- Two orders of the same events, of which the whole output is accepted. -/
theorem reordered_events_same_result :
    let i : Interpreter := ⟨"bin", "/project", 1000⟩
    let j : Job := (⟨"f", "f.src", []⟩, ⟨[.integer 1], .text "ab", .unset⟩)
    let early : Spawner := fun _ h => ([.chunk .stdout [0x61], .exit ⟨0⟩, .streamEnd .stderr,
      .chunk .stdout [0x62, 0x0a], .streamEnd .stdout, .deadline], h)
    let late : Spawner := fun _ h => ([.streamEnd .stderr, .chunk .stdout [0x61],
      .chunk .stdout [0x62, 0x0a], .streamEnd .stdout, .exit ⟨0⟩], h)
    (j.run (i.invoker early) default).1.passed = true ∧
      (j.run (i.invoker late) default).1 = (j.run (i.invoker early) default).1 := by
  intro i j early late
  obtain ⟨hr, hsame⟩ := run_follows_sources i early j default
  refine ⟨hr.passed.mpr ⟨⟨0⟩, ⟨rfl, rfl, rfl⟩, rfl, by decide +kernel⟩,
    hsame late default fun source => ?_⟩
  cases source with
  | process => rfl
  | stream s => cases s <;> rfl
  | clock => rfl

end Assay
