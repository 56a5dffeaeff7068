import Assay.Proofs.Invocation.Sources
import Assay.Proofs.Json.Numeral
import Assay.Proofs.Text.Padding

/-!
# Finished processes

A process that has succeeded leaves its output, and one that has failed leaves a
message: its diagnostics, or how it ended where it has written none. Both are
without blanks at their ends, and each depends on one of the two streams alone.
Blanks that are printed around an output change nothing in the result of a case.
-/

set_option autoImplicit false

namespace Assay

open Text (Trimmed Unpadded encode isBlank)

/-! ## Blanks around the output -/

/-- Two sequences of events that tell the same but for texts around the standard output. -/
structure PrintedBetween (before after : String) (es fs : List RunEvent) : Prop where
  process : processEnd? fs = processEnd? es
  ends : ∀ s, streamEnd? s fs = streamEnd? s es
  stdout : delivered .stdout fs = encode before ++ delivered .stdout es ++ encode after
  stderr : delivered .stderr fs = delivered .stderr es

section Blanks

variable {before after : String} (hbefore : ∀ c ∈ before.toList, isBlank c = true)
  (hafter : ∀ c ∈ after.toList, isBlank c = true)
include hbefore hafter

theorem lossyTrimmed_between (bytes : Bytes) :
    Outcome.lossyTrimmed (encode before ++ bytes ++ encode after) =
      Outcome.lossyTrimmed bytes := by
  rw [Outcome.lossyTrimmed, Text.decodeLossy_between, Text.trimChars_between hbefore hafter,
    Outcome.lossyTrimmed]

theorem ofExit_between (w : WaitStatus) (stdout stderr : Bytes) :
    Outcome.ofExit w (encode before ++ stdout ++ encode after) stderr =
      Outcome.ofExit w stdout stderr := by
  rw [Outcome.ofExit, lossyTrimmed_between hbefore hafter, Outcome.ofExit]

theorem Decides.between {es fs : List RunEvent} (h : PrintedBetween before after es fs)
    {o : Outcome} (hes : Decides es o) : Decides fs o := by
  have hclosed {w : WaitStatus} {stdout stderr : Except String Unit}
      (hc : Closed es w stdout stderr) : Closed fs w stdout stderr :=
    ⟨h.process.trans hc.1, (h.ends _).trans hc.2.1, (h.ends _).trans hc.2.2⟩
  cases hes with
  | refused hp => exact .refused (h.process.trans hp)
  | running hp => exact .running (h.process.trans hp)
  | reading hp hs => exact .reading (h.process.trans hp) (hs.imp (h.ends _).trans (h.ends _).trans)
  | stdoutBroken hc => exact .stdoutBroken (hclosed hc)
  | stderrBroken hc => exact .stderrBroken (hclosed hc)
  | failure hc hw hm =>
    refine .failure (hclosed hc) hw ?_
    rw [h.stdout, h.stderr, ofExit_between hbefore hafter, hm]
  | success hc hw =>
    rw [← lossyTrimmed_between hbefore hafter, ← h.stdout]
    exact .success (hclosed hc) hw

theorem ofEvents_between {es fs : List RunEvent}
    (h : PrintedBetween before after (inTime es) (inTime fs)) :
    Outcome.ofEvents fs = Outcome.ofEvents es :=
  (ofEvents_eq_iff fs _).mpr ((ofEvents_decides es).between hbefore hafter h)

end Blanks

/-- Blanks around the output of a process that succeeds make no difference to its outcome, be
the output readable or not. Nor do they make one to a verdict, and so the result of a case is
the same with them. -/
theorem blanks_around_output_make_no_difference {before after : String}
    (hbefore : ∀ c ∈ before.toList, isBlank c = true)
    (hafter : ∀ c ∈ after.toList, isBlank c = true) :
    (∀ (w : WaitStatus) (stdout stderr : Bytes), w.isSuccess = true →
      Outcome.ofExit w (encode before ++ stdout ++ encode after) stderr =
        Outcome.ofExit w stdout stderr) ∧
    (∀ (expected : Value) (tolerance : Tolerance) (output : String),
      expected.judges tolerance (some (before ++ output ++ after)) =
        expected.judges tolerance (some output)) ∧
    ∀ (i : Interpreter) (j : Job) (spawn spawn' : Spawner) (h h' : Host),
      PrintedBetween before after (inTime (spawn (i.request j.call) h).1)
          (inTime (spawn' (i.request j.call) h').1) →
        (j.run (i.invoker spawn') h').1 = (j.run (i.invoker spawn) h).1 := by
  refine ⟨fun w stdout stderr _ => ofExit_between hbefore hafter w stdout stderr, ?_, ?_⟩
  · intro expected tolerance output
    rw [Value.judges, Value.accepts, String.toList_append, String.toList_append,
      Text.trimChars_between hbefore hafter, Value.judges, Value.accepts]
  · intro i j spawn spawn' h h' hprinted
    change j.result (Outcome.ofEvents (spawn' (i.request j.call) h').1) =
      j.result (Outcome.ofEvents (spawn (i.request j.call) h).1)
    rw [ofEvents_between hbefore hafter hprinted]

/-- A digit and the first two bytes of a wide blank, between wide blanks that are whole. -/
theorem broken_character_between_wide_blanks :
    let i : Interpreter := ⟨"bin", "/project", 1000⟩
    let j : Job := (⟨"f", "f.src", []⟩, ⟨[], .text "4\ufffd", .unset⟩)
    let stdout : Bytes := [0x34, 0xe2, 0x80]
    let printing (bytes : Bytes) : Spawner := fun _ h =>
      ([.chunk .stdout bytes, .streamEnd .stdout, .exit ⟨0⟩, .streamEnd .stderr], h)
    Outcome.ofExit ⟨0⟩ (encode "\u3000\n" ++ stdout ++ encode "\u2003") [] =
        .output "4\ufffd" ∧
      (j.run (i.invoker (printing (encode "\u3000\n" ++ stdout ++ encode "\u2003"))) default).1 =
        (j.run (i.invoker (printing stdout)) default).1 := by
  intro i j stdout printing
  have hbefore : ∀ c ∈ "\u3000\n".toList, isBlank c = true :=
    List.all_eq_true.mp (by decide)
  have hafter : ∀ c ∈ "\u2003".toList, isBlank c = true := List.all_eq_true.mp (by decide)
  obtain ⟨hexit, -, hrun⟩ := blanks_around_output_make_no_difference hbefore hafter
  refine ⟨(hexit ⟨0⟩ stdout [] rfl).trans (by decide +kernel), hrun i j _ _ _ _ ?_⟩
  exact ⟨rfl, fun s => by cases s <;> rfl, by decide +kernel, rfl⟩

/-! ## Ways to end -/

namespace WaitStatus

variable {w w' : WaitStatus}

theorem state_of_exited (h : w.bits % 0x80 = 0) :
    w.state = .exited (w.bits / 0x100 % 0x100) := by
  unfold state
  exact if_pos h

theorem state_of_ended (h : w.bits % 0x80 ≠ 0) (code : Nat) : w.state ≠ .exited code := by
  unfold state
  dsimp only
  rw [if_neg h]
  split_ifs <;> simp

theorem code?_of_exited (h : w.bits % 0x80 = 0) : w.code? = some (w.bits / 0x100 % 0x100) := by
  rw [code?, state_of_exited h]

theorem code?_of_ended (h : w.bits % 0x80 ≠ 0) : w.code? = none := by
  rw [code?]
  split
  · rename_i code hstate
    exact absurd hstate (state_of_ended h code)
  · rfl

def EndsPlain (s : String) : Prop := ∃ c, s.toList.getLast? = some c ∧ isBlank c = false

theorem EndsPlain.append (s : String) {t : String} (h : EndsPlain t) : EndsPlain (s ++ t) := by
  obtain ⟨c, hc, hplain⟩ := h
  exact ⟨c, by rw [String.toList_append, List.getLast?_append, hc]; rfl, hplain⟩

theorem EndsPlain.unpadded {start text : String} (h : EndsPlain text) (first : Char)
    (hfirst : (start ++ text).toList.head? = some first) (hplain : isBlank first = false) :
    Unpadded (start ++ text).toList := by
  obtain ⟨last, hlast, hend⟩ := h.append start
  rw [Unpadded, hfirst, hlast]
  simpa using ⟨hplain, hend⟩

theorem endsPlain_toDigits {base : Nat} (hlow : 1 < base) (hhigh : base ≤ 16) (n : Nat) :
    EndsPlain (String.ofList (Nat.toDigits base n)) := by
  have hplain : ∀ d < 16, isBlank (Nat.digitChar d) = false := by decide
  have hlt : n % base < base := Nat.mod_lt n (by omega)
  refine ⟨Nat.digitChar (n % base), ?_, hplain _ (by omega)⟩
  rw [String.toList_ofList]
  by_cases hsmall : n < base
  · rw [Nat.toDigits_of_lt_base hsmall, Nat.mod_eq_of_lt hsmall]
    rfl
  · rw [Nat.toDigits_of_base_le hlow (Nat.le_of_not_lt hsmall), List.getLast?_append]
    rfl

theorem endsPlain_toString (n : Nat) : EndsPlain (toString n) :=
  endsPlain_toDigits (by decide) (by decide) n

theorem endsPlain_describeSignal (n : Nat) : EndsPlain (describeSignal n) := by
  unfold describeSignal
  cases signalName? n with
  | none => exact endsPlain_toString n
  | some name => exact .append _ ⟨')', rfl, rfl⟩

theorem endsPlain_describe (w : WaitStatus) : EndsPlain w.describe := by
  unfold describe
  cases w.state with
  | exited code => exact .append _ (endsPlain_toString code)
  | signaled n core =>
    cases core with
    | false => simpa using EndsPlain.append "signal: " (endsPlain_describeSignal n)
    | true => exact .append _ ⟨')', by decide, rfl⟩
  | stopped n => exact .append _ (endsPlain_describeSignal n)
  | continued =>
    change EndsPlain "continued (WIFCONTINUED)"
    exact ⟨')', by decide, rfl⟩
  | unrecognised => exact .append _ (.append _ (endsPlain_toDigits (by decide) (by decide) _))

/-! ## Telling them apart -/

theorem describeSignal_eq (n : Nat) : ∃ name : List Char,
    (describeSignal n).toList = decimalDigits n ++ name ∧ ∀ c ∈ name.head?, c.isDigit = false := by
  unfold describeSignal
  cases signalName? n with
  | none => exact ⟨[], by simp [Nat.toString_eq_repr, decimalDigits], by simp⟩
  | some name =>
    refine ⟨" (SIG".toList ++ name.toList ++ [')'], ?_, by simp⟩
    simp [Nat.toString_eq_repr, decimalDigits]

theorem decimalDigits_append_inj {m n : Nat} {r s : List Char}
    (hr : ∀ c ∈ r.head?, c.isDigit = false) (hs : ∀ c ∈ s.head?, c.isDigit = false)
    (h : decimalDigits m ++ r = decimalDigits n ++ s) : m = n ∧ r = s := by
  have hspan := congrArg Decimal.spanDigits h
  rw [Decimal.spanDigits_append _ _ (Decimal.allDigits_decimalDigits m) hr,
    Decimal.spanDigits_append _ _ (Decimal.allDigits_decimalDigits n) hs, Prod.mk.injEq] at hspan
  have hvalue := congrArg digitsValue hspan.1
  rw [digitsValue_decimalDigits, digitsValue_decimalDigits] at hvalue
  exact ⟨hvalue, hspan.2⟩

theorem describeSignal_append_inj {m n : Nat} {r s : List Char}
    (hr : ∀ c ∈ r.head?, c.isDigit = false) (hs : ∀ c ∈ s.head?, c.isDigit = false)
    (h : (describeSignal m).toList ++ r = (describeSignal n).toList ++ s) : m = n ∧ r = s := by
  obtain ⟨name, hm, hname⟩ := describeSignal_eq m
  obtain ⟨name', hn, hname'⟩ := describeSignal_eq n
  have hdigits := h
  rw [hm, hn, List.append_assoc, List.append_assoc] at hdigits
  have hhead {a b : List Char} (ha : ∀ c ∈ a.head?, c.isDigit = false)
      (hb : ∀ c ∈ b.head?, c.isDigit = false) : ∀ c ∈ (a ++ b).head?, c.isDigit = false := by
    cases a with
    | nil => exact hb
    | cons c cs => simpa using ha
  obtain ⟨rfl, -⟩ := decimalDigits_append_inj (hhead hname hr) (hhead hname' hs) hdigits
  exact ⟨rfl, List.append_cancel_left h⟩

theorem toString_inj {m n : Nat} (h : toString m = toString n) : m = n := by
  have hdigits : decimalDigits m = decimalDigits n := by
    simpa [Nat.toString_eq_repr, decimalDigits] using congrArg String.toList h
  rw [← digitsValue_decimalDigits m, hdigits, digitsValue_decimalDigits]

theorem state_eq_of_describe_eq (hw : w.bits % 0x80 ≠ 0) (hw' : w'.bits % 0x80 ≠ 0)
    (h : w.describe = w'.describe) : w.state = w'.state := by
  have hlist := congrArg String.toList h
  unfold describe at hlist
  cases hs : w.state with
  | exited code => exact absurd hs (state_of_ended hw code)
  | signaled n core =>
    cases hs' : w'.state with
    | exited code => exact absurd hs' (state_of_ended hw' code)
    | signaled n' core' =>
      have htext : (describeSignal n).toList ++ (if core then " (core dumped)" else "").toList =
          (describeSignal n').toList ++ (if core' then " (core dumped)" else "").toList := by
        simpa [hs, hs'] using hlist
      obtain ⟨rfl, hcore⟩ := describeSignal_append_inj (by cases core <;> simp)
        (by cases core' <;> simp) htext
      cases core <;> cases core' <;> simp_all
    | stopped n' => simp [hs, hs'] at hlist
    | continued => simp [hs, hs'] at hlist
    | unrecognised => simp [hs, hs'] at hlist
  | stopped n =>
    cases hs' : w'.state with
    | exited code => exact absurd hs' (state_of_ended hw' code)
    | signaled n' core' => simp [hs, hs'] at hlist
    | stopped n' =>
      have htext : (describeSignal n).toList ++ [] = (describeSignal n').toList ++ [] := by
        simpa [hs, hs'] using hlist
      obtain ⟨rfl, -⟩ := describeSignal_append_inj (by simp) (by simp) htext
      rfl
    | continued => simp [hs, hs'] at hlist
    | unrecognised => simp [hs, hs'] at hlist
  | continued =>
    cases hs' : w'.state with
    | exited code => exact absurd hs' (state_of_ended hw' code)
    | signaled n' core' => simp [hs, hs'] at hlist
    | stopped n' => simp [hs, hs'] at hlist
    | continued => rfl
    | unrecognised => simp [hs, hs'] at hlist
  | unrecognised =>
    cases hs' : w'.state with
    | exited code => exact absurd hs' (state_of_ended hw' code)
    | signaled n' core' => simp [hs, hs'] at hlist
    | stopped n' => simp [hs, hs'] at hlist
    | continued => simp [hs, hs'] at hlist
    | unrecognised => rfl

end WaitStatus

/-! ## Messages -/

/-- Bytes that are read as blanks and nothing else. -/
def OnlyBlanks (bytes : Bytes) : Prop := ∀ c ∈ Text.decodeLossy bytes, isBlank c = true

/-- What is told of a process that has failed: its diagnostics or, if there are none, the exit
code that its status has behind seven zeros, or what ended it. -/
inductive Tells (w : WaitStatus) (stderr : Bytes) : String → Prop
  | diagnostics {text : String} (h : Trimmed text.toList (Text.decodeLossy stderr))
      (hne : text ≠ "") : Tells w stderr text
  | code (h : OnlyBlanks stderr) (hw : w.bits % 0x80 = 0) :
      Tells w stderr ("Exit code " ++ toString (w.bits / 0x100 % 0x100))
  | ending (h : OnlyBlanks stderr) (hw : w.bits % 0x80 ≠ 0) :
      Tells w stderr ("Process terminated: " ++ w.describe)

theorem trimmed_lossyTrimmed (bytes : Bytes) :
    Trimmed (Outcome.lossyTrimmed bytes).toList (Text.decodeLossy bytes) := by
  rw [Text.trimmed_iff, Outcome.lossyTrimmed, String.toList_ofList]

theorem lossyTrimmed_eq_empty_iff (bytes : Bytes) :
    Outcome.lossyTrimmed bytes = "" ↔ OnlyBlanks bytes := by
  have htrimmed := trimmed_lossyTrimmed bytes
  constructor
  · intro h
    rw [h] at htrimmed
    obtain ⟨before, after, hsplit, hblanks⟩ := htrimmed.blanks
    rw [OnlyBlanks, hsplit]
    simpa using hblanks
  · intro h
    have hempty : Trimmed [] (Text.decodeLossy bytes) :=
      ⟨⟨by simp, by simp⟩, Text.decodeLossy bytes, [], by simp, by simpa [OnlyBlanks] using h⟩
    rw [Text.trimmed_iff] at hempty
    rw [Outcome.lossyTrimmed, ← hempty]

section Failures

variable {w : WaitStatus} {stderr : Bytes}

theorem exists_tells (hw : w.isSuccess = false) (stderr : Bytes) : ∃ message,
    Tells w stderr message ∧
      ∀ stdout, Outcome.ofExit w stdout stderr = .failed ⟨.nonZeroExit, message⟩ := by
  simp only [Outcome.ofExit, hw, Bool.false_eq_true, if_false]
  by_cases hempty : Outcome.lossyTrimmed stderr = ""
  · have hblanks := (lossyTrimmed_eq_empty_iff stderr).mp hempty
    simp only [hempty, ne_eq, not_true_eq_false, if_false]
    by_cases hcode : w.bits % 0x80 = 0
    · rw [WaitStatus.code?_of_exited hcode]
      exact ⟨_, .code hblanks hcode, fun _ => rfl⟩
    · rw [WaitStatus.code?_of_ended hcode]
      exact ⟨_, .ending hblanks hcode, fun _ => rfl⟩
  · simp only [ne_eq, hempty, not_false_eq_true, if_true]
    exact ⟨_, .diagnostics (trimmed_lossyTrimmed stderr) hempty, fun _ => rfl⟩

theorem Tells.ne_empty {message : String} (h : Tells w stderr message) : message ≠ "" := by
  cases h with
  | diagnostics h hne => exact hne
  | code => simp
  | ending => simp

theorem Tells.unpadded {message : String} (h : Tells w stderr message) :
    Unpadded message.toList := by
  cases h with
  | diagnostics h => exact h.unpadded
  | code =>
    exact (WaitStatus.endsPlain_toString _).unpadded 'E' (by simp) rfl
  | ending =>
    exact (WaitStatus.endsPlain_describe w).unpadded 'P' (by simp) rfl

theorem Tells.not_diagnostics {text : String}
    (h : Trimmed text.toList (Text.decodeLossy stderr)) (hblanks : OnlyBlanks stderr) :
    text = "" := by
  rw [Text.trimmed_iff] at h
  rw [← (lossyTrimmed_eq_empty_iff stderr).mpr hblanks, Outcome.lossyTrimmed, ← h,
    String.ofList_toList]

theorem Tells.state_eq {w' : WaitStatus} {stderr' : Bytes} {message message' : String}
    (h : Tells w stderr message) (h' : Tells w' stderr' message') (hblanks : OnlyBlanks stderr)
    (hblanks' : OnlyBlanks stderr') (hsame : message = message') : w.state = w'.state := by
  cases h with
  | diagnostics h hne => exact absurd (not_diagnostics h hblanks) hne
  | code _ hw =>
    cases h' with
    | diagnostics h' hne => exact absurd (not_diagnostics h' hblanks') hne
    | code _ hw' =>
      rw [String.append_right_inj] at hsame
      rw [WaitStatus.state_of_exited hw, WaitStatus.state_of_exited hw',
        WaitStatus.toString_inj hsame]
    | ending =>
      have hlist := congrArg String.toList hsame
      simp at hlist
  | ending _ hw =>
    cases h' with
    | diagnostics h' hne => exact absurd (not_diagnostics h' hblanks') hne
    | code =>
      have hlist := congrArg String.toList hsame
      simp at hlist
    | ending _ hw' =>
      rw [String.append_right_inj] at hsame
      exact WaitStatus.state_eq_of_describe_eq hw hw' hsame

end Failures

/-- A process that succeeds leaves its output without the blanks around it, whatever else it
has written. One that does not leaves a message that is not empty and has no blanks around it,
whatever it has printed: its diagnostics, or else its exit code or what ended it. Two that
have written no diagnostics are told apart by it if they have ended in different ways. -/
theorem finished_process_is_told (w : WaitStatus) (stdout stderr : Bytes) :
    (w.isSuccess = true → ∃ text : String,
      Unpadded text.toList ∧ Trimmed text.toList (Text.decodeLossy stdout) ∧
        ∀ stderr', Outcome.ofExit w stdout stderr' = .output text) ∧
    (w.isSuccess = false → ∃ message : String,
      message ≠ "" ∧ Unpadded message.toList ∧ Tells w stderr message ∧
        ∀ stdout', Outcome.ofExit w stdout' stderr = .failed ⟨.nonZeroExit, message⟩) ∧
    ∀ (w' : WaitStatus) (stdout' stderr' : Bytes), w.isSuccess = false → w'.isSuccess = false →
      OnlyBlanks stderr → OnlyBlanks stderr' →
      Outcome.ofExit w stdout stderr = Outcome.ofExit w' stdout' stderr' → w.state = w'.state := by
  refine ⟨fun hw => ?_, fun hw => ?_, fun w' stdout' stderr' hw hw' hblanks hblanks' hsame => ?_⟩
  · have htrimmed := trimmed_lossyTrimmed stdout
    exact ⟨_, htrimmed.unpadded, htrimmed, fun _ => by rw [Outcome.ofExit, if_pos hw]⟩
  · obtain ⟨message, htells, hexit⟩ := exists_tells hw stderr
    exact ⟨message, htells.ne_empty, htells.unpadded, htells, hexit⟩
  · obtain ⟨message, htells, hexit⟩ := exists_tells hw stderr
    obtain ⟨message', htells', hexit'⟩ := exists_tells hw' stderr'
    rw [hexit, hexit'] at hsame
    injection hsame with hfailure
    injection hfailure with _ hmessage
    exact htells.state_eq htells' hblanks hblanks' hmessage

/-- A signal that left a dump is told apart from one that left none, where the diagnostics of
both are blanks. -/
theorem dump_is_told_behind_blank_diagnostics :
    let dumped : WaitStatus := ⟨139⟩
    let plain : WaitStatus := ⟨11⟩
    let blanks : Bytes := [0x20, 0xc2, 0xa0, 0x0a]
    (∃ text : String, Unpadded text.toList ∧ Trimmed text.toList (Text.decodeLossy blanks) ∧
      ∀ stderr', Outcome.ofExit ⟨0⟩ blanks stderr' = .output text) ∧
    dumped.isSuccess = false ∧ plain.isSuccess = false ∧ OnlyBlanks blanks ∧
    (∃ message : String, message ≠ "" ∧ Unpadded message.toList ∧ Tells dumped blanks message ∧
      ∀ stdout', Outcome.ofExit dumped stdout' blanks = .failed ⟨.nonZeroExit, message⟩) ∧
    Outcome.ofExit dumped [] blanks =
      .failed ⟨.nonZeroExit, "Process terminated: signal: 11 (SIGSEGV) (core dumped)"⟩ ∧
    Outcome.ofExit dumped [] blanks ≠ Outcome.ofExit plain [] blanks := by
  intro dumped plain blanks
  have hdumped : dumped.isSuccess = false := rfl
  have hplain : plain.isSuccess = false := rfl
  have hblanks : OnlyBlanks blanks := List.all_eq_true.mp (by decide)
  obtain ⟨hsuccess, -, -⟩ := finished_process_is_told ⟨0⟩ blanks []
  obtain ⟨-, hfailure, hapart⟩ := finished_process_is_told dumped [] blanks
  refine ⟨hsuccess rfl, hdumped, hplain, hblanks, hfailure hdumped, by decide +kernel, fun h => ?_⟩
  have hstate := hapart plain [] blanks hdumped hplain hblanks hblanks h
  exact absurd hstate (by decide)

end Assay
