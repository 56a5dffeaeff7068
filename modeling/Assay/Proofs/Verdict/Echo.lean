import Assay.Proofs.Binary64.RoundTrip
import Assay.Proofs.Invocation.Sources
import Assay.Proofs.Text.Printed
import Assay.Proofs.Verdict.Truths

/-!
# Values and their own texts

Each of the three ways to accept an output accepts the text of the expected
value itself: a truth is read back from its word or glyph, a number is read back
from its text and is close to itself, and a text without a number is the same
text. The exception is NaN, which is not even close to itself.
-/

set_option autoImplicit false

namespace Assay

theorem isClose_self (x relative absolute : Binary64) :
    isClose x x relative absolute = true ↔ x ≠ .nan := by
  cases x with
  | nan => simp [isClose, Binary64.equal, Binary64.isNan, Binary64.isFinite]
  | inf s => simp [isClose, Binary64.equal, Binary64.isNan]
  | finite s r => simp [isClose, Binary64.equal, Binary64.isNan]

namespace Value

theorem number?_of_truth {v : Value} {b : Bool} (h : v.truth? = some b) : v.number? = none := by
  rcases (truth?_eq_some_iff v b).mp h with rfl | rfl
  · rfl
  · cases b <;> decide

theorem readTruth?_toText {v : Value} {b : Bool} (h : v.truth? = some b) :
    readTruth? (Text.trimChars v.toText.toList) = some b := by
  rcases (truth?_eq_some_iff v b).mp h with rfl | rfl
  · cases b <;> decide
  · cases b <;> decide

theorem ofText?_toText {v : Value} {x : Binary64} (h : v.number? = some x) :
    Binary64.ofText? (Text.trimChars v.toText.toList) = some x := by
  cases v with
  | bool b => cases h
  | integer i =>
    cases h
    have hblank := Text.isBlank_of_written (Binary64.toString_written i.toInt)
    rw [toText, Text.trimChars_of_not_blank hblank, Binary64.ofText?_toString]
  | float x =>
    cases h
    have hblank := Text.isBlank_of_written (Binary64.toText_written x)
    rw [toText, Text.trimChars_of_not_blank hblank, Binary64.ofText?_toText]
  | text s => exact h

theorem acceptsTrimmed_toText (v : Value) (tolerance : Tolerance) :
    v.acceptsTrimmed tolerance (Text.trimChars v.toText.toList) = true ↔
      v.number? ≠ some .nan := by
  cases htruth : v.truth? with
  | some b =>
    simp [acceptsTrimmed, htruth, readTruth?_toText htruth, number?_of_truth htruth]
  | none =>
    cases hnumber : v.number? with
    | none => simp [acceptsTrimmed, htruth, hnumber]
    | some x =>
      rw [acceptsTrimmed_number htruth hnumber, ofText?_toText hnumber, Option.any_some,
        isClose_self, ne_eq, ne_eq, Option.some_inj]

end Value

def Prints (text : String) (events : List RunEvent) : Prop :=
  ∃ (status : WaitStatus) (before after : List Char),
    Closed (inTime events) status (.ok ()) (.ok ()) ∧ status.isSuccess = true ∧
    (∀ c ∈ before ++ after, Text.isBlank c = true) ∧
    delivered .stdout (inTime events) =
      Text.encode (String.ofList (before ++ text.toList ++ after))

theorem Prints.ofEvents_eq {text : String} {events : List RunEvent} (h : Prints text events) :
    Outcome.ofEvents events = .output (Text.trim text) := by
  obtain ⟨status, before, after, hclosed, hsuccess, hblank, hbytes⟩ := h
  have hdecides := (ofEvents_eq_iff events _).mpr (.success hclosed hsuccess)
  rw [hdecides, hbytes, Text.lossyTrimmed_encode text (fun c hc => hblank c (by simp [hc]))
    (fun c hc => hblank c (by simp [hc]))]

/-- Every value accepts its own text, whatever the tolerances are, unless it is read as NaN.
So a case passes whose expected value is the argument that the interpreter prints back. -/
theorem own_text_is_accepted (v : Value) (relative absolute : Option Binary64) :
    (v.judges ⟨relative, absolute⟩ (some v.toText) = true ↔ v.number? ≠ some .nan) ∧
    ∀ (d : Definition) (i : Interpreter) (spawn : Spawner) (h : Host),
      let case : Case := ⟨[v], v, ⟨relative, absolute⟩⟩
      Prints v.toText (spawn (i.request (Job.call (d, case))) h).1 →
        ((Job.run (i.invoker spawn) (d, case) h).1.passed = true ↔ v.number? ≠ some .nan) := by
  refine ⟨v.acceptsTrimmed_toText _, ?_⟩
  intro d i spawn h case hprints
  have hrun : (Job.run (i.invoker spawn) (d, case) h).1 =
      Job.result (d, case) (.output (Text.trim v.toText)) :=
    congrArg (Job.result (d, case)) hprints.ofEvents_eq
  have htrim : Text.trimChars (Text.trim v.toText).toList = Text.trimChars v.toText.toList := by
    rw [Text.trim, String.toList_ofList, Text.trimChars_trimChars]
  rw [hrun]
  change v.accepts _ (Text.trim v.toText) = true ↔ _
  rw [Value.accepts, htrim]
  exact v.acceptsTrimmed_toText _

/-- An interpreter that prints its last argument on a line. -/
def Spawner.echo : Spawner := fun r h =>
  ([.chunk .stdout (Text.encode (r.arguments.getLastD "" ++ "\n")), .streamEnd .stdout,
    .streamEnd .stderr, .exit ⟨0⟩], h)

theorem Spawner.echo_prints (i : Interpreter) (file : String) (v : Value) (h : Host) :
    Prints v.toText (Spawner.echo (i.request (file, [v])) h).1 := by
  have hblank : ∀ c ∈ [] ++ ['\n'], Text.isBlank c = true := List.forall_mem_singleton.mpr rfl
  refine ⟨⟨0⟩, [], ['\n'], ⟨rfl, rfl, rfl⟩, rfl, hblank, ?_⟩
  have hline : v.toText ++ "\n" = String.ofList ([] ++ v.toText.toList ++ ['\n']) := by
    rw [String.ofList_append, List.nil_append, String.ofList_toList]
  rw [← hline]
  exact List.append_nil _

theorem echoed_tenth_passes_and_nan_fails :
    let i : Interpreter := ⟨"bin", "/project", 1000⟩
    let d : Definition := ⟨"same", "same.src", []⟩
    let tenth : Value := .float (Binary64.ofDecimal false ⟨1, -1⟩)
    (Job.run (i.invoker .echo) (d, ⟨[tenth], tenth, .unset⟩) default).1.passed = true ∧
      (Job.run (i.invoker .echo) (d, ⟨[.float .nan], .float .nan, .unset⟩) default).1.passed =
        false := by
  intro i d tenth
  have hprints (v : Value) := Spawner.echo_prints i d.file v default
  have hnumber : tenth.number? ≠ some .nan := by decide +kernel
  constructor
  · exact ((own_text_is_accepted tenth none none).2 d i .echo default (hprints tenth)).mpr hnumber
  · have hnan := (own_text_is_accepted (.float .nan) none none).2 d i .echo default (hprints _)
    exact Bool.eq_false_iff.mpr fun hpassed => hnan.mp hpassed rfl

end Assay
