import Assay.Document.Basic
import Assay.Invocation.Interpreter
import Assay.Report.Console

/-!
# Schedules

The cases of a document are started in order, a bounded number of them at once.
A started case ends whenever its invocation does, and its result is recorded
when it has become the oldest one. A schedule is a state of such a run; its
moves are all that can happen next, and a run follows one of the many orders
that they admit.
-/

set_option autoImplicit false

namespace Assay

structure RunOptions where
  look : Look
  verbose : Bool
  /-- Greatest number of cases at once; zero means one for each processor. -/
  jobs : UInt64
  processors : Nat
deriving DecidableEq, Repr

namespace RunOptions

/-- How many cases may be started and not recorded; there is always room for one. -/
def width (o : RunOptions) : Nat := if o.jobs = 0 then max 1 o.processors else o.jobs.toNat

theorem width_pos (o : RunOptions) : 0 < o.width := by
  unfold width
  split
  · omega
  · rename_i h
    exact Nat.pos_of_ne_zero fun h' => h (UInt64.toNat_inj.1 h')

end RunOptions

abbrev Job := Definition × Case

namespace Job

def call (j : Job) : Call := (j.1.file, j.2.inputs)

def result (j : Job) (outcome : Outcome) : CaseResult :=
  CaseResult.ofOutcome (j.1.caseName j.2) j.2.expected outcome
    (j.2.expected.judges j.2.tolerance outcome.output?)

def run (invoke : Invoker) (j : Job) (h : Host) : CaseResult × Host :=
  let (outcome, h) := invoke j.1.file j.2.inputs h
  (j.result outcome, h)

end Job

/-- A started case, with its result once its invocation has ended. -/
structure Slot where
  job : Job
  result : Option CaseResult
deriving DecidableEq, Repr

structure Schedule where
  waiting : List Job
  window : List Slot
  category : CategoryResult
  calls : Array Call
  printed : String
  host : Host
deriving DecidableEq, Repr

inductive Move where
  | start
  | finish (position : Nat)
  | record
deriving DecidableEq, Repr

namespace Schedule

def initial (o : RunOptions) (h : Host) (d : Document) : Schedule where
  waiting := d.entries
  window := []
  category := .empty d.category
  calls := #[]
  printed := if o.verbose then Console.printedBanner o.look d.category else ""
  host := h

def step (invoke : Invoker) (o : RunOptions) (s : Schedule) : Move → Option Schedule
  | .start =>
    match s.waiting with
    | [] => none
    | j :: rest =>
      if s.window.length < o.width then
        some { s with
          waiting := rest
          window := s.window ++ [⟨j, none⟩]
          calls := s.calls.push j.call }
      else none
  | .finish i =>
    match s.window[i]? with
    | some ⟨j, none⟩ =>
      let (r, h) := j.run invoke s.host
      some { s with window := s.window.set i ⟨j, some r⟩, host := h }
    | _ => none
  | .record =>
    match s.window with
    | ⟨_, some r⟩ :: rest =>
      some { s with
        window := rest
        category := s.category.record r
        printed := s.printed ++
          if o.verbose then Console.printed (Console.caseLine o.look r) else "" }
    | _ => none

def after? (invoke : Invoker) (o : RunOptions) : Schedule → List Move → Option Schedule
  | s, [] => some s
  | s, m :: ms => (s.step invoke o m).bind fun s' => after? invoke o s' ms

theorem after?_append (invoke : Invoker) (o : RunOptions) (s : Schedule) (ms ns : List Move) :
    s.after? invoke o (ms ++ ns) = (s.after? invoke o ms).bind fun s' => s'.after? invoke o ns := by
  induction ms generalizing s with
  | nil => rfl
  | cons m ms ih =>
    simp only [List.cons_append, after?]
    cases s.step invoke o m with
    | none => rfl
    | some s' => exact ih s'

def isOver (s : Schedule) : Bool := s.waiting.isEmpty && s.window.isEmpty

/-- A move that is possible whenever the run is not over: cases are started as long
as there is room, and the oldest one is waited for. -/
def next? (o : RunOptions) (s : Schedule) : Option Move :=
  if !s.waiting.isEmpty && decide (s.window.length < o.width) then some .start
  else
    match s.window with
    | [] => none
    | ⟨_, none⟩ :: _ => some (.finish 0)
    | ⟨_, some _⟩ :: _ => some .record

def slotWork (s : Slot) : Nat := if s.result.isSome then 1 else 2

def work (s : Schedule) : Nat :=
  s.window.foldr (fun slot n => slotWork slot + n) (3 * s.waiting.length)

def advance (invoke : Invoker) (o : RunOptions) : Nat → Schedule → Schedule
  | 0, s => s
  | n + 1, s =>
    match (s.next? o).bind (s.step invoke o) with
    | some s' => advance invoke o n s'
    | none => s

def complete (invoke : Invoker) (o : RunOptions) (s : Schedule) : Schedule :=
  s.advance invoke o s.work

end Schedule

def runDocument (invoke : Invoker) (o : RunOptions) (h : Host) (d : Document) : Schedule :=
  (Schedule.initial o h d).complete invoke o

end Assay
