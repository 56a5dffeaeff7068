import Mathlib.Algebra.GroupWithZero.Nat
import Mathlib.Data.List.Basic
import Mathlib.Data.List.Induction
import Assay.Proofs.Suite.Counts

/-!
# Ledgers of results

Categories are opened, results are recorded into those that are open, and a
category that is finished is absorbed into the summary. A ledger is a state of
such work, in which any number of categories may be open at a time. It is told
by the steps that led to it: what was recorded into each category, and in which
order the categories were absorbed.
-/

set_option autoImplicit false

namespace Assay

/-- A category is meant by its number among those that were opened. -/
inductive Ledger.Step where
  | opening (name : String)
  | record (number : Nat) (r : CaseResult)
  | absorb (number : Nat)
deriving DecidableEq, Repr

structure Ledger where
  opened : List (Option CategoryResult)
  summary : RunSummary
deriving DecidableEq, Repr

/-- The name of a category with the results that were recorded into it. -/
structure Ledger.Section where
  name : String
  results : List CaseResult
deriving DecidableEq, Repr

namespace Ledger

def empty : Ledger := ⟨[], .empty⟩

def step (l : Ledger) : Step → Option Ledger
  | .opening name => some { l with opened := l.opened ++ [some (.empty name)] }
  | .record n r =>
    match l.opened[n]? with
    | some (some c) => some { l with opened := l.opened.set n (some (c.record r)) }
    | _ => none
  | .absorb n =>
    match l.opened[n]? with
    | some (some c) => some ⟨l.opened.set n none, l.summary.absorb c⟩
    | _ => none

def after? (l : Ledger) (steps : List Step) : Option Ledger := steps.foldlM step l

theorem after?_concat (l : Ledger) (steps : List Step) (m : Step) :
    l.after? (steps ++ [m]) = (l.after? steps).bind fun l => l.step m := by
  simp [after?, List.foldlM_append]

/-! ## What the steps tell -/

def Section.category (s : Section) : CategoryResult := .ofResults s.name s.results

def names (steps : List Step) : List String :=
  steps.filterMap fun
    | .opening name => some name
    | _ => none

def recorded (steps : List Step) (n : Nat) : List CaseResult :=
  steps.filterMap fun
    | .record m r => if m = n then some r else none
    | _ => none

def absorbed (steps : List Step) : List Nat :=
  steps.filterMap fun
    | .absorb n => some n
    | _ => none

def sectionOf (steps : List Step) (n : Nat) : Option Section :=
  (names steps)[n]?.map fun name => ⟨name, recorded steps n⟩

def closed (steps : List Step) : List Section := (absorbed steps).filterMap (sectionOf steps)

section Steps

variable (steps : List Step) (name : String) (n m : Nat) (r : CaseResult)

@[simp] theorem names_opening : names (steps ++ [.opening name]) = names steps ++ [name] := by
  simp [names]

@[simp] theorem names_record : names (steps ++ [.record n r]) = names steps := by
  simp [names]

@[simp] theorem names_absorb : names (steps ++ [.absorb n]) = names steps := by
  simp [names]

@[simp] theorem recorded_opening : recorded (steps ++ [.opening name]) n = recorded steps n := by
  simp [recorded]

@[simp] theorem recorded_record : recorded (steps ++ [.record n r]) m =
    if n = m then recorded steps m ++ [r] else recorded steps m := by
  by_cases h : n = m <;> simp [recorded, h]

@[simp] theorem recorded_absorb : recorded (steps ++ [.absorb n]) m = recorded steps m := by
  simp [recorded]

@[simp] theorem absorbed_opening : absorbed (steps ++ [.opening name]) = absorbed steps := by
  simp [absorbed]

@[simp] theorem absorbed_record : absorbed (steps ++ [.record n r]) = absorbed steps := by
  simp [absorbed]

@[simp] theorem absorbed_absorb : absorbed (steps ++ [.absorb n]) = absorbed steps ++ [n] := by
  simp [absorbed]

theorem sectionOf_opening (hn : n < (names steps).length) :
    sectionOf (steps ++ [.opening name]) n = sectionOf steps n := by
  simp [sectionOf, List.getElem?_append_left hn]

theorem sectionOf_record_ne (hn : n ≠ m) :
    sectionOf (steps ++ [.record n r]) m = sectionOf steps m := by
  simp [sectionOf, hn]

theorem sectionOf_absorb : sectionOf (steps ++ [.absorb n]) m = sectionOf steps m := by
  simp [sectionOf]

theorem lt_of_sectionOf {s : Section} (hs : sectionOf steps n = some s) :
    n < (names steps).length := by
  obtain ⟨name, hname, -⟩ := Option.map_eq_some_iff.mp hs
  exact (List.getElem?_eq_some_iff.mp hname).1

theorem closed_opening (hs : ∀ n ∈ absorbed steps, n < (names steps).length) :
    closed (steps ++ [.opening name]) = closed steps := by
  rw [closed, absorbed_opening]
  exact List.filterMap_congr fun n hn => sectionOf_opening steps name n (hs n hn)

theorem closed_record (hn : n ∉ absorbed steps) :
    closed (steps ++ [.record n r]) = closed steps := by
  rw [closed, absorbed_record]
  apply List.filterMap_congr
  intro m hm
  exact sectionOf_record_ne steps n m r fun h => hn (h ▸ hm)

theorem closed_absorb {s : Section} (hs : sectionOf steps n = some s) :
    closed (steps ++ [.absorb n]) = closed steps ++ [s] := by
  have hsame : sectionOf (steps ++ [.absorb n]) = sectionOf steps :=
    funext fun m => sectionOf_absorb steps n m
  simp [closed, hsame, hs]

end Steps

def entry (steps : List Step) (n : Nat) (name : String) : Option CategoryResult :=
  if n ∈ absorbed steps then none else some (.ofResults name (recorded steps n))

structure Follows (steps : List Step) (l : Ledger) : Prop where
  opened : l.opened = (names steps).mapIdx (entry steps)
  known : ∀ n ∈ absorbed steps, n < (names steps).length
  fresh : ∀ n, (names steps).length ≤ n → recorded steps n = []
  summary : l.summary = .ofCategories ((closed steps).map Section.category)

theorem set_mapIdx {α β : Type} {f g : Nat → α → β} {xs : List α} {n : Nat} {b : β}
    (hn : ∀ x, xs[n]? = some x → g n x = b) (hne : ∀ m, m ≠ n → ∀ x, g m x = f m x) :
    (xs.mapIdx f).set n b = xs.mapIdx g := by
  apply List.ext_getElem?
  intro m
  rw [List.getElem?_set, List.getElem?_mapIdx, List.getElem?_mapIdx, List.length_mapIdx]
  by_cases hm : n = m
  · subst hm
    by_cases hlt : n < xs.length
    · simp [hlt, hn]
    · simp [hlt]
  · have hsame : g m = f m := funext (hne m (Ne.symm hm))
    simp [hm, hsame]

section Moves

variable {steps : List Step} {l l' : Ledger}

theorem step_record {n : Nat} {r : CaseResult} (hm : l.step (.record n r) = some l') :
    ∃ c, l.opened[n]? = some (some c) ∧
      l' = { l with opened := l.opened.set n (some (c.record r)) } := by
  simp only [step] at hm
  split at hm
  · rename_i c hc
    exact ⟨c, hc, (Option.some.inj hm).symm⟩
  · cases hm

theorem step_absorb {n : Nat} (hm : l.step (.absorb n) = some l') :
    ∃ c, l.opened[n]? = some (some c) ∧ l' = ⟨l.opened.set n none, l.summary.absorb c⟩ := by
  simp only [step] at hm
  split at hm
  · rename_i c hc
    exact ⟨c, hc, (Option.some.inj hm).symm⟩
  · cases hm

theorem follows_empty : Follows [] empty where
  opened := rfl
  known := by simp [absorbed]
  fresh := by simp [recorded]
  summary := rfl

theorem Follows.section_of_open (hl : Follows steps l) {n : Nat} {c : CategoryResult}
    (hc : l.opened[n]? = some (some c)) :
    ∃ s, sectionOf steps n = some s ∧ n ∉ absorbed steps ∧ c = s.category := by
  rw [hl.opened, List.getElem?_mapIdx] at hc
  obtain ⟨name, hname, hopen⟩ := Option.map_eq_some_iff.mp hc
  by_cases hn : n ∈ absorbed steps
  · simp [entry, hn] at hopen
  · rw [entry, if_neg hn] at hopen
    exact ⟨⟨name, recorded steps n⟩, by simp [sectionOf, hname], hn, (Option.some.inj hopen).symm⟩

theorem opening_follows (hl : Follows steps l) (name : String)
    (hm : l.step (.opening name) = some l') : Follows (steps ++ [.opening name]) l' := by
  obtain rfl := Option.some.inj hm
  have hnew : (names steps).length ∉ absorbed steps := fun h => Nat.lt_irrefl _ (hl.known _ h)
  have hentry : entry (steps ++ [.opening name]) = entry steps := by
    funext n name
    simp [entry]
  refine ⟨?_, fun n hn => ?_, fun n hn => ?_, ?_⟩
  · rw [names_opening, List.mapIdx_concat, hentry, ← hl.opened, entry, if_neg hnew,
      hl.fresh _ (Nat.le_refl _)]
    rfl
  · rw [absorbed_opening] at hn
    rw [names_opening, List.length_append]
    exact Nat.lt_add_right _ (hl.known n hn)
  · rw [names_opening, List.length_append] at hn
    rw [recorded_opening]
    exact hl.fresh n (Nat.le_of_add_right_le hn)
  · rw [closed_opening steps name hl.known]
    exact hl.summary

theorem record_follows (hl : Follows steps l) (n : Nat) (r : CaseResult)
    (hm : l.step (.record n r) = some l') : Follows (steps ++ [.record n r]) l' := by
  obtain ⟨c, hc, rfl⟩ := step_record hm
  obtain ⟨s, hs, hn, rfl⟩ := hl.section_of_open hc
  have hlt := lt_of_sectionOf steps n hs
  refine ⟨?_, ?_, fun m hm => ?_, ?_⟩
  · rw [hl.opened, names_record]
    apply set_mapIdx
    · intro name hname
      have hs' : s = ⟨name, recorded steps n⟩ := by simpa [sectionOf, hname] using hs.symm
      simp [entry, hn, hs', Section.category, CategoryResult.ofResults_concat]
    · intro m hm name
      simp [entry, hm.symm]
  · simpa using hl.known
  · rw [names_record] at hm
    rw [recorded_record, if_neg (by omega)]
    exact hl.fresh m hm
  · rw [closed_record steps n r hn]
    exact hl.summary

theorem absorb_follows (hl : Follows steps l) (n : Nat)
    (hm : l.step (.absorb n) = some l') : Follows (steps ++ [.absorb n]) l' := by
  obtain ⟨c, hc, rfl⟩ := step_absorb hm
  obtain ⟨s, hs, hn, rfl⟩ := hl.section_of_open hc
  have hlt := lt_of_sectionOf steps n hs
  refine ⟨?_, fun m hm => ?_, ?_, ?_⟩
  · rw [hl.opened, names_absorb]
    apply set_mapIdx
    · simp [entry]
    · intro m hm name
      simp [entry, hm]
  · rw [absorbed_absorb, List.mem_append, List.mem_singleton] at hm
    rw [names_absorb]
    rcases hm with hm | rfl
    · exact hl.known m hm
    · exact hlt
  · simpa using hl.fresh
  · rw [closed_absorb steps n hs, List.map_append, List.map_singleton,
      RunSummary.ofCategories_concat, ← hl.summary]

theorem step_follows (hl : Follows steps l) (m : Step) (hm : l.step m = some l') :
    Follows (steps ++ [m]) l' := by
  cases m with
  | opening name => exact opening_follows hl name hm
  | record n r => exact record_follows hl n r hm
  | absorb n => exact absorb_follows hl n hm

theorem after_follows (hl : empty.after? steps = some l) : Follows steps l := by
  -- From the end, since what the steps tell grows at the end.
  induction steps using List.reverseRecOn generalizing l with
  | nil =>
    obtain rfl := Option.some.inj hl
    exact follows_empty
  | append_singleton steps m ih =>
    rw [after?_concat] at hl
    obtain ⟨l₀, hl₀, hm⟩ := Option.bind_eq_some_iff.mp hl
    exact step_follows (ih hl₀) m hm

end Moves

end Ledger

end Assay
