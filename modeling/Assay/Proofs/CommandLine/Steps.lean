import Assay.CommandLine.Request
import Assay.Proofs.Json.Decoding
import Mathlib.Data.List.Basic
import Mathlib.Data.List.Nodup
import Mathlib.Data.List.TakeWhile

/-!
# Steps of the reader of command lines

What a step of the reader adds. An option counts as given as soon as its value
is known, whether it has been settled or is still pending, so that the order in
which options are settled plays no part in what is said about them here. Each
way to meet an option is described by the one structure `Adds`, and the steps of
a whole token are put together from it.
-/

set_option autoImplicit false

namespace Assay.CommandLine

open Assay.Json (bind_eq_ok_iff)

namespace Pending

def known : Pending → List (OptionId × String)
  | ⟨o, some v⟩ => [(o.id, v)]
  | ⟨_, none⟩ => []

end Pending

namespace Progress

/-- Options with known values, in the order in which they were met. -/
def given (p : Progress) : List (OptionId × String) :=
  p.settled ++ p.pending.toList.flatMap Pending.known

def waiting? (p : Progress) : Option OptionSpec :=
  p.pending.bind fun q => if q.value.isNone then some q.option else none

def Distinct (p : Progress) : Prop := (p.settled.map Prod.fst).Nodup

@[simp] theorem waiting_empty : empty.waiting? = none := rfl

theorem distinct_empty : empty.Distinct := List.nodup_nil

@[simp] theorem given_known (es : List (OptionId × String)) (o : OptionSpec) (v : String) :
    Progress.given ⟨es, some ⟨o, some v⟩⟩ = es ++ [(o.id, v)] := rfl

@[simp] theorem given_open (es : List (OptionId × String)) (o : OptionSpec) :
    Progress.given ⟨es, some ⟨o, none⟩⟩ = es := by simp [given, Pending.known]

@[simp] theorem given_settled (es : List (OptionId × String)) :
    Progress.given ⟨es, none⟩ = es := by simp [given]

@[simp] theorem waiting_open (es : List (OptionId × String)) (o : OptionSpec) :
    Progress.waiting? ⟨es, some ⟨o, none⟩⟩ = some o := rfl

theorem awaitsValue_eq (p : Progress) : p.awaitsValue = p.waiting?.isSome := by
  obtain ⟨es, _ | ⟨o, _ | v⟩⟩ := p <;> rfl

theorem pending_of_waiting {p : Progress} {o : OptionSpec} (h : p.waiting? = some o) :
    p.pending = some ⟨o, none⟩ := by
  obtain ⟨es, _ | ⟨o', _ | v⟩⟩ := p
  · cases h
  · cases h
    rfl
  · cases h

/-- `q` is `p` with `new` added to what is given. The option `wait`, if any, is met and
waits for its value. -/
structure Adds (p q : Progress) (new : List (OptionId × String)) (wait : Option OptionSpec) :
    Prop where
  given : q.given = p.given ++ new
  waiting : q.waiting? = wait
  distinct : p.Distinct → q.Distinct

theorem Adds.refl {p : Progress} (h : p.waiting? = none) : Adds p p [] none where
  given := (List.append_nil _).symm
  waiting := h
  distinct := id

theorem Adds.trans {p q r : Progress} {new new' : List (OptionId × String)}
    {wait wait' : Option OptionSpec} (h : Adds p q new wait) (h' : Adds q r new' wait') :
    Adds p r (new ++ new') wait' where
  given := by rw [h'.given, h.given, List.append_assoc]
  waiting := h'.waiting
  distinct := fun hp => h'.distinct (h.distinct hp)

theorem settle_eq_ok {p q : Progress} {o : OptionSpec} {v : String} (h : p.settle o v = .ok q) :
    q = { p with settled := p.settled ++ [(o.id, v)] } ∧ (p.Distinct → q.Distinct) := by
  unfold settle at h
  by_cases hs : p.isSettled o.id
  · simp [hs, bind, Except.bind, throw, throwThe, MonadExceptOf.throw] at h
  · simp only [hs] at h
    obtain ⟨-, -, h⟩ := (bind_eq_ok_iff _ _ _).1 h
    obtain rfl : { p with settled := p.settled ++ [(o.id, v)] } = q := by
      simpa [pure, Except.pure] using h
    refine ⟨rfl, fun hp => ?_⟩
    have hnew : o.id ∉ p.settled.map Prod.fst := by
      intro hm
      obtain ⟨e, he, hid⟩ := List.mem_map.1 hm
      exact hs (List.any_eq_true.2 ⟨e, he, by simp [hid]⟩)
    rw [Distinct, List.map_append, List.map_singleton, List.nodup_append]
    refine ⟨hp, List.nodup_singleton _, ?_⟩
    rintro a ha b hb rfl
    rw [List.mem_singleton.1 hb] at ha
    exact hnew ha

theorem resolve_eq_ok {p q : Progress} (h : p.resolve = .ok q) :
    p.waiting? = none ∧ q = ⟨p.given, none⟩ ∧ (p.Distinct → q.Distinct) := by
  obtain ⟨es, _ | ⟨o, _ | v⟩⟩ := p
  · cases h
    exact ⟨rfl, by simp, id⟩
  · cases h
  · obtain ⟨rfl, hd⟩ := settle_eq_ok h
    exact ⟨rfl, rfl, hd⟩

theorem settle_adds {p q r : Progress} {o : OptionSpec} {v : String} (hr : p.resolve = .ok r)
    (h : r.settle o v = .ok q) : Adds p q [(o.id, v)] none := by
  obtain ⟨-, rfl, hd⟩ := resolve_eq_ok hr
  obtain ⟨rfl, hd'⟩ := settle_eq_ok h
  exact ⟨by simp, rfl, fun hp => hd' (hd hp)⟩

theorem meetFlag_eq_ok {p q : Progress} {o : OptionSpec} {c : Option Command}
    (h : p.meetFlag o c = .ok q) :
    p.waiting? = none ∧ Adds p q [(o.id, "true")] none := by
  obtain ⟨r, hr, h⟩ := (bind_eq_ok_iff _ _ _).1 h
  have hw := (resolve_eq_ok hr).1
  have hs : r.settle o "true" = .ok q := by
    cases hid : o.id <;>
      simp only [hid, throw, throwThe, MonadExceptOf.throw, reduceCtorEq] at h <;> exact h
  exact ⟨hw, settle_adds hr hs⟩

theorem meetValued_some_eq_ok {p q : Progress} {o : OptionSpec} {v : String}
    (h : p.meetValued o (some v) = .ok q) :
    p.waiting? = none ∧ Adds p q [(o.id, v)] none := by
  obtain ⟨r, hr, h⟩ := (bind_eq_ok_iff _ _ _).1 h
  exact ⟨(resolve_eq_ok hr).1, settle_adds hr h⟩

theorem meetValued_none_eq_ok {p q : Progress} {o : OptionSpec}
    (h : p.meetValued o none = .ok q) : p.waiting? = none ∧ Adds p q [] (some o) := by
  obtain ⟨r, hr, h⟩ := (bind_eq_ok_iff _ _ _).1 h
  obtain ⟨hw, rfl, hd⟩ := resolve_eq_ok hr
  obtain rfl : (⟨p.given, some ⟨o, none⟩⟩ : Progress) = q := by
    simpa [pure, Except.pure] using h
  exact ⟨hw, by simp, rfl, hd⟩

theorem word_adds {p : Progress} {o : OptionSpec} (h : p.waiting? = some o) (word : String) :
    Adds p { p with pending := some ⟨o, some word⟩ } [(o.id, word)] none := by
  have hp := pending_of_waiting h
  obtain ⟨es, pending⟩ := p
  subst hp
  exact ⟨by simp, rfl, id⟩

end Progress

open Assay.CommandLine.Progress

namespace Table

variable {t : Table} {p q : Progress}

/-- A long option is one of the table. Its value is the one it is joined with, or comes next. -/
theorem readLong_eq_ok {name : String} {value : Option String}
    (h : t.readLong p name value = .ok q) :
    ∃ o ∈ t.options, o.answersTo name = true ∧ p.waiting? = none ∧
      ((o.takesValue = true ∧ ∃ v, value = some v ∧ Adds p q [(o.id, v)] none) ∨
        (o.takesValue = true ∧ value = none ∧ Adds p q [] (some o)) ∨
        (o.takesValue = false ∧ value = none ∧ Adds p q [(o.id, "true")] none)) := by
  unfold readLong at h
  cases hf : t.options.find? fun o => o.answersTo name with
  | none => simp [hf] at h
  | some o =>
    simp only [hf] at h
    refine ⟨o, List.mem_of_find?_eq_some hf, by simpa using List.find?_some hf, ?_⟩
    by_cases ht : o.takesValue = true
    · rw [if_pos ht] at h
      cases value with
      | none =>
        obtain ⟨hw, ha⟩ := meetValued_none_eq_ok h
        exact ⟨hw, .inr (.inl ⟨ht, rfl, ha⟩)⟩
      | some v =>
        obtain ⟨hw, ha⟩ := meetValued_some_eq_ok h
        exact ⟨hw, .inl ⟨ht, v, rfl, ha⟩⟩
    · rw [if_neg ht] at h
      cases value with
      | none =>
        obtain ⟨hw, ha⟩ := meetFlag_eq_ok h
        exact ⟨hw, .inr (.inr ⟨by simpa using ht, rfl, ha⟩)⟩
      | some v => cases h

theorem mem_of_find_short {o : OptionSpec} {c : Char}
    (h : (t.options.find? fun o => o.short == some c) = some o) :
    o ∈ t.options ∧ o.short.isSome = true := by
  have hs : o.short = some c := by simpa using List.find?_some h
  exact ⟨List.mem_of_find?_eq_some h, by simp [hs]⟩

/-- The first of the options that share a dash is one of the table. It waits for its value, or
what follows is its value, or it takes none and what follows is read behind it. -/
theorem readShort_cons_eq_ok {c : Char} {cs : List Char} (h : t.readShort p (c :: cs) = .ok q) :
    ∃ o ∈ t.options, o.short.isSome = true ∧ p.waiting? = none ∧
      (Adds p q [] (some o) ∨ (∃ v, Adds p q [(o.id, v)] none) ∨
        ∃ r, Adds p r [(o.id, "true")] none ∧ t.readShort r cs = .ok q) := by
  unfold readShort at h
  cases hf : t.options.find? fun o => o.short == some c with
  | none => simp [hf] at h
  | some o =>
    obtain ⟨ho, hshort⟩ := mem_of_find_short hf
    simp only [hf] at h
    refine ⟨o, ho, hshort, ?_⟩
    split at h
    · split at h
      · obtain ⟨hw, ha⟩ := meetValued_none_eq_ok h
        exact ⟨hw, .inl ha⟩
      all_goals
        obtain ⟨hw, ha⟩ := meetValued_some_eq_ok h
        exact ⟨hw, .inr (.inl ⟨_, ha⟩)⟩
    · obtain ⟨r, hr, h⟩ := (bind_eq_ok_iff _ _ _).1 h
      obtain ⟨hw, ha⟩ := meetFlag_eq_ok hr
      exact ⟨hw, .inr (.inr ⟨r, ha, h⟩)⟩

theorem readShort_adds {cs : List Char} (hw : p.waiting? = none)
    (h : t.readShort p cs = .ok q) : ∃ new wait, Adds p q new wait ∧
      (∀ e ∈ new, ∃ o ∈ t.options, o.short.isSome ∧ o.id = e.1) ∧
      ∀ o, wait = some o → o ∈ t.options ∧ o.short.isSome := by
  induction cs generalizing p with
  | nil =>
    cases h
    exact ⟨[], none, .refl hw, by simp, by simp⟩
  | cons c cs ih =>
    obtain ⟨o, ho, hshort, -, ha | ⟨v, ha⟩ | ⟨r, ha, h⟩⟩ := readShort_cons_eq_ok h
    · exact ⟨_, _, ha, by simp, by rintro _ ⟨⟩; exact ⟨ho, hshort⟩⟩
    · exact ⟨_, _, ha, by simpa using ⟨o, ho, hshort, rfl⟩, by simp⟩
    · obtain ⟨new, wait, ha', hnew, hwait⟩ := ih ha.waiting h
      refine ⟨_, wait, ha.trans ha', ?_, hwait⟩
      rw [List.forall_mem_append]
      exact ⟨by simpa using ⟨o, ho, hshort, rfl⟩, hnew⟩

/-- Options of one letter that share a dash: what they give belongs to options of the table
with a letter, and so does the one that is left waiting. -/
theorem readShort_eq_ok {c : Char} {cs : List Char} (h : t.readShort p (c :: cs) = .ok q) :
    p.waiting? = none ∧ ∃ new wait, Adds p q new wait ∧
      (∀ e ∈ new, ∃ o ∈ t.options, o.short.isSome ∧ o.id = e.1) ∧
      ∀ o, wait = some o → o ∈ t.options ∧ o.short.isSome := by
  obtain ⟨_, -, -, hw, -⟩ := readShort_cons_eq_ok h
  exact ⟨hw, readShort_adds hw h⟩

def SpellsLong (token name : String) (value : Option String) : Prop :=
  token.toList = '-' :: '-' :: (name.toList ++ value.toList.flatMap fun v => '=' :: v.toList) ∧
    '=' ∉ name.toList

theorem splitLong_eq {cs : List Char} {name : String} {value : Option String}
    (h : splitLong cs = (name, value)) :
    cs = name.toList ++ (value.toList.flatMap fun v => '=' :: v.toList) ∧
      '=' ∉ name.toList := by
  unfold splitLong at h
  rw [List.span_eq_takeWhile_dropWhile] at h
  have hcut : cs.takeWhile (· != '=') ++ cs.dropWhile (· != '=') = cs :=
    List.takeWhile_append_dropWhile
  have hname : '=' ∉ cs.takeWhile (· != '=') := fun hm => by
    simpa using List.all_eq_true.1 List.all_takeWhile _ hm
  cases hd : cs.dropWhile (· != '=') with
  | nil =>
    rw [hd] at h hcut
    cases h
    exact ⟨by simpa using hcut.symm, by simpa using hname⟩
  | cons c value' =>
    have hc : c = '=' := by
      have hhead := List.head_dropWhile_not (· != '=') (l := cs) (by simp [hd])
      simpa [hd] using hhead
    rw [hd] at h hcut
    cases h
    exact ⟨by simpa [hc] using hcut.symm, by simpa using hname⟩

/-- The name is what stands between the dashes and the first equals sign. -/
theorem SpellsLong.name_toList {token name : String} {value : Option String}
    (h : SpellsLong token name value) :
    (token.toList.drop 2).takeWhile (· != '=') = name.toList := by
  have hname : ∀ c ∈ name.toList, (c != '=') = true := by
    intro c hc
    rw [bne_iff_ne]
    rintro rfl
    exact h.2 hc
  rw [h.1]
  cases value with
  | none =>
    simpa using List.takeWhile_eq_self_iff.2 hname
  | some v => simp [List.takeWhile_append_of_pos hname]

theorem readToken_eq_ok {token : String} (h : t.readToken p token = .ok q) :
    (∃ name value, SpellsLong token name value ∧ t.readLong p name value = .ok q) ∨
      (∃ c cs, token.toList = '-' :: c :: cs ∧ (c = '-' → cs = []) ∧
        t.readShort p (c :: cs) = .ok q) ∨
      ∃ o, (∀ c cs, token.toList ≠ '-' :: c :: cs) ∧ p.waiting? = some o ∧
        q = { p with pending := some ⟨o, some token⟩ } := by
  unfold readToken at h
  split at h
  · rename_i c cs htoken
    obtain ⟨hcs, hname⟩ := @splitLong_eq (c :: cs) _ _ rfl
    exact .inl ⟨_, _, ⟨by rw [htoken, ← hcs], hname⟩, h⟩
  · rename_i c cs hlong htoken
    refine .inr (.inl ⟨c, cs, htoken, ?_, h⟩)
    rintro rfl
    cases cs with
    | nil => rfl
    | cons d ds => exact absurd rfl (hlong d ds rfl)
  · rename_i hlong hshort
    obtain ⟨es, _ | ⟨o, _ | v⟩⟩ := p
    · cases h
    · cases h
      exact .inr (.inr ⟨o, hshort, rfl, rfl⟩)
    · cases h

def Awaits (t : Table) (p : Progress) : Prop := ∀ o, p.waiting? = some o → o ∈ t.options

theorem awaits_empty (t : Table) : t.Awaits .empty := fun _ h => nomatch h

theorem readToken_awaits {token : String} (h : t.readToken p token = .ok q) : t.Awaits q := by
  rcases readToken_eq_ok h with ⟨_, _, -, h⟩ | ⟨_, _, -, -, h⟩ | ⟨_, -, -, rfl⟩
  · obtain ⟨o, ho, -, -, ⟨-, _, -, ha⟩ | ⟨-, -, ha⟩ | ⟨-, -, ha⟩⟩ := readLong_eq_ok h
    all_goals
      intro o' hw
      rw [ha.waiting] at hw
      cases hw
    exact ho
  · obtain ⟨-, _, _, ha, -, hwait⟩ := readShort_eq_ok h
    intro o hw
    exact (hwait o (ha.waiting ▸ hw)).1
  · exact fun _ hw => nomatch hw

theorem read_rest {tokens rest : List String} (h : t.read p tokens = .ok (q, rest)) :
    rest = [] ∨ ∃ name more, rest = name :: more ∧ t.isCommandWord name = true ∧
      q.waiting? = none := by
  induction tokens generalizing p with
  | nil =>
    cases h
    exact .inl rfl
  | cons token tokens ih =>
    unfold read at h
    split at h
    · rename_i hc
      cases h
      rw [awaitsValue_eq, Bool.and_eq_true] at hc
      exact .inr ⟨token, tokens, rfl, hc.2, by simpa using hc.1⟩
    · split at h
      · cases tokens with
        | nil =>
          cases h
          exact .inl rfl
        | cons word more => cases h
      · obtain ⟨r, -, h⟩ := (bind_eq_ok_iff _ _ _).1 h
        exact ih h

end Table

theorem Command.name_of_ofName? {name : String} {c : Command}
    (h : Command.ofName? name = some c) : c.name = name := by
  simpa using List.find?_some h

/-- An accepted line is read up to the name of its command, and on from there. What the
command's options leave unsaid is taken from those before it. -/
theorem parse_eq_ok {argv : List String} {p : Parsed} (h : parse argv = .ok p) :
    ∃ outer inner after, Table.outer.read .empty argv = .ok (outer, p.command.name :: after) ∧
      (Table.ofCommand p.command).read .empty after = .ok (inner, []) ∧
      inner.resolve = .ok ⟨inner.given, none⟩ ∧ outer.resolve = .ok ⟨outer.given, none⟩ ∧
      p.given = inner.given ++ outer.given := by
  obtain ⟨⟨outer, rest⟩, hread, h⟩ := (bind_eq_ok_iff _ _ _).1 h
  cases rest with
  | nil =>
    obtain ⟨settled, -, h⟩ := (bind_eq_ok_iff _ _ _).1 h
    split at h <;> cases h
  | cons name after =>
    cases hc : Command.ofName? name with
    | none => simp [hc, throw, throwThe, MonadExceptOf.throw] at h
    | some c =>
      simp only [hc, finish] at h
      obtain ⟨⟨inner, rest⟩, hinner, h⟩ := (bind_eq_ok_iff _ _ _).1 h
      obtain ⟨inner', hri, h⟩ := (bind_eq_ok_iff _ _ _).1 h
      obtain ⟨outer', hro, h⟩ := (bind_eq_ok_iff _ _ _).1 h
      obtain ⟨-, rfl, -⟩ := resolve_eq_ok hri
      obtain ⟨-, rfl, -⟩ := resolve_eq_ok hro
      cases h
      -- no word is a command behind a command
      have hend : rest = [] := by
        rcases Table.read_rest hinner with h | ⟨_, _, -, hw, -⟩
        · exact h
        · simp [Table.isCommandWord, Table.ofCommand] at hw
      subst hend
      rw [Command.name_of_ofName? hc]
      exact ⟨outer, inner, after, hread, hinner, hri, hro, rfl⟩

end Assay.CommandLine
