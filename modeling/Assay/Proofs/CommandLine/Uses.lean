import Assay.Proofs.CommandLine.Steps

/-!
# Options as they are written

A grammar of command lines that does not mention the reader. `Written` tells which
options tokens use and with which values, in whatever spelling: by a long name or
another one, by a letter, by letters that share a dash, with the value in the same
token or in the next. The reader is exact for it. What it reads is written so, and
of tokens that are written so it takes just these uses, or stops where they do not
fit together.
-/

set_option autoImplicit false

namespace Assay.CommandLine

open Assay.Json (bind_eq_ok_iff)

/-- An option with the value that it is used with. A flag is used with `true`. -/
structure OptionUse where
  option : OptionSpec
  value : String
deriving DecidableEq, Repr

def OptionUse.entry (u : OptionUse) : OptionId × String := (u.option.id, u.value)

/-- The use by the name of its option, whichever name or letter was written. -/
def OptionUse.named (u : OptionUse) : String × String := (u.option.long, u.value)

/-- Options that ask for a text instead of a command. -/
def OptionSpec.Asks (o : OptionSpec) : Prop := o.id = .help ∨ o.id = .version

structure OptionUse.Admitted (u : OptionUse) : Prop where
  asks_not : ¬ u.option.Asks
  check : u.option.check u.value = .ok ()

/-- Uses that may stand together on one side of a command. -/
structure Fits (uses : List OptionUse) : Prop where
  once : (uses.map fun u => u.option.id).Nodup
  admitted : ∀ u ∈ uses, u.Admitted

theorem fits_nil : Fits [] := ⟨List.nodup_nil, by simp⟩

theorem Fits.of_append {uses more : List OptionUse} (h : Fits (uses ++ more)) : Fits uses where
  once := by
    have hall := h.once
    rw [List.map_append] at hall
    exact hall.of_append_left
  admitted := fun u hu => h.admitted u (List.mem_append_left _ hu)

/-! ## The grammar -/

namespace Table

/-- What letters behind one dash write: flags, and at most one option with a value, which is the
rest of the letters or is still to come. -/
inductive Letters (t : Table) : List Char → List OptionUse → Option OptionSpec → Prop where
  | nil : Letters t [] [] none
  | flag {o : OptionSpec} {c : Char} {cs : List Char} {uses : List OptionUse}
      {wait : Option OptionSpec} : o ∈ t.options → o.short = some c → o.takesValue = false →
      Letters t cs uses wait → Letters t (c :: cs) (⟨o, "true"⟩ :: uses) wait
  | apart {o : OptionSpec} {c : Char} : o ∈ t.options → o.short = some c → o.takesValue = true →
      Letters t [c] [] (some o)
  | equals {o : OptionSpec} {c : Char} (value : List Char) : o ∈ t.options → o.short = some c →
      o.takesValue = true → Letters t (c :: '=' :: value) [⟨o, String.ofList value⟩] none
  | joined {o : OptionSpec} {c : Char} {value : List Char} : o ∈ t.options → o.short = some c →
      o.takesValue = true → value ≠ [] → value.head? ≠ some '=' →
      Letters t (c :: value) [⟨o, String.ofList value⟩] none

/-- What one token writes, with the option whose value is still to come. -/
inductive Spells (t : Table) : String → List OptionUse → Option OptionSpec → Prop where
  | flag {o : OptionSpec} {name : String} : o ∈ t.options → o.answersTo name = true →
      o.takesValue = false → Spells t ("--" ++ name) [⟨o, "true"⟩] none
  | joined {o : OptionSpec} {name : String} (value : String) : o ∈ t.options →
      o.answersTo name = true → o.takesValue = true →
      Spells t ("--" ++ name ++ "=" ++ value) [⟨o, value⟩] none
  | apart {o : OptionSpec} {name : String} : o ∈ t.options → o.answersTo name = true →
      o.takesValue = true → Spells t ("--" ++ name) [] (some o)
  | letters {c : Char} {cs : List Char} {uses : List OptionUse} {wait : Option OptionSpec} :
      Letters t (c :: cs) uses wait → Spells t (String.ofList ('-' :: c :: cs)) uses wait

def IsWord (token : String) : Prop := ∀ c cs, token.toList ≠ '-' :: c :: cs

/-- What tokens write. The first of them is the value of the option that waits, if one does. -/
inductive Written (t : Table) : Option OptionSpec → List String → List OptionUse → Prop where
  | nil : Written t none [] []
  | option {token : String} {tokens : List String} {uses more : List OptionUse}
      {wait : Option OptionSpec} : Spells t token uses wait → Written t wait tokens more →
      Written t none (token :: tokens) (uses ++ more)
  | word {o : OptionSpec} {token : String} {tokens : List String} {more : List OptionUse} :
      IsWord token → Written t none tokens more →
      Written t (some o) (token :: tokens) (⟨o, token⟩ :: more)

theorem Letters.mem_options {t : Table} {cs : List Char} {uses : List OptionUse}
    {wait : Option OptionSpec} (h : Letters t cs uses wait) :
    (∀ u ∈ uses, u.option ∈ t.options) ∧ ∀ o ∈ wait, o ∈ t.options := by
  induction h with
  | nil => simp
  | flag ho _ _ _ ih => simpa [ho] using ih
  | apart ho _ _ => simpa using ho
  | equals _ ho _ _ => simpa using ho
  | joined ho _ _ _ _ => simpa using ho

theorem Spells.mem_options {t : Table} {token : String} {uses : List OptionUse}
    {wait : Option OptionSpec} (h : Spells t token uses wait) :
    (∀ u ∈ uses, u.option ∈ t.options) ∧ ∀ o ∈ wait, o ∈ t.options := by
  cases h with
  | flag ho _ _ => simpa using ho
  | joined _ ho _ _ => simpa using ho
  | apart ho _ _ => simpa using ho
  | letters hl => exact hl.mem_options

theorem Written.mem_options {t : Table} {wait : Option OptionSpec} {tokens : List String}
    {uses : List OptionUse} (h : Written t wait tokens uses) (hw : ∀ o ∈ wait, o ∈ t.options) :
    ∀ u ∈ uses, u.option ∈ t.options := by
  induction h with
  | nil => simp
  | option hs _ ih =>
    rw [List.forall_mem_append]
    exact ⟨hs.mem_options.1, ih hs.mem_options.2⟩
  | word _ _ ih =>
    rw [List.forall_mem_cons]
    exact ⟨hw _ rfl, ih (by simp)⟩

/-- Tables in which a name or a letter leads to one option, and can be told from its value. -/
structure Clear (t : Table) : Prop where
  named : ∀ o ∈ t.options, ∀ name ∈ o.long :: o.aliases,
    (t.options.find? fun o => o.answersTo name) = some o
  lettered : ∀ o ∈ t.options, o.short.isSome = true →
    (t.options.find? fun o' => o'.short == o.short) = some o
  plain : ∀ o ∈ t.options, ∀ name ∈ o.long :: o.aliases, name ≠ "" ∧ '=' ∉ name.toList
  dash : ∀ o ∈ t.options, o.short ≠ some '-'
  valued : ∀ o ∈ t.options, o.takesValue = true → o.id ≠ .help ∧ o.id ≠ .version

theorem clear_outer : Table.outer.Clear := by
  constructor <;> decide

theorem clear_ofCommand (c : Command) : (Table.ofCommand c).Clear := by
  cases c <;> constructor <;> decide

end Table

/-! ## From the reader to the grammar -/

namespace Table

open Assay.CommandLine.Progress

variable {t : Table} {p q : Progress}

theorem letters_of_readShort {cs : List Char} (hp : p.waiting? = none)
    (h : t.readShort p cs = .ok q) : ∃ uses, Letters t cs uses q.waiting? := by
  induction cs generalizing p with
  | nil =>
    cases h
    exact ⟨[], hp ▸ .nil⟩
  | cons c cs ih =>
    unfold readShort at h
    cases hf : t.options.find? fun o => o.short == some c with
    | none => simp [hf] at h
    | some o =>
      have ho : o ∈ t.options := List.mem_of_find?_eq_some hf
      have hc : o.short = some c := by simpa using List.find?_some hf
      simp only [hf] at h
      by_cases hv : o.takesValue = true
      · rw [if_pos hv] at h
        split at h
        · rw [(meetValued_none_eq_ok h).2.waiting]
          exact ⟨[], .apart ho hc hv⟩
        · rw [(meetValued_some_eq_ok h).2.waiting]
          exact ⟨_, .equals _ ho hc hv⟩
        · rename_i hnil hequals
          rw [(meetValued_some_eq_ok h).2.waiting]
          refine ⟨_, .joined ho hc hv hnil ?_⟩
          intro hhead
          obtain ⟨value, hvalue⟩ := List.head?_eq_some_iff.1 hhead
          exact hequals value hvalue
      · rw [if_neg hv] at h
        obtain ⟨r, hr, h⟩ := (bind_eq_ok_iff _ _ _).1 h
        obtain ⟨uses, hu⟩ := ih (meetFlag_eq_ok hr).2.waiting h
        exact ⟨_, .flag ho hc (by simpa using hv) hu⟩

theorem SpellsLong.token_of_alone {token name : String} (h : SpellsLong token name none) :
    token = "--" ++ name := by
  apply String.toList_injective
  rw [h.1]
  simp

theorem SpellsLong.token_of_joined {token name value : String} (h : SpellsLong token name (some value)) :
    token = "--" ++ name ++ "=" ++ value := by
  apply String.toList_injective
  rw [h.1]
  simp

theorem spells_of_readLong {token name : String} {value : Option String}
    (hs : SpellsLong token name value) (h : t.readLong p name value = .ok q) :
    ∃ uses, Spells t token uses q.waiting? := by
  obtain ⟨o, ho, hname, -, hcases⟩ := readLong_eq_ok h
  rcases hcases with ⟨hv, v, rfl, ha⟩ | ⟨hv, rfl, ha⟩ | ⟨hv, rfl, ha⟩
  · rw [ha.waiting, hs.token_of_joined]
    exact ⟨_, .joined v ho hname hv⟩
  · rw [ha.waiting, hs.token_of_alone]
    exact ⟨_, .apart ho hname hv⟩
  · rw [ha.waiting, hs.token_of_alone]
    exact ⟨_, .flag ho hname hv⟩

theorem written_of_readToken {token : String} {tokens : List String} {more : List OptionUse}
    (h : t.readToken p token = .ok q) (hw : Written t q.waiting? tokens more) :
    ∃ uses, Written t p.waiting? (token :: tokens) uses := by
  rcases readToken_eq_ok h with ⟨name, value, hs, h⟩ | ⟨c, cs, htoken, -, h⟩ | ⟨o, hword, ho, rfl⟩
  · obtain ⟨uses, hu⟩ := spells_of_readLong hs h
    obtain ⟨-, -, -, hp, -⟩ := readLong_eq_ok h
    rw [hp]
    exact ⟨_, .option hu hw⟩
  · have hp := (readShort_eq_ok h).1
    obtain ⟨uses, hu⟩ := letters_of_readShort hp h
    obtain rfl : String.ofList ('-' :: c :: cs) = token := by rw [← htoken, String.ofList_toList]
    rw [hp]
    exact ⟨_, .option (.letters hu) hw⟩
  · rw [ho]
    exact ⟨_, .word hword hw⟩

/-- The mark after which no options follow, which may end a line. -/
def endMarks : List (List String) := [[], ["--"]]

theorem written_of_read {tokens rest : List String} (h : t.read p tokens = .ok (q, rest))
    (hq : q.waiting? = none) : ∃ taken uses, ∃ mark ∈ endMarks,
      tokens = taken ++ (mark ++ rest) ∧ (mark = [] ∨ rest = []) ∧
        Written t p.waiting? taken uses := by
  induction tokens generalizing p with
  | nil =>
    cases h
    exact ⟨[], [], [], by simp [endMarks], rfl, .inl rfl, hq ▸ .nil⟩
  | cons token tokens ih =>
    unfold read at h
    split at h
    · cases h
      exact ⟨[], [], [], by simp [endMarks], rfl, .inl rfl, hq ▸ .nil⟩
    · split at h
      · rename_i hmark
        subst hmark
        cases tokens with
        | nil =>
          cases h
          exact ⟨[], [], ["--"], by simp [endMarks], rfl, .inr rfl, hq ▸ .nil⟩
        | cons word more => cases h
      · obtain ⟨r, hr, h⟩ := (bind_eq_ok_iff _ _ _).1 h
        obtain ⟨taken, more, mark, hm, rfl, hend, hmore⟩ := ih h
        obtain ⟨uses, huses⟩ := written_of_readToken hr hmore
        exact ⟨token :: taken, uses, mark, hm, rfl, hend, huses⟩

end Table

/-! ## From the grammar to the reader -/

namespace Progress

/-- What has been read are these uses. They fit together, except that the last of them may be
pending and not yet have been looked at. -/
inductive Holds : Progress → List OptionUse → Option OptionSpec → Prop where
  | settled {uses : List OptionUse} : Fits uses → Holds ⟨uses.map OptionUse.entry, none⟩ uses none
  | known {uses : List OptionUse} (u : OptionUse) : Fits uses → ¬ u.option.Asks →
      Holds ⟨uses.map OptionUse.entry, some ⟨u.option, some u.value⟩⟩ (uses ++ [u]) none
  | waiting {uses : List OptionUse} (o : OptionSpec) : Fits uses → ¬ o.Asks →
      Holds ⟨uses.map OptionUse.entry, some ⟨o, none⟩⟩ uses (some o)

theorem holds_empty : Holds empty [] none := .settled fits_nil

theorem Holds.waiting_eq {p : Progress} {uses : List OptionUse} {wait : Option OptionSpec}
    (h : Holds p uses wait) : p.waiting? = wait := by
  cases h <;> rfl

/-- The step settles these uses, or it stops because they do not fit together. -/
def Settles (x : Except Stop Progress) (uses : List OptionUse) : Prop :=
  (Fits uses ∧ x = .ok ⟨uses.map OptionUse.entry, none⟩) ∨ (¬ Fits uses ∧ ∃ stop, x = .error stop)

/-- The step comes to hold these uses, or it stops because they do not fit together. -/
def Turns (x : Except Stop Progress) (uses : List OptionUse) (wait : Option OptionSpec) : Prop :=
  (∃ q, x = .ok q ∧ Holds q uses wait) ∨ (¬ Fits uses ∧ ∃ stop, x = .error stop)

theorem Settles.turns {x : Except Stop Progress} {uses : List OptionUse} (h : Settles x uses) :
    Turns x uses none := by
  rcases h with ⟨hfits, hx⟩ | hfail
  · exact .inl ⟨_, hx, .settled hfits⟩
  · exact .inr hfail

theorem Settles.bind_turns {x : Except Stop Progress} {f : Progress → Except Stop Progress}
    {uses new : List OptionUse} {wait : Option OptionSpec} (h : Settles x uses)
    (hf : Fits uses → Turns (f ⟨uses.map OptionUse.entry, none⟩) (uses ++ new) wait) :
    Turns (x >>= f) (uses ++ new) wait := by
  rcases h with ⟨hfits, rfl⟩ | ⟨hfails, stop, rfl⟩
  · exact hf hfits
  · exact .inr ⟨fun hall => hfails hall.of_append, stop, rfl⟩

theorem isSettled_iff (uses : List OptionUse) (pending : Option Pending) (id : OptionId) :
    Progress.isSettled ⟨uses.map OptionUse.entry, pending⟩ id = true ↔
      id ∈ uses.map fun u => u.option.id := by
  simp [isSettled, OptionUse.entry]

theorem fits_append_iff {uses : List OptionUse} (h : Fits uses) (u : OptionUse) :
    Fits (uses ++ [u]) ↔ (u.option.id ∉ uses.map fun u => u.option.id) ∧ u.Admitted := by
  constructor
  · intro hall
    have honce := hall.once
    rw [List.map_append, List.nodup_append] at honce
    refine ⟨fun hm => honce.2.2 _ hm u.option.id (by simp) rfl, hall.admitted u (by simp)⟩
  · rintro ⟨hnew, hadmitted⟩
    constructor
    · rw [List.map_append, List.map_singleton]
      exact List.nodup_append.2 ⟨h.once, List.nodup_singleton _, fun a ha b hb => by
        rw [List.mem_singleton.1 hb]
        rintro rfl
        exact hnew ha⟩
    · rw [List.forall_mem_append]
      exact ⟨h.admitted, by simpa using hadmitted⟩

theorem settle_settles {uses : List OptionUse} (h : Fits uses) (u : OptionUse)
    (hu : ¬ u.option.Asks) :
    Settles (Progress.settle ⟨uses.map OptionUse.entry, none⟩ u.option u.value)
      (uses ++ [u]) := by
  unfold settle
  by_cases hs : u.option.id ∈ uses.map fun u => u.option.id
  · right
    refine ⟨fun hall => ((fits_append_iff h u).1 hall).1 hs, ?_⟩
    rw [if_pos ((isSettled_iff _ _ _).2 hs)]
    exact ⟨_, rfl⟩
  · rw [if_neg fun hm => hs ((isSettled_iff _ _ _).1 hm)]
    cases hc : u.option.check u.value with
    | error stop =>
      right
      refine ⟨fun hall => ?_, stop, rfl⟩
      have hok := ((fits_append_iff h u).1 hall).2.check
      rw [hc] at hok
      cases hok
    | ok _ =>
      left
      refine ⟨(fits_append_iff h u).2 ⟨hs, hu, hc⟩, ?_⟩
      rw [List.map_append]
      rfl

theorem Holds.resolve_settles {p : Progress} {uses : List OptionUse} (h : Holds p uses none) :
    Settles p.resolve uses := by
  cases h with
  | settled h => exact .inl ⟨h, rfl⟩
  | known u h hu => exact settle_settles h u hu

theorem Holds.meetFlag_turns {p : Progress} {uses : List OptionUse} (h : Holds p uses none)
    (o : OptionSpec) (c : Option Command) :
    Turns (p.meetFlag o c) (uses ++ [⟨o, "true"⟩]) none := by
  apply h.resolve_settles.bind_turns
  intro hfits
  by_cases ho : o.Asks
  · right
    refine ⟨fun hall => (hall.admitted ⟨o, "true"⟩ (by simp)).asks_not ho, ?_⟩
    rcases ho with hid | hid <;> simp only [hid] <;> exact ⟨_, rfl⟩
  · have hs := settle_settles hfits ⟨o, "true"⟩ ho
    have hid : o.id ≠ .help ∧ o.id ≠ .version := not_or.1 ho
    cases hc : o.id <;> first | exact absurd hc hid.1 | exact absurd hc hid.2 | exact hs.turns

theorem Holds.meetValued_some_turns {p : Progress} {uses : List OptionUse} (h : Holds p uses none)
    {o : OptionSpec} (ho : ¬ o.Asks) (value : String) :
    Turns (p.meetValued o (some value)) (uses ++ [⟨o, value⟩]) none :=
  h.resolve_settles.bind_turns fun hfits => (settle_settles hfits ⟨o, value⟩ ho).turns

theorem Holds.meetValued_none_turns {p : Progress} {uses : List OptionUse} (h : Holds p uses none)
    {o : OptionSpec} (ho : ¬ o.Asks) :
    Turns (p.meetValued o none) (uses ++ []) (some o) := by
  apply h.resolve_settles.bind_turns
  intro hfits
  rw [List.append_nil]
  exact .inl ⟨_, rfl, .waiting o hfits ho⟩

end Progress

theorem OptionSpec.mem_names {o : OptionSpec} {name : String} (h : o.answersTo name = true) :
    name ∈ o.long :: o.aliases := by
  rcases Bool.or_eq_true_iff.1 h with h | h
  · simp [(beq_iff_eq.1 h).symm]
  · exact List.mem_cons_of_mem _ (List.contains_iff_mem.1 h)

namespace Table

open Assay.CommandLine.Progress

variable {t : Table} {p : Progress}

theorem Clear.asks_not {t : Table} (ht : t.Clear) {o : OptionSpec} (ho : o ∈ t.options)
    (hv : o.takesValue = true) : ¬ o.Asks :=
  not_or.2 (ht.valued o ho hv)

theorem Clear.find_short {t : Table} (ht : t.Clear) {o : OptionSpec} (ho : o ∈ t.options)
    {c : Char} (hc : o.short = some c) :
    (t.options.find? fun o => o.short == some c) = some o := by
  rw [← hc]
  exact ht.lettered o ho (by simp [hc])

theorem Letters.turns (ht : t.Clear) {cs : List Char} {new : List OptionUse}
    {wait : Option OptionSpec} (h : Letters t cs new wait) {uses : List OptionUse}
    (hp : Holds p uses none) : Turns (t.readShort p cs) (uses ++ new) wait := by
  induction h generalizing p uses with
  | nil =>
    rw [List.append_nil]
    exact .inl ⟨p, rfl, hp⟩
  | @flag o c cs new wait ho hc hv _ ih =>
    have hcons : uses ++ ⟨o, "true"⟩ :: new = (uses ++ [⟨o, "true"⟩]) ++ new := by simp
    unfold readShort
    simp only [ht.find_short ho hc, hv]
    rw [hcons]
    rcases hp.meetFlag_turns o t.command with ⟨q, hq, hheld⟩ | ⟨hfails, stop, hstop⟩
    · simp only [hq]
      exact ih hheld
    · simp only [hstop]
      exact .inr ⟨fun hall => hfails hall.of_append, stop, rfl⟩
  | apart ho hc hv =>
    unfold readShort
    simp only [ht.find_short ho hc, hv]
    exact hp.meetValued_none_turns (ht.asks_not ho hv)
  | equals value ho hc hv =>
    unfold readShort
    simp only [ht.find_short ho hc, hv]
    exact hp.meetValued_some_turns (ht.asks_not ho hv) _
  | @joined o c value ho hc hv hne hhead =>
    unfold readShort
    simp only [ht.find_short ho hc, hv, if_true]
    split
    · exact absurd rfl hne
    · exact absurd rfl hhead
    · exact hp.meetValued_some_turns (ht.asks_not ho hv) _

theorem Clear.find_long (ht : t.Clear) {o : OptionSpec} (ho : o ∈ t.options) {name : String}
    (hname : o.answersTo name = true) :
    (t.options.find? fun o => o.answersTo name) = some o :=
  ht.named o ho name (OptionSpec.mem_names hname)

theorem splitLong_append {name : String} (hname : '=' ∉ name.toList) (value : Option String) :
    splitLong (name.toList ++ value.toList.flatMap fun v => '=' :: v.toList) = (name, value) := by
  have hne : ∀ c ∈ name.toList, (c != '=') = true := by
    intro c hc
    rw [bne_iff_ne]
    rintro rfl
    exact hname hc
  unfold splitLong
  rw [List.span_eq_takeWhile_dropWhile, List.takeWhile_append_of_pos hne,
    List.dropWhile_append_of_pos hne]
  cases value with
  | none => simp
  | some v => simp

theorem readToken_eq_readLong {token name : String} {value : Option String}
    (h : SpellsLong token name value) (hne : name ≠ "") :
    t.readToken p token = t.readLong p name value := by
  have hsplit := splitLong_append h.2 value
  unfold readToken
  rw [h.1]
  cases hl : name.toList with
  | nil => exact absurd (String.toList_eq_nil_iff.1 hl) hne
  | cons c cs =>
    rw [hl] at hsplit
    simp only [List.cons_append] at hsplit ⊢
    rw [hsplit]

/-- No letter of an option is a dash, so that letters are not taken for a long name. -/
theorem Letters.head_ne_dash (ht : t.Clear) {c : Char} {cs : List Char} {uses : List OptionUse}
    {wait : Option OptionSpec} (h : Letters t (c :: cs) uses wait) : c ≠ '-' := by
  rintro rfl
  cases h with
  | flag ho hc => exact ht.dash _ ho hc
  | apart ho hc => exact ht.dash _ ho hc
  | equals _ ho hc => exact ht.dash _ ho hc
  | joined ho hc => exact ht.dash _ ho hc

theorem Spells.turns (ht : t.Clear) {token : String} {new : List OptionUse}
    {wait : Option OptionSpec} (h : Spells t token new wait) {uses : List OptionUse}
    (hp : Holds p uses none) : Turns (t.readToken p token) (uses ++ new) wait := by
  cases h with
  | @flag o name ho hname hv =>
    have hplain := ht.plain o ho name (OptionSpec.mem_names hname)
    have hs : SpellsLong ("--" ++ name) name none := ⟨by simp, hplain.2⟩
    rw [readToken_eq_readLong hs hplain.1]
    simp only [readLong, ht.find_long ho hname, hv]
    exact hp.meetFlag_turns o t.command
  | @joined o name value ho hname hv =>
    have hplain := ht.plain o ho name (OptionSpec.mem_names hname)
    have hs : SpellsLong ("--" ++ name ++ "=" ++ value) name (some value) := ⟨by simp, hplain.2⟩
    rw [readToken_eq_readLong hs hplain.1]
    simp only [readLong, ht.find_long ho hname, hv]
    exact hp.meetValued_some_turns (ht.asks_not ho hv) value
  | @apart o name ho hname hv =>
    have hplain := ht.plain o ho name (OptionSpec.mem_names hname)
    have hs : SpellsLong ("--" ++ name) name none := ⟨by simp, hplain.2⟩
    rw [readToken_eq_readLong hs hplain.1]
    simp only [readLong, ht.find_long ho hname, hv]
    exact hp.meetValued_none_turns (ht.asks_not ho hv)
  | @letters c cs new wait hl =>
    have hc := hl.head_ne_dash ht
    have htoken : t.readToken p (String.ofList ('-' :: c :: cs)) = t.readShort p (c :: cs) := by
      unfold readToken
      rw [String.toList_ofList]
      split
      · rename_i hlong
        cases hlong
        exact absurd rfl hc
      · rename_i hshort
        cases hshort
        rfl
      · rename_i hword
        exact absurd rfl (hword c cs)
    rw [htoken]
    exact hl.turns ht hp

theorem Spells.dash (ht : t.Clear) {token : String} {uses : List OptionUse}
    {wait : Option OptionSpec} (h : Spells t token uses wait) :
    token ≠ "--" ∧ ∃ c cs, token.toList = '-' :: c :: cs := by
  have hlong : ∀ (o : OptionSpec) (name rest : String), o ∈ t.options →
      o.answersTo name = true → "--" ++ name ++ rest ≠ "--" ∧
        ∃ c cs, ("--" ++ name ++ rest).toList = '-' :: c :: cs := by
    intro o name rest ho hname
    refine ⟨fun hmark => ?_, '-', name.toList ++ rest.toList, by simp⟩
    have hlength := congrArg String.length hmark
    simp only [String.length_append] at hlength
    have hzero : name.length = 0 := by omega
    exact (ht.plain o ho name (OptionSpec.mem_names hname)).1 (String.length_eq_zero_iff.1 hzero)
  cases h with
  | flag ho hname => simpa using hlong _ _ "" ho hname
  | joined value ho hname =>
    rw [String.append_assoc]
    exact hlong _ _ _ ho hname
  | apart ho hname => simpa using hlong _ _ "" ho hname
  | @letters c cs _ _ hl =>
    refine ⟨fun hmark => ?_, c, cs, String.toList_ofList⟩
    have hlist := congrArg String.toList hmark
    rw [String.toList_ofList] at hlist
    cases hlist
    exact hl.head_ne_dash ht rfl

theorem isWord_of_isCommandWord {token : String} (h : t.isCommandWord token = true) :
    IsWord token := by
  simp only [isCommandWord, Bool.and_eq_true, Bool.or_eq_true, beq_iff_eq,
    Option.isSome_iff_exists] at h
  obtain ⟨-, rfl | ⟨c, hc⟩⟩ := h
  · simp [IsWord]
  · rw [← Command.name_of_ofName? hc]
    cases c <;> simp [IsWord, Command.name]

theorem readToken_word {es : List (OptionId × String)} {o : OptionSpec} {token : String}
    (h : IsWord token) :
    t.readToken ⟨es, some ⟨o, none⟩⟩ token = .ok ⟨es, some ⟨o, some token⟩⟩ := by
  unfold readToken
  split
  · rename_i htoken
    exact absurd htoken (h _ _)
  · rename_i htoken
    exact absurd htoken (h _ _)
  · rfl

/-- A token that is neither a command nor the mark is read, and then those behind it. -/
theorem read_cons {token : String} (hmark : token ≠ "--")
    (hc : p.waiting? ≠ none ∨ t.isCommandWord token = false) (rest : List String) :
    t.read p (token :: rest) = t.readToken p token >>= fun q => t.read q rest := by
  have hgo : (!p.awaitsValue && t.isCommandWord token) = false := by
    rw [awaitsValue_eq]
    rcases hc with hw | hc
    · rw [Option.isSome_iff_ne_none.2 hw]
      rfl
    · rw [hc, Bool.and_false]
  rw [read.eq_def]
  simp only [hgo, if_neg hmark]
  rfl

theorem Written.read_turns (ht : t.Clear) {tokens : List String} {new : List OptionUse}
    {wait : Option OptionSpec} (h : Written t wait tokens new) {uses : List OptionUse}
    (hp : Holds p uses wait) :
    (∃ q, Holds q (uses ++ new) none ∧ ∀ rest, t.read p (tokens ++ rest) = t.read q rest) ∨
      (¬ Fits (uses ++ new) ∧ ∃ stop, ∀ rest, t.read p (tokens ++ rest) = .error stop) := by
  induction h generalizing p uses with
  | nil => exact .inl ⟨p, by simpa using hp, fun _ => rfl⟩
  | @option token tokens new more wait hs _ ih =>
    obtain ⟨hmark, c, cs, hcs⟩ := hs.dash ht
    have hc : t.isCommandWord token = false := by
      rw [← Bool.not_eq_true]
      exact fun hw => isWord_of_isCommandWord hw c cs hcs
    have hread : ∀ rest, t.read p (token :: tokens ++ rest) =
        t.readToken p token >>= fun q => t.read q (tokens ++ rest) :=
      fun rest => read_cons hmark (.inr hc) (tokens ++ rest)
    rw [← List.append_assoc]
    rcases hs.turns ht hp with ⟨q, hq, hheld⟩ | ⟨hfails, stop, hstop⟩
    · simp only [hread, hq]
      exact ih hheld
    · simp only [hread, hstop]
      exact .inr ⟨fun hall => hfails hall.of_append, stop, fun _ => rfl⟩
  | @word o token tokens more hword _ ih =>
    cases hp with
    | waiting _ hfits ho =>
      have hmark : token ≠ "--" := by
        rintro rfl
        exact hword '-' [] rfl
      have hread : ∀ rest, t.read ⟨uses.map OptionUse.entry, some ⟨o, none⟩⟩
          (token :: tokens ++ rest) =
            t.read ⟨uses.map OptionUse.entry, some ⟨o, some token⟩⟩ (tokens ++ rest) := by
        intro rest
        rw [List.cons_append, read_cons hmark (.inl (by simp)), readToken_word hword]
        rfl
      simp only [hread]
      rw [List.append_cons]
      exact ih (.known ⟨o, token⟩ hfits ho)

end Table

/-! ## Whole lines -/

open Assay.CommandLine.Progress

def Line (c : Command) (argv : List String) (outer inner : List OptionUse) : Prop :=
  ∃ before after, ∃ mark ∈ Table.endMarks, argv = before ++ c.name :: (after ++ mark) ∧
    Table.outer.Written none before outer ∧ (Table.ofCommand c).Written none after inner

theorem line_of_parse {argv : List String} {p : Parsed} (h : parse argv = .ok p) :
    ∃ outer inner, Line p.command argv outer inner := by
  obtain ⟨outer, inner, after, hro, hri, hinner, houter, -⟩ := parse_eq_ok h
  obtain ⟨before, us, mark, -, hbefore, hend, hus⟩ :=
    Table.written_of_read hro (resolve_eq_ok houter).1
  obtain ⟨taken, vs, mark', hmark', htaken, -, hvs⟩ :=
    Table.written_of_read hri (resolve_eq_ok hinner).1
  obtain rfl : mark = [] := by simpa using hend
  rw [List.append_nil] at htaken
  exact ⟨us, vs, before, taken, mark', hmark', by rw [hbefore, htaken, List.nil_append], hus, hvs⟩

theorem Command.ofName?_name (c : Command) : Command.ofName? c.name = some c := by
  cases c <;> rfl

theorem Table.read_mark {t : Table} {q : Progress} {mark : List String}
    (h : mark ∈ Table.endMarks) : t.read q mark = .ok (q, []) := by
  have hmark : t.isCommandWord "--" = false := by
    rw [← Bool.not_eq_true]
    exact fun hw => Table.isWord_of_isCommandWord hw '-' [] rfl
  simp only [Table.endMarks, List.mem_cons, List.not_mem_nil, or_false] at h
  rcases h with rfl | rfl
  · rfl
  · simp [Table.read, hmark]

theorem Table.read_name {q : Progress} (hq : q.waiting? = none) (c : Command)
    (rest : List String) : Table.outer.read q (c.name :: rest) = .ok (q, c.name :: rest) := by
  have hc : Table.outer.isCommandWord c.name = true := by cases c <;> rfl
  rw [Table.read.eq_def]
  simp only [awaitsValue_eq, hq, hc]
  rfl

theorem finish_of_written {c : Command} {q : Progress} {after mark : List String}
    {outer inner : List OptionUse} (hq : q.Holds outer none) (hmark : mark ∈ Table.endMarks)
    (h : (Table.ofCommand c).Written none after inner) :
    (Fits outer ∧ Fits inner ∧ finish q c (after ++ mark) =
        .ok ⟨c, (inner ++ outer).map OptionUse.entry⟩) ∨
      (¬ (Fits outer ∧ Fits inner) ∧ ∃ stop, finish q c (after ++ mark) = .error stop) := by
  unfold finish
  rcases h.read_turns (Table.clear_ofCommand c) holds_empty with
    ⟨r, hr, hread⟩ | ⟨hfails, stop, hstop⟩
  · rw [hread, Table.read_mark hmark]
    rcases hr.resolve_settles with ⟨hinner, hri⟩ | ⟨hinner, stop, hri⟩
    · rcases hq.resolve_settles with ⟨houter, hqo⟩ | ⟨houter, stop, hqo⟩
      · exact .inl ⟨houter, hinner, by simp [bind, Except.bind, pure, Except.pure, hri, hqo]⟩
      · exact .inr ⟨fun h => houter h.1, stop, by simp [bind, Except.bind, hri, hqo]⟩
    · exact .inr ⟨fun h => hinner h.2, stop, by simp [bind, Except.bind, hri]⟩
  · rw [hstop]
    exact .inr ⟨fun h => hfails h.2, stop, rfl⟩

/-- A line is accepted exactly if its options fit together on either side of the command, and
what is given are then the options with the values that they are written with. -/
theorem Line.parse_cases {c : Command} {argv : List String} {outer inner : List OptionUse}
    (h : Line c argv outer inner) :
    (Fits outer ∧ Fits inner ∧
        parse argv = .ok ⟨c, (inner ++ outer).map OptionUse.entry⟩) ∨
      (¬ (Fits outer ∧ Fits inner) ∧ ∃ stop, parse argv = .error stop) := by
  obtain ⟨before, after, mark, hmark, rfl, hbefore, hafter⟩ := h
  unfold CommandLine.parse
  rcases hbefore.read_turns Table.clear_outer holds_empty with ⟨q, hq, hread⟩ | ⟨hfails, stop, hstop⟩
  · rw [hread, Table.read_name hq.waiting_eq]
    simp only [bind, Except.bind, Command.ofName?_name]
    exact finish_of_written hq hmark hafter
  · rw [hstop]
    exact .inr ⟨fun h => hfails h.1, stop, rfl⟩

end Assay.CommandLine
