import Assay.Proofs.CommandLine.Steps
import Mathlib.Data.List.Basic

/-!
# Language of a command line

The language of the messages is looked up among the tokens before they are read.
Both the look-up and the reader are described here by where the tokens mention a
language. The reader takes the last mention, since there is at most one before
the command and one behind it, and the later one counts. The look-up takes the
first joined spelling, or else the first mention. They agree wherever one level
alone mentions a language, and of two mentions the look-up may take the outer one.
-/

set_option autoImplicit false

namespace Assay.CommandLine

open Assay.Json (bind_eq_ok_iff)

def joinedSpelling (value : String) : String := languageOptionText ++ "=" ++ value

def NamesLanguage (token : String) : Prop :=
  token = languageOptionText ∨ ∃ value, token = joinedSpelling value

/-- A place where a language is named, and how it is spelled there. -/
structure Mention where
  joined : Bool
  value : String
deriving DecidableEq, Repr

/-- What tokens mention, in order. The value of an option that stands alone is the next
token, which is no language option itself. -/
inductive Mentions : List String → List Mention → Prop where
  | nil : Mentions [] []
  | other {token : String} {rest : List String} {ms : List Mention} :
      ¬ NamesLanguage token → Mentions rest ms → Mentions (token :: rest) ms
  | joined (value : String) {rest : List String} {ms : List Mention} :
      Mentions rest ms → Mentions (joinedSpelling value :: rest) (⟨true, value⟩ :: ms)
  | separate {value : String} {rest : List String} {ms : List Mention} :
      ¬ NamesLanguage value → Mentions rest ms →
      Mentions (languageOptionText :: value :: rest) (⟨false, value⟩ :: ms)

/-- The second line is the first with some joined spellings taken apart. -/
inductive Respelled : List String → List String → Prop where
  | nil : Respelled [] []
  | keep (token : String) {a b : List String} : Respelled a b → Respelled (token :: a) (token :: b)
  | split (value : String) {a b : List String} : Respelled a b →
      Respelled (joinedSpelling value :: a) (languageOptionText :: value :: b)

theorem toList_joinedSpelling (value : String) :
    (joinedSpelling value).toList = "--lang=".toList ++ value.toList := by
  simp [joinedSpelling, languageOptionText]

theorem joinedSpelling_ne_alone (value : String) : joinedSpelling value ≠ languageOptionText := by
  intro h
  have hl := congrArg (fun s => s.toList.length) h
  simp [toList_joinedSpelling, languageOptionText] at hl

theorem joinedSpelling_injective {v w : String} (h : joinedSpelling v = joinedSpelling w) :
    v = w := by
  have hl := congrArg String.toList h
  rw [toList_joinedSpelling, toList_joinedSpelling] at hl
  exact String.toList_injective (List.append_cancel_left hl)

namespace Mentions

theorem append {a b : List String} {ms ns : List Mention} (ha : Mentions a ms)
    (hb : Mentions b ns) : Mentions (a ++ b) (ms ++ ns) := by
  induction ha with
  | nil => exact hb
  | other h _ ih => exact .other h ih
  | joined v _ ih => exact .joined v ih
  | separate h _ ih => exact .separate h ih

theorem of_other {token : String} {rest : List String} {ms : List Mention}
    (h : Mentions (token :: rest) ms) (ht : ¬ NamesLanguage token) : Mentions rest ms := by
  cases h with
  | other _ hrest => exact hrest
  | joined v _ => exact absurd (.inr ⟨v, rfl⟩) ht
  | separate _ _ => exact absurd (.inl rfl) ht

theorem of_joined {token value : String} {rest : List String} {ms : List Mention}
    (h : Mentions (token :: rest) ms) (ht : token = joinedSpelling value) :
    ∃ ms', ms = ⟨true, value⟩ :: ms' ∧ Mentions rest ms' := by
  cases h with
  | other hn _ => exact absurd (.inr ⟨value, ht⟩) hn
  | joined v hrest => exact ⟨_, by rw [joinedSpelling_injective ht], hrest⟩
  | separate _ _ => exact absurd ht.symm (joinedSpelling_ne_alone value)

theorem of_alone {token : String} {rest : List String} {ms : List Mention}
    (h : Mentions (token :: rest) ms) (ht : token = languageOptionText) :
    ∃ value rest' ms', rest = value :: rest' ∧ ms = ⟨false, value⟩ :: ms' ∧
      Mentions rest' ms' := by
  cases h with
  | other hn _ => exact absurd (.inl ht) hn
  | joined v _ => exact absurd ht (joinedSpelling_ne_alone v)
  | separate _ hrest => exact ⟨_, _, _, rfl, rfl, hrest⟩

end Mentions

namespace Respelled

theorem of_cons {token : String} {a b : List String} (h : Respelled (token :: a) b) :
    (∃ b', b = token :: b' ∧ Respelled a b') ∨
      ∃ value b', token = joinedSpelling value ∧ b = languageOptionText :: value :: b' ∧
        Respelled a b' := by
  cases h with
  | keep _ hrest => exact .inl ⟨_, rfl, hrest⟩
  | split v hrest => exact .inr ⟨v, _, rfl, rfl, hrest⟩

theorem of_unjoined {token : String} {a b : List String} (h : Respelled (token :: a) b)
    (ht : ∀ value, token ≠ joinedSpelling value) : ∃ b', b = token :: b' ∧ Respelled a b' := by
  rcases h.of_cons with hkeep | ⟨v, _, hv, -, -⟩
  · exact hkeep
  · exact absurd hv (ht v)

theorem values_eq {a b : List String} {ms ns : List Mention} (h : Respelled a b)
    (ha : Mentions a ms) (hb : Mentions b ns) :
    ns.map Mention.value = ms.map Mention.value := by
  induction ha generalizing b ns with
  | nil =>
    cases h
    cases hb
    rfl
  | other ht _ ih =>
    obtain ⟨b', rfl, hrest⟩ := h.of_unjoined fun v hv => ht (.inr ⟨v, hv⟩)
    exact ih hrest (hb.of_other ht)
  | joined v _ ih =>
    rcases h.of_cons with ⟨b', rfl, hrest⟩ | ⟨w, b', hw, rfl, hrest⟩
    · obtain ⟨ns', rfl, hns⟩ := hb.of_joined rfl
      simp [ih hrest hns]
    · obtain ⟨_, _, ns', hc, rfl, hns⟩ := hb.of_alone rfl
      obtain ⟨rfl, rfl⟩ := List.cons.inj hc
      simp [ih hrest hns, joinedSpelling_injective hw]
  | separate hv _ ih =>
    obtain ⟨b', rfl, hnext⟩ := h.of_unjoined fun w hw => joinedSpelling_ne_alone w hw.symm
    obtain ⟨b'', rfl, hrest⟩ := hnext.of_unjoined fun w hw => hv (.inr ⟨w, hw⟩)
    obtain ⟨_, _, ns', hc, rfl, hns⟩ := hb.of_alone rfl
    obtain ⟨rfl, rfl⟩ := List.cons.inj hc
    simp [ih hrest hns]

end Respelled

/-! ## What the look-up finds -/

def joinedValue? (token : String) : Option String :=
  let start := (languageOptionText ++ "=").toList
  if start.isPrefixOf token.toList then some (String.ofList (token.toList.drop start.length))
  else none

theorem joinedValue?_joinedSpelling (value : String) :
    joinedValue? (joinedSpelling value) = some value := by
  have hs : (languageOptionText ++ "=").toList = "--lang=".toList := rfl
  simp only [joinedValue?, hs, toList_joinedSpelling]
  rw [if_pos (by simp), List.drop_left, String.ofList_toList]

theorem joinedValue?_eq_none {token : String} (h : ∀ value, token ≠ joinedSpelling value) :
    joinedValue? token = none := by
  have hs : (languageOptionText ++ "=").toList = "--lang=".toList := rfl
  rw [joinedValue?, hs]
  apply if_neg
  intro hp
  obtain ⟨value, hv⟩ := List.isPrefixOf_iff_prefix.1 hp
  apply h (String.ofList value)
  apply String.toList_injective
  simpa [toList_joinedSpelling] using hv.symm

theorem joinedLanguage?_cons (token : String) (rest : List String) :
    joinedLanguage? (token :: rest) = (joinedValue? token).or (joinedLanguage? rest) := by
  unfold joinedLanguage? joinedValue?
  rw [List.findSome?_cons]
  split <;> simp_all

theorem joinedLanguage?_of_mentions {argv : List String} {ms : List Mention}
    (h : Mentions argv ms) :
    joinedLanguage? argv = (ms.find? fun m => m.joined).map Mention.value := by
  induction h with
  | nil => rfl
  | other ht _ ih =>
    rw [joinedLanguage?_cons, joinedValue?_eq_none fun v hv => ht (.inr ⟨v, hv⟩)]
    exact ih
  | joined v _ _ =>
    rw [joinedLanguage?_cons, joinedValue?_joinedSpelling]
    rfl
  | separate hv _ ih =>
    rw [joinedLanguage?_cons, joinedLanguage?_cons,
      joinedValue?_eq_none fun v hv => joinedSpelling_ne_alone v hv.symm,
      joinedValue?_eq_none fun w hw => hv (.inr ⟨w, hw⟩)]
    exact ih

theorem separateLanguage?_of_mentions {argv : List String} {ms : List Mention}
    (h : Mentions argv ms) :
    separateLanguage? argv = (ms.find? fun m => !m.joined).map Mention.value := by
  induction h with
  | nil => rfl
  | other ht _ ih => rw [separateLanguage?, if_neg fun h => ht (.inl h), ih]
  | joined v _ ih =>
    rw [separateLanguage?, if_neg (joinedSpelling_ne_alone v), ih]
    rfl
  | separate _ _ _ =>
    rw [separateLanguage?, if_pos rfl]
    rfl

/-- The look-up takes the first joined spelling, or else the first that stands alone. -/
theorem spokenLanguage?_of_mentions {argv : List String} {ms : List Mention}
    (h : Mentions argv ms) :
    spokenLanguage? argv =
      ((ms.find? fun m => m.joined).or (ms.find? fun m => !m.joined)).map Mention.value := by
  rw [spokenLanguage?, joinedLanguage?_of_mentions h, separateLanguage?_of_mentions h]
  cases ms.find? fun m => m.joined <;> rfl

/-! ## What the reader takes -/

def languages (given : List (OptionId × String)) : List String :=
  (given.filter fun e => e.1 == .language).map Prod.snd

theorem languages_append (es fs : List (OptionId × String)) :
    languages (es ++ fs) = languages es ++ languages fs := by simp [languages]

theorem languages_eq_nil {es : List (OptionId × String)} (h : ∀ e ∈ es, e.1 ≠ .language) :
    languages es = [] := by
  rw [languages, List.filter_eq_nil_iff.2 (by simpa using h), List.map_nil]

theorem Parsed.value?_language (p : Parsed) : p.value? .language = (languages p.given).head? := by
  rw [languages, List.head?_map, List.head?_filter, Parsed.value?]

theorem length_languages_le_one {es : List (OptionId × String)} (h : (es.map Prod.fst).Nodup) :
    (languages es).length ≤ 1 := by
  have hcount : (languages es).length = (es.map Prod.fst).count .language := by
    rw [languages, List.length_map, List.count, List.countP_map, List.countP_eq_length_filter]
    rfl
  rw [hcount]
  exact List.nodup_iff_count_le_one.1 h .language

/-- Tables in which the language option is known, and known by its one name only. -/
def Table.SpeaksLanguage (t : Table) : Prop :=
  ∀ o ∈ t.options, o.id = .language ∨ o.answersTo "lang" = true → o = languageOption

theorem speaksLanguage_outer : Table.outer.SpeaksLanguage := by
  unfold Table.SpeaksLanguage
  decide

theorem speaksLanguage_ofCommand (c : Command) : (Table.ofCommand c).SpeaksLanguage := by
  unfold Table.SpeaksLanguage
  cases c <;> decide

def Progress.opened (p : Progress) : List String :=
  if p.waiting? = some languageOption then [languageOptionText] else []

theorem Progress.opened_of_waiting {p : Progress} {o : OptionSpec} (h : p.waiting? = some o)
    (ho : o ≠ languageOption) : p.opened = [] := by simp [opened, h, ho]

theorem Progress.opened_of_ready {p : Progress} (h : p.waiting? = none) : p.opened = [] := by
  simp [opened, h]

/-- A step over `tokens` that tells of the languages `ms`. What the tokens mention is said with
any tokens behind them, since the value of the last option may be yet to come. -/
structure Progress.Tells (p q : Progress) (tokens : List String) (ms : List Mention) : Prop where
  mentions : ∀ rest ns, Mentions (q.opened ++ rest) ns →
    Mentions (p.opened ++ (tokens ++ rest)) (ms ++ ns)
  languages : languages q.given = languages p.given ++ ms.map Mention.value
  distinct : p.Distinct → q.Distinct

namespace Progress

theorem Tells.refl (p : Progress) : Tells p p [] [] := ⟨fun _ _ h => h, by simp, id⟩

theorem Tells.trans {p q r : Progress} {a b : List String} {ms ns : List Mention}
    (h : Tells p q a ms) (h' : Tells q r b ns) : Tells p r (a ++ b) (ms ++ ns) where
  mentions := by
    intro rest ks hk
    rw [List.append_assoc, List.append_assoc]
    exact h.mentions _ _ (h'.mentions _ _ hk)
  languages := by rw [h'.languages, h.languages, List.map_append, List.append_assoc]
  distinct := fun hp => h'.distinct (h.distinct hp)

theorem Adds.tells_nothing {p q : Progress} {token : String} {new : List (OptionId × String)}
    {wait : Option OptionSpec} (h : Adds p q new wait) (hp : p.opened = [])
    (hnew : ∀ e ∈ new, e.1 ≠ .language) (hwait : wait ≠ some languageOption)
    (ht : ¬ NamesLanguage token) : Tells p q [token] [] where
  mentions := by
    intro rest ns hns
    have hq : q.opened = [] := if_neg (h.waiting ▸ hwait)
    rw [hq] at hns
    rw [hp]
    exact .other ht hns
  languages := by simp [h.given, languages_append, languages_eq_nil hnew]
  distinct := h.distinct

theorem Adds.tells_joined {p q : Progress} {value : String}
    (h : Adds p q [(.language, value)] none) (hp : p.opened = []) :
    Tells p q [joinedSpelling value] [⟨true, value⟩] where
  mentions := by
    intro rest ns hns
    rw [opened_of_ready h.waiting] at hns
    rw [hp]
    exact .joined value hns
  languages := by simp [h.given, CommandLine.languages]
  distinct := h.distinct

theorem Adds.tells_opened {p q : Progress} (h : Adds p q [] (some languageOption))
    (hp : p.opened = []) : Tells p q [languageOptionText] [] where
  mentions := by
    intro rest ns hns
    have hq : q.opened = [languageOptionText] := if_pos h.waiting
    rw [hq] at hns
    rw [hp]
    exact hns
  languages := by simp [h.given]
  distinct := h.distinct

theorem Adds.tells_value {p q : Progress} {value : String}
    (h : Adds p q [(.language, value)] none) (hp : p.waiting? = some languageOption)
    (hv : ¬ NamesLanguage value) : Tells p q [value] [⟨false, value⟩] where
  mentions := by
    intro rest ns hns
    have ho : p.opened = [languageOptionText] := if_pos hp
    rw [opened_of_ready h.waiting] at hns
    rw [ho]
    exact .separate hv hns
  languages := by simp [h.given, CommandLine.languages]
  distinct := h.distinct

end Progress

namespace Table

open Assay.CommandLine.Progress

variable {t : Table} {p q : Progress}

theorem SpeaksLanguage.id_ne {t : Table} (ht : t.SpeaksLanguage) {o : OptionSpec}
    (ho : o ∈ t.options) (hne : o ≠ languageOption) : o.id ≠ .language :=
  fun hid => hne (ht o ho (.inl hid))

theorem SpellsLong.name_eq {token name : String} {value : Option String}
    (h : SpellsLong token name value) (ht : NamesLanguage token) : name = "lang" := by
  apply String.toList_injective
  rw [← h.name_toList]
  rcases ht with rfl | ⟨v, rfl⟩
  · rfl
  · simp [toList_joinedSpelling]

theorem SpellsLong.eq_joinedSpelling {token value : String}
    (h : SpellsLong token "lang" (some value)) : token = joinedSpelling value := by
  apply String.toList_injective
  rw [h.1, toList_joinedSpelling]
  simp

theorem SpellsLong.eq_alone {token : String} (h : SpellsLong token "lang" none) :
    token = languageOptionText := by
  apply String.toList_injective
  rw [h.1]
  rfl

theorem not_namesLanguage_of_short {token : String} {c : Char} {cs : List Char}
    (h : token.toList = '-' :: c :: cs) (hc : c = '-' → cs = []) : ¬ NamesLanguage token := by
  rintro (rfl | ⟨v, rfl⟩)
  · have h' : ['-', '-', 'l', 'a', 'n', 'g'] = '-' :: c :: cs := h
    clear h
    cases h'
    cases hc rfl
  · have h' : ['-', '-', 'l', 'a', 'n', 'g', '='] ++ v.toList = '-' :: c :: cs :=
      (toList_joinedSpelling v).symm.trans h
    simp only [List.cons_append, List.cons.injEq] at h'
    obtain ⟨-, rfl, rfl⟩ := h'
    cases hc rfl

theorem not_namesLanguage_of_word {token : String}
    (h : ∀ c cs, token.toList ≠ '-' :: c :: cs) : ¬ NamesLanguage token := by
  rintro (rfl | ⟨v, rfl⟩)
  · exact h _ _ rfl
  · exact h _ _ (toList_joinedSpelling v)

theorem readToken_tells {token : String} (ht : t.SpeaksLanguage) (hp : t.Awaits p)
    (h : t.readToken p token = .ok q) : ∃ ms, Tells p q [token] ms := by
  rcases readToken_eq_ok h with ⟨name, value, hs, h⟩ | ⟨c, cs, htoken, hc, h⟩ |
    ⟨o, hword, hw, rfl⟩
  · obtain ⟨o, ho, hname, hw, hcases⟩ := readLong_eq_ok h
    have hopened := opened_of_ready hw
    by_cases hol : o = languageOption
    · subst hol
      obtain rfl : "lang" = name := by
        simpa [OptionSpec.answersTo, languageOption, valued] using hname
      rcases hcases with ⟨-, v, rfl, ha⟩ | ⟨-, rfl, ha⟩ | ⟨hf, -, -⟩
      · rw [hs.eq_joinedSpelling]
        exact ⟨_, ha.tells_joined hopened⟩
      · rw [hs.eq_alone]
        exact ⟨_, ha.tells_opened hopened⟩
      · cases hf
    · have hother : ¬ NamesLanguage token := fun hn => by
        rw [hs.name_eq hn] at hname
        exact hol (ht o ho (.inr hname))
      have hid := ht.id_ne ho hol
      refine ⟨[], ?_⟩
      rcases hcases with ⟨-, v, -, ha⟩ | ⟨-, -, ha⟩ | ⟨-, -, ha⟩
      · exact ha.tells_nothing hopened (by simpa using hid) (by simp) hother
      · exact ha.tells_nothing hopened (by simp) (by simpa using hol) hother
      · exact ha.tells_nothing hopened (by simpa using hid) (by simp) hother
  · -- the language option has no letter
    have hletter : ∀ o ∈ t.options, o.short.isSome → o ≠ languageOption := by
      rintro o - hshort rfl
      cases hshort
    obtain ⟨hw, new, wait, ha, hnew, hwait⟩ := readShort_eq_ok h
    refine ⟨[], ha.tells_nothing (opened_of_ready hw) ?_ ?_ (not_namesLanguage_of_short htoken hc)⟩
    · intro e he
      obtain ⟨o, ho, hshort, hid⟩ := hnew e he
      exact hid ▸ ht.id_ne ho (hletter o ho hshort)
    · intro hl
      obtain ⟨ho, hshort⟩ := hwait _ hl
      exact hletter _ ho hshort rfl
  · have hother := not_namesLanguage_of_word hword
    have ha := word_adds hw token
    by_cases hol : o = languageOption
    · subst hol
      exact ⟨_, ha.tells_value hw hother⟩
    · have hid := ht.id_ne (hp o hw) hol
      exact ⟨[], ha.tells_nothing (opened_of_waiting hw hol) (by simpa using hid) (by simp) hother⟩

theorem read_tells {tokens rest : List String} (ht : t.SpeaksLanguage) (hp : t.Awaits p)
    (h : t.read p tokens = .ok (q, rest)) (hq : q.waiting? = none) :
    ∃ taken ms, tokens = taken ++ rest ∧ Tells p q taken ms := by
  induction tokens generalizing p with
  | nil =>
    cases h
    exact ⟨[], [], rfl, .refl _⟩
  | cons token tokens ih =>
    unfold read at h
    split at h
    · cases h
      exact ⟨[], [], rfl, .refl _⟩
    · split at h
      · rename_i hmark
        subst hmark
        cases tokens with
        | nil =>
          cases h
          have hmark : "--".toList = '-' :: '-' :: [] := rfl
          exact ⟨["--"], [], rfl, (Adds.refl hq).tells_nothing (opened_of_ready hq) (by simp)
            (by simp) (not_namesLanguage_of_short hmark fun _ => rfl)⟩
        | cons word more => cases h
      · obtain ⟨r, hr, h⟩ := (bind_eq_ok_iff _ _ _).1 h
        obtain ⟨ms, hms⟩ := readToken_tells ht hp hr
        obtain ⟨taken, ns, rfl, hns⟩ := ih (readToken_awaits hr) h
        exact ⟨token :: taken, ms ++ ns, rfl, hms.trans hns⟩

theorem read_mentions {tokens rest : List String} (ht : t.SpeaksLanguage)
    (h : t.read .empty tokens = .ok (q, rest)) (hq : q.resolve = .ok ⟨q.given, none⟩) :
    ∃ taken, ∃ m : Option Mention, tokens = taken ++ rest ∧ Mentions taken m.toList ∧
      languages q.given = m.toList.map Mention.value := by
  obtain ⟨hw, -, hd⟩ := resolve_eq_ok hq
  obtain ⟨taken, ms, htokens, hms⟩ := read_tells ht t.awaits_empty h hw
  have hmentions : Mentions taken ms := by
    have hall := hms.mentions [] [] (by rw [opened_of_ready hw]; exact .nil)
    simpa [opened_of_ready waiting_empty] using hall
  have hlang : languages q.given = ms.map Mention.value := hms.languages
  have hle : ms.length ≤ 1 := by
    have hone := length_languages_le_one (hd (hms.distinct distinct_empty))
    rwa [hlang, List.length_map] at hone
  cases ms with
  | nil => exact ⟨taken, none, htokens, hmentions, hlang⟩
  | cons m more =>
    obtain rfl : more = [] := by simpa using hle
    exact ⟨taken, some m, htokens, hmentions, hlang⟩

end Table

/-! ## Both on one line -/

/-- An accepted line mentions a language at most once before its command and at most once
behind it, and these are the languages that are given. -/
theorem parse_languages {argv : List String} {p : Parsed} (h : parse argv = .ok p) :
    ∃ before after, ∃ outer inner : Option Mention, argv = before ++ p.command.name :: after ∧
      Mentions before outer.toList ∧ Mentions after inner.toList ∧
      Mentions argv (outer.toList ++ inner.toList) ∧
      languages p.given = (inner.toList ++ outer.toList).map Mention.value := by
  obtain ⟨outer, inner, after, hro, hri, hinner, houter, hgiven⟩ := parse_eq_ok h
  obtain ⟨before, mo, hargv, hmo, hlo⟩ :=
    Table.read_mentions speaksLanguage_outer hro houter
  obtain ⟨taken, mi, htaken, hmi, hli⟩ :=
    Table.read_mentions (speaksLanguage_ofCommand _) hri hinner
  rw [List.append_nil] at htaken
  subst htaken
  have hname : ¬ NamesLanguage p.command.name := by
    apply Table.not_namesLanguage_of_word
    cases p.command <;> simp [Command.name]
  refine ⟨before, after, mo, mi, hargv, hmo, hmi, ?_, ?_⟩
  · rw [hargv]
    exact hmo.append (.other hname hmi)
  · rw [hgiven, languages_append, hlo, hli, List.map_append]

/-- The reader takes the mention behind the command first. -/
theorem parse_mentions {argv : List String} {p : Parsed} (h : parse argv = .ok p) :
    ∃ before after, ∃ outer inner : Option Mention, argv = before ++ p.command.name :: after ∧
      Mentions before outer.toList ∧ Mentions after inner.toList ∧
      Mentions argv (outer.toList ++ inner.toList) ∧
      p.value? .language = (inner.or outer).map Mention.value := by
  obtain ⟨before, after, outer, inner, hargv, hbefore, hafter, hms, hlang⟩ := parse_languages h
  refine ⟨before, after, outer, inner, hargv, hbefore, hafter, hms, ?_⟩
  rw [p.value?_language, hlang]
  cases inner <;> cases outer <;> rfl

/-- Where the look-up goes astray: both levels mention a language, and the look-up does not
come to the inner mention first. -/
theorem spokenLanguage?_of_levels {argv : List String} {outer inner : Option Mention}
    (h : Mentions argv (outer.toList ++ inner.toList)) :
    (spokenLanguage? argv).isNone = ((inner.or outer).map Mention.value).isNone ∧
      (spokenLanguage? argv = (inner.or outer).map Mention.value ↔
        ∀ o ∈ outer, ∀ i ∈ inner, o.value = i.value ∨ (o.joined = false ∧ i.joined = true)) := by
  rw [spokenLanguage?_of_mentions h]
  rcases outer with _ | ⟨_ | _, v⟩ <;> rcases inner with _ | ⟨_ | _, w⟩ <;> simp

theorem spokenLanguage?_of_length_le_one {argv : List String} {ms : List Mention}
    (h : Mentions argv ms) (hone : ms.length ≤ 1) :
    spokenLanguage? argv = (ms.map Mention.value).head? := by
  rw [spokenLanguage?_of_mentions h]
  match ms, hone with
  | [], _ => rfl
  | [⟨true, v⟩], _ => rfl
  | [⟨false, v⟩], _ => rfl

theorem spokenLanguage?_of_agree {argv : List String} {p : Parsed} (h : parse argv = .ok p)
    (hagree : ∀ v ∈ languages p.given, ∀ w ∈ languages p.given, v = w) :
    spokenLanguage? argv = p.value? .language := by
  obtain ⟨-, -, outer, inner, -, -, -, hms, hlang⟩ := parse_languages h
  have hvalue : p.value? .language = (inner.or outer).map Mention.value := by
    rw [p.value?_language, hlang]
    cases inner <;> cases outer <;> rfl
  rw [hvalue]
  apply (spokenLanguage?_of_levels hms).2.2
  intro o ho i hi
  left
  apply hagree
  · rw [hlang]
    exact List.mem_map_of_mem (List.mem_append_right _ (Option.mem_toList.2 ho))
  · rw [hlang]
    exact List.mem_map_of_mem (List.mem_append_left _ (Option.mem_toList.2 hi))

theorem value?_of_mentions {argv : List String} {p : Parsed} (h : parse argv = .ok p) :
    ∃ ms, Mentions argv ms ∧ p.value? .language = (ms.map Mention.value).getLast? := by
  obtain ⟨-, -, outer, inner, -, -, -, hms, hvalue⟩ := parse_mentions h
  refine ⟨_, hms, ?_⟩
  rw [hvalue]
  cases outer <;> cases inner <;> rfl

/-- On every line that the reader accepts, a language is mentioned at most once before the
command and once behind it, and the reader takes the later mention. The look-up finds a
language exactly if the reader does. It finds the same one unless both levels mention one:
then it takes the outer mention, except where that one stands alone and the inner one is
joined. Taking joined spellings apart never changes what the reader takes, and it changes what
the look-up finds only on lines with two mentions. -/
theorem look_up_agrees_up_to_levels (argv : List String) (p : Parsed) (h : parse argv = .ok p) :
    ∃ before after, ∃ outer inner : Option Mention, argv = before ++ p.command.name :: after ∧
      Mentions before outer.toList ∧ Mentions after inner.toList ∧
      p.value? .language = (inner.or outer).map Mention.value ∧
      (spokenLanguage? argv).isNone = (p.value? .language).isNone ∧
      (spokenLanguage? argv = p.value? .language ↔
        ∀ o ∈ outer, ∀ i ∈ inner,
          o.value = i.value ∨ (o.joined = false ∧ i.joined = true)) ∧
      ∀ argv' p', Respelled argv argv' → parse argv' = .ok p' →
        p'.value? .language = p.value? .language ∧
          (outer = none ∨ inner = none → spokenLanguage? argv' = spokenLanguage? argv) := by
  obtain ⟨before, after, outer, inner, hargv, hbefore, hafter, hms, hvalue⟩ := parse_mentions h
  obtain ⟨habsent, hagree⟩ := spokenLanguage?_of_levels hms
  rw [← hvalue] at habsent hagree
  refine ⟨before, after, outer, inner, hargv, hbefore, hafter, hvalue, habsent, hagree, ?_⟩
  intro argv' p' hrespelled h'
  obtain ⟨ns, hns, hvalue'⟩ := value?_of_mentions h'
  have hvalues := hrespelled.values_eq hms hns
  constructor
  · rw [hvalue', hvalues, hvalue]
    cases outer <;> cases inner <;> rfl
  · intro hlevel
    have hone : (outer.toList ++ inner.toList).length ≤ 1 := by
      rcases hlevel with rfl | rfl
      · cases inner <;> simp
      · cases outer <;> simp
    have hone' : ns.length ≤ 1 := by
      have hlen := congrArg List.length hvalues
      rw [List.length_map, List.length_map] at hlen
      exact hlen ▸ hone
    rw [spokenLanguage?_of_length_le_one hns hone', hvalues,
      spokenLanguage?_of_length_le_one hms hone]

/-- A line with two mentions on which the look-up happens to find the inner one. -/
theorem joined_inner_mention_is_found :
    let argv := ["--lang", "en", "run", "-v", "--lang=zh-CN", "-c", "sums"]
    ∃ p, parse argv = .ok p ∧ p.value? .language = some "zh-CN" ∧
      (spokenLanguage? argv).isNone = (p.value? .language).isNone := by
  refine ⟨⟨.run, [(.verbose, "true"), (.language, "zh-CN"), (.category, "sums"),
    (.language, "en")]⟩, by rfl, by rfl, ?_⟩
  obtain ⟨_, _, _, _, _, _, _, _, habsent, _⟩ := look_up_agrees_up_to_levels
    ["--lang", "en", "run", "-v", "--lang=zh-CN", "-c", "sums"] _ rfl
  exact habsent

/-- The reader takes the language behind the command, and the look-up the one before it. Taking
a joined spelling apart changes what the look-up finds. -/
theorem outer_mention_is_found_first :
    (∃ p, parse ["--lang", "zh-CN", "run", "--lang", "en"] = .ok p ∧
      p.value? .language = some "en" ∧
      spokenLanguage? ["--lang", "zh-CN", "run", "--lang", "en"] = some "zh-CN") ∧
    Respelled ["--lang", "en", "run", "--lang=zh-CN"] ["--lang", "en", "run", "--lang", "zh-CN"] ∧
    (∃ p, parse ["--lang", "en", "run", "--lang=zh-CN"] = .ok p) ∧
    (∃ p, parse ["--lang", "en", "run", "--lang", "zh-CN"] = .ok p) ∧
    spokenLanguage? ["--lang", "en", "run", "--lang=zh-CN"] = some "zh-CN" ∧
    spokenLanguage? ["--lang", "en", "run", "--lang", "zh-CN"] = some "en" := by
  refine ⟨⟨_, rfl, by rfl, by rfl⟩, ?_, ⟨_, rfl⟩, ⟨_, rfl⟩, by rfl, by rfl⟩
  exact .keep _ (.keep _ (.keep _ (.split "zh-CN" .nil)))

end Assay.CommandLine
