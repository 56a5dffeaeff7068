import Assay.Proofs.Settings.RoundTrip
import Assay.Proofs.Toml.Keys

/-!
# Settings one by one

Each setting has a key and a kind of values. Taking in an entry sets the setting
of its key and no other one, and since no key of a table is bound twice, reading a
text gives each setting the value that the text binds its key to, or leaves it at
its default. What else the text binds does not matter, as long as it can be held.
-/

set_option autoImplicit false

namespace Assay

open Toml

namespace Toml.Item

def text? : Item → Option String
  | string s => some s
  | _ => none

def word? : Item → Option UInt64
  | integer z => if 0 ≤ z ∧ z < UInt64.size then some (UInt64.ofNat z.toNat) else none
  | _ => none

theorem toOption_unwanted {α : Type} (expected : String) (item : Item) :
    (unwanted expected item : Except Failure α).toOption = none := by
  rw [unwanted]
  cases item.found <;> rfl

theorem toOption_toText (expected : String) (item : Item) :
    (item.toText expected).toOption = item.text? := by
  cases item with
  | string s => rfl
  | _ => simp only [toText, text?, toOption_unwanted]

theorem toOption_toWord (expected : String) (item : Item) :
    (item.toWord expected).toOption = item.word? := by
  cases item with
  | integer z =>
    rw [toWord, word?]
    split
    · rfl
    · split
      · rfl
      · exact toOption_unwanted expected _
  | _ => simp only [toWord, word?, toOption_unwanted]

theorem word?_toNat (n : UInt64) : word? (.integer n.toNat) = some n := by
  rw [← toOption_toWord "u64", toWord_toNat]
  rfl

end Toml.Item

theorem toOption_bind_pure {ε α β : Type} (x : Except ε α) (f : α → β) :
    (x >>= fun a => pure (f a)).toOption = x.toOption.map f := by
  cases x <;> rfl

theorem toOption_eq_some_iff {ε α : Type} {x : Except ε α} {a : α} :
    x.toOption = some a ↔ x = .ok a := by
  cases x <;> simp [Except.toOption]

inductive Setting where
  | language
  | testsDir
  | binaryName
  | binary
  | timeoutSecs
  | jobs
deriving DecidableEq, Repr

namespace Setting

def all : List Setting := [.language, .testsDir, .binaryName, .binary, .timeoutSecs, .jobs]

def key : Setting → String
  | language => "language"
  | testsDir => "tests_dir"
  | binaryName => "binary_name"
  | binary => "binary"
  | timeoutSecs => "timeout_secs"
  | jobs => "jobs"

def Content : Setting → Type
  | timeoutSecs | jobs => UInt64
  | _ => String

instance : (k : Setting) → DecidableEq k.Content
  | timeoutSecs | jobs => inferInstanceAs (DecidableEq UInt64)
  | language | testsDir | binaryName | binary => inferInstanceAs (DecidableEq String)

def read? : (k : Setting) → Item → Option k.Content
  | language => Item.text?
  | testsDir => Item.text?
  | binaryName => Item.text?
  | binary => Item.text?
  | timeoutSecs => Item.word?
  | jobs => Item.word?

def inTable? (k : Setting) (entries : Entries) : Option k.Content :=
  (Entries.get? entries k.key).bind k.read?

def inText? (k : Setting) (text : String) : Option k.Content := (parse? text).bind k.inTable?

theorem key_injective {k k' : Setting} (h : k.key = k'.key) : k = k' := by
  cases k <;> cases k' <;> first | rfl | exact absurd h (by decide)

theorem mem_all (k : Setting) : k ∈ all := by
  cases k <;> decide

theorem inTable?_cons (k : Setting) (key : String) (item : Item) (entries : Entries) :
    k.inTable? ((key, item) :: entries) =
      if key = k.key then k.read? item else k.inTable? entries := by
  rw [inTable?, Entries.get?_cons]
  split <;> rfl

theorem inTable?_eq_none {k : Setting} {entries : Entries}
    (h : k.key ∉ entries.map Prod.fst) : k.inTable? entries = none := by
  rw [inTable?, get?_eq_none h, Option.bind_none]

end Setting

/-- An entry that can be taken in: one of a setting has a value of its kind, and any other one
has a value that can be held at all. -/
structure Readable (e : String × Item) : Prop where
  known : ∀ k : Setting, k.key = e.1 → (k.read? e.2).isSome = true
  unknown : (∀ k : Setting, k.key ≠ e.1) → e.2.skip = .ok ()

instance (e : String × Item) : Decidable (Readable e) :=
  decidable_of_iff
    ((∀ k ∈ Setting.all, k.key = e.1 → (k.read? e.2).isSome = true) ∧
      ((∀ k ∈ Setting.all, k.key ≠ e.1) → e.2.skip = .ok ()))
    ⟨fun h => ⟨fun k => h.1 k k.mem_all, fun hother => h.2 fun k _ => hother k⟩,
      fun h => ⟨fun k _ => h.known k, fun hother => h.unknown fun k => hother k k.mem_all⟩⟩

namespace Settings

def get? (s : Settings) : (k : Setting) → Option k.Content
  | .language => s.language
  | .testsDir => some s.testsDir
  | .binaryName => some s.binaryName
  | .binary => s.binary
  | .timeoutSecs => some s.timeoutSecs
  | .jobs => some s.jobs

def set (s : Settings) : (k : Setting) → k.Content → Settings
  | .language, v => { s with language := some v }
  | .testsDir, v => { s with testsDir := v }
  | .binaryName, v => { s with binaryName := v }
  | .binary, v => { s with binary := some v }
  | .timeoutSecs, v => { s with timeoutSecs := v }
  | .jobs, v => { s with jobs := v }

variable {s s' : Settings} {entries : Entries} {text : String}

theorem ext_get? (h : ∀ k, s.get? k = s'.get? k) : s = s' := by
  obtain ⟨language, testsDir, binaryName, binary, timeoutSecs, jobs⟩ := s
  have hlanguage : language = s'.language := h .language
  have htests : testsDir = s'.testsDir := Option.some.inj (h .testsDir)
  have hname : binaryName = s'.binaryName := Option.some.inj (h .binaryName)
  have hbinary : binary = s'.binary := h .binary
  have htimeout : timeoutSecs = s'.timeoutSecs := Option.some.inj (h .timeoutSecs)
  have hjobs : jobs = s'.jobs := Option.some.inj (h .jobs)
  rw [hlanguage, htests, hname, hbinary, htimeout, hjobs]

theorem get?_set_self (s : Settings) (k : Setting) (v : k.Content) :
    (s.set k v).get? k = some v := by
  cases k <;> rfl

theorem get?_set_of_ne (s : Settings) {k k' : Setting} (v : k.Content) (h : k' ≠ k) :
    (s.set k v).get? k' = s.get? k' := by
  cases k <;> cases k' <;> first | rfl | contradiction

/-! ## One entry -/

theorem toOption_takeEntry (s : Settings) (k : Setting) (item : Item) :
    (s.takeEntry k.key item).toOption = (k.read? item).map (s.set k) := by
  cases k with
  | timeoutSecs | jobs =>
    simp only [takeEntry, Setting.key, toOption_bind_pure, Item.toOption_toWord, String.reduceEq,
      if_true, if_false]
    rfl
  | _ =>
    simp only [takeEntry, Setting.key, toOption_bind_pure, Item.toOption_toText, String.reduceEq,
      if_true, if_false]
    rfl

theorem takeEntry_unknown (s : Settings) {key : String} (h : ∀ k : Setting, k.key ≠ key)
    (item : Item) : s.takeEntry key item = item.skip.map fun _ => s := by
  have hne (k : Setting) : key ≠ k.key := (h k).symm
  have hlanguage := hne .language
  have htests := hne .testsDir
  have hname := hne .binaryName
  have hbinary := hne .binary
  have htimeout := hne .timeoutSecs
  have hjobs := hne .jobs
  simp only [Setting.key] at hlanguage htests hname hbinary htimeout hjobs
  simp only [takeEntry, if_neg hlanguage, if_neg htests, if_neg hname, if_neg hbinary,
    if_neg htimeout, if_neg hjobs]
  cases item.skip <;> rfl

theorem takeEntry_eq_ok_iff {key : String} {item : Item} :
    s.takeEntry key item = .ok s' ↔
      (∃ k v, k.key = key ∧ k.read? item = some v ∧ s.set k v = s') ∨
        (∀ k : Setting, k.key ≠ key) ∧ item.skip = .ok () ∧ s = s' := by
  by_cases hkey : ∃ k : Setting, k.key = key
  · obtain ⟨k, rfl⟩ := hkey
    rw [← toOption_eq_some_iff, s.toOption_takeEntry k item, Option.map_eq_some_iff]
    constructor
    · rintro ⟨v, hv, hs⟩
      exact .inl ⟨k, v, rfl, hv, hs⟩
    · rintro (⟨k', v, hk, hv, hs⟩ | ⟨hother, -⟩)
      · obtain rfl := Setting.key_injective hk
        exact ⟨v, hv, hs⟩
      · exact absurd rfl (hother k)
  · have hother : ∀ k : Setting, k.key ≠ key := fun k hk => hkey ⟨k, hk⟩
    rw [s.takeEntry_unknown hother]
    cases item.skip with
    | error e => simp [Except.map, hother]
    | ok => simp [Except.map, hother]

theorem takeEntry_iff (s : Settings) (key : String) (item : Item) :
    (∃ s', s.takeEntry key item = .ok s') ↔ Readable (key, item) := by
  constructor
  · rintro ⟨s', h⟩
    rcases takeEntry_eq_ok_iff.1 h with ⟨k, v, rfl, hv, -⟩ | ⟨hother, hskip, -⟩
    · refine ⟨fun k' hk => ?_, fun hother => absurd rfl (hother k)⟩
      obtain rfl := Setting.key_injective hk
      exact Option.isSome_of_eq_some hv
    · exact ⟨fun k hk => absurd hk (hother k), fun _ => hskip⟩
  · intro h
    by_cases hkey : ∃ k : Setting, k.key = key
    · obtain ⟨k, rfl⟩ := hkey
      obtain ⟨v, hv⟩ := Option.isSome_iff_exists.1 (h.known k rfl)
      exact ⟨s.set k v, takeEntry_eq_ok_iff.2 (.inl ⟨k, v, rfl, hv, rfl⟩)⟩
    · have hother : ∀ k : Setting, k.key ≠ key := fun k hk => hkey ⟨k, hk⟩
      exact ⟨s, takeEntry_eq_ok_iff.2 (.inr ⟨hother, h.unknown hother, rfl⟩)⟩

theorem get?_takeEntry {key : String} {item : Item} (h : s.takeEntry key item = .ok s')
    (k : Setting) :
    s'.get? k = (if key = k.key then k.read? item else none).or (s.get? k) := by
  rcases takeEntry_eq_ok_iff.1 h with ⟨k', v, rfl, hv, rfl⟩ | ⟨hother, -, rfl⟩
  · by_cases hk : k = k'
    · subst hk
      rw [if_pos rfl, hv, get?_set_self, Option.some_or]
    · have hkey : k'.key ≠ k.key := fun h => hk (Setting.key_injective h.symm)
      rw [if_neg hkey, get?_set_of_ne s v hk, Option.none_or]
  · rw [if_neg (hother k).symm, Option.none_or]

/-! ## All entries -/

theorem takeEntries_iff (s : Settings) (entries : Entries) :
    (∃ s', s.takeEntries entries = .ok s') ↔ ∀ e ∈ entries, Readable e := by
  induction entries generalizing s with
  | nil => exact ⟨fun _ _ h => absurd h List.not_mem_nil, fun _ => ⟨s, rfl⟩⟩
  | cons e entries ih =>
    obtain ⟨key, item⟩ := e
    rw [List.forall_mem_cons, ← s.takeEntry_iff, takeEntries]
    cases hs : s.takeEntry key item with
    | error e => simp [bind, Except.bind]
    | ok s₁ => simpa [bind, Except.bind] using ih s₁

theorem get?_takeEntries (hd : Entries.Distinct entries) (h : s.takeEntries entries = .ok s')
    (k : Setting) : s'.get? k = (k.inTable? entries).or (s.get? k) := by
  induction entries generalizing s with
  | nil =>
    cases h
    rfl
  | cons e entries ih =>
    obtain ⟨key, item⟩ := e
    obtain ⟨hnew, hd⟩ := List.nodup_cons.1 hd
    rw [takeEntries] at h
    cases hs : s.takeEntry key item with
    | error e => simp [hs, bind, Except.bind] at h
    | ok s₁ =>
      rw [hs] at h
      rw [ih hd h, get?_takeEntry hs, k.inTable?_cons]
      by_cases hkey : key = k.key
      · rw [if_pos hkey, if_pos hkey, Setting.inTable?_eq_none (hkey ▸ hnew), Option.none_or]
      · rw [if_neg hkey, if_neg hkey, Option.none_or]

/-! ## Texts -/

/-- A text of settings: a table in which each entry can be taken in. -/
def IsText (text : String) : Prop := ∃ entries, parse? text = some entries ∧
  ∀ e ∈ entries, Readable e

instance (text : String) : Decidable (IsText text) :=
  decidable_of_iff (∃ entries ∈ parse? text, ∀ e ∈ entries, Readable e) Iff.rfl

theorem ofToml_iff (text : String) : (∃ s, ofToml text = .ok s) ↔ IsText text := by
  rw [ofToml, IsText]
  cases parse? text with
  | none => simp
  | some entries =>
    have hmem (e : String × Item) : e ∈ sorted entries ↔ e ∈ entries :=
      (List.mergeSort_perm entries _).mem_iff
    simp [takeEntries_iff, hmem]

/-- A text gives each setting the value that it binds its key to, and leaves every other one at
its default. -/
theorem get?_ofToml (h : ofToml text = .ok s) (k : Setting) :
    s.get? k = (k.inText? text).or (default.get? k) := by
  rw [ofToml] at h
  rw [Setting.inText?]
  cases hparse : parse? text with
  | none =>
    rw [hparse] at h
    cases h
  | some entries =>
    rw [hparse] at h
    have hperm : (sorted entries).Perm entries := List.mergeSort_perm entries _
    have hd := distinct_parse? hparse
    have hsorted : Entries.Distinct (sorted entries) := (hperm.map Prod.fst).nodup_iff.2 hd
    rw [get?_takeEntries hsorted h k, Option.bind_some, Setting.inTable?, Setting.inTable?,
      Entries.get?_perm hd hperm]

end Settings

namespace Setting

/-! ## Every choice has a text -/

def binding : (k : Setting) → k.Content → Binding
  | .language, v => .ofText "language" v
  | .testsDir, v => .ofText "tests_dir" v
  | .binaryName, v => .ofText "binary_name" v
  | .binary, v => .ofText "binary" v
  | .timeoutSecs, v => .ofNumber "timeout_secs" v.toNat
  | .jobs, v => .ofNumber "jobs" v.toNat

theorem key_binding (k : Setting) (v : k.Content) : (k.binding v).key = k.key := by
  cases k <;> rfl

theorem read?_binding (k : Setting) (v : k.Content) : k.read? (k.binding v).item = some v := by
  cases k with
  | timeoutSecs | jobs => exact Item.word?_toNat v
  | _ => rfl

theorem reads_binding (k : Setting) (v : k.Content) : (k.binding v).Reads := by
  have hbare : IsBare k.key := by cases k <;> simp [IsBare, key, isKeyChar]
  cases k with
  | timeoutSecs | jobs => exact Binding.reads_ofNumber hbare _
  | _ => exact Binding.reads_ofText hbare _

def bindings (choice : (k : Setting) → Option k.Content) : List Binding :=
  all.filterMap fun k => (choice k).map k.binding

section Choice

variable {choice : (k : Setting) → Option k.Content}

theorem mem_bindings_iff {b : Binding} :
    b ∈ bindings choice ↔ ∃ (k : Setting) (v : k.Content), choice k = some v ∧ k.binding v = b := by
  rw [bindings, List.mem_filterMap]
  constructor
  · rintro ⟨k, -, hk⟩
    obtain ⟨v, hv, hb⟩ := Option.map_eq_some_iff.1 hk
    exact ⟨k, v, hv, hb⟩
  · rintro ⟨k, v, hv, hb⟩
    exact ⟨k, k.mem_all, by rw [hv, Option.map_some, hb]⟩

theorem nodup_keys_bindings : ((bindings choice).map Binding.key).Nodup := by
  have hsub (ks : List Setting) :
      ((ks.filterMap fun k => (choice k).map k.binding).map Binding.key).Sublist (ks.map key) := by
    induction ks with
    | nil => exact .slnil
    | cons k ks ih =>
      cases hk : choice k with
      | none => simpa [hk] using ih.cons k.key
      | some v => simpa [hk, key_binding] using ih.cons_cons k.key
  exact (hsub all).nodup (by decide)

theorem exists_text (choice : (k : Setting) → Option k.Content) :
    ∃ text, Settings.IsText text ∧ ∀ k : Setting, k.inText? text = choice k := by
  let text := String.ofList ((bindings choice).flatMap Binding.chars)
  have hreads : ∀ b ∈ bindings choice, b.Reads := by
    intro b hb
    obtain ⟨k, v, -, rfl⟩ := mem_bindings_iff.1 hb
    exact k.reads_binding v
  have hparse : parse? text = some ((bindings choice).map Binding.entry) :=
    parse?_bindings hreads nodup_keys_bindings String.toList_ofList
  refine ⟨text, ⟨_, hparse, ?_⟩, fun k => ?_⟩
  · intro e he
    obtain ⟨b, hb, rfl⟩ := List.mem_map.1 he
    obtain ⟨k, v, -, rfl⟩ := mem_bindings_iff.1 hb
    refine ⟨fun k' hk' => ?_, fun h => absurd (k.key_binding v).symm (h k)⟩
    obtain rfl := key_injective (hk'.trans (k.key_binding v))
    exact Option.isSome_of_eq_some (k'.read?_binding v)
  · have hd := distinct_parse? hparse
    rw [inText?, hparse, Option.bind_some]
    cases hchoice : choice k with
    | some v =>
      have hmem : (k.key, (k.binding v).item) ∈ (bindings choice).map Binding.entry :=
        List.mem_map.2 ⟨_, mem_bindings_iff.2 ⟨k, v, hchoice, rfl⟩, by
          rw [Binding.entry, key_binding]⟩
      rw [inTable?, (Entries.get?_eq_some_iff hd).2 hmem, Option.bind_some, read?_binding]
    | none =>
      apply inTable?_eq_none
      rw [List.map_map]
      rintro h
      obtain ⟨b, hb, hkey⟩ := List.mem_map.1 h
      obtain ⟨k', v, hv, rfl⟩ := mem_bindings_iff.1 hb
      obtain rfl := key_injective ((k'.key_binding v).symm.trans hkey)
      rw [hchoice] at hv
      cases hv

end Choice

end Setting

end Assay
